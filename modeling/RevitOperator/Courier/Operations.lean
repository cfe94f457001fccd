import RevitOperator.Courier.CompletionDecision

open checked durable durable.Program

namespace revit_operator.courier

/-- `safeId`: a trimmed ASCII identity. -/
def safeId (value field : String) : Except CourierFault String :=
  let trimmed := text.trim value
  if trimmed ≠ "" ∧ text.length trimmed ≤ 200
      ∧ trimmed.toList.all fun c => text.isLower c || text.isUpper c || text.isDigit c || c ∈ ['.', '_', ':', '-'] then
    .ok trimmed
  else .error (plainError (field ++ " is invalid."))

/-- `safeContextIdentity`: a trimmed text without control characters. -/
def safeContextIdentity (value field : String) : Except CourierFault String :=
  if isContextIdentity (text.trim value) then .ok (text.trim value)
  else .error (plainError (field ++ " is invalid."))

structure ClaimInput where
  session_id : Option String
  executor_id : String
  session_allowed : Option (String → Bool)
  context_free_only : Bool

structure FinishInput where
  session_id : String
  job_id : String
  executor_id : String
  result : Json
  error : Option String
  retryable : Bool

structure AuthorizeInput where
  session_id : String
  job_id : String
  executor_id : String
  authorization_stage : Option String

section operations

variable (host : CourierHost) (env : CourierEnvironment)

/-- Save the job as failed because its stored result or decision cannot be
    used. -/
def quarantineJob (job : RevitToolJob) (error : String) : Courier RevitToolJob :=
  saveJob (job.settled .failed (.iso env.now) (some error))

def writeCertificationTerminal (job : RevitToolJob) (error : CourierFault) (outcomeUnknown : Bool) :
    Courier RevitToolJob := do
  match ← readTerminalResult host job with
  | some terminal => reconcileJobWithResult job terminal
  | none =>
    if ← existsSync resultPath then
      quarantineJob env job
        "The durable Revit courier result receipt is invalid or mismatched; the job was quarantined without replay."
    else
      writeTerminal host env job {
        status := .failed
        error := some error.message
        code := error.code
        retryable := false
        phase := some "certification_final_execution"
        outcome_unknown := outcomeUnknown
        result := .obj [("code", .str (error.code.getD "")), ("phase", .str "certification_final_execution"),
          ("retryable", .bool false), ("outcome_unknown", .bool outcomeUnknown)] }

def isSupportedStandaloneExecutorTool (method path executorId : String) : Bool :=
  env.isSupportedStandaloneTool method path && env.standaloneExecutor method path == some executorId

/-- The route may be claimed under the current inventory. -/
def supportsClaim (job : CourierContract) : Bool :=
  env.isSupportedNativeTool job.method job.path
    || isSupportedStandaloneExecutorTool env job.method job.path "revit-operator.native-program-workstation.v1"

/-- `admitCourierJobClaim` with its `reject` callback: false when the job is not
    to be claimed, after a terminal failure where the source writes one. -/
def admitCourierJobClaim (job : RevitToolJob) : Courier Bool := do
  if supportsClaim env job.toCourierContract then
    if job.version = REVIT_COURIER_JOB_VERSION ∧ job.general_agent_admission = none
        ∧ ¬ isRevitCourierDevelopmentLaboratory env then
      let _ ← writeCertificationTerminal host env job (RevitCourierCertificationError
        "CERTIFICATION_LEGACY_V1_DENIED"
        "Legacy v1 Revit courier jobs require an authenticated General Agent admission or the exact development laboratory profile.") false
      pure false
    else pure true
  else
    -- a running operation may already have committed: only a pending job fails here
    if job.status = .pending then
      let _ ← writeCertificationTerminal host env job (RevitCourierCertificationError
        "PRODUCT_TOOL_NOT_SUPPORTED" "The pending tool is outside the fixed supported product inventory.") false
      pure false
    else pure false

/-- The admission or laboratory binding of a version 1 job under the current
    profile. -/
def requireV1Binding (job : CourierContract) : Except CourierFault Unit :=
  if job.general_agent_admission.isSome then do
    require (job.laboratory_evidence = none)
      (plainError "General Agent and laboratory courier admissions are mutually exclusive.")
    requireGeneralAgentJobBinding env job
  else do
    require (isRevitCourierDevelopmentLaboratory env)
      (plainError "Legacy v1 Revit courier jobs require an authenticated General Agent admission or the exact development laboratory profile.")
    let _ ← requireCourierLaboratoryEvidenceJobBinding env job
    .ok ()

def bindingFailureCode (job : CourierContract) : String :=
  if job.general_agent_admission.isSome then "GENERAL_AGENT_COURIER_ADMISSION_INVALID"
  else if isRevitCourierDevelopmentLaboratory env then "CERTIFICATION_LABORATORY_EVIDENCE_JOB_INVALID"
  else "CERTIFICATION_LEGACY_V1_DENIED"

/-- `error instanceof RevitCourierCertificationError ? error : new …`. -/
def asCertificationError (fault : CourierFault) (code message : String) : CourierFault :=
  if fault.isCertification then fault else RevitCourierCertificationError code message

def validCertifiedJobForClaim (job : RevitToolJob) : Courier Bool := do
  if job.version = REVIT_COURIER_JOB_VERSION then
    match requireV1Binding env job.toCourierContract with
    | .ok _ => pure true
    | .error error => do
      let _ ← writeTerminal host env job {
        status := .failed
        error := some error.message
        code := some (bindingFailureCode env job.toCourierContract)
        retryable := false
        outcome_unknown := false }
      pure false
  else if job.version ≠ REVIT_COURIER_V2_JOB_VERSION then do
    let _ ← writeCertificationTerminal host env job (RevitCourierCertificationError
      "CERTIFICATION_JOB_VERSION_UNSUPPORTED"
      "Revit courier job version is unsupported and was quarantined before workstation execution.") false
    pure false
  else
    match parseCertifiedCourierJobV2 host job with
    | .ok _ => pure true
    | .error error => do
      let _ ← writeCertificationTerminal host env job (asCertificationError error
        "CERTIFICATION_JOB_MALFORMED" "Certified courier job could not be validated.") false
      pure false

def leaseDurationMs : Int :=
  match env.OPERATOR_REVIT_COURIER_LEASE_MS with
  | some parsed => max 30000 (min 600000 parsed)
  | none => 240000

/-- The instant is finite and not after the current time. -/
def hasPassed (instant : Option Timestamp) : Bool :=
  ((instant.bind host.parseDate).map fun ms => decide (ms ≤ env.now)).getD false

/-- The instant is not finite, or not after the current time. -/
def isExpired (instant : Option Timestamp) : Bool :=
  ((instant.bind host.parseDate).map fun ms => decide (ms ≤ env.now)).getD true

/-- Settle a running job whose lease ended. -/
def expireLease (job : RevitToolJob) : Courier Unit := do
  if hasPassed host env (job.claim.map CourierClaim.lease_expires_at) && !(← existsSync resultPath) then
    let _ ← writeTerminal host env job {
      status := .failed
      error := some "The workstation execution lease expired; outcome is unknown and the call was not retried automatically."
      code := some "execution_lease_expired_outcome_unknown"
      retryable := false
      outcome_unknown := true }
    pure ()
  else pure ()

/-- The job handed out under a claim. -/
def RevitToolJob.claimed (job : RevitToolJob) (claim : CourierClaim) : RevitToolJob :=
  { job with status := .running, claim := some claim }

/-- The sweep of a job that passed every admission check: expire it, skip it or
    hand it out. -/
def claimAdmittedJob (executorId : String) (job : RevitToolJob) : Courier (Option RevitToolJob) := do
  match job.status with
  | .running => do
    expireLease host env job
    pure none
  | .pending =>
    if isExpired host env (some job.expires_at) then do
      let _ ← writeTerminal host env job {
        status := .failed
        error := some "The Revit courier job expired before a workstation claimed it."
        code := some "courier_job_expired_before_claim"
        retryable := true }
      pure none
    else
      let expiresAt := (host.parseDate job.expires_at).getD env.now
      some <$> saveJob (job.claimed {
        executor_id := executorId
        claimed_at := .iso env.now
        lease_expires_at := .iso (min expiresAt (env.now + leaseDurationMs env)) })
  | _ => pure none

/-- What the sweep finds already decided for a job: a fenced failure, a family
    decision or a result. True when the job needs no more attention. -/
def recoverSettledJob (job : RevitToolJob) : Courier Bool := do
  let fenced ← (do
    if job.isCertifiedFamilyJob then
      tryCatch (do
        let winner ← recoverTerminalFence host env job (familyDecisionExecutor job)
        pure winner.isSome) fun error => do
          let _ ← quarantineJob env job error.message
          pure true
    else pure false)
  if fenced then pure true
  else if job.isCertifiedFamilyJob && (← existsSync completionDecisionPath) then
    tryCatch (do
      let _ ← recoverFamilyCompletionDecision host env job
      pure true) fun error => do
        let _ ← quarantineJob env job error.message
        pure true
  else
    match ← readTerminalResult host job with
    | some result => do
      let _ ← reconcileJobWithResult job result
      pure true
    | none =>
      if ← existsSync resultPath then do
        let _ ← quarantineJob env job
          "The durable Revit courier result receipt is invalid or mismatched; the job was quarantined without replay."
        pure true
      else pure false

/-- One candidate of `claimNextRevitToolJob`: the job when it is handed out. -/
def sweepJob (executorId : String) (job : RevitToolJob) : Courier (Option RevitToolJob) := do
  if ← recoverSettledJob host env job then pure none
  else if !(← admitCourierJobClaim host env job) then pure none
  else if !(← validCertifiedJobForClaim host env job) then pure none
  else claimAdmittedJob host env executorId job

/-- The stored job of a directory. -/
def readJob (files : JobFiles) (jobId : String) : Option RevitToolJob :=
  files.job.filter fun job => job.id = jobId

/-- The job a finish report is about, with what is already decided for it
    recovered. -/
def requireClaimedJob (input : FinishInput) (jobId : String) : Courier RevitToolJob := do
  let sessionId ← check (safeContextIdentity input.session_id "session_id")
  let executorId ← check (safeContextIdentity input.executor_id "executor_id")
  match ← inspect fun desk => readJob desk.files jobId with
  | none => throw (plainError "Revit courier job was not found.")
  | some job => do
    check (require (job.session_id = sessionId) (plainError "Revit courier session mismatch."))
    check (require (job.claim.map CourierClaim.executor_id = some executorId)
      (plainError "Revit courier job is not claimed by this executor."))
    match ← recoverExistingFamilyDecision host env job with
    | some recovered => pure recovered
    | none =>
      match ← readTerminalResult host job with
      | some terminal => reconcileJobWithResult job terminal
      | none =>
        if ← existsSync resultPath then
          throw (plainError "Revit courier result receipt is invalid or mismatched; refusing to overwrite or replay it.")
        else if job.status = .pending then
          throw (plainError "Revit courier job is not claimed by this executor.")
        else pure job

/-- Settle a family job with the result its executor signed. -/
def completeFamilyJob (job : RevitToolJob) (input : FinishInput) : Courier RevitToolJob :=
  tryCatch (do
    let challenge ← check (validateChallengeState host (← readJson challengeIssuedPath)
      job.toCourierContract input.executor_id)
    let executionContext := executionContextFromState challenge
    check (assertCertifiedCourierExecutionResult host job input.result (some executionContext))
    let _ ← claimCompletionDecision host env job (some input.executor_id)
      (buildTerminalResult env job {
        status := .succeeded
        result := input.result
        retryable := false
        certified_execution_context := some executionContext })
      (some challenge.completion_challenge_hash)
    recoverFamilyCompletionDecision host env job) fun error => do
      if ← existsSync completionDecisionPath then recoverFamilyCompletionDecision host env job
      else
        writeTerminal host env job {
          status := .failed
          result := input.result
          error := some error.message
          code := some (error.code.getD "CERTIFICATION_EXECUTION_RECEIPT_INVALID")
          retryable := false
          phase := some "certification_execution_receipt"
          outcome_unknown := true }

/-- The laboratory receipt of a version 1 job with a laboratory dispatch. -/
def verifyLaboratoryCompletion (job : CourierContract) (result : Json) : Except CourierFault Unit := do
  match ← requireCourierLaboratoryEvidenceJobBinding env job with
  | none => .error (plainError "Laboratory evidence dispatch is missing.")
  | some evidence => env.laboratoryExecutionReceipt job evidence result

/-- Settle a version 1 laboratory job. The `try` of the source covers the write
    of the success too. -/
def completeLaboratoryJob (job : RevitToolJob) (input : FinishInput) : Courier RevitToolJob :=
  tryCatch (do
    check (verifyLaboratoryCompletion env job.toCourierContract input.result)
    writeTerminal host env job { status := .succeeded, result := input.result, retryable := false }) fun error =>
      writeTerminal host env job {
        status := .failed
        result := input.result
        error := some error.message
        code := some "CERTIFICATION_LABORATORY_EXECUTION_RECEIPT_INVALID"
        retryable := false
        phase := some "laboratory_execution_receipt"
        outcome_unknown := true }

/-- A job that is recorded as succeeded and whose result is accepted. -/
def alreadySettled (job : RevitToolJob) (status : JobStatus) : Courier Bool := do
  if job.status = status then pure (← readTerminalResult host job).isSome else pure false

def completeRevitToolJob (input : FinishInput) (jobId : String) : Courier RevitToolJob := do
  let job ← requireClaimedJob host env input jobId
  if job.status = .failed then
    throw (plainError "Revit courier job is already terminally failed; refusing a contradictory completion.")
  else if ← alreadySettled host job .succeeded then pure job
  else if job.isCertifiedFamilyJob then completeFamilyJob host env job input
  else if job.version = REVIT_COURIER_JOB_VERSION ∧ job.laboratory_evidence.isSome then
    completeLaboratoryJob host env job input
  else writeTerminal host env job { status := .succeeded, result := input.result, retryable := false }

/-- The error text of a failure report. -/
def failureText (error : Option String) : String :=
  match error with
  | some message =>
    if text.trim message ≠ "" then text.slice 4000 (text.trim message) else "Revit courier execution failed."
  | none => "Revit courier execution failed."

/-- The bounded code a failure report carries in its result. -/
def failureCode (result : Json) : Option String :=
  let rawCode := text.trim (((result.member? "code").bind Json.asString?).getD "")
  if rawCode ≠ "" ∧ rawCode.toList.length ≤ 160
      ∧ rawCode.toList.all fun c => text.isLower c || text.isUpper c || text.isDigit c || c ∈ ['.', '_', ':', '-'] then
    some rawCode
  else none

/-- A failure report proves nothing about the outcome. -/
def failureOutcomeUnknown (job : CourierContract) (issued : Option IssuedFile) (result : Json) : Bool :=
  (job.version == REVIT_COURIER_JOB_VERSION
      && (job.laboratory_evidence.isSome || job.general_agent_admission.isSome))
    || (job.isCertifiedFamilyJob && issued.isSome)
    || (result.member? "outcomeUnknown").any fun value => value.isBool true

def failRevitToolJob (input : FinishInput) (jobId : String) : Courier RevitToolJob := do
  let job ← requireClaimedJob host env input jobId
  if job.status = .succeeded then
    if job.isCertifiedFamilyJob && (← readTerminalResult host job).isSome then pure job
    else throw (plainError
      "Revit courier job is already terminally succeeded; refusing a contradictory failure.")
  else if ← alreadySettled host job .failed then pure job
  else do
    let outcomeUnknown := failureOutcomeUnknown job.toCourierContract (← readJson challengeIssuedPath) input.result
    writeTerminal host env job {
      status := .failed
      result := input.result
      error := some (failureText input.error)
      code := failureCode input.result
      retryable := !outcomeUnknown && input.retryable
      outcome_unknown := outcomeUnknown }

/-- Record the denial of an authorization and report it. -/
def terminalizeAuthorization {α : Type} (job : RevitToolJob) (stage : Option String) (error : CourierFault) :
    Courier α := do
  let certificationError := asCertificationError error "CERTIFICATION_FINAL_EXECUTION_FAILED"
    "Certified courier final execution authorization failed."
  let replayAfterFinal := stage == some "final"
    && certificationError.code == some "CERTIFICATION_REQUEST_FAMILY_REPLAY_DENIED"
  let terminalJob ← writeCertificationTerminal host env job certificationError replayAfterFinal
  throw ⟨none, certificationError.code.getD "" ++ ": " ++ certificationError.message, some terminalJob⟩

/-- The last checks before a claimed job runs; a final authorization of a family
    job issues its challenge. -/
def authorizeClaimedJob (job : RevitToolJob) (executorId : String) (stage : Option String) :
    Courier CertifiedCourierFinalAuthorization := do
  check (require (¬ isExpired host env (some job.expires_at))
    (RevitCourierCertificationError "CERTIFICATION_FINAL_JOB_EXPIRED"
      "Certified courier job expired before final execution authorization; no Revit call was made."))
  check (require (¬ isExpired host env (job.claim.map CourierClaim.lease_expires_at))
    (RevitCourierCertificationError "CERTIFICATION_FINAL_CLAIM_LEASE_EXPIRED"
      "Certified courier claim lease expired before final execution authorization; no Revit call was made."))
  let challenge ← (do
    if job.familyAdmission.isSome ∧ stage = some "final" then
      some <$> issueCompletionChallenge host env job executorId
    else pure none)
  check (authorizeCertifiedCourierFinalExecution host env job executorId stage
    (challenge.map fun state => (state.completion_challenge, state.completion_challenge_hash)))

def isSupportedToolRoute (job : CourierContract) : Bool :=
  env.isSupportedNativeTool job.method job.path || env.isSupportedStandaloneTool job.method job.path

def authorizeRevitToolJobExecution (input : AuthorizeInput) (jobId : String) :
    Courier (RevitToolJob × CertifiedCourierFinalAuthorization) := do
  let sessionId ← check (safeContextIdentity input.session_id "session_id")
  let executorId ← check (safeContextIdentity input.executor_id "executor_id")
  match ← inspect fun desk => readJob desk.files jobId with
  | none => throw (plainError "Revit courier job was not found.")
  | some job => do
    check (require (job.session_id = sessionId) (plainError "Revit courier session mismatch."))
    match ← recoverExistingFamilyDecision host env job with
    | some recovered => throw ⟨none,
        "Revit courier family terminal decision is already authoritative; execution authorization is denied.",
        some recovered⟩
    | none =>
      match ← readTerminalResult host job with
      | some terminal => do
        let _ ← reconcileJobWithResult job terminal
        throw (plainError "Revit courier job is already terminal and cannot be authorized for execution.")
      | none => do
        if ← existsSync resultPath then
          throw (plainError "Revit courier result receipt is invalid or mismatched; refusing execution authorization.")
        else do
          check (require (isSupportedToolRoute env job.toCourierContract)
            (plainError ("This tool is outside the supported product inventory: " ++ job.method ++ " " ++ job.path)))
          check (require (job.status = .running)
            (plainError "Revit courier job is not running under this executor."))
          check (require (job.version = REVIT_COURIER_V2_JOB_VERSION)
            (plainError "Legacy Revit courier jobs do not have a certified final-execution authorization receipt."))
          match parseCertifiedCourierJobV2 host job with
          | .error error => terminalizeAuthorization host env job input.authorization_stage error
          | .ok _ => do
            -- a caller with another identity must not settle the claimant's job
            check (require (job.claim.map CourierClaim.executor_id = some executorId)
              (plainError "Revit courier job is not claimed by this executor."))
            tryCatch (do
              let authorization ← authorizeClaimedJob host env job executorId input.authorization_stage
              pure (job, authorization)) (terminalizeAuthorization host env job input.authorization_stage)

end operations

end revit_operator.courier
