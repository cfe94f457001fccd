import RevitOperator.Courier.JobStore
import RevitOperator.Library.Interleaving

open checked interleaving interleaving.Steps

/-! The backend's operations on one version 1 job as steps on files that the
    producer writes too. Certified families have version 2, so their branches do
    not arise here. -/

namespace revit_operator.courier.shared

/-- The files of the job's directory, and what happened to the job: an executor
    was handed it; the stored result was published because the job timed out
    before a claim; a producer's call ended with such a failure. -/
structure SharedJob where
  job : Option RevitToolJob
  result : Option RevitToolResult
  handedOut : Bool
  timedOutBeforeClaim : Bool
  reportedBeforeClaim : Bool

def SharedJob.empty : SharedJob := ⟨none, none, false, false, false⟩

/-- `job.json` holds a pending job and there is no `result.json`. -/
def SharedJob.isClaimable (files : SharedJob) : Bool :=
  files.job.any (fun job => job.status = .pending) && files.result.isNone

abbrev BackendSteps := Steps SharedJob CourierFault

section backend

variable (host : CourierHost) (env : CourierEnvironment)

def readJob (id : String) : BackendSteps (Option RevitToolJob) :=
  inspect fun files => files.job.filter fun job => job.id = id

def existsResult : BackendSteps Bool := inspect fun files => files.result.isSome

def readTerminalResult (job : RevitToolJob) : BackendSteps (Option RevitToolResult) :=
  inspect fun files => files.result.filter fun result => result.version = REVIT_COURIER_RESULT_VERSION
    ∧ result.id = job.id ∧ result.correlation_id = job.correlation_id

/-- Replace `job.json` with a settled job. -/
def saveSettled (job : RevitToolJob) (status : TerminalStatus) (finished_at : Timestamp) (error : Option String) :
    BackendSteps RevitToolJob := do
  let settled := job.settled status.toJobStatus finished_at error
  change fun files => { files with job := some settled }
  pure settled

/-- Replace `job.json` with the claimed job, which is then handed out. The write
    is made for a job that is still pending and has no result. -/
def saveClaimed (job : RevitToolJob) : BackendSteps RevitToolJob :=
  atomic SharedJob.isClaimable (fun files => { files with job := some job, handedOut := true }) fun _ => job

def reconcileJobWithResult (job : RevitToolJob) (result : RevitToolResult) : BackendSteps RevitToolJob :=
  if job.status = result.status.toJobStatus ∧ job.finished_at = some result.finished_at
      ∧ job.error = result.error then
    pure job
  else saveSettled job result.status result.finished_at result.error

/-- `writeJsonExclusiveAtomic` on `result.json`: whether the file was created. -/
def createResult (result : RevitToolResult) (beforeClaim : Bool) : BackendSteps Bool :=
  atomic (fun _ => true)
    (fun files =>
      if files.result.isSome then files
      else { files with result := some result, timedOutBeforeClaim := beforeClaim })
    fun found => found.result.isNone

def publishDurableTerminal (job : RevitToolJob) (durableResult : RevitToolResult) (beforeClaim : Bool) :
    BackendSteps RevitToolJob := do
  if ← createResult durableResult beforeClaim then
    saveSettled job durableResult.status durableResult.finished_at durableResult.error
  else
    match ← readTerminalResult job with
    | some winner => reconcileJobWithResult job winner
    | none =>
      if ← existsResult then
        saveSettled job .failed (.iso env.now)
          (some "The durable Revit courier result receipt is invalid or mismatched; terminal publication was quarantined.")
      else throw (plainError "EEXIST: file already exists")

def writeTerminal (job : RevitToolJob) (terminal : TerminalInput) (beforeClaim : Bool) : BackendSteps RevitToolJob :=
  publishDurableTerminal env job (buildTerminalResult env job terminal) beforeClaim

def writeCertificationTerminal (job : RevitToolJob) (error : CourierFault) : BackendSteps RevitToolJob := do
  match ← readTerminalResult job with
  | some terminal => reconcileJobWithResult job terminal
  | none =>
    if ← existsResult then
      saveSettled job .failed (.iso env.now)
        (some "The durable Revit courier result receipt is invalid or mismatched; the job was quarantined without replay.")
    else
      writeTerminal env job {
        status := .failed
        error := some error.message
        code := error.code
        retryable := false
        phase := some "certification_final_execution"
        outcome_unknown := false
        result := .obj [("code", .str (error.code.getD "")), ("phase", .str "certification_final_execution"),
          ("retryable", .bool false), ("outcome_unknown", .bool false)] } false

def admitCourierJobClaim (job : RevitToolJob) : BackendSteps Bool := do
  if supportsClaim env job.toCourierContract then
    if job.version = REVIT_COURIER_JOB_VERSION ∧ job.general_agent_admission = none
        ∧ ¬ isRevitCourierDevelopmentLaboratory env then
      let _ ← writeCertificationTerminal env job (RevitCourierCertificationError
        "CERTIFICATION_LEGACY_V1_DENIED"
        "Legacy v1 Revit courier jobs require an authenticated General Agent admission or the exact development laboratory profile.")
      pure false
    else pure true
  else
    -- a running operation may already have committed: only a pending job fails here
    if job.status = .pending then
      let _ ← writeCertificationTerminal env job (RevitCourierCertificationError
        "PRODUCT_TOOL_NOT_SUPPORTED" "The pending tool is outside the fixed supported product inventory.")
      pure false
    else pure false

def validCertifiedJobForClaim (job : RevitToolJob) : BackendSteps Bool := do
  if job.version = REVIT_COURIER_JOB_VERSION then
    match requireV1Binding env job.toCourierContract with
    | .ok _ => pure true
    | .error error => do
      let _ ← writeTerminal env job {
        status := .failed
        error := some error.message
        code := some (bindingFailureCode env job.toCourierContract)
        retryable := false
        outcome_unknown := false } false
      pure false
  else if job.version ≠ REVIT_COURIER_V2_JOB_VERSION then do
    let _ ← writeCertificationTerminal env job (RevitCourierCertificationError
      "CERTIFICATION_JOB_VERSION_UNSUPPORTED"
      "Revit courier job version is unsupported and was quarantined before workstation execution.")
    pure false
  else
    match parseCertifiedCourierJobV2 host job with
    | .ok _ => pure true
    | .error error => do
      let _ ← writeCertificationTerminal env job (asCertificationError error
        "CERTIFICATION_JOB_MALFORMED" "Certified courier job could not be validated.")
      pure false

/-- Settle a running job whose lease ended. -/
def expireLease (job : RevitToolJob) : BackendSteps Unit := do
  if hasPassed host env (job.claim.map CourierClaim.lease_expires_at) && !(← existsResult) then
    let _ ← writeTerminal env job {
      status := .failed
      error := some "The workstation execution lease expired; outcome is unknown and the call was not retried automatically."
      code := some "execution_lease_expired_outcome_unknown"
      retryable := false
      outcome_unknown := true } false
    pure ()
  else pure ()

/-- The sweep of a job that passed every admission check: expire it, skip it or
    hand it out. -/
def claimAdmittedJob (executorId : String) (job : RevitToolJob) : BackendSteps (Option RevitToolJob) := do
  match job.status with
  | .running => do
    expireLease host env job
    pure none
  | .pending =>
    if isExpired host env (some job.expires_at) then do
      let _ ← writeTerminal env job {
        status := .failed
        error := some "The Revit courier job expired before a workstation claimed it."
        code := some "courier_job_expired_before_claim"
        retryable := true } true
      pure none
    else
      let expiresAt := (host.parseDate job.expires_at).getD env.now
      some <$> saveClaimed (job.claimed {
        executor_id := executorId
        claimed_at := .iso env.now
        lease_expires_at := .iso (min expiresAt (env.now + leaseDurationMs env)) })
  | _ => pure none

/-- What the sweep finds already decided: true when the job needs no more
    attention. -/
def recoverSettledJob (job : RevitToolJob) : BackendSteps Bool := do
  match ← readTerminalResult job with
  | some result => do
    let _ ← reconcileJobWithResult job result
    pure true
  | none =>
    if ← existsResult then do
      let _ ← saveSettled job .failed (.iso env.now)
        (some "The durable Revit courier result receipt is invalid or mismatched; the job was quarantined without replay.")
      pure true
    else pure false

/-- One candidate of a claim: the job when it is handed out. -/
def sweepJob (executorId : String) (job : RevitToolJob) : BackendSteps (Option RevitToolJob) := do
  if ← recoverSettledJob env job then pure none
  else if !(← admitCourierJobClaim env job) then pure none
  else if !(← validCertifiedJobForClaim host env job) then pure none
  else claimAdmittedJob host env executorId job

/-- `claimNextRevitToolJob` as far as it concerns this job: the enumeration reads
    it and keeps it when it is active and a candidate. -/
def claimNextRevitToolJob (id : String) (input : ClaimInput) : BackendSteps (Option RevitToolJob) := do
  let sessionId ← check (claimSession input)
  let executorId ← check (safeContextIdentity input.executor_id "executor_id")
  match ← readJob id with
  | some job =>
    if (job.status = .pending ∨ job.status = .running)
        ∧ isCandidate host input sessionId executorId job.toCourierContract then
      sweepJob host env executorId job
    else pure none
  | none => pure none

/-- The job a finish report is about, with a result that is already there
    recorded in it. A report about another job finds nothing in this directory. -/
def requireClaimedJob (input : FinishInput) : BackendSteps RevitToolJob := do
  let sessionId ← check (safeContextIdentity input.session_id "session_id")
  let jobId ← check (safeId input.job_id "job_id")
  let executorId ← check (safeContextIdentity input.executor_id "executor_id")
  match ← readJob jobId with
  | none => throw (plainError "Revit courier job was not found.")
  | some job => do
    check (require (job.session_id = sessionId) (plainError "Revit courier session mismatch."))
    check (require (job.claim.map CourierClaim.executor_id = some executorId)
      (plainError "Revit courier job is not claimed by this executor."))
    match ← readTerminalResult job with
    | some terminal => reconcileJobWithResult job terminal
    | none =>
      if ← existsResult then
        throw (plainError "Revit courier result receipt is invalid or mismatched; refusing to overwrite or replay it.")
      else if job.status = .pending then
        throw (plainError "Revit courier job is not claimed by this executor.")
      else pure job

/-- The job is recorded with the status and has an accepted result. -/
def alreadySettled (job : RevitToolJob) (status : JobStatus) : BackendSteps Bool := do
  if job.status = status then pure (← readTerminalResult job).isSome else pure false

def completeLaboratoryJob (job : RevitToolJob) (input : FinishInput) : BackendSteps RevitToolJob :=
  tryCatch (do
    check (verifyLaboratoryCompletion env job.toCourierContract input.result)
    writeTerminal env job { status := .succeeded, result := input.result, retryable := false } false) fun error =>
      writeTerminal env job {
        status := .failed
        result := input.result
        error := some error.message
        code := some "CERTIFICATION_LABORATORY_EXECUTION_RECEIPT_INVALID"
        retryable := false
        phase := some "laboratory_execution_receipt"
        outcome_unknown := true } false

def completeRevitToolJob (input : FinishInput) : BackendSteps RevitToolJob := do
  let job ← requireClaimedJob input
  if job.status = .failed then
    throw (plainError "Revit courier job is already terminally failed; refusing a contradictory completion.")
  else if ← alreadySettled job .succeeded then pure job
  else if job.version = REVIT_COURIER_JOB_VERSION ∧ job.laboratory_evidence.isSome then
    completeLaboratoryJob env job input
  else writeTerminal env job { status := .succeeded, result := input.result, retryable := false } false

def failRevitToolJob (input : FinishInput) : BackendSteps RevitToolJob := do
  let job ← requireClaimedJob input
  if job.status = .succeeded then
    throw (plainError "Revit courier job is already terminally succeeded; refusing a contradictory failure.")
  else if ← alreadySettled job .failed then pure job
  else do
    let outcomeUnknown := failureOutcomeUnknown job.toCourierContract none input.result
    writeTerminal env job {
      status := .failed
      result := input.result
      error := some (failureText input.error)
      code := failureCode input.result
      retryable := !outcomeUnknown && input.retryable
      outcome_unknown := outcomeUnknown } false

end backend

/-- An operation of the backend on the job. -/
inductive BackendOperation where
  | claimNext (input : ClaimInput)
  | complete (input : FinishInput)
  | fail (input : FinishInput)

def BackendOperation.steps (host : CourierHost) (env : CourierEnvironment) (id : String) :
    BackendOperation → BackendSteps Unit
  | .claimNext input => do
    let _ ← claimNextRevitToolJob host env id input
    pure ()
  | .complete input => do
    let _ ← completeRevitToolJob env input
    pure ()
  | .fail input => do
    let _ ← failRevitToolJob env input
    pure ()

end revit_operator.courier.shared
