import RevitOperator.Courier.ActiveJobIndex
import RevitOperator.Courier.Certification
import RevitOperator.Library.Durable

open checked durable durable.Program

namespace revit_operator.courier

/-- What an operation on one job works on: the files of its directory and the
    in-memory index. -/
structure JobDesk where
  files : JobFiles
  index : Option ActiveJobIndex

abbrev Courier := Program JobDesk CourierFault

/-- A write-once file of a job directory. -/
structure WriteOnce (α : Type) where
  read : JobFiles → Option α
  replace : JobFiles → α → JobFiles

def resultPath : WriteOnce RevitToolResult := ⟨JobFiles.result, fun files value => { files with result := some value }⟩

def challengeIssuedPath : WriteOnce IssuedFile := ⟨JobFiles.issued, fun files value => { files with issued := some value }⟩

def challengeConsumedPath : WriteOnce CourierCompletionChallengeState :=
  ⟨JobFiles.consumed, fun files value => { files with consumed := some value }⟩

def completionDecisionPath : WriteOnce CourierCompletionDecision :=
  ⟨JobFiles.decision, fun files value => { files with decision := some value }⟩

def readJson {α : Type} (path : WriteOnce α) : Courier (Option α) := inspect fun desk => path.read desk.files

def existsSync {α : Type} (path : WriteOnce α) : Courier Bool := inspect fun desk => (path.read desk.files).isSome

/-- Publish a file unless it exists already. -/
def writeJsonExclusiveAtomic {α : Type} (path : WriteOnce α) (value : α) : Courier Unit := do
  if ← existsSync path then throw (plainError "EEXIST: file already exists")
  else write fun desk => { desk with files := path.replace desk.files value }

/-- Replace `job.json` and tell the index. -/
def saveJob (job : RevitToolJob) : Courier RevitToolJob := do
  write fun desk => {
    files := { desk.files with job := some job }
    index := desk.index.map fun index => index.observeIndexedJob job }
  pure job

/-- The job with a terminal status recorded in it. -/
def RevitToolJob.settled (job : RevitToolJob) (status : JobStatus) (finished_at : Timestamp)
    (error : Option String) : RevitToolJob :=
  { job with status := status, finished_at := some finished_at, error := error }

def executionContextFromState (state : CourierCompletionChallengeState) : CertifiedCourierExecutionContext where
  dispatch_id := state.dispatch_id
  correlation_id := state.correlation_id
  execution_session_id := state.execution_session_id
  executor_id := state.executor_id
  certification_envelope_hash := state.certification_envelope_hash
  completion_challenge_hash := state.completion_challenge_hash

section validation

variable (host : CourierHost)

def RevitToolResult.toJson (result : RevitToolResult) : Json :=
  let text (value : Option String) : Json := (value.map Json.str).getD .null
  .obj ([("version", .str result.version), ("id", .str result.id),
    ("correlation_id", .str result.correlation_id),
    ("status", .str (match result.status with | .succeeded => "succeeded" | .failed => "failed")),
    ("finished_at", .str (host.render result.finished_at)), ("result", result.result),
    ("error", text result.error), ("code", text result.code), ("retryable", .bool result.retryable),
    ("phase", text result.phase), ("outcome_unknown", .bool result.outcome_unknown)]
    ++ match result.certified_execution_context with
      | none => []
      | some context => [("certified_execution_context", .obj [
        ("schema", .str "revit-operator.certified-courier-execution-context.v1"),
        ("transport_kind", .str "courier"), ("dispatch_id", .str context.dispatch_id),
        ("correlation_id", .str context.correlation_id),
        ("execution_session_id", .str context.execution_session_id),
        ("executor_id", .str context.executor_id),
        ("certification_envelope_hash", .str context.certification_envelope_hash),
        ("completion_challenge_hash", .str context.completion_challenge_hash)])])

def terminalResultSha256 (result : RevitToolResult) : String :=
  host.rawSha256 (host.stringify (result.toJson host))

def familyDecisionExecutor (job : RevitToolJob) : Option String :=
  (job.claim.map CourierClaim.executor_id) <|> job.target_executor_id

/-- The issued file as the challenge of exactly this job and executor. -/
def validateChallengeState (value : Option IssuedFile) (job : CourierContract) (executorId : String) :
    Except CourierFault CourierCompletionChallengeState :=
  match value with
  | some (.challenge state) => do
    require (state.job_id = job.id ∧ state.dispatch_id = job.id
        ∧ state.correlation_id = job.correlation_id
        ∧ state.session_id = job.session_id ∧ state.execution_session_id = job.session_id
        ∧ state.executor_id = executorId
        ∧ some state.certification_envelope_hash
          = job.certification_envelope.map RevitCourierCertificationEnvelope.envelope_hash
        ∧ some state.policy_hash = job.certification_envelope.map RevitCourierCertificationEnvelope.policy_hash
        ∧ some state.document_session_id
          = job.familyAdmission.map CertifiedRequestFamilyAdmission.document_session_id
        ∧ some state.request_instance_hash
          = job.familyAdmission.map CertifiedRequestFamilyAdmission.request_instance_hash
        ∧ isCompletionChallenge state.completion_challenge
        ∧ state.completion_challenge_hash = host.rawSha256 state.completion_challenge
        ∧ state.issued_at_utc.isCanonical)
      (RevitCourierCertificationError "CERTIFICATION_COMPLETION_CHALLENGE_INVALID"
        "Courier completion challenge state does not match the exact durable job, executor, policy, document session, and request instance.")
    .ok state
  | _ => .error (RevitCourierCertificationError "CERTIFICATION_COMPLETION_CHALLENGE_INVALID"
      "Courier completion challenge state is absent or malformed.")

/-- The execution context a success decision carries. -/
def successContextMatches (decision : CourierCompletionDecision) (job : CourierContract)
    (executorId : Option String) : Bool :=
  match decision.terminal_result.certified_execution_context with
  | none => false
  | some context =>
    executorId.isSome && decision.completion_challenge_hash.isSome
      && context.dispatch_id == job.id && context.correlation_id == job.correlation_id
      && context.execution_session_id == job.session_id && some context.executor_id == executorId
      && some context.certification_envelope_hash
        == job.certification_envelope.map RevitCourierCertificationEnvelope.envelope_hash
      && some context.completion_challenge_hash == decision.completion_challenge_hash

def validateCompletionDecision (value : Option CourierCompletionDecision) (job : CourierContract)
    (executorId : Option String) : Except CourierFault CourierCompletionDecision :=
  match value with
  | none => .error (RevitCourierCertificationError "CERTIFICATION_COMPLETION_DECISION_INVALID"
      "Courier completion terminal decision is absent or malformed.")
  | some decision => do
    require (decision.job_id = job.id ∧ decision.correlation_id = job.correlation_id
        ∧ decision.session_id = job.session_id ∧ decision.executor_id = executorId
        ∧ some decision.certification_envelope_hash
          = job.certification_envelope.map RevitCourierCertificationEnvelope.envelope_hash
        ∧ some decision.request_instance_hash
          = job.familyAdmission.map CertifiedRequestFamilyAdmission.request_instance_hash
        ∧ decision.completion_challenge_hash.all isSha256
        ∧ decision.terminal_result.version = REVIT_COURIER_RESULT_VERSION
        ∧ decision.terminal_result.id = job.id
        ∧ decision.terminal_result.correlation_id = job.correlation_id
        ∧ (decision.kind = .success ↔ decision.terminal_result.status = .succeeded)
        ∧ decision.terminal_result.finished_at.isCanonical
        ∧ (decision.kind = .success → successContextMatches decision job executorId)
        ∧ (decision.kind = .failure → decision.terminal_result.certified_execution_context = none)
        ∧ isSha256 decision.terminal_result_sha256
        ∧ decision.terminal_result_sha256 = terminalResultSha256 host decision.terminal_result
        ∧ decision.decided_at_utc.isCanonical)
      (RevitCourierCertificationError "CERTIFICATION_COMPLETION_DECISION_INVALID"
        "Courier completion terminal decision does not match the exact durable job, executor, envelope, and request instance.")
    .ok decision

/-- The challenge a decision answers, `none` for the winner of the fence; every
    other decision is refused. -/
def validateCompletionDecisionCausality (decision : CourierCompletionDecision) (issued : Option IssuedFile)
    (job : CourierContract) (executorId : Option String) :
    Except CourierFault (Option CourierCompletionChallengeState) :=
  match decision.completion_challenge_hash, executorId with
  | none, _ => do
    require (issued = some (.fence (some decision)) ∧ decision.kind = .failure)
      (RevitCourierCertificationError "CERTIFICATION_COMPLETION_DECISION_INVALID"
        "Courier pre-dispatch failure decision is not the exact atomic terminal-fence winner.")
    .ok none
  | some _, none => .error (RevitCourierCertificationError "CERTIFICATION_COMPLETION_DECISION_INVALID"
      "Courier dispatch-bound terminal decision has no exact executor identity.")
  | some hash, some executorId => do
    let challenge ← validateChallengeState host issued job executorId
    require (challenge.completion_challenge_hash = hash
        ∧ (decision.kind = .failure →
          decision.terminal_result.outcome_unknown = true ∧ decision.terminal_result.retryable = false))
      (RevitCourierCertificationError "CERTIFICATION_COMPLETION_DECISION_INVALID"
        "Courier dispatch-bound terminal decision does not match the exact issued challenge and nonretryable outcome truth.")
    .ok (some challenge)

end validation

section decisions

variable (host : CourierHost) (env : CourierEnvironment)

def matchesExactConsumption (job : CourierContract) (state existing : CourierCompletionChallengeState) : Bool :=
  existing.job_id == job.id && existing.dispatch_id == job.id
    && existing.correlation_id == job.correlation_id && existing.session_id == job.session_id
    && existing.execution_session_id == job.session_id && existing.executor_id == state.executor_id
    && some existing.certification_envelope_hash
      == job.certification_envelope.map RevitCourierCertificationEnvelope.envelope_hash
    && some existing.policy_hash == job.certification_envelope.map RevitCourierCertificationEnvelope.policy_hash
    && existing.document_session_id == state.document_session_id
    && existing.request_instance_hash == state.request_instance_hash
    && existing.completion_challenge_hash == state.completion_challenge_hash

/-- Record that the challenge was answered; the same answer again is accepted. -/
def consumeCompletionChallenge (job : CourierContract) (state : CourierCompletionChallengeState) :
    Courier Unit := do
  match ← readJson challengeConsumedPath with
  | some existing =>
    if matchesExactConsumption job state existing then pure ()
    else throw (RevitCourierCertificationError "CERTIFICATION_COMPLETION_CHALLENGE_REPLAY_DENIED"
      "Courier completion challenge was consumed by a different terminal decision.")
  | none => writeJsonExclusiveAtomic challengeConsumedPath state

def createCompletionDecision (job : RevitToolJob) (executorId : Option String) (terminalResult : RevitToolResult)
    (challengeHash : Option String) : CourierCompletionDecision where
  kind := match terminalResult.status with | .succeeded => .success | .failed => .failure
  job_id := job.id
  correlation_id := job.correlation_id
  session_id := job.session_id
  executor_id := executorId
  certification_envelope_hash :=
    (job.certification_envelope.map RevitCourierCertificationEnvelope.envelope_hash).getD ""
  request_instance_hash := (job.familyAdmission.map CertifiedRequestFamilyAdmission.request_instance_hash).getD ""
  completion_challenge_hash := challengeHash
  terminal_result_sha256 := terminalResultSha256 host terminalResult
  terminal_result := terminalResult
  decided_at_utc := .iso env.now

/-- Publish a decision, or check the one that was published first. -/
def publishCompletionDecision (job : RevitToolJob) (executorId : Option String)
    (decision : CourierCompletionDecision) : Courier CourierCompletionDecision :=
  tryCatch (do writeJsonExclusiveAtomic completionDecisionPath decision; pure decision) fun _ => do
    check (validateCompletionDecision host (← readJson completionDecisionPath) job.toCourierContract executorId)

def claimCompletionDecision (job : RevitToolJob) (executorId : Option String) (terminalResult : RevitToolResult)
    (challengeHash : Option String) : Courier CourierCompletionDecision :=
  publishCompletionDecision host job executorId
    (createCompletionDecision host env job executorId terminalResult challengeHash)

/-- What a success decision has to show before it counts: its challenge and a
    native receipt. -/
def acceptSuccess (job : RevitToolJob) (decision : CourierCompletionDecision) (result : RevitToolResult)
    (challenge : Option CourierCompletionChallengeState) : Courier Unit :=
  if decision.kind = .success then
    match challenge with
    | none => throw (RevitCourierCertificationError "CERTIFICATION_COMPLETION_DECISION_INVALID"
        "Courier success decision is missing its exact issued completion challenge.")
    | some challenge => do
      check (assertCertifiedCourierExecutionResult host job result.result result.certified_execution_context)
      consumeCompletionChallenge job.toCourierContract challenge
  else pure ()

/-- The stored result, if it is this job's and, for a family job, what the
    accepted decision says. -/
def readTerminalResult (job : RevitToolJob) : Courier (Option RevitToolResult) := do
  match ← readJson resultPath with
  | none => pure none
  | some result =>
    if result.version ≠ REVIT_COURIER_RESULT_VERSION ∨ result.id ≠ job.id
        ∨ result.correlation_id ≠ job.correlation_id then
      pure none
    else if job.isCertifiedFamilyJob then
      tryCatch (do
        let decision ← check (validateCompletionDecision host (← readJson completionDecisionPath)
          job.toCourierContract (familyDecisionExecutor job))
        if terminalResultSha256 host result ≠ decision.terminal_result_sha256 then pure none
        else do
          let challenge ← check (validateCompletionDecisionCausality host decision
            (← readJson challengeIssuedPath) job.toCourierContract (familyDecisionExecutor job))
          acceptSuccess host job decision result challenge
          pure (some result)) fun _ => pure none
    else pure (some result)

def reconcileJobWithResult (job : RevitToolJob) (result : RevitToolResult) : Courier RevitToolJob :=
  if job.status = result.status.toJobStatus ∧ job.finished_at = some result.finished_at
      ∧ job.error = result.error then
    pure job
  else saveJob (job.settled result.status.toJobStatus result.finished_at result.error)

structure TerminalInput where
  status : TerminalStatus
  result : Json := .null
  error : Option String := none
  retryable : Bool := false
  code : Option String := none
  phase : Option String := none
  outcome_unknown : Bool := false
  certified_execution_context : Option CertifiedCourierExecutionContext := none

def buildTerminalResult (job : RevitToolJob) (terminal : TerminalInput) : RevitToolResult where
  version := REVIT_COURIER_RESULT_VERSION
  id := job.id
  correlation_id := job.correlation_id
  status := terminal.status
  finished_at := .iso env.now
  result := terminal.result
  error := terminal.error
  code := terminal.code
  retryable := terminal.retryable
  phase := terminal.phase
  outcome_unknown := terminal.outcome_unknown
  certified_execution_context := terminal.certified_execution_context

/-- Publish a terminal result; a result that is already there wins. -/
def publishDurableTerminal (job : RevitToolJob) (durableResult : RevitToolResult) : Courier RevitToolJob := do
  let settled ← tryCatch (do writeJsonExclusiveAtomic resultPath durableResult; pure none) fun error => do
    match ← readTerminalResult host job with
    | some winner => some <$> reconcileJobWithResult job winner
    | none =>
      if ← existsSync resultPath then
        some <$> saveJob (job.settled .failed (.iso env.now)
          (some "The durable Revit courier result receipt is invalid or mismatched; terminal publication was quarantined."))
      else throw error
  match settled with
  | some job => pure job
  | none =>
    saveJob (job.settled durableResult.status.toJobStatus durableResult.finished_at durableResult.error)

/-- Accept the published decision of a family job and publish its result. -/
def recoverFamilyCompletionDecision (job : RevitToolJob) : Courier RevitToolJob := do
  let decision ← check (validateCompletionDecision host (← readJson completionDecisionPath)
    job.toCourierContract (familyDecisionExecutor job))
  let challenge ← check (validateCompletionDecisionCausality host decision
    (← readJson challengeIssuedPath) job.toCourierContract (familyDecisionExecutor job))
  acceptSuccess host job decision decision.terminal_result challenge
  publishDurableTerminal host env job decision.terminal_result

def recoverExistingFamilyDecision (job : RevitToolJob) : Courier (Option RevitToolJob) := do
  if job.isCertifiedFamilyJob && (← existsSync completionDecisionPath) then
    some <$> recoverFamilyCompletionDecision host env job
  else pure none

/-- Finish the failure whose fence was published, if there is one. -/
def recoverTerminalFence (job : RevitToolJob) (executorId : Option String) : Courier (Option RevitToolJob) := do
  match ← readJson challengeIssuedPath with
  | some (.fence none) => throw (RevitCourierCertificationError "CERTIFICATION_COMPLETION_FENCE_INVALID"
      "Courier terminal fence is malformed.")
  | some (.fence (some raw)) => do
    let decision ← check (validateCompletionDecision host (some raw) job.toCourierContract executorId)
    if decision.kind ≠ .failure ∨ decision.completion_challenge_hash ≠ none then
      throw (RevitCourierCertificationError "CERTIFICATION_COMPLETION_FENCE_INVALID"
        "Courier pre-dispatch terminal fence must contain one exact failure decision.")
    else do
      let _ ← publishCompletionDecision host job executorId decision
      some <$> recoverFamilyCompletionDecision host env job
  | _ => pure none

/-- The refusal of a second challenge, after finishing a fenced failure. -/
def denyChallenge (job : RevitToolJob) (executorId : String) (won replayed : String) :
    Courier CourierCompletionChallengeState := do
  match ← recoverTerminalFence host env job (some executorId) with
  | some _ => throw (RevitCourierCertificationError "CERTIFICATION_FINAL_TERMINAL_DECISION" won)
  | none => throw (RevitCourierCertificationError "CERTIFICATION_REQUEST_FAMILY_REPLAY_DENIED" replayed)

/-- Issue the one challenge of a final authorization. -/
def issueCompletionChallenge (job : RevitToolJob) (executorId : String) :
    Courier CourierCompletionChallengeState := do
  if (← existsSync challengeIssuedPath) || (← existsSync challengeConsumedPath) then
    denyChallenge host env job executorId
      "A durable terminal failure won before final dispatch authorization."
      "Certified request-family courier final authorization has already issued its one-use completion challenge."
  else
    match job.certification_envelope, job.familyAdmission with
    | some envelope, some admission => do
      let completionChallenge := "cmcc1_" ++ env.randomBytes
      let state : CourierCompletionChallengeState := {
        job_id := job.id
        dispatch_id := job.id
        correlation_id := job.correlation_id
        session_id := job.session_id
        execution_session_id := job.session_id
        executor_id := executorId
        certification_envelope_hash := envelope.envelope_hash
        completion_challenge := completionChallenge
        completion_challenge_hash := host.rawSha256 completionChallenge
        policy_hash := envelope.policy_hash
        document_session_id := admission.document_session_id
        request_instance_hash := admission.request_instance_hash
        issued_at_utc := .iso env.now }
      tryCatch (do writeJsonExclusiveAtomic challengeIssuedPath (.challenge state); pure state) fun _ =>
        denyChallenge host env job executorId
          "A durable terminal failure won the final-dispatch race."
          "Certified request-family courier final authorization could not atomically issue a unique completion challenge."
    | _, _ => throw (RevitCourierCertificationError "CERTIFICATION_JOB_MALFORMED"
        "Completion challenges require a certified request-family admission.")

/-- Settle a family failure: before dispatch behind the fence, after it as an
    unknown outcome under the issued challenge. -/
def writeFamilyFailure (job : RevitToolJob) (terminal : TerminalInput) : Courier RevitToolJob := do
  let executorId := familyDecisionExecutor job
  match ← recoverTerminalFence host env job executorId with
  | some winner => pure winner
  | none =>
    let fenced ← (do
      if ← existsSync challengeIssuedPath then pure none
      else
        let decision := createCompletionDecision host env job executorId (buildTerminalResult env job terminal) none
        tryCatch (do
          writeJsonExclusiveAtomic challengeIssuedPath (.fence (some decision))
          let _ ← publishCompletionDecision host job executorId decision
          some <$> recoverFamilyCompletionDecision host env job) fun _ =>
            recoverTerminalFence host env job executorId)
    match fenced, executorId with
    | some winner, _ => pure winner
    | none, none => throw (RevitCourierCertificationError "CERTIFICATION_COMPLETION_FENCE_INVALID"
        "A dispatch-bound family failure is missing its exact executor identity.")
    | none, some executor => do
      let challenge ← check (validateChallengeState host (← readJson challengeIssuedPath)
        job.toCourierContract executor)
      let durableResult := buildTerminalResult env job
        { terminal with retryable := false, outcome_unknown := true }
      let _ ← claimCompletionDecision host env job (some executor) durableResult
        (some challenge.completion_challenge_hash)
      recoverFamilyCompletionDecision host env job

def writeTerminal (job : RevitToolJob) (terminal : TerminalInput) : Courier RevitToolJob := do
  if job.isCertifiedFamilyJob then
    if terminal.status = .failed then writeFamilyFailure host env job terminal
    else
      let _ ← claimCompletionDecision host env job (familyDecisionExecutor job)
        (buildTerminalResult env job terminal)
        (terminal.certified_execution_context.map
          CertifiedCourierExecutionContext.completion_challenge_hash)
      recoverFamilyCompletionDecision host env job
  else publishDurableTerminal host env job (buildTerminalResult env job terminal)

end decisions

end revit_operator.courier
