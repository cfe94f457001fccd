import RevitOperator.Courier.SharedFiles

open interleaving interleaving.Steps

/-! The call of the MCP producer on a version 1 job, as steps on the files it
    shares with the backend. -/

namespace revit_operator.courier.shared

/-- The flags of a `RevitCourierError`; its text only displays them. -/
structure RevitCourierError where
  code : String
  retryable : Bool
  outcomeUnknown : Bool
  jobId : String
  deriving DecidableEq

inductive CallFault where
  | execution (error : RevitCourierError)
  | other (message : String)
  deriving DecidableEq

abbrev ProducerSteps := Steps SharedJob CallFault

/-- A call of `callRevitViaCourier` that reached the publication of its job: the
    request, the duration it waits for, the clock at its start, at each turn of
    its loop and at its end. -/
structure ProducerCall where
  request : CourierContract
  durationMs : Int
  now : Int
  readings : List Int
  finishedAt : Int

/-- The job a call publishes; every call on one directory has its id. -/
def ProducerCall.job (call : ProducerCall) (id : String) : RevitToolJob :=
  publishedJob { call.request with
    version := REVIT_COURIER_JOB_VERSION
    id := id
    correlation_id := id
    idempotency_key := id
    certification_envelope := none
    created_at := .iso call.now
    expires_at := .iso (call.now + call.durationMs) }

/-- `job[name] ?? null`. -/
def member (job : CourierContract) (name : String) : Json := (job.members.member? name).getD .null

/-- The stored job is the one the call would have published. -/
def resumes (existing candidate : CourierContract) : Bool :=
  existing.version == candidate.version && existing.id == candidate.id
    && existing.correlation_id == candidate.correlation_id
    && existing.idempotency_key == candidate.idempotency_key
    && existing.session_id == candidate.session_id
    && member existing "message_id" == member candidate "message_id"
    && existing.turn_token.getD .null == candidate.turn_token.getD .null
    && existing.turn_token_sha256.getD .null == candidate.turn_token_sha256.getD .null
    && existing.method == candidate.method && existing.path == candidate.path
    && existing.target_executor_id == candidate.target_executor_id
    && member existing "target_document_title" == member candidate "target_document_title"
    && member existing "target_document_path" == member candidate "target_document_path"

/-- The exclusive creation of `job.json`: whether the file was created. -/
def createJob (candidate : RevitToolJob) : ProducerSteps Bool :=
  atomic (fun _ => true) (fun files => if files.job.isSome then files else { files with job := some candidate })
    fun found => found.job.isNone

def publishOrResumeJob (candidate : RevitToolJob) : ProducerSteps RevitToolJob := do
  if ← createJob candidate then pure candidate
  else
    match ← inspect SharedJob.job with
    | none => throw (.other "Revit courier found an unreadable existing idempotent job receipt.")
    | some existing =>
      if resumes existing.toCourierContract candidate.toCourierContract then pure existing
      else throw (.other "Revit courier idempotency collision detected; refusing to broaden or replay the call.")

/-- The stored receipt, with whether it was published because the job timed out
    before a claim. -/
def readResult (id : String) : ProducerSteps (Option (RevitToolResult × Bool)) := do
  match ← inspect fun files => files.result.map fun receipt => (receipt, files.timedOutBeforeClaim) with
  | none => pure none
  | some (receipt, beforeClaim) =>
    if receipt.version = REVIT_COURIER_RESULT_VERSION ∧ receipt.id = id ∧ receipt.correlation_id = id then
      pure (some (receipt, beforeClaim))
    else throw (.other "Revit courier returned a mismatched result receipt.")

/-- The receipt of a job without a certification envelope. -/
def readAuthoritativeResult (id : String) : ProducerSteps (Option (RevitToolResult × Bool)) := do
  let job ← inspect SharedJob.job
  match ← readResult id with
  | none => pure none
  | some receipt =>
    if job.any fun job => job.version = REVIT_COURIER_V2_JOB_VERSION then
      throw (.other "Certified courier result has no exact persisted certification envelope.")
    else pure (some receipt)

/-- `throw` of a courier error, noted when it says that the job timed out before
    a claim and may be retried or has a known outcome. -/
def fail (error : RevitCourierError) (beforeClaim : Bool) : ProducerSteps Json := do
  if beforeClaim && (error.retryable || !error.outcomeUnknown) then
    change fun files => { files with reportedBeforeClaim := true }
  throw (.execution error)

def resolveResult (receipt : RevitToolResult) (beforeClaim : Bool) : ProducerSteps Json :=
  if receipt.status = .succeeded then pure receipt.result
  else
    fail {
      code := (receipt.code.filter (· ≠ "")).getD "courier_execution_failed"
      retryable := !receipt.outcome_unknown && receipt.retryable
      outcomeUnknown := receipt.outcome_unknown
      jobId := if receipt.id = "" then "unknown" else receipt.id } beforeClaim

section timeout

variable (call : ProducerCall) (id : String)

/-- The failed result a timed-out call publishes. -/
def timedOutResult (job : RevitToolJob) (code error : String) (pending : Bool) : RevitToolResult where
  version := REVIT_COURIER_RESULT_VERSION
  id := id
  correlation_id := job.correlation_id
  status := .failed
  finished_at := .iso call.finishedAt
  result := .null
  error := some error
  code := some code
  retryable := pending
  phase := none
  outcome_unknown := !pending
  certified_execution_context := none

/-- Overwrite both files of a version 1 job that nothing has settled. The writes
    are made for a job that is still pending when it was read so, and for a
    missing result. -/
def writeTimeout (job : RevitToolJob) (code error : String) (pending : Bool) : ProducerSteps Unit := do
  if job.version = REVIT_COURIER_JOB_VERSION then
    atomic (fun files => !pending || files.job.any fun stored => stored.status = .pending)
      (fun files => { files with job := some (job.settled .failed (.iso call.finishedAt) (some error)) }) fun _ => ()
    atomic (fun files => files.result.isNone)
      (fun files => { files with
        result := some (timedOutResult call id job code error pending)
        timedOutBeforeClaim := pending }) fun _ => ()

/-- The end of a call whose job is still pending or running at its deadline. -/
def timeOut (job : RevitToolJob) (code error : String) (pending : Bool) : ProducerSteps Json := do
  writeTimeout call id job code error pending
  fail { code := code, retryable := pending, outcomeUnknown := !pending, jobId := id } pending

def finalizeTimeout : ProducerSteps Json := do
  let job ← inspect SharedJob.job
  match ← readAuthoritativeResult id with
  | some (receipt, beforeClaim) => do
    let result ← resolveResult receipt beforeClaim
    if job.isSome then pure result
    else throw (.other "Courier result exists without its exact durable job.")
  | none =>
    match job.filter fun job => job.id = id
        ∧ (job.version = REVIT_COURIER_JOB_VERSION ∨ job.version = REVIT_COURIER_V2_JOB_VERSION) with
    | none => throw (.other "Revit courier timed out waiting for workstation execution.")
    | some job =>
      match job.status with
      | .running =>
        timeOut call id job "courier_execution_deadline_elapsed_outcome_unknown"
          "The workstation execution deadline elapsed; outcome is unknown and the call was not retried automatically."
          false
      | .pending =>
        timeOut call id job "courier_job_timed_out_before_claim"
          "The Revit courier job timed out before a workstation claimed it." true
      | _ => throw (.other "Revit courier timed out waiting for workstation execution.")

/-- The waiting loop, by the clock at each of its turns; it ends when the clock
    reaches the deadline. -/
def waitForResult (deadline : Int) : List Int → ProducerSteps Json
  | [] => finalizeTimeout call id
  | now :: rest =>
    if now < deadline then do
      match ← readAuthoritativeResult id with
      | some (receipt, beforeClaim) => resolveResult receipt beforeClaim
      | none => waitForResult deadline rest
    else finalizeTimeout call id

end timeout

/-- The instant a call waits for: its own duration or the stored expiry. -/
def deadline (host : CourierHost) (call : ProducerCall) (job : RevitToolJob) : Int :=
  match host.parseDate job.expires_at with
  | some persistedExpiry => min (call.now + call.durationMs) persistedExpiry
  | none => call.now + call.durationMs

def callRevitViaCourier (host : CourierHost) (id : String) (call : ProducerCall) : ProducerSteps Json := do
  let job ← publishOrResumeJob (call.job id)
  if member job.toCourierContract "assignment_operation_id" = member call.request "assignment_operation_id" then
    waitForResult call id (deadline host call job) call.readings
  else throw (.other "Revit courier operation binding does not match the canonical Assignment operation.")

/-- The backend, which runs its operations one after the other, beside any number
    of producer processes, each with its calls on the job; no file exists yet. -/
def courierPool (host : CourierHost) (id : String) (operations : List (CourierEnvironment × BackendOperation))
    (producers : List (List ProducerCall)) : Pool SharedJob Empty where
  state := .empty
  programs := inTurn (operations.map fun operation => operation.2.steps host operation.1 id)
    :: producers.map fun calls => inTurn (calls.map (callRevitViaCourier host id))

end revit_operator.courier.shared
