import RevitOperator.McpServer.TaskPostconditions
import RevitOperator.Library.Calls

open checked calls

/-! The coordinator of dynamic code sessions: every step is previewed until a preview completes,
    and a mutating step is applied under an authority once its preview meets the postconditions. -/

namespace revit_operator.mcp_server

inductive RunMode where
  | read
  | preview
  | apply
  deriving DecidableEq

inductive ResumeMode where
  | facts
  | repair
  | retry
  deriving DecidableEq

structure DynamicExecutionResumeInput where
  prior_run_id : String
  prior_evidence_sha256 : String
  mode : ResumeMode

structure DynamicCheckpointContinuationInput where
  prior_run_id : String
  prior_evidence_sha256 : String
  prior_checkpoint_sha256 : String

/-- The input of an execution; `options` are the members the coordinator only copies. -/
structure DynamicRevitProgramRunInput where
  source : String
  mode : RunMode
  resume : Option DynamicExecutionResumeInput
  continue_from_checkpoint : Option DynamicCheckpointContinuationInput
  options : List (String × Json)

/-- The status of an execution; a receipt may hold any text. -/
inductive ExecutionStatus where
  | completed
  | needs_facts
  | failed
  | other (value : String)
  deriving DecidableEq

structure ExecutionVerification where
  evidence_sha256 : String
  deterministic_replay_verified : Bool

structure ExecutionDiagnostic where
  retryable : Bool

/-- `classification` is `progress.classification`. -/
structure ExecutionIteration where
  classification : String
  iteration_sha256 : String

structure ExecutionCheckpoint where
  run_id : String
  checkpoint_sha256 : String
  evidence_sha256 : String

structure DynamicExecutionRunReceipt where
  run_id : String
  execution_status : ExecutionStatus
  requested_mode : RunMode
  verification : ExecutionVerification
  diagnostics : List ExecutionDiagnostic
  iteration : ExecutionIteration
  checkpoint : Option ExecutionCheckpoint

/-- A step; `options` are the members of its input, which has no source, mode, resume and
    checkpoint reference. -/
structure DynamicCodeSessionStep where
  step_id : String
  source : String
  options : List (String × Json)
  postconditions : List DynamicTaskPostcondition
  mutates : Bool

inductive ProviderRepairDecision where
  | repair (source : String)
  | retry
  | stop (reason : String)

structure ExpandedFacts where
  input : DynamicRevitProgramRunInput
  base : TrustedObservationBaseline
  delta : ParsedJson
  observed : TrustedObservationBaseline

/-- The calls of the hooks. -/
inductive HookCall where
  | execute (input : DynamicRevitProgramRunInput)
  | observe (run : DynamicExecutionRunReceipt) (step : DynamicCodeSessionStep)
  | expandFacts (run : DynamicExecutionRunReceipt) (step : DynamicCodeSessionStep) (source : String)
  | repair (run : DynamicExecutionRunReceipt) (step : DynamicCodeSessionStep) (source : String)
  | authorize (task_id : String) (step : DynamicCodeSessionStep) (source_sha256 : String)
  | finalize (task_id : String) (final_checkpoint_sha256 : Option String) (completed_steps : List Json)

/-- What a hook returns. The receipts of an authority and of a finalization are the values as
    they are written, since their hashes are over all their members. -/
abbrev HookCall.Answer : HookCall → Type
  | .execute _ => DynamicExecutionRunReceipt
  | .observe _ _ => TrustedTaskFactSet
  | .expandFacts _ _ _ => ExpandedFacts
  | .repair _ _ _ => ProviderRepairDecision
  | .authorize _ _ _ => ParsedJson
  | .finalize _ _ _ => ParsedJson

/-- A call of a hook while the step at an index is carried out, and its result or exception. -/
abbrev HookEvent : Type := CallEvent Nat HookCall String HookCall.Answer

abbrev Session (α : Type) : Type := Calling HookEvent String α

/-- The hooks and the clock: what they do may depend on everything that was called before. -/
structure DynamicCodeSessionHooks where
  answer : List HookEvent → (call : HookCall) → Except String call.Answer
  nowUnixSeconds : List HookEvent → ℚ

def isRunId (value : String) : Bool := text.startsWith value "dynamic-" && text.isHexText 32 (text.dropFirst 8 value)

def validateRun (run : DynamicExecutionRunReceipt) (mode : RunMode) : Except String Unit :=
  require (isRunId run.run_id = true ∧ run.requested_mode = mode ∧ run.execution_status ∈ [.completed, .needs_facts, .failed]
      ∧ isHash run.verification.evidence_sha256 = true ∧ isHash run.iteration.iteration_sha256 = true
      ∧ (run.execution_status ≠ .failed → run.verification.deterministic_replay_verified = true)
      ∧ (run.execution_status = .failed → run.diagnostics.length ≠ 0))
    "Dynamic execution run receipt is not trusted or deterministic."

/-- `source.replaceAll("\r\n", "\n").replaceAll("\r", "\n")` -/
def normalizedNewlines : List Char → List Char
  | '\r' :: '\n' :: rest => '\n' :: normalizedNewlines rest
  | '\r' :: rest => '\n' :: normalizedNewlines rest
  | c :: rest => c :: normalizedNewlines rest
  | [] => []

section coordinator

variable (host : SessionHost) (hooks : DynamicCodeSessionHooks) (taskId : String)

def sourceIdentity (source : String) : String := host.sha256 (.ofList (normalizedNewlines source.toList))

def validateAuthority (value : ParsedJson) (task step source : String) (now : ℚ) : Except String Unit :=
  require ((value.field "schema").value = .str "revit-operator.dynamic-mutation-authority.v1"
      ∧ (value.field "task_id").value = .str task ∧ (value.field "step_id").value = .str step
      ∧ (value.field "source_sha256").value = .str source ∧ (value.field "authorization_granted").value = .bool true
      ∧ (value.field "expires_unix_seconds").value.asSafeInt?.any (fun expires : ℤ => decide (now < expires)) = true
      ∧ (value.field "receipt_sha256").value.asString?.any isHash = true
      ∧ Json.str (host.jsonSha256 (value.without "receipt_sha256").value) = (value.field "receipt_sha256").value)
    "Dynamic mutation authority is invalid, expired, or substituted."

def validateFinalization (value : ParsedJson) (task : String) (checkpoint : Option String) : Except String Unit :=
  require ((value.field "schema").value = .str "revit-operator.dynamic-task-finalization.v1"
      ∧ (value.field "task_id").value = .str task
      ∧ value.value.member? "final_checkpoint_sha256" = some ((checkpoint.map Json.str).getD .null)
      ∧ (value.field "disposition").value
        ∈ [.str "accepted_state", .str "discarded_working_copy", .str "verified_compensation"]
      ∧ (value.field "authorization_granted").value = .bool false
      ∧ (value.field "evidence_sha256").value.asString?.any isHash = true
      ∧ (value.field "receipt_sha256").value.asString?.any isHash = true
      ∧ Json.str (host.jsonSha256 (value.without "receipt_sha256").value) = (value.field "receipt_sha256").value)
    "Dynamic task finalization is invalid or not bound to the final checkpoint."

def continuation (checkpoint : ExecutionCheckpoint) : DynamicCheckpointContinuationInput where
  prior_run_id := checkpoint.run_id
  prior_evidence_sha256 := checkpoint.evidence_sha256
  prior_checkpoint_sha256 := checkpoint.checkpoint_sha256

/-- The input of a step that goes on from the latest checkpoint. -/
def stepInput (step : DynamicCodeSessionStep) (source : String) (mode : RunMode) (checkpoint : Option ExecutionCheckpoint) :
    DynamicRevitProgramRunInput where
  source
  mode
  resume := none
  continue_from_checkpoint := checkpoint.map continuation
  options := step.options

/-- The input of a preview that goes on from a failed one. -/
def resumeInput (step : DynamicCodeSessionStep) (source : String) (run : DynamicExecutionRunReceipt) (mode : ResumeMode) :
    DynamicRevitProgramRunInput where
  source
  mode := .preview
  resume := some ⟨run.run_id, run.verification.evidence_sha256, mode⟩
  continue_from_checkpoint := none
  options := step.options

/-- A completed preview, its source, and how many attempts it took. -/
structure Previewed where
  source : String
  attempts : Nat
  run : DynamicExecutionRunReceipt

def ask (index : Nat) (call : HookCall) : Session call.Answer := calls.ask hooks.answer index call

/-- A preview that needs facts is followed by another one on the expanded input. -/
def expandThen (index : Nat) (step : DynamicCodeSessionStep) (source : String) (run : DynamicExecutionRunReceipt)
    (again : String → DynamicRevitProgramRunInput → Session Previewed) : Session Previewed := do
  let expanded ← ask hooks index (.expandFacts run step source)
  ofCheck (require (expanded.input.resume.map DynamicExecutionResumeInput.mode = some .facts
      ∧ expanded.input.source = source ∧ expanded.input.mode = .preview)
    "Fact expansion did not preserve source, mode, and exact continuation semantics.")
  ofCheck (verifyObservationDelta host expanded.base expanded.delta expanded.observed)
  again source expanded.input

/-- A preview that failed is followed by another one where the provider decides so. -/
def repairThen (index : Nat) (step : DynamicCodeSessionStep) (source : String) (run : DynamicExecutionRunReceipt)
    (again : String → DynamicRevitProgramRunInput → Session Previewed) : Session Previewed := do
  match ← ask hooks index (.repair run step source) with
  | .stop reason => throw ("Provider stopped dynamic code repair: " ++ reason)
  | .retry => again source (resumeInput step source run .retry)
  | .repair repaired =>
    ofCheck (require (repaired ≠ source ∧ 1 ≤ text.length repaired ∧ text.length repaired ≤ 128000)
      "Provider repair did not produce distinct bounded source.")
    again repaired (resumeInput step repaired run .repair)

/-- The iterations of a step, of which there are five; `left` are left before the next one. -/
def previewLoop (index : Nat) (step : DynamicCodeSessionStep) (checkpoint : Option ExecutionCheckpoint) :
    (left : Nat) → String → Option DynamicRevitProgramRunInput → Session Previewed
  | 0, _, _ => throw "Dynamic code session exceeded the per-step iteration bound."
  | left + 1, source, nextInput => do
    let run ← ask hooks index (.execute (nextInput.getD (stepInput step source .preview checkpoint)))
    ofCheck (validateRun run .preview)
    if run.execution_status = .needs_facts then
      expandThen host hooks index step source run fun source input =>
        previewLoop index step checkpoint left source (some input)
    else if run.execution_status = .completed then
      pure ⟨source, 5 - left, run⟩
    else
      ofCheck (require (run.execution_status = .failed ∧ run.diagnostics.any ExecutionDiagnostic.retryable = true)
        "Dynamic code preview ended in a terminal safe blocker.")
      ofCheck (require (¬ (run.iteration.classification = "no_progress" ∧ 1 < 5 - left))
        "Dynamic code session stopped after verified no progress.")
      repairThen hooks index step source run fun source input => previewLoop index step checkpoint left source (some input)

/-- The checkpoint of a run that was applied. -/
def committedCheckpoint (run : DynamicExecutionRunReceipt) : Except String ExecutionCheckpoint :=
  match run.execution_status, run.checkpoint with
  | .completed, some checkpoint => .ok checkpoint
  | _, _ => .error "Authorized dynamic apply did not produce a verified committed checkpoint."

/-- The authorization and the execution of a step whose preview passed. -/
def applyStep (index : Nat) (step : DynamicCodeSessionStep) (checkpoint : Option ExecutionCheckpoint) (previewed : Previewed)
    (previewPostconditions : TrustedTaskPostconditionReceipt) : Session (Option ExecutionCheckpoint × Json) := do
  let sourceHash := sourceIdentity host previewed.source
  let authority ← ask hooks index (.authorize taskId { step with source := previewed.source } sourceHash)
  examine fun earlier => validateAuthority host authority taskId step.step_id sourceHash (hooks.nowUnixSeconds earlier)
  let finalRun ← ask hooks index (.execute (stepInput step previewed.source .apply checkpoint))
  ofCheck (validateRun finalRun .apply)
  let committed ← ofCheck (committedCheckpoint finalRun)
  let applyFacts ← ask hooks index (.observe finalRun step)
  ofCheck (require (applyFacts.execution_evidence_sha256 = finalRun.verification.evidence_sha256)
    "Trusted apply facts are not bound to the exact execution evidence.")
  let applyPostconditions ← ofCheck (evaluateTrustedTaskPostconditions host applyFacts step.postconditions)
  ofCheck (require (applyPostconditions.all_passed = true
      ∧ applyPostconditions.postcondition_set_sha256 = previewPostconditions.postcondition_set_sha256
      ∧ applyPostconditions.document_fingerprint = previewPostconditions.document_fingerprint
      ∧ applyPostconditions.document_session_id = previewPostconditions.document_session_id)
    "Trusted apply postconditions failed or diverged from preview.")
  pure (some committed, .obj [("step_id", .str step.step_id), ("attempts", .num previewed.attempts),
    ("source_sha256", .str sourceHash), ("preview_run_id", .str previewed.run.run_id), ("apply_run_id", .str finalRun.run_id),
    ("checkpoint_sha256", .str committed.checkpoint_sha256),
    ("mutation_authority_sha256", (authority.field "receipt_sha256").value),
    ("preview_postconditions_sha256", .str previewPostconditions.receipt_sha256),
    ("apply_postconditions_sha256", .str applyPostconditions.receipt_sha256)])

def runStep (index : Nat) (step : DynamicCodeSessionStep) (checkpoint : Option ExecutionCheckpoint) :
    Session (Option ExecutionCheckpoint × Json) := do
  ofCheck (require (isId step.step_id = true ∧ 1 ≤ text.length step.source ∧ text.length step.source ≤ 128000)
    "Dynamic code session step is invalid.")
  let previewed ← previewLoop host hooks index step checkpoint 5 step.source none
  let previewFacts ← ask hooks index (.observe previewed.run step)
  ofCheck (require (previewFacts.execution_evidence_sha256 = previewed.run.verification.evidence_sha256)
    "Trusted preview facts are not bound to the exact execution evidence.")
  let previewPostconditions ← ofCheck (evaluateTrustedTaskPostconditions host previewFacts step.postconditions)
  ofCheck (require (previewPostconditions.all_passed = true) "Trusted preview postconditions failed.")
  if step.mutates then
    applyStep host hooks taskId index step checkpoint previewed previewPostconditions
  else
    pure (checkpoint, .obj [("step_id", .str step.step_id), ("attempts", .num previewed.attempts),
      ("source_sha256", .str (sourceIdentity host previewed.source)), ("preview_run_id", .str previewed.run.run_id),
      ("preview_postconditions_sha256", .str previewPostconditions.receipt_sha256)])

def runSteps (index : Nat) (checkpoint : Option ExecutionCheckpoint) (completed : List Json) :
    List DynamicCodeSessionStep → Session (Option ExecutionCheckpoint × List Json)
  | [] => pure (checkpoint, completed)
  | step :: rest => do
    let done ← runStep host hooks taskId index step checkpoint
    runSteps (index + 1) done.1 (completed ++ [done.2]) rest

def coordinateDynamicCodeSession (steps : List DynamicCodeSessionStep) : Session Json := do
  ofCheck (require (isId taskId = true ∧ 1 ≤ steps.length ∧ steps.length ≤ 64
      ∧ (steps.map DynamicCodeSessionStep.step_id).Nodup) "Dynamic code session task or step plan is invalid.")
  let done ← runSteps host hooks taskId 0 none [] steps
  let finalCheckpoint := done.1.map ExecutionCheckpoint.checkpoint_sha256
  let finalization ← ask hooks steps.length (.finalize taskId finalCheckpoint done.2)
  ofCheck (validateFinalization host finalization taskId finalCheckpoint)
  let unsigned := [("schema", .str "revit-operator.dynamic-code-session.v1"), ("task_id", .str taskId), ("steps", .arr done.2),
    ("final_checkpoint_sha256", (finalCheckpoint.map Json.str).getD .null),
    ("finalization_receipt_sha256", (finalization.field "receipt_sha256").value),
    ("final_disposition", (finalization.field "disposition").value), ("outcome", .str "completed_verified"),
    ("authorization_granted", .bool false)]
  pure (.obj (unsigned ++ [("session_sha256", .str (host.jsonSha256 (.obj unsigned)))]))

/-- The calls of a session. -/
def sessionCalls (steps : List DynamicCodeSessionStep) : List HookEvent :=
  (calls.outcome (coordinateDynamicCodeSession host hooks taskId steps) []).2

end coordinator

/-! What may be called after what. -/

section laws

variable (host : SessionHost) (hooks : DynamicCodeSessionHooks) (taskId : String) (steps : List DynamicCodeSessionStep)

/-- The input of a call that executes a step in apply mode. -/
def applyInput? : HookEvent → Option DynamicRevitProgramRunInput
  | ⟨_, .execute input, _⟩ => if input.mode = .apply then some input else none
  | _ => none

def isPreview : HookEvent → Bool
  | ⟨_, .execute input, _⟩ => input.mode = .preview
  | _ => false

def isObservation : HookEvent → Bool
  | ⟨_, .observe _ _, _⟩ => true
  | _ => false

/-- The final checkpoint of a call of `finalize`. -/
def finalized? : HookEvent → Option (Option String)
  | ⟨_, .finalize _ final_checkpoint_sha256 _, _⟩ => some final_checkpoint_sha256
  | _ => none

/-- The checkpoint an execution in apply mode returned. -/
def appliedCheckpoint? : HookEvent → Option ExecutionCheckpoint
  | ⟨_, .execute input, .ok run⟩ => if input.mode = .apply then run.checkpoint else none
  | _ => none

def latestCheckpoint (events : List HookEvent) : Option ExecutionCheckpoint :=
  (events.filterMap appliedCheckpoint?).getLast?

/-- The previews of a step so far. -/
def previews (index : Nat) (events : List HookEvent) : Nat := events.countP fun event => event.tag = index && isPreview event

/-- The facts of an execution are bound to its evidence and pass. -/
def Passed (run : DynamicExecutionRunReceipt) (step : DynamicCodeSessionStep) (facts : TrustedTaskFactSet)
    (receipt : TrustedTaskPostconditionReceipt) : Prop :=
  facts.execution_evidence_sha256 = run.verification.evidence_sha256
    ∧ evaluateTrustedTaskPostconditions host facts step.postconditions = .ok receipt ∧ receipt.all_passed = true

/-- Two receipts of one step agree. -/
def Agree (preview apply : TrustedTaskPostconditionReceipt) : Prop :=
  apply.postcondition_set_sha256 = preview.postcondition_set_sha256
    ∧ apply.document_fingerprint = preview.document_fingerprint ∧ apply.document_session_id = preview.document_session_id

/-- The checks of the result of a call: those of the receipt itself, and those against the calls
    before it. -/
def Passes (before : List HookEvent) : HookEvent → Prop
  | ⟨_, _, .error _⟩ => False
  | ⟨index, .execute input, .ok run⟩ =>
    validateRun run input.mode = .ok ()
      ∧ (input.mode = .apply → run.execution_status = .completed ∧ run.checkpoint.isSome = true)
      ∧ (input.mode = .preview → run.execution_status = .failed →
        run.diagnostics.any ExecutionDiagnostic.retryable = true
          ∧ ¬ (run.iteration.classification = "no_progress" ∧ 0 < previews index before))
  | ⟨index, .observe run step, .ok facts⟩ =>
    ∃ receipt, Passed host run step facts receipt
      ∧ ∀ previewRun previewFacts preview, ⟨index, .observe previewRun step, .ok previewFacts⟩ ∈ before →
        evaluateTrustedTaskPostconditions host previewFacts step.postconditions = .ok preview → Agree preview receipt
  | ⟨index, .expandFacts _ _ source, .ok expanded⟩ =>
    expanded.input.resume.map DynamicExecutionResumeInput.mode = some .facts ∧ expanded.input.source = source
      ∧ expanded.input.mode = .preview
      ∧ verifyObservationDelta host expanded.base expanded.delta expanded.observed = .ok () ∧ previews index before < 5
  | ⟨index, .repair _ _ source, .ok decision⟩ =>
    (∀ reason, decision ≠ .stop reason)
      ∧ (∀ repaired, decision = .repair repaired →
        repaired ≠ source ∧ 1 ≤ text.length repaired ∧ text.length repaired ≤ 128000)
      ∧ previews index before < 5
  | ⟨index, .authorize task_id step source_sha256, .ok authority⟩ =>
    validateAuthority host authority task_id step.step_id source_sha256
      (hooks.nowUnixSeconds (before ++ [⟨index, .authorize task_id step source_sha256, .ok authority⟩])) = .ok ()
  | ⟨_, .finalize task_id final_checkpoint_sha256 _, .ok finalization⟩ =>
    validateFinalization host finalization task_id final_checkpoint_sha256 = .ok ()

/-- The step at an index ended: the facts of its last execution passed, and what came after is
    about later steps. -/
def Finished (index : Nat) (events : List HookEvent) : Prop :=
  ∃ step start run facts receipt after, steps[index]? = some step
    ∧ events = start ++ ⟨index, .observe run step, .ok facts⟩ :: after ∧ (∀ event ∈ after, index < event.tag)
    ∧ run.requested_mode = (if step.mutates then .apply else .preview) ∧ run.execution_status = .completed
    ∧ Passed host run step facts receipt

/-- The last call expanded facts and gave the input. -/
def Expands (index : Nat) (input : DynamicRevitProgramRunInput) (events : List HookEvent) : Prop :=
  ∃ start run step source expanded,
    events = start ++ [⟨index, .expandFacts run step source, .ok expanded⟩] ∧ expanded.input = input

/-- The input of a preview of a step with a source: that of the step, or what an expansion gave. -/
def PreviewInput (index : Nat) (step : DynamicCodeSessionStep) (source : String) (input : DynamicRevitProgramRunInput)
    (before : List HookEvent) : Prop :=
  input.source = source ∧ input.mode = .preview ∧ (input.options = step.options ∨ Expands index input before)

/-- A receipt of an authority that was granted for a step of a task and has not expired. -/
structure Authorizes (authority : ParsedJson) (step_id source_sha256 : String) (now : ℚ) : Prop where
  task_id : (authority.field "task_id").value = .str taskId
  step_id : (authority.field "step_id").value = .str step_id
  source_sha256 : (authority.field "source_sha256").value = .str source_sha256
  granted : (authority.field "authorization_granted").value = .bool true
  unexpired : ∃ expires : ℤ, (authority.field "expires_unix_seconds").value = .num expires ∧ now < expires

/-- What was called before a step is executed in apply mode: its completed preview, the
    observation of that preview, and the authority for the source. -/
def ReadyToApply (index : Nat) (input : DynamicRevitProgramRunInput) (before : List HookEvent) : Prop :=
  ∃ step start previewInput run facts receipt authority,
    steps[index]? = some step ∧ step.mutates = true ∧ input.options = step.options
      ∧ before = start ++ [⟨index, .execute previewInput, .ok run⟩, ⟨index, .observe run step, .ok facts⟩,
        ⟨index, .authorize taskId { step with source := input.source } (sourceIdentity host input.source), .ok authority⟩]
      ∧ PreviewInput index step input.source previewInput start ∧ validateRun run .preview = .ok ()
      ∧ run.execution_status = .completed ∧ Passed host run step facts receipt
      ∧ Authorizes taskId authority step.step_id (sourceIdentity host input.source) (hooks.nowUnixSeconds before)

/-- A call is lawful after the ones before it: they passed their checks, and an apply and a
    finalization come when and with what they should. -/
structure Lawful (before : List HookEvent) (event : HookEvent) : Prop where
  passing : Follows (Passes host hooks) before
  unfinalized : ∀ earlier ∈ before, finalized? earlier = none
  apply : ∀ input, applyInput? event = some input →
    ReadyToApply host hooks taskId steps event.tag input before
      ∧ (∀ index < event.tag, Finished host steps index before)
      ∧ (∀ earlier ∈ before, earlier.tag = event.tag → applyInput? earlier = none)
      ∧ input.continue_from_checkpoint = (latestCheckpoint before).map continuation
  finalize : ∀ final, finalized? event = some final →
    (∀ index < steps.length, Finished host steps index before)
      ∧ final = (latestCheckpoint before).map ExecutionCheckpoint.checkpoint_sha256

/-- What was previewed, observed and authorized before a step is executed in apply mode. -/
structure PreviewedAndAuthorized (step : DynamicCodeSessionStep) (input previewInput : DynamicRevitProgramRunInput)
    (run : DynamicExecutionRunReceipt) (facts : TrustedTaskFactSet) (authority : ParsedJson) (now : ℚ) : Prop where
  preview : previewInput.mode = .preview
  source : previewInput.source = input.source
  options : previewInput.options = input.options
  completed : run.execution_status = .completed
  bound : facts.execution_evidence_sha256 = run.verification.evidence_sha256
  satisfied : step.postconditions ≠ [] ∧ ∀ condition ∈ step.postconditions, Satisfies facts condition
  authorized : Authorizes taskId authority step.step_id (sourceIdentity host input.source) now

/-- The completed preview of a step, its observation and its authority, as the last calls. -/
def previewCalls (index : Nat) (step : DynamicCodeSessionStep) (source : String) (previewInput : DynamicRevitProgramRunInput)
    (run : DynamicExecutionRunReceipt) (facts : TrustedTaskFactSet) (authority : ParsedJson) : List HookEvent :=
  [⟨index, .execute previewInput, .ok run⟩, ⟨index, .observe run step, .ok facts⟩,
    ⟨index, .authorize taskId { step with source } (sourceIdentity host source), .ok authority⟩]

/-- A step is executed in apply mode only once, as one that mutates, after the earlier steps
    finished, from the latest checkpoint, and as it was previewed and authorized. -/
structure AppliedAsPreviewed (before : List HookEvent) (index : Nat) (step : DynamicCodeSessionStep)
    (input : DynamicRevitProgramRunInput) : Prop where
  mutates : step.mutates = true
  once : ∀ earlier ∈ before, earlier.tag = index → applyInput? earlier = none
  after : ∀ earlier < index, Finished host steps earlier before
  continues : input.continue_from_checkpoint = (latestCheckpoint before).map continuation
  previewed : ∃ previewInput run facts authority,
    previewCalls host taskId index step input.source previewInput run facts authority <:+ before
      ∧ PreviewedAndAuthorized host taskId step input previewInput run facts authority (hooks.nowUnixSeconds before)

/-- What is checked of the task and of the plan. -/
def PlanFits : Prop :=
  isId taskId = true ∧ 1 ≤ steps.length ∧ steps.length ≤ 64 ∧ (steps.map DynamicCodeSessionStep.step_id).Nodup

/-- What is checked of a step before it is begun. -/
def StepFits (step : DynamicCodeSessionStep) : Prop :=
  isId step.step_id = true ∧ 1 ≤ text.length step.source ∧ text.length step.source ≤ 128000

/-- What the calls of a session are to be. -/
structure AppliesOnlyPreviewed (events : List HookEvent) : Prop where
  applied : ∀ before event after input, events = before ++ event :: after → applyInput? event = some input →
    ∃ step, steps[event.tag]? = some step ∧ AppliedAsPreviewed host hooks taskId steps before event.tag step input
  /-- No hook is called after a failed check: of the plan, of the step, or of a result. -/
  planned : ∀ event ∈ events, PlanFits taskId steps
  begun : ∀ event ∈ events, ∀ step, steps[event.tag]? = some step → StepFits step
  stops : ∀ before event next after, events = before ++ event :: next :: after → Passes host hooks before event
  /-- The session is finalized at most once, as its last call and with the last checkpoint. -/
  finalized : ∀ before event after final, events = before ++ event :: after → finalized? event = some final →
    after = [] ∧ (∀ earlier ∈ before, finalized? earlier = none)
      ∧ final = (latestCheckpoint before).map ExecutionCheckpoint.checkpoint_sha256

/-- Before a step is executed in apply mode: where facts were expanded for the preview that
    completed, the expanded input has the options of the step, and no postcondition counts an
    inherited function in the observed facts. -/
structure ApplyFits (index : Nat) (before : List HookEvent) : Prop where
  expanded : ∀ step source previewInput run facts authority start, steps[index]? = some step →
    before = start ++ previewCalls host taskId index step source previewInput run facts authority →
      Expands index previewInput start → previewInput.options = step.options
  counted : ∀ step source previewInput run facts authority, steps[index]? = some step →
    previewCalls host taskId index step source previewInput run facts authority <:+ before →
      ∀ condition ∈ step.postconditions, CountsRecorded facts condition

end laws

/-! The session keeps the laws: an invariant for the calls made between two hooks of a step, and
    what each part of a step adds to it. -/

variable {facts : TrustedTaskFactSet} {receipt : TrustedTaskPostconditionReceipt} {authority : ParsedJson}
  {previewed : Previewed}

section runs

variable {host : SessionHost} {hooks : DynamicCodeSessionHooks} {taskId : String} {steps : List DynamicCodeSessionStep}
  {index : Nat} {step : DynamicCodeSessionStep} {checkpoint : Option ExecutionCheckpoint} {events : List HookEvent}
  {event : HookEvent}

theorem Finished.append (h : Finished host steps index events) (hlater : index < event.tag) :
    Finished host steps index (events ++ [event]) := by
  obtain ⟨step, start, run, facts, receipt, after, hstep, rfl, hafter, hrun⟩ := h
  refine ⟨step, start, run, facts, receipt, after ++ [event], hstep, by simp, ?_, hrun⟩
  intro next hnext
  rcases List.mem_append.1 hnext with hold | hlast
  · exact hafter next hold
  · obtain rfl := List.mem_singleton.1 hlast
    exact hlater

theorem appliedCheckpoint_eq_none (h : applyInput? event = none) : appliedCheckpoint? event = none := by
  obtain ⟨tag, call, answer⟩ := event
  cases call with
  | execute input =>
    have hmode : ¬ input.mode = .apply := fun happly => by simp [applyInput?, happly] at h
    cases answer <;> simp [appliedCheckpoint?, hmode]
  | _ => cases answer <;> rfl

theorem latestCheckpoint_append (h : appliedCheckpoint? event = none) :
    latestCheckpoint (events ++ [event]) = latestCheckpoint events := by
  simp [latestCheckpoint, List.filterMap_append, h]

variable (host hooks taskId steps) in
/-- The calls so far are lawful and passed, those of the steps before an index finished, and no
    step after it was begun. -/
structure Ongoing (index : Nat) (checkpoint : Option ExecutionCheckpoint) (events : List HookEvent) : Prop where
  lawful : Follows (Lawful host hooks taskId steps) events
  passing : Follows (Passes host hooks) events
  unfinalized : ∀ event ∈ events, finalized? event = none
  latest : latestCheckpoint events = checkpoint
  finished : ∀ earlier < index, Finished host steps earlier events
  within : ∀ event ∈ events, event.tag ≤ index

theorem Ongoing.follows (h : Ongoing host hooks taskId steps index checkpoint events) (happly : applyInput? event = none)
    (hfinal : finalized? event = none) : Follows (Lawful host hooks taskId steps) (events ++ [event]) := by
  refine h.lawful.append_singleton ⟨h.passing, h.unfinalized, fun input hinput => ?_, fun final hfinalized => ?_⟩
  · rw [happly] at hinput
    cases hinput
  · rw [hfinal] at hfinalized
    cases hfinalized

theorem Ongoing.append (h : Ongoing host hooks taskId steps index checkpoint events) (htag : event.tag = index)
    (happly : applyInput? event = none) (hfinal : finalized? event = none) (hpasses : Passes host hooks events event) :
    Ongoing host hooks taskId steps index checkpoint (events ++ [event]) where
  lawful := h.follows happly hfinal
  passing := h.passing.append_singleton hpasses
  unfinalized := List.forall_mem_append.2 ⟨h.unfinalized, List.forall_mem_singleton.2 hfinal⟩
  latest := (latestCheckpoint_append (appliedCheckpoint_eq_none happly)).trans h.latest
  finished earlier hearlier := (h.finished earlier hearlier).append (htag ▸ hearlier)
  within := List.forall_mem_append.2 ⟨h.within, List.forall_mem_singleton.2 htag.le⟩

variable (host hooks taskId steps) in
/-- A step that was begun, with some of its five iterations left; nothing of it was observed or
    applied. -/
structure Began (index : Nat) (checkpoint : Option ExecutionCheckpoint) (left : Nat) (events : List HookEvent) : Prop
    extends Ongoing host hooks taskId steps index checkpoint events where
  unapplied : ∀ event ∈ events, event.tag = index → applyInput? event = none
  unobserved : ∀ event ∈ events, event.tag = index → isObservation event = false
  count : previews index events + left = 5

theorem Began.append {left : Nat} (h : Began host hooks taskId steps index checkpoint left events) (htag : event.tag = index)
    (happly : applyInput? event = none) (hfinal : finalized? event = none) (hobserve : isObservation event = false)
    (hpreview : isPreview event = false) (hpasses : Passes host hooks events event) :
    Began host hooks taskId steps index checkpoint left (events ++ [event]) where
  toOngoing := h.toOngoing.append htag happly hfinal hpasses
  unapplied := List.forall_mem_append.2 ⟨h.unapplied, List.forall_mem_singleton.2 fun _ => happly⟩
  unobserved := List.forall_mem_append.2 ⟨h.unobserved, List.forall_mem_singleton.2 fun _ => hobserve⟩
  count := by simpa [previews, List.countP_append, hpreview] using h.count

theorem Began.preview {left : Nat} {input : DynamicRevitProgramRunInput} {run : DynamicExecutionRunReceipt}
    (h : Began host hooks taskId steps index checkpoint (left + 1) events) (hmode : input.mode = .preview)
    (hpasses : Passes host hooks events ⟨index, .execute input, .ok run⟩) :
    Began host hooks taskId steps index checkpoint left (events ++ [⟨index, .execute input, .ok run⟩]) where
  toOngoing := h.toOngoing.append rfl (by simp [applyInput?, hmode]) rfl hpasses
  unapplied := List.forall_mem_append.2 ⟨h.unapplied, List.forall_mem_singleton.2 fun _ => by simp [applyInput?, hmode]⟩
  unobserved := List.forall_mem_append.2 ⟨h.unobserved, List.forall_mem_singleton.2 fun _ => rfl⟩
  count := by
    have hcount := h.count
    simp only [previews, List.countP_append, List.countP_singleton, isPreview, hmode] at hcount ⊢
    simp only [decide_true, Bool.and_self, if_true]
    omega

variable (host hooks taskId steps) in
/-- An iteration may start: where one is left, the step was begun and the next input is one of its
    previews. -/
def MayIterate (index : Nat) (step : DynamicCodeSessionStep) (checkpoint : Option ExecutionCheckpoint) (left : Nat)
    (source : String) (nextInput : Option DynamicRevitProgramRunInput) (events : List HookEvent) : Prop :=
  Follows (Lawful host hooks taskId steps) events
    ∧ (left ≠ 0 → Began host hooks taskId steps index checkpoint left events
      ∧ ∀ input, nextInput = some input → PreviewInput index step source input events)

variable (host hooks taskId steps) in
/-- The last call was a preview of the step that completed. -/
def HasPreviewed (index : Nat) (step : DynamicCodeSessionStep) (checkpoint : Option ExecutionCheckpoint)
    (previewed : Previewed) (events : List HookEvent) : Prop :=
  (∃ left, Began host hooks taskId steps index checkpoint left events)
    ∧ previewed.run.execution_status = .completed ∧ validateRun previewed.run .preview = .ok ()
    ∧ ∃ start input, events = start ++ [⟨index, .execute input, .ok previewed.run⟩]
      ∧ PreviewInput index step previewed.source input start

theorem ask_triple {pre : List HookEvent → Prop} {call : HookCall} {fails : List HookEvent → Prop}
    (hfails : ∀ fault events, pre events → fails (events ++ [⟨index, call, .error fault⟩])) :
    Triple pre (ask hooks index call)
      (fun value later => ∃ events, pre events ∧ later = events ++ [⟨index, call, .ok value⟩]) fails :=
  Triple.ask hfails

section iterations

variable {left : Nat} {again : String → DynamicRevitProgramRunInput → Session Previewed}
  (hagain : ∀ source input, Triple (MayIterate host hooks taskId steps index step checkpoint left source (some input))
    (again source input) (HasPreviewed host hooks taskId steps index step checkpoint)
    (Follows (Lawful host hooks taskId steps)))

include hagain

theorem expandThen_triple (source : String) (run : DynamicExecutionRunReceipt) :
    Triple (Began host hooks taskId steps index checkpoint left) (expandThen host hooks index step source run again)
      (HasPreviewed host hooks taskId steps index step checkpoint) (Follows (Lawful host hooks taskId steps)) := by
  refine .bind (ask_triple fun fault events h => h.follows rfl rfl) fun expanded => ?_
  have hlawful : ∀ later, (∃ events, Began host hooks taskId steps index checkpoint left events
      ∧ later = events ++ [⟨index, .expandFacts run step source, .ok expanded⟩]) →
        Follows (Lawful host hooks taskId steps) later := by
    rintro _ ⟨events, h, rfl⟩
    exact h.follows rfl rfl
  refine .bind (.ofCheck hlawful) fun _ => .bind (.ofCheck fun later h => hlawful later h.1) fun _ => ?_
  refine (hagain source expanded.input).strengthen ?_
  rintro later ⟨⟨⟨events, h, rfl⟩, hsame⟩, hdelta⟩
  obtain ⟨hfacts, hsource, hmode⟩ := require_eq_ok.1 hsame
  refine ⟨h.follows rfl rfl, fun hleft => ⟨h.append rfl rfl rfl rfl rfl ⟨hfacts, hsource, hmode, hdelta, ?_⟩, ?_⟩⟩
  · have hcount := h.count
    omega
  · intro input hinput
    obtain rfl := Option.some.inj hinput
    exact ⟨hsource, hmode, .inr ⟨events, run, step, source, expanded, rfl, rfl⟩⟩

theorem repairThen_triple (source : String) (run : DynamicExecutionRunReceipt) :
    Triple (Began host hooks taskId steps index checkpoint left) (repairThen hooks index step source run again)
      (HasPreviewed host hooks taskId steps index step checkpoint) (Follows (Lawful host hooks taskId steps)) := by
  refine .bind (ask_triple fun fault events h => h.follows rfl rfl) fun decision => ?_
  have hlawful : ∀ later, (∃ events, Began host hooks taskId steps index checkpoint left events
      ∧ later = events ++ [⟨index, .repair run step source, .ok decision⟩]) →
        Follows (Lawful host hooks taskId steps) later := by
    rintro _ ⟨events, h, rfl⟩
    exact h.follows rfl rfl
  cases decision with
  | stop reason => exact .throw hlawful
  | retry =>
    refine (hagain _ _).strengthen ?_
    rintro later ⟨events, h, rfl⟩
    refine ⟨h.follows rfl rfl, fun hleft => ⟨h.append rfl rfl rfl rfl rfl ⟨nofun, nofun, ?_⟩, ?_⟩⟩
    · have hcount := h.count
      omega
    · intro input hinput
      obtain rfl := Option.some.inj hinput
      exact ⟨rfl, rfl, .inl rfl⟩
  | repair repaired =>
    refine .bind (.ofCheck hlawful) fun _ => (hagain _ _).strengthen ?_
    rintro later ⟨⟨events, h, rfl⟩, hsource⟩
    refine ⟨h.follows rfl rfl, fun hleft => ⟨h.append rfl rfl rfl rfl rfl ⟨nofun, ?_, ?_⟩, ?_⟩⟩
    · intro other hother
      cases hother
      exact require_eq_ok.1 hsource
    · have hcount := h.count
      omega
    · intro input hinput
      obtain rfl := Option.some.inj hinput
      exact ⟨rfl, rfl, .inl rfl⟩

end iterations

theorem previewLoop_triple (index : Nat) (step : DynamicCodeSessionStep) (checkpoint : Option ExecutionCheckpoint)
    (left : Nat) (source : String) (nextInput : Option DynamicRevitProgramRunInput) :
    Triple (MayIterate host hooks taskId steps index step checkpoint left source nextInput)
      (previewLoop host hooks index step checkpoint left source nextInput)
      (HasPreviewed host hooks taskId steps index step checkpoint) (Follows (Lawful host hooks taskId steps)) := by
  induction left generalizing source nextInput with
  | zero => exact Triple.throw fun events h => h.1
  | succ left ih =>
    rw [previewLoop]
    generalize hinput : nextInput.getD (stepInput step source .preview checkpoint) = input
    have hfits : ∀ events, MayIterate host hooks taskId steps index step checkpoint (left + 1) source nextInput events →
        Began host hooks taskId steps index checkpoint (left + 1) events ∧ PreviewInput index step source input events := by
      intro events hevents
      obtain ⟨hbegan, hnext⟩ := hevents.2 (Nat.succ_ne_zero left)
      refine ⟨hbegan, ?_⟩
      cases nextInput with
      | some given => exact hinput ▸ hnext given rfl
      | none => exact hinput ▸ ⟨rfl, rfl, .inl rfl⟩
    refine Triple.strengthen ?_ hfits
    refine .bind (ask_triple fun fault events h => h.1.follows (by simp [applyInput?, h.2.2.1]) rfl) fun run => ?_
    have hlawful : ∀ later, (∃ events, (Began host hooks taskId steps index checkpoint (left + 1) events
        ∧ PreviewInput index step source input events) ∧ later = events ++ [⟨index, .execute input, .ok run⟩]) →
          Follows (Lawful host hooks taskId steps) later := by
      rintro _ ⟨events, h, rfl⟩
      exact h.1.follows (by simp [applyInput?, h.2.2.1]) rfl
    have hpasses : ∀ events, Began host hooks taskId steps index checkpoint (left + 1) events →
        PreviewInput index step source input events → validateRun run .preview = .ok () →
        (run.execution_status = .failed → run.diagnostics.any ExecutionDiagnostic.retryable = true
          ∧ ¬ (run.iteration.classification = "no_progress" ∧ 0 < previews index events)) →
          Began host hooks taskId steps index checkpoint left (events ++ [⟨index, .execute input, .ok run⟩]) := by
      intro events hbegan hpreview hvalid hfailed
      refine hbegan.preview hpreview.2.1 ⟨hpreview.2.1 ▸ hvalid, fun happly => ?_, fun _ => hfailed⟩
      exact absurd (hpreview.2.1.symm.trans happly) (by decide)
    refine .bind (.ofCheck hlawful) fun _ => ?_
    split
    · next hneeds =>
      refine (expandThen_triple (fun source next => ih source (some next)) source run).strengthen ?_
      rintro later ⟨⟨events, ⟨hbegan, hpreview⟩, rfl⟩, hvalid⟩
      exact hpasses events hbegan hpreview hvalid fun hfailed => absurd (hneeds.symm.trans hfailed) (by decide)
    · split
      · next hcompleted =>
        refine .pure ?_
        rintro later ⟨⟨events, ⟨hbegan, hpreview⟩, rfl⟩, hvalid⟩
        have hbegun := hpasses events hbegan hpreview hvalid fun hfailed => absurd (hcompleted.symm.trans hfailed) (by decide)
        exact ⟨⟨left, hbegun⟩, hcompleted, hvalid, events, input, rfl, hpreview⟩
      · refine .bind (.ofCheck fun later h => hlawful later h.1) fun _ =>
          .bind (.ofCheck fun later h => hlawful later h.1.1) fun _ => ?_
        refine (repairThen_triple (fun source next => ih source (some next)) source run).strengthen ?_
        rintro later ⟨⟨⟨⟨events, ⟨hbegan, hpreview⟩, rfl⟩, hvalid⟩, hretryable⟩, hprogress⟩
        refine hpasses events hbegan hpreview hvalid fun _ => ⟨(require_eq_ok.1 hretryable).2, ?_⟩
        rintro ⟨hclass, hearlier⟩
        have hcount := hbegan.count
        exact require_eq_ok.1 hprogress ⟨hclass, by omega⟩

variable (host hooks taskId steps) in
/-- The steps before an index finished, and the step at the index was not begun. -/
structure AtStep (index : Nat) (checkpoint : Option ExecutionCheckpoint) (events : List HookEvent) : Prop
    extends Ongoing host hooks taskId steps index checkpoint events where
  behind : ∀ event ∈ events, event.tag < index

theorem AtStep.began (h : AtStep host hooks taskId steps index checkpoint events) :
    Began host hooks taskId steps index checkpoint 5 events where
  toOngoing := h.toOngoing
  unapplied event hevent htag := absurd htag (h.behind event hevent).ne
  unobserved event hevent htag := absurd htag (h.behind event hevent).ne
  count := by
    have hnone : previews index events = 0 := by
      refine List.countP_eq_zero.2 fun event hevent hcounted => ?_
      have htag := (h.behind event hevent).ne
      simp [htag] at hcounted
    rw [hnone]

theorem Ongoing.atStep {start : List HookEvent} {run : DynamicExecutionRunReceipt}
    (hstep : steps[index]? = some step)
    (h : Ongoing host hooks taskId steps index checkpoint (start ++ [⟨index, .observe run step, .ok facts⟩]))
    (hmode : run.requested_mode = (if step.mutates then .apply else .preview)) (hcompleted : run.execution_status = .completed)
    (hpassed : Passed host run step facts receipt) :
    AtStep host hooks taskId steps (index + 1) checkpoint (start ++ [⟨index, .observe run step, .ok facts⟩]) where
  lawful := h.lawful
  passing := h.passing
  unfinalized := h.unfinalized
  latest := h.latest
  finished earlier hearlier := by
    rcases Nat.lt_succ_iff_lt_or_eq.1 hearlier with hbefore | rfl
    · exact h.finished earlier hbefore
    · exact ⟨step, start, run, facts, receipt, [], hstep, rfl, List.forall_mem_nil _, hmode, hcompleted, hpassed⟩
  within event hevent := Nat.le_succ_of_le (h.within event hevent)
  behind event hevent := Nat.lt_succ_of_le (h.within event hevent)

theorem requested_mode_of_valid {run : DynamicExecutionRunReceipt} {mode : RunMode} (h : validateRun run mode = .ok ()) :
    run.requested_mode = mode := (require_eq_ok.1 h).2.1

theorem num_of_asSafeInt? {value : Json} {n : ℤ} (h : value.asSafeInt? = some n) : value = .num n := by
  cases value with
  | num q =>
    rw [Json.asSafeInt?, Option.ite_none_right_eq_some] at h
    obtain ⟨⟨hden, -⟩, hnum⟩ := h
    obtain rfl := Option.some.inj hnum
    rw [Rat.coe_int_num_of_den_eq_one hden]
  | _ => cases h

theorem authorizes_of_valid {step_id source : String} {now : ℚ}
    (h : validateAuthority host authority taskId step_id source now = .ok ()) :
    Authorizes taskId authority step_id source now := by
  obtain ⟨-, htask, hid, hsource, hgranted, hexpires, -, -⟩ := require_eq_ok.1 h
  refine ⟨htask, hid, hsource, hgranted, ?_⟩
  obtain ⟨expires, hsafe, hlater⟩ := (Option.any_eq_true _ _).1 hexpires
  exact ⟨expires, num_of_asSafeInt? hsafe, of_decide_eq_true hlater⟩

variable (host hooks taskId steps) in
/-- The completed preview of a step was observed, and its facts passed. -/
structure HasObserved (index : Nat) (step : DynamicCodeSessionStep) (checkpoint : Option ExecutionCheckpoint)
    (previewed : Previewed) (facts : TrustedTaskFactSet) (receipt : TrustedTaskPostconditionReceipt)
    (events : List HookEvent) : Prop extends Ongoing host hooks taskId steps index checkpoint events where
  unapplied : ∀ event ∈ events, event.tag = index → applyInput? event = none
  completed : previewed.run.execution_status = .completed
  valid : validateRun previewed.run .preview = .ok ()
  passed : Passed host previewed.run step facts receipt
  only : ∀ run other, ⟨index, .observe run step, .ok other⟩ ∈ events → other = facts
  trail : ∃ start input, events
      = start ++ [⟨index, .execute input, .ok previewed.run⟩, ⟨index, .observe previewed.run step, .ok facts⟩]
    ∧ PreviewInput index step previewed.source input start

theorem HasPreviewed.observed
    (h : HasPreviewed host hooks taskId steps index step checkpoint previewed events)
    (hpassed : Passed host previewed.run step facts receipt) :
    HasObserved host hooks taskId steps index step checkpoint previewed facts receipt
      (events ++ [⟨index, .observe previewed.run step, .ok facts⟩]) := by
  obtain ⟨⟨left, hbegan⟩, hcompleted, hvalid, start, input, hevents, hpreview⟩ := h
  have hunobserved : ∀ run other, ⟨index, .observe run step, .ok other⟩ ∉ events := fun run other hmem =>
    absurd (hbegan.unobserved _ hmem rfl) (by simp [isObservation])
  refine {
    toOngoing := hbegan.toOngoing.append rfl rfl rfl
      ⟨receipt, hpassed, fun run other _ hmem => absurd hmem (hunobserved run other)⟩
    unapplied := List.forall_mem_append.2 ⟨hbegan.unapplied, List.forall_mem_singleton.2 fun _ => rfl⟩
    completed := hcompleted
    valid := hvalid
    passed := hpassed
    only := fun run other hmem => ?_
    trail := ⟨start, input, by rw [hevents, List.append_assoc]; rfl, hpreview⟩ }
  rcases List.mem_append.1 hmem with hold | hlast
  · exact absurd hold (hunobserved run other)
  · cases List.mem_singleton.1 hlast
    rfl

theorem committedCheckpoint_eq_ok {run : DynamicExecutionRunReceipt} {committed : ExecutionCheckpoint}
    (h : committedCheckpoint run = .ok committed) :
    run.execution_status = .completed ∧ run.checkpoint = some committed := by
  rw [committedCheckpoint] at h
  split at h
  · next found hstatus hcheckpoint => exact ⟨hstatus, hcheckpoint.trans (congrArg some (Except.ok.inj h))⟩
  · cases h

variable (host hooks taskId) in
/-- The next call was the authorization of a previewed step, and its authority is valid. -/
def Granted (index : Nat) (step : DynamicCodeSessionStep) (previewed : Previewed) (authority : ParsedJson)
    (events later : List HookEvent) : Prop :=
  later = events ++ [⟨index, .authorize taskId { step with source := previewed.source }
      (sourceIdentity host previewed.source), .ok authority⟩]
    ∧ validateAuthority host authority taskId step.step_id (sourceIdentity host previewed.source)
      (hooks.nowUnixSeconds later) = .ok ()

theorem HasObserved.ready
    (h : HasObserved host hooks taskId steps index step checkpoint previewed facts receipt events)
    (hstep : steps[index]? = some step) (hmutates : step.mutates = true) {later : List HookEvent}
    (hgranted : Granted host hooks taskId index step previewed authority events later) :
    ReadyToApply host hooks taskId steps index (stepInput step previewed.source .apply checkpoint) later := by
  obtain ⟨start, input, hevents, hpreview⟩ := h.trail
  refine ⟨step, start, input, previewed.run, facts, receipt, authority, hstep, hmutates, rfl, ?_, hpreview, h.valid,
    h.completed, h.passed, authorizes_of_valid hgranted.2⟩
  rw [hgranted.1, hevents, List.append_assoc]
  rfl

theorem HasObserved.follows_apply
    (result : Except String DynamicExecutionRunReceipt)
    (h : HasObserved host hooks taskId steps index step checkpoint previewed facts receipt events)
    (hstep : steps[index]? = some step) (hmutates : step.mutates = true) {later : List HookEvent}
    (hgranted : Granted host hooks taskId index step previewed authority events later) :
    Ongoing host hooks taskId steps index checkpoint later
      ∧ Follows (Lawful host hooks taskId steps)
        (later ++ [⟨index, .execute (stepInput step previewed.source .apply checkpoint), result⟩]) := by
  have hready := h.ready hstep hmutates hgranted
  obtain ⟨rfl, hvalid⟩ := hgranted
  have hongoing : Ongoing host hooks taskId steps index checkpoint
      (events ++ [⟨index, .authorize taskId { step with source := previewed.source }
        (sourceIdentity host previewed.source), .ok authority⟩]) := h.toOngoing.append rfl rfl rfl hvalid
  refine ⟨hongoing, hongoing.lawful.append_singleton ⟨hongoing.passing, hongoing.unfinalized, fun input hinput => ?_, nofun⟩⟩
  obtain rfl : stepInput step previewed.source .apply checkpoint = input := by simpa [applyInput?, stepInput] using hinput
  refine ⟨hready, hongoing.finished, ?_, ?_⟩
  · exact List.forall_mem_append.2 ⟨h.unapplied, List.forall_mem_singleton.2 fun _ => rfl⟩
  · rw [hongoing.latest]
    rfl

variable (host hooks taskId steps) in
/-- A step was applied, and of its executions only the preview was observed. -/
structure HasApplied (index : Nat) (step : DynamicCodeSessionStep) (committed : ExecutionCheckpoint)
    (facts : TrustedTaskFactSet) (receipt : TrustedTaskPostconditionReceipt) (events : List HookEvent) : Prop
    extends Ongoing host hooks taskId steps index (some committed) events where
  evaluated : evaluateTrustedTaskPostconditions host facts step.postconditions = .ok receipt
  only : ∀ run other, ⟨index, .observe run step, .ok other⟩ ∈ events → other = facts

theorem HasObserved.applied
    {finalRun : DynamicExecutionRunReceipt} {committed : ExecutionCheckpoint}
    (h : HasObserved host hooks taskId steps index step checkpoint previewed facts receipt events)
    (hstep : steps[index]? = some step) (hmutates : step.mutates = true) {later : List HookEvent}
    (hgranted : Granted host hooks taskId index step previewed authority events later)
    (hrun : validateRun finalRun .apply = .ok ()) (hcommitted : committedCheckpoint finalRun = .ok committed) :
    HasApplied host hooks taskId steps index step committed facts receipt
      (later ++ [⟨index, .execute (stepInput step previewed.source .apply checkpoint), .ok finalRun⟩]) := by
  obtain ⟨hongoing, hlawful⟩ := HasObserved.follows_apply (.ok finalRun) h hstep hmutates hgranted
  obtain ⟨hcompleted, hcheckpoint⟩ := committedCheckpoint_eq_ok hcommitted
  refine {
    lawful := hlawful
    passing := hongoing.passing.append_singleton ⟨hrun, fun _ => ⟨hcompleted, by simp [hcheckpoint]⟩, nofun⟩
    unfinalized := List.forall_mem_append.2 ⟨hongoing.unfinalized, List.forall_mem_singleton.2 rfl⟩
    latest := by simp [latestCheckpoint, List.filterMap_append, appliedCheckpoint?, stepInput, hcheckpoint]
    finished := fun earlier hearlier => (hongoing.finished earlier hearlier).append hearlier
    within := List.forall_mem_append.2 ⟨hongoing.within, List.forall_mem_singleton.2 le_rfl⟩
    evaluated := h.passed.2.1
    only := fun run other hmem => ?_ }
  rw [hgranted.1, List.append_assoc] at hmem
  rcases List.mem_append.1 hmem with hold | hnew
  · exact h.only run other hold
  · simp at hnew

theorem applyStep_triple
    (hstep : steps[index]? = some step) (hmutates : step.mutates = true) :
    Triple (HasObserved host hooks taskId steps index step checkpoint previewed facts receipt)
      (applyStep host hooks taskId index step checkpoint previewed receipt)
      (fun done => AtStep host hooks taskId steps (index + 1) done.1) (Follows (Lawful host hooks taskId steps)) := by
  rw [applyStep]
  refine .bind (ask_triple fun fault events h => h.follows rfl rfl) fun authority => ?_
  refine .bind (.examine ?_) fun _ => ?_
  · rintro _ ⟨events, h, rfl⟩
    exact h.follows rfl rfl
  refine .bind (ask_triple ?_) fun finalRun => ?_
  · rintro fault later ⟨⟨events, h, hlater⟩, hvalid⟩
    exact (HasObserved.follows_apply (.error fault) h hstep hmutates ⟨hlater, hvalid⟩).2
  refine .bind (.ofCheck ?_) fun _ => .bind (.ofCheck ?_) fun committed => ?_
  · rintro _ ⟨later, ⟨⟨events, h, hlater⟩, hvalid⟩, rfl⟩
    exact (HasObserved.follows_apply (.ok finalRun) h hstep hmutates ⟨hlater, hvalid⟩).2
  · rintro _ ⟨⟨later, ⟨⟨events, h, hlater⟩, hvalid⟩, rfl⟩, -⟩
    exact (HasObserved.follows_apply (.ok finalRun) h hstep hmutates ⟨hlater, hvalid⟩).2
  refine Triple.strengthen ?_ fun events h => (?_ : HasApplied host hooks taskId steps index step committed facts receipt events
    ∧ finalRun.execution_status = .completed ∧ finalRun.requested_mode = .apply)
  swap
  · obtain ⟨⟨⟨later, ⟨⟨earlier, hobserved, hlater⟩, hvalid⟩, rfl⟩, hrun⟩, hcommitted⟩ := h
    exact ⟨hobserved.applied hstep hmutates ⟨hlater, hvalid⟩ hrun hcommitted, (committedCheckpoint_eq_ok hcommitted).1,
      requested_mode_of_valid hrun⟩
  refine .bind (ask_triple fun fault events h => h.1.follows rfl rfl) fun applyFacts => ?_
  have hlawful : ∀ later, (∃ events, (HasApplied host hooks taskId steps index step committed facts receipt events
      ∧ finalRun.execution_status = .completed ∧ finalRun.requested_mode = .apply)
        ∧ later = events ++ [⟨index, .observe finalRun step, .ok applyFacts⟩]) →
          Follows (Lawful host hooks taskId steps) later := by
    rintro _ ⟨events, h, rfl⟩
    exact h.1.follows rfl rfl
  refine .bind (.ofCheck hlawful) fun _ => .bind (.ofCheck fun later h => hlawful later h.1) fun applied =>
    .bind (.ofCheck fun later h => hlawful later h.1.1) fun _ => .pure ?_
  rintro _ ⟨⟨⟨⟨events, ⟨happlied, hcompleted, hmode⟩, rfl⟩, hbound⟩, hevaluated⟩, hchecked⟩
  obtain ⟨hall, hset, hdocument, hsession⟩ := require_eq_ok.1 hchecked
  have hpassed : Passed host finalRun step applyFacts applied := ⟨require_eq_ok.1 hbound, hevaluated, hall⟩
  have hongoing : Ongoing host hooks taskId steps index (some committed)
      (events ++ [⟨index, .observe finalRun step, .ok applyFacts⟩]) := by
    refine happlied.toOngoing.append rfl rfl rfl ⟨applied, hpassed, fun run other preview hmem hpreview => ?_⟩
    obtain rfl := happlied.only run other hmem
    obtain rfl := Except.ok.inj (happlied.evaluated.symm.trans hpreview)
    exact ⟨hset, hdocument, hsession⟩
  exact hongoing.atStep hstep (by rw [hmutates, hmode]; rfl) hcompleted hpassed

theorem runStep_triple (hstep : steps[index]? = some step) :
    Triple (AtStep host hooks taskId steps index checkpoint) (runStep host hooks taskId index step checkpoint)
      (fun done => AtStep host hooks taskId steps (index + 1) done.1) (Follows (Lawful host hooks taskId steps)) := by
  rw [runStep]
  refine .bind (.ofCheck fun events h => h.lawful) fun _ => ?_
  refine .bind ((previewLoop_triple index step checkpoint 5 step.source none).strengthen fun events h =>
    ⟨h.1.lawful, fun _ => ⟨h.1.began, nofun⟩⟩) fun previewed => ?_
  have hfollows : ∀ events answer, HasPreviewed host hooks taskId steps index step checkpoint previewed events →
      Follows (Lawful host hooks taskId steps) (events ++ [⟨index, .observe previewed.run step, answer⟩]) := by
    rintro events answer ⟨⟨left, hbegan⟩, -⟩
    exact hbegan.toOngoing.follows rfl rfl
  refine .bind (ask_triple fun fault events h => hfollows events _ h) fun previewFacts => ?_
  have hlawful : ∀ later, (∃ events, HasPreviewed host hooks taskId steps index step checkpoint previewed events
      ∧ later = events ++ [⟨index, .observe previewed.run step, .ok previewFacts⟩]) →
        Follows (Lawful host hooks taskId steps) later := by
    rintro _ ⟨events, h, rfl⟩
    exact hfollows events _ h
  refine .bind (.ofCheck hlawful) fun _ => .bind (.ofCheck fun later h => hlawful later h.1) fun receipt =>
    .bind (.ofCheck fun later h => hlawful later h.1.1) fun _ => ?_
  refine Triple.strengthen ?_ fun later h =>
    (?_ : HasObserved host hooks taskId steps index step checkpoint previewed previewFacts receipt later)
  swap
  · obtain ⟨⟨⟨⟨events, hpreviewed, rfl⟩, hbound⟩, hevaluated⟩, hall⟩ := h
    exact hpreviewed.observed ⟨require_eq_ok.1 hbound, hevaluated, require_eq_ok.1 hall⟩
  split
  · next hmutates => exact applyStep_triple hstep hmutates
  · next hreads =>
    refine .pure fun events h => ?_
    obtain ⟨start, input, rfl, -⟩ := h.trail
    have hongoing := h.toOngoing
    rw [List.append_cons] at hongoing ⊢
    exact hongoing.atStep hstep (by rw [requested_mode_of_valid h.valid, if_neg hreads]) h.completed h.passed

theorem runSteps_triple (host : SessionHost) (hooks : DynamicCodeSessionHooks) (taskId : String)
    (rest done : List DynamicCodeSessionStep) (checkpoint : Option ExecutionCheckpoint) (completed : List Json)
    (hsteps : done ++ rest = steps) :
    Triple (AtStep host hooks taskId steps done.length checkpoint) (runSteps host hooks taskId done.length checkpoint completed rest)
      (fun ended => AtStep host hooks taskId steps steps.length ended.1) (Follows (Lawful host hooks taskId steps)) := by
  induction rest generalizing done checkpoint completed with
  | nil =>
    obtain rfl : done = steps := by simpa using hsteps
    exact .pure fun events h => h
  | cons step rest ih =>
    have hstep : steps[done.length]? = some step := by rw [← hsteps]; simp
    refine .bind (runStep_triple hstep) fun ended => ?_
    have hnext := ih (done ++ [step]) ended.1 (completed ++ [ended.2]) (by rw [← hsteps, List.append_assoc]; rfl)
    rw [List.length_append, List.length_singleton] at hnext
    exact hnext

theorem session_follows (host : SessionHost) (hooks : DynamicCodeSessionHooks) (taskId : String)
    (steps : List DynamicCodeSessionStep) :
    Follows (Lawful host hooks taskId steps) (sessionCalls host hooks taskId steps) := by
  have hsession : Triple (fun events => events = []) (coordinateDynamicCodeSession host hooks taskId steps)
      (fun _ => Follows (Lawful host hooks taskId steps)) (Follows (Lawful host hooks taskId steps)) := by
    refine .bind (.ofCheck fun events h => h ▸ .nil) fun _ => ?_
    have hsteps := runSteps_triple host hooks taskId steps [] none [] rfl
    refine .bind (hsteps.strengthen fun events h => ?_) fun ended => ?_
    · obtain rfl := h.1
      exact ⟨⟨.nil, .nil, List.forall_mem_nil _, rfl, nofun, List.forall_mem_nil _⟩, List.forall_mem_nil _⟩
    have hfinal : ∀ events answer, AtStep host hooks taskId steps steps.length ended.1 events →
        Follows (Lawful host hooks taskId steps) (events ++ [⟨steps.length,
          .finalize taskId (ended.1.map ExecutionCheckpoint.checkpoint_sha256) ended.2, answer⟩]) := by
      intro events answer h
      refine h.lawful.append_singleton ⟨h.passing, h.unfinalized, nofun, fun final hfinal => ⟨h.finished, ?_⟩⟩
      rw [h.latest]
      exact (Option.some.inj hfinal).symm
    refine .bind (ask_triple fun fault events h => hfinal events _ h) fun finalization => ?_
    refine .bind (.ofCheck ?_) fun _ => .pure ?_
    · rintro _ ⟨events, h, rfl⟩
      exact hfinal events _ h
    · rintro _ ⟨⟨events, h, rfl⟩, -⟩
      exact hfinal events _ h
  exact hsession.history rfl

/-! The checks of the plan and of the steps come before every call. -/

/-- Every call is about a step that passed its check. -/
def Checked (steps : List DynamicCodeSessionStep) (events : List HookEvent) : Prop :=
  ∀ event ∈ events, ∀ step, steps[event.tag]? = some step → StepFits step

theorem Checked.append (h : Checked steps events) (hfits : ∀ step, steps[event.tag]? = some step → StepFits step) :
    Checked steps (events ++ [event]) :=
  List.forall_mem_append.2 ⟨h, List.forall_mem_singleton.2 hfits⟩

section checks

variable (hfits : ∀ step, steps[index]? = some step → StepFits step)

include hfits

theorem ask_checked (call : HookCall) :
    Triple (Checked steps) (ask hooks index call) (fun _ => Checked steps) (Checked steps) :=
  Triple.ask_keeps fun _ _ h => h.append hfits

theorem previewLoop_checked (left : Nat) (source : String) (nextInput : Option DynamicRevitProgramRunInput) :
    Triple (Checked steps) (previewLoop host hooks index step checkpoint left source nextInput) (fun _ => Checked steps)
      (Checked steps) := by
  induction left generalizing source nextInput with
  | zero => exact .throw fun _ h => h
  | succ left ih =>
    rw [previewLoop]
    refine .bind (ask_checked hfits _) fun run => .bind .ofCheck_keeps fun _ => ?_
    split
    · exact .bind (ask_checked hfits _) fun expanded => .bind .ofCheck_keeps fun _ => .bind .ofCheck_keeps fun _ => ih _ _
    · split
      · exact .pure fun _ h => h
      · refine .bind .ofCheck_keeps fun _ => .bind .ofCheck_keeps fun _ => .bind (ask_checked hfits _) fun decision => ?_
        cases decision with
        | stop reason => exact .throw fun _ h => h
        | retry => exact ih _ _
        | repair repaired => exact .bind .ofCheck_keeps fun _ => ih _ _

theorem applyStep_checked :
    Triple (Checked steps) (applyStep host hooks taskId index step checkpoint previewed receipt) (fun _ => Checked steps)
      (Checked steps) := by
  rw [applyStep]
  refine .bind (ask_checked hfits _) fun authority => .bind .examine_keeps fun _ => ?_
  refine .bind (ask_checked hfits _) fun finalRun => .bind .ofCheck_keeps fun _ => .bind .ofCheck_keeps fun committed => ?_
  refine .bind (ask_checked hfits _) fun applyFacts => .bind .ofCheck_keeps fun _ => .bind .ofCheck_keeps fun applied => ?_
  exact .bind .ofCheck_keeps fun _ => .pure fun _ h => h

end checks

theorem runStep_checked (hstep : steps[index]? = some step) :
    Triple (Checked steps) (runStep host hooks taskId index step checkpoint) (fun _ => Checked steps) (Checked steps) := by
  rw [runStep]
  refine .bind (.ofCheck fun _ h => h) fun _ => ?_
  rintro events ⟨hchecked, hvalid⟩
  have hfits : ∀ other, steps[index]? = some other → StepFits other := by
    intro other hother
    obtain rfl := Option.some.inj (hstep.symm.trans hother)
    have hstepFits := require_eq_ok.1 hvalid
    exact hstepFits
  refine Triple.bind (previewLoop_checked hfits 5 step.source none) (fun previewed => ?_) events hchecked
  refine .bind (ask_checked hfits _) fun facts => .bind .ofCheck_keeps fun _ => .bind .ofCheck_keeps fun receipt => ?_
  refine .bind .ofCheck_keeps fun _ => ?_
  split
  · exact applyStep_checked hfits
  · exact .pure fun _ h => h

theorem runSteps_checked (rest done : List DynamicCodeSessionStep) (checkpoint : Option ExecutionCheckpoint)
    (completed : List Json) (hsteps : done ++ rest = steps) :
    Triple (Checked steps) (runSteps host hooks taskId done.length checkpoint completed rest) (fun _ => Checked steps)
      (Checked steps) := by
  induction rest generalizing done checkpoint completed with
  | nil => exact .pure fun _ h => h
  | cons step rest ih =>
    have hstep : steps[done.length]? = some step := by rw [← hsteps]; simp
    refine .bind (runStep_checked hstep) fun ended => ?_
    have hnext := ih (done ++ [step]) ended.1 (completed ++ [ended.2]) (by rw [← hsteps, List.append_assoc]; rfl)
    rw [List.length_append, List.length_singleton] at hnext
    exact hnext

theorem session_checked (host : SessionHost) (hooks : DynamicCodeSessionHooks) (taskId : String)
    (steps : List DynamicCodeSessionStep) : ∀ event ∈ sessionCalls host hooks taskId steps, PlanFits taskId steps
      ∧ ∀ step, steps[event.tag]? = some step → StepFits step := by
  have hsession : Triple (fun events => events = []) (coordinateDynamicCodeSession host hooks taskId steps)
      (fun _ events => ∀ event ∈ events, PlanFits taskId steps ∧ ∀ step, steps[event.tag]? = some step → StepFits step)
      (fun events => ∀ event ∈ events, PlanFits taskId steps ∧ ∀ step, steps[event.tag]? = some step → StepFits step) := by
    refine .bind (.ofCheck fun events h => h ▸ List.forall_mem_nil _) fun _ => ?_
    rintro _ ⟨rfl, hplan⟩
    have hplanFits := require_eq_ok.1 hplan
    refine Triple.weaken (?_ : Triple (Checked steps) _ (fun _ => Checked steps) (Checked steps))
      (fun _ _ h event hevent => ⟨hplanFits, h event hevent⟩) (fun _ h event hevent => ⟨hplanFits, h event hevent⟩) []
      (List.forall_mem_nil _)
    -- the index of the finalization is that of no step
    exact .bind (runSteps_checked steps [] none [] rfl) fun ended =>
      .bind (Triple.ask_keeps fun _ _ h => h.append fun step hstep => by simp at hstep) fun finalization =>
        .bind .ofCheck_keeps fun _ => .pure fun _ h => h
  exact hsession.history rfl

theorem Satisfies.countsRecorded {condition : DynamicTaskPostcondition}
    (h : Satisfies facts condition) : CountsRecorded facts condition := by
  intro maximum hkind length hlooked
  have hnone : facts.sets.get? condition.field = none := by
    rcases lookUp_cases facts.sets condition.field with ⟨own, -, hown⟩ | ⟨hnone, -⟩ | ⟨hnone, -⟩
    · rw [hlooked] at hown
      cases hown
    · exact hnone
    · exact hnone
  simp only [Satisfies, hkind, hnone] at h
  exact absurd h.1 (by decide)

theorem appliedAsPreviewed_iff {before : List HookEvent} {input : DynamicRevitProgramRunInput}
    (h : Lawful host hooks taskId steps before event) (happly : applyInput? event = some input) :
    (∃ step, steps[event.tag]? = some step ∧ AppliedAsPreviewed host hooks taskId steps before event.tag step input)
      ↔ ApplyFits host taskId steps event.tag before := by
  obtain ⟨⟨step, start, previewInput, run, facts, receipt, authority, hstep, hmutates, hoptions, hbefore, hpreview, hvalid,
    hcompleted, ⟨hbound, hevaluated, hall⟩, hauthorized⟩, hafter, honce, hcontinues⟩ := h.apply input happly
  have hcalls : ∀ other source otherInput otherRun otherFacts otherAuthority otherStart, steps[event.tag]? = some other →
      before = otherStart ++ previewCalls host taskId event.tag other source otherInput otherRun otherFacts otherAuthority →
        other = step ∧ otherInput = previewInput ∧ otherFacts = facts ∧ otherStart = start := by
    intro other source otherInput otherRun otherFacts otherAuthority otherStart hother hsame
    obtain rfl := Option.some.inj (hother.symm.trans hstep)
    obtain ⟨hstart, htail⟩ := List.append_inj' (hsame.symm.trans hbefore) rfl
    obtain ⟨hexecute, hrest⟩ := List.cons.inj htail
    obtain ⟨hobserve, -⟩ := List.cons.inj hrest
    cases hexecute
    cases hobserve
    exact ⟨rfl, rfl, rfl, hstart⟩
  constructor
  · rintro ⟨own, hown, happlied⟩
    obtain ⟨ownInput, ownRun, ownFacts, ownAuthority, ⟨ownStart, htail⟩, hfits⟩ := happlied.previewed
    obtain ⟨rfl, rfl, rfl, rfl⟩ := hcalls _ _ _ _ _ _ _ hown htail.symm
    refine ⟨?_, ?_⟩
    · intro other source otherInput otherRun otherFacts otherAuthority otherStart hother hsame _
      obtain ⟨rfl, rfl, -, -⟩ := hcalls _ _ _ _ _ _ _ hother hsame
      exact hfits.options.trans hoptions
    · rintro other source otherInput otherRun otherFacts otherAuthority hother ⟨otherStart, hsame⟩ condition hcondition
      obtain ⟨rfl, -, rfl, -⟩ := hcalls _ _ _ _ _ _ _ hother hsame.symm
      exact (hfits.satisfied.2 condition hcondition).countsRecorded
  · intro hfits
    have hsame : previewInput.options = input.options := by
      rcases hpreview.2.2 with hown | hexpands
      · exact hown.trans hoptions.symm
      · exact (hfits.expanded _ _ _ _ _ _ _ hstep hbefore hexpands).trans hoptions.symm
    have hsatisfied := satisfies_of_all_passed hevaluated hall
      (hfits.counted _ _ _ _ _ _ hstep ⟨start, hbefore.symm⟩)
    exact ⟨step, hstep, hmutates, honce, hafter, hcontinues, previewInput, run, facts, authority, ⟨start, hbefore.symm⟩,
      hpreview.2.1, hpreview.1, hsame, hcompleted, hbound, hsatisfied, hauthorized⟩

/-- A session applies only what was previewed and authorized exactly where every step that is
    applied was previewed on its own options and on facts that were recorded. -/
theorem session_applies_only_previewed_iff (host : SessionHost) (hooks : DynamicCodeSessionHooks) (taskId : String)
    (steps : List DynamicCodeSessionStep) :
    AppliesOnlyPreviewed host hooks taskId steps (sessionCalls host hooks taskId steps)
      ↔ Follows (fun before event => (applyInput? event).isSome = true → ApplyFits host taskId steps event.tag before)
        (sessionCalls host hooks taskId steps) := by
  have hlawful := session_follows host hooks taskId steps
  constructor
  · intro h before event after hevents happly
    obtain ⟨input, hinput⟩ := Option.isSome_iff_exists.1 happly
    exact (appliedAsPreviewed_iff (hlawful before event after hevents) hinput).1 (h.applied before event after input hevents hinput)
  · intro hfits
    have hchecked := session_checked host hooks taskId steps
    refine ⟨fun before event after input hevents hinput => ?_, fun event hevent => (hchecked event hevent).1,
      fun event hevent => (hchecked event hevent).2, fun before event next after hevents => ?_,
      fun before event after final hevents hfinal => ⟨?_, (hlawful before event after hevents).unfinalized,
        ((hlawful before event after hevents).finalize final hfinal).2⟩⟩
    · exact (appliedAsPreviewed_iff (hlawful before event after hevents) hinput).2
        (hfits before event after hevents (by rw [hinput]; rfl))
    · have hnext := hlawful (before ++ [event]) next after (by rw [hevents, List.append_assoc]; rfl)
      exact hnext.passing before event [] rfl
    · rcases after with _ | ⟨next, after⟩
      · rfl
      · have hnext := hlawful (before ++ [event]) next after (by rw [hevents, List.append_assoc]; rfl)
        have hnone := hnext.unfinalized event (List.mem_append_right _ (List.mem_singleton_self event))
        rw [hfinal] at hnone
        cases hnone

end runs

/-! A session whose step is applied on other options than those of the preview that passed. -/

section sample

def zeroHash : String := "sha256:" ++ .ofList (List.replicate 64 '0')

/-- Every text has the same digest. -/
def sampleSessionHost : SessionHost where
  numbers := Json.integerText
  sha256Hex := fun _ => .ofList (List.replicate 64 '0')

def sampleCondition : DynamicTaskPostcondition where
  keys := ["field", "id", "kind"]
  id := "unchanged"
  field := "changed"
  kind := .fact_absent

def sampleStep : DynamicCodeSessionStep where
  step_id := "write"
  source := "source"
  options := []
  postconditions := [sampleCondition]
  mutates := true

def sampleFacts : TrustedTaskFactSet where
  keys := ["document_fingerprint", "document_revision", "document_session_id", "evidence_sha256",
    "execution_evidence_sha256", "fields", "schema", "sets", "verifier_identity_sha256"]
  schema := "revit-operator.trusted-task-facts.v1"
  verifier_identity_sha256 := zeroHash
  execution_evidence_sha256 := zeroHash
  evidence_sha256 := zeroHash
  document_fingerprint := zeroHash
  document_session_id := "session"
  document_revision := none
  fields := ∅
  sets := ∅

def sampleRunId : String := "dynamic-" ++ .ofList (List.replicate 32 '0')

def sampleRun (execution_status : ExecutionStatus) : DynamicExecutionRunReceipt where
  run_id := sampleRunId
  execution_status
  requested_mode := .preview
  verification := ⟨zeroHash, true⟩
  diagnostics := []
  iteration := ⟨"root", zeroHash⟩
  checkpoint := none

def sampleBaseline : TrustedObservationBaseline where
  document_fingerprint := zeroHash
  document_session_id := "session"
  document_revision := 1
  snapshot_sha256 := zeroHash
  revision_sha256 := zeroHash
  scope_sha256 := zeroHash
  receipt_sha256 := zeroHash
  selector := ⟨[], [], [], [], false⟩

private theorem deltaKeys_plain : ParsedJson.Plain ["schema", "authorization_granted", "base_receipt_sha256",
    "document_fingerprint", "document_session_id", "document_revision", "snapshot_sha256", "base_revision_sha256",
    "base_scope_sha256", "cumulative_selector_sha256", "delta_sha256"] := by decide

def sampleDelta : ParsedJson :=
  .ofMembers [("schema", .ofString "revit-operator.dynamic-observation-delta.v1"), ("authorization_granted", .ofBool false),
    ("base_receipt_sha256", .ofString zeroHash), ("document_fingerprint", .ofString zeroHash),
    ("document_session_id", .ofString "session"), ("document_revision", .ofNumber 1), ("snapshot_sha256", .ofString zeroHash),
    ("base_revision_sha256", .ofString zeroHash), ("base_scope_sha256", .ofString zeroHash),
    ("cumulative_selector_sha256", .ofString zeroHash), ("delta_sha256", .ofString zeroHash)] deltaKeys_plain

/-- The expansion asks for a larger snapshot than the step. -/
def sampleExpansion : ExpandedFacts where
  input := {
    source := "source"
    mode := .preview
    resume := some ⟨sampleRunId, zeroHash, .facts⟩
    continue_from_checkpoint := none
    options := [("snapshot_limit", .num 1000)] }
  base := sampleBaseline
  delta := sampleDelta
  observed := sampleBaseline

private theorem authorityKeys_plain : ParsedJson.Plain ["schema", "task_id", "step_id", "source_sha256",
    "authorization_granted", "expires_unix_seconds", "receipt_sha256"] := by decide

def sampleAuthority : ParsedJson :=
  .ofMembers [("schema", .ofString "revit-operator.dynamic-mutation-authority.v1"), ("task_id", .ofString "task"),
    ("step_id", .ofString "write"), ("source_sha256", .ofString zeroHash), ("authorization_granted", .ofBool true),
    ("expires_unix_seconds", .ofNumber 2), ("receipt_sha256", .ofString zeroHash)] authorityKeys_plain

/-- The first preview needs facts, the second completes, and the apply is refused. -/
def sampleHooks : DynamicCodeSessionHooks where
  answer
    | _, .execute input => match input.mode, input.resume with
      | .preview, none => .ok (sampleRun .needs_facts)
      | .preview, some _ => .ok (sampleRun .completed)
      | _, _ => .error "refused"
    | _, .observe _ _ => .ok sampleFacts
    | _, .expandFacts _ _ _ => .ok sampleExpansion
    | _, .authorize _ _ _ => .ok sampleAuthority
    | _, .repair _ _ _ => .ok (.stop "not expected")
    | _, .finalize _ _ _ => .error "not expected"
  nowUnixSeconds := fun _ => 1

private theorem sample_texts : isHash zeroHash = true ∧ isRunId sampleRunId = true
    ∧ (isId "task" = true ∧ 1 ≤ [sampleStep].length ∧ [sampleStep].length ≤ 64
      ∧ ([sampleStep].map DynamicCodeSessionStep.step_id).Nodup)
    ∧ isId sampleStep.step_id = true ∧ 1 ≤ text.length sampleStep.source ∧ text.length sampleStep.source ≤ 128000 := by
  decide +kernel

private theorem sampleRun_valid (execution_status : ExecutionStatus)
    (h : execution_status = .needs_facts ∨ execution_status = .completed) :
    validateRun (sampleRun execution_status) .preview = .ok () := by
  obtain ⟨hhash, hid, _⟩ := sample_texts
  refine require_of ⟨hid, rfl, ?_, hhash, hhash, fun _ => rfl, ?_⟩
  · rcases h with rfl | rfl <;> simp [sampleRun]
  · rcases h with rfl | rfl <;> exact nofun

private theorem requireHash_zeroHash (name : String) : requireHash zeroHash name = .ok () :=
  require_of sample_texts.1

private theorem sampleBaseline_valid : validateBaseline sampleBaseline = .ok () := by
  simp only [validateBaseline, sampleBaseline, requireHash_zeroHash, ok_bind]
  exact eq_ok_of_isOk (by decide +kernel)

private theorem sampleDelta_valid :
    verifyObservationDelta sampleSessionHost sampleExpansion.base sampleExpansion.delta sampleExpansion.observed = .ok () := by
  have hdigest : (sampleDelta.field "delta_sha256").value = .str zeroHash := by decide +kernel
  have hhash : (sampleDelta.field "delta_sha256").value.asString?.any isHash = true := by
    simp only [hdigest, Json.asString?, Option.any_some, sample_texts.1]
  rw [verifyObservationDelta, show sampleExpansion.base = sampleBaseline from rfl,
    show sampleExpansion.observed = sampleBaseline from rfl, show sampleExpansion.delta = sampleDelta from rfl,
    sampleBaseline_valid, ok_bind, ok_bind, require_of hhash, ok_bind,
    require_of (by decide +kernel), ok_bind, require_of ⟨rfl, rfl, rfl, rfl⟩, ok_bind]
  exact eq_ok_of_isOk (by decide +kernel)

private theorem sampleFacts_pass : ∃ receipt,
    evaluateTrustedTaskPostconditions sampleSessionHost sampleFacts sampleStep.postconditions = .ok receipt
      ∧ receipt.all_passed = true := by
  have hfacts : validateTrustedFacts sampleFacts = .ok () := by
    simp only [validateTrustedFacts, sampleFacts, requireHash_zeroHash, ok_bind]
    exact eq_ok_of_isOk (by decide +kernel)
  have hpassed : (evaluateTrustedTaskPostconditions sampleSessionHost sampleFacts [sampleCondition]).toOption.map
      TrustedTaskPostconditionReceipt.all_passed = some true := by
    rw [evaluateTrustedTaskPostconditions, hfacts, ok_bind]
    decide +kernel
  obtain ⟨receipt, hreceipt, hall⟩ := Option.map_eq_some_iff.1 hpassed
  exact ⟨receipt, toOption_eq_some.1 hreceipt, hall⟩

/-- The input of the preview that completes is that of the expansion. -/
def sampleApplyEvent : HookEvent :=
  ⟨0, .execute (stepInput sampleStep "source" .apply none), .error "refused"⟩

def sampleBefore : List HookEvent :=
  [⟨0, .execute (stepInput sampleStep "source" .preview none), .ok (sampleRun .needs_facts)⟩,
    ⟨0, .expandFacts (sampleRun .needs_facts) sampleStep "source", .ok sampleExpansion⟩]
  ++ previewCalls sampleSessionHost "task" 0 sampleStep "source" sampleExpansion.input (sampleRun .completed) sampleFacts
    sampleAuthority

private theorem sample_preview :
    calls.outcome (previewLoop sampleSessionHost sampleHooks 0 sampleStep none 5 sampleStep.source none) []
      = (.ok ⟨"source", 2, sampleRun .completed⟩, sampleBefore.take 3) := by
  have hexpanded : sampleExpansion.input.resume.map DynamicExecutionResumeInput.mode = some .facts
      ∧ sampleExpansion.input.source = sampleStep.source ∧ sampleExpansion.input.mode = .preview := ⟨rfl, rfl, rfl⟩
  have hneeds : (sampleRun .needs_facts).execution_status = .needs_facts := rfl
  have hcompleted : (sampleRun .completed).execution_status = .completed := rfl
  have henough : ¬ (sampleRun .completed).execution_status = .needs_facts := nofun
  rw [previewLoop, ask, outcome_ask_bind rfl, outcome_ofCheck_bind (sampleRun_valid .needs_facts (.inl rfl)), if_pos hneeds,
    expandThen, ask, outcome_ask_bind rfl, outcome_ofCheck_bind (require_of hexpanded), outcome_ofCheck_bind sampleDelta_valid,
    previewLoop, ask, outcome_ask_bind rfl, outcome_ofCheck_bind (sampleRun_valid .completed (.inr rfl)), if_neg henough,
    if_pos hcompleted]
  rfl

private theorem sample_step :
    calls.outcome (runStep sampleSessionHost sampleHooks "task" 0 sampleStep none) []
      = (.error "refused", sampleBefore ++ [sampleApplyEvent]) := by
  obtain ⟨receipt, hreceipt, hall⟩ := sampleFacts_pass
  obtain ⟨_, _, _, hstep⟩ := sample_texts
  have hauthority : validateAuthority sampleSessionHost sampleAuthority "task" sampleStep.step_id
      (sourceIdentity sampleSessionHost "source") 1 = .ok () := eq_ok_of_isOk (by decide +kernel)
  have hbound : sampleFacts.execution_evidence_sha256 = (sampleRun .completed).verification.evidence_sha256 := rfl
  have hmutates : sampleStep.mutates = true := rfl
  rw [runStep, outcome_ofCheck_bind (require_of hstep), outcome_bind_ok sample_preview, ask, outcome_ask_bind rfl,
    outcome_ofCheck_bind (require_of hbound), outcome_ofCheck_bind hreceipt, outcome_ofCheck_bind (require_of hall),
    if_pos hmutates, applyStep, ask, outcome_ask_bind rfl, outcome_examine_bind hauthority, ask, outcome_ask_bind_error rfl]
  rfl

private theorem sample_calls :
    sessionCalls sampleSessionHost sampleHooks "task" [sampleStep] = sampleBefore ++ [sampleApplyEvent] := by
  obtain ⟨_, _, hplan, _⟩ := sample_texts
  rw [sessionCalls, coordinateDynamicCodeSession, outcome_ofCheck_bind (require_of hplan), runSteps,
    outcome_bind_error (outcome_bind_error sample_step)]

/-- A step is executed in apply mode on the options of the step, although its preview completed on
    those of an expansion. -/
theorem expanded_preview_is_not_applied :
    ¬ ∀ (host : SessionHost) (hooks : DynamicCodeSessionHooks) (taskId : String) (steps : List DynamicCodeSessionStep),
      AppliesOnlyPreviewed host hooks taskId steps (sessionCalls host hooks taskId steps) := by
  intro h
  have hsession := h sampleSessionHost sampleHooks "task" [sampleStep]
  rw [sample_calls] at hsession
  obtain ⟨step, hstep, happlied⟩ := hsession.applied sampleBefore sampleApplyEvent [] _ rfl rfl
  obtain rfl := Option.some.inj hstep
  obtain ⟨previewInput, run, facts, authority, ⟨start, htail⟩, hfits⟩ := happlied.previewed
  obtain ⟨-, hcalls⟩ := List.append_inj' htail rfl
  obtain ⟨hpreview, -⟩ := List.cons.inj hcalls
  cases hpreview
  exact absurd hfits.options nofun

end sample

end revit_operator.mcp_server
