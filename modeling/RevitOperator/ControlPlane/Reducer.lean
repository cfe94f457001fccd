import RevitOperator.ControlPlane.Projection
import RevitOperator.Library.Run

open checked

namespace revit_operator.assignment_control_plane

/-- Why an event does not pass: it is rejected for a reason, or reading its
    dates throws. -/
inductive Refusal where
  | rejected (reason : String)
  | threw (message : String)
  deriving DecidableEq

/-- `Date.parse` and `toISOString`, and the digest of a progress report. -/
structure ControlPlaneHost where
  parseDate : String → Option Int
  toISOString : Int → Option String
  parseDate_toISOString : ∀ time text, toISOString time = some text → parseDate text = some time
  toISOString_epoch : toISOString 0 = some "1970-01-01T00:00:00.000Z"
  progressFingerprint : Int → Json → String

section events

variable (host : ControlPlaneHost) (projection : AssignmentControlPlaneProjection) (event : AssignmentAttemptEvent)

def refuse {α : Type} (reason : String) : Except Refusal α := .error (.rejected reason)

/-- The effect of an event on an attempt. -/
def applied (attempt : AssignmentAttemptRecord) (data : EffectData) : Except Refusal AssignmentAttemptRecord :=
  match applyEffect attempt data with
  | .ok updated => .ok updated
  | .error reason => refuse reason

def run_started (data : Json) : AssignmentControlPlaneProjection :=
  { projection.supersedeActive with
    run_id := some event.run_id
    generation := event.generation
    requested_effect := (requestedEffect (data.field "requested_effect")).or projection.requested_effect
    phase := .planning
    progress := .initial
    outcome_state := .active }

/-- The deadline of an attempt: the one it names, or four minutes after it was
    opened. -/
def deadlineAt (data : Json) : Except Refusal String :=
  match (host.parseDate (string (data.field "deadline_at"))).or
      ((host.parseDate event.occurred_at).map (· + 240000)) with
  | none => .error (.threw "Invalid time value")
  | some time =>
    match host.toISOString time with
    | none => .error (.threw "Invalid time value")
    | some deadline => .ok deadline

/-- The last apply attempt with the action and the target. -/
def priorSame (signature target : String) : Option AssignmentAttemptRecord :=
  projection.attempts.reverse.find? fun attempt => attempt.requested_effect = .apply
    ∧ attempt.action_signature = signature ∧ attempt.target_fingerprint = target

/-- An apply may repeat an earlier one only as its retry. -/
def checkReplay (effect : AssignmentRequestedEffect) (signature target : String) (retryOf : Option String)
    (delta : Option AssignmentRetryDelta) : Except Refusal Unit :=
  match (if effect = .apply then priorSame projection signature target else none) with
  | none => .ok ()
  | some prior => do
    require (prior.effect.state = .none) (.rejected
      "The same apply action and target cannot be replayed unless the prior effect is authoritatively none.")
    require (retryOf = some prior.attempt_id ∧ delta.isSome) (.rejected
      "A repeated apply requires its prior attempt and a material retry delta.")

def attempt_opened (data : Json) : Except Refusal AssignmentControlPlaneProjection := do
  require (projection.pending_clarification_id = none)
    (.rejected "Assignment is awaiting user input; no new tool attempt may open.")
  require (projection.pending_review_id = none)
    (.rejected "Assignment is awaiting user review; no new tool attempt may open.")
  let id := event.attempt_id.getD ""
  require (id ≠ "" ∧ projection.find id = none) (.rejected "attempt_id must be new and non-empty.")
  match requestedEffect (data.field "requested_effect") with
  | none => refuse "requested_effect must be read, preview, or apply."
  | some effect => do
    let attemptPurpose := purpose (data.field "purpose")
    require (projection.unresolved_unknown_attempt_ids = [] ∨ attemptPurpose = .reconciliation)
      (.rejected "An unknown effect must be reconciled before another action.")
    require ((∀ attempt ∈ projection.attempts, attempt.effect.state ≠ .applied)
        ∨ attemptPurpose ∈ [.verification, .reconciliation, .rollback])
      (.rejected "Open discovery or planning cannot resume after a proven apply.")
    let signature := string (data.field "action_signature")
    let target := string (data.field "target_fingerprint")
    let retryOf := nonEmpty (string (data.field "retry_of_attempt_id"))
    let delta := retryDelta (data.field "retry_delta")
    checkReplay projection effect signature target retryOf delta
    let deadline ← deadlineAt host event data
    .ok { projection with
      attempts := projection.attempts ++ [{
        attempt_id := id
        generation := event.generation
        purpose := attemptPurpose
        requested_effect := effect
        action_signature := signature
        target_fingerprint := target
        admission := .pending
        dispatch := ⟨.not_dispatched, none⟩
        effect := ⟨.none, "attempt_not_dispatched", .control_plane, none⟩
        affected_target_identities := []
        receipt_refs := []
        evidence_refs := []
        verification := if attemptPurpose = .verification then .pending else .not_requested
        retry_of_attempt_id := retryOf
        retry_delta := delta
        reconciliation_of_attempt_id := nonEmpty (string (data.field "reconciliation_of_attempt_id"))
        terminal_state := .active
        lease := ⟨.admitted, deadline⟩ }]
      phase := if attemptPurpose = .verification then .verifying
        else if attemptPurpose = .reconciliation then .reconciling else .executing
      active_verification_attempt_id := if attemptPurpose = .verification then some id
        else projection.active_verification_attempt_id }

/-- `applyProgress`. -/
def progress_recorded (data : Json) : AssignmentControlPlaneProjection :=
  let input := (data.field "progress").row
  let progress := projection.progress
  let fingerprint := host.progressFingerprint projection.generation input
  if !projection.quiescent then
    { projection with progress := { progress with decision := .continue, reason := some "progress_in_flight" } }
  else
    let madeProgress := ((input.field "progress_markers").asArray?.getD []).length > 0
    let repeated := !madeProgress && progress.fingerprint == some fingerprint
    let count := if repeated then progress.repeated_no_progress_count + 1 else 0
    let counted := { progress with fingerprint := some fingerprint, repeated_no_progress_count := count }
    let alternative := string (input.field "legitimate_alternative_tool_family")
    { projection with progress :=
        if madeProgress then { counted with decision := .continue, reason := none }
        else if count ≤ 1 ∧ !progress.diagnosis_used then
          { counted with diagnosis_used := true, decision := .diagnose, reason := some "one_bounded_diagnosis_allowed" }
        else if alternative ≠ "" ∧ !progress.tool_family_switch_used then
          { counted with
            tool_family_switch_used := true
            decision := .switch_tool_family
            reason := some ("switch_to:" ++ alternative) }
        else { counted with decision := .terminate, reason := some "repeated_identical_no_progress" } }

def provider_call_recorded (data : Json) : Except Refusal AssignmentControlPlaneProjection := do
  require (projection.pending_clarification_id = none)
    (.rejected "Assignment is awaiting user input; no new provider call may begin.")
  require (projection.pending_review_id = none)
    (.rejected "Assignment is awaiting user review; no new provider call may begin.")
  let callId := string (data.field "call_id")
  require (callId ≠ "") (.rejected "provider_call_recorded requires call_id.")
  .ok { projection with provider_call_ids :=
    if callId ∈ projection.provider_call_ids then projection.provider_call_ids else projection.provider_call_ids ++ [callId] }

def clarification_requested (data : Json) : Except Refusal AssignmentControlPlaneProjection := do
  let clarificationId := string (data.field "clarification_id")
  require (clarificationId ≠ "" ∧ string (data.field "question") ≠ "" ∧ strings (data.field "missing_fields") ≠ [])
    (.rejected "clarification_requested requires clarification_id, missing_fields, and question.")
  require (projection.pending_clarification_id = none) (.rejected "An unresolved clarification already exists.")
  require (projection.pending_review_id = none)
    (.rejected "A clarification cannot be requested while user review is pending.")
  require (projection.unresolved_unknown_attempt_ids = [])
    (.rejected "A clarification cannot pause an unresolved unknown effect.")
  require ((∀ attempt ∈ projection.inFlight, attempt.purpose = .interaction) ∧ projection.inFlight.length ≤ 1)
    (.rejected "A clarification cannot be requested while executable work remains in flight.")
  .ok { projection with
    clarifications := projection.clarifications ++ [⟨clarificationId, .pending⟩]
    pending_clarification_id := some clarificationId
    outcome_state := .awaiting_user_input }

/-- Mark the first clarification with the identity as resolved. -/
def resolveFirst (id : String) : List AssignmentClarificationRecord → List AssignmentClarificationRecord
  | [] => []
  | item :: rest => if item.clarification_id = id then { item with status := .resolved } :: rest
    else item :: resolveFirst id rest

def clarification_resolved (data : Json) : Except Refusal AssignmentControlPlaneProjection := do
  let clarificationId := string (data.field "clarification_id")
  require ((projection.clarifications.find? fun item => item.clarification_id = clarificationId).any
      (·.status = .pending) ∧ projection.pending_clarification_id = some clarificationId)
    (.rejected "clarification_resolved must reference the current pending clarification.")
  require (string (data.field "response_digest") ≠ "") (.rejected "clarification_resolved requires response_digest.")
  .ok { projection with
    clarifications := resolveFirst clarificationId projection.clarifications
    pending_clarification_id := none
    outcome_state := .active }

def review_requested (data : Json) : Except Refusal AssignmentControlPlaneProjection := do
  let reviewId := string (data.field "review_id")
  require (reviewId ≠ "") (.rejected "review_requested requires review_id.")
  require (projection.pending_clarification_id = none ∧ projection.pending_review_id = none)
    (.rejected "Only one user interaction may be pending.")
  require (projection.quiescent ∧ projection.unresolved_unknown_attempt_ids = [])
    (.rejected "User review requires quiescent, settled work.")
  .ok { projection with pending_review_id := some reviewId, outcome_state := .awaiting_user_review }

def review_resolved (data : Json) : Except Refusal AssignmentControlPlaneProjection := do
  let reviewId := string (data.field "review_id")
  require (reviewId ≠ "" ∧ projection.pending_review_id = some reviewId)
    (.rejected "review_resolved must reference the pending review.")
  .ok { projection with pending_review_id := none, outcome_state := .active }

def criterion_recorded (data : Json) : Except Refusal AssignmentControlPlaneProjection := do
  require (string (data.field "criterion_id") ≠ "" ∧ string (data.field "criterion") ≠ ""
      ∧ string (data.field "state") ∈ criterionStates)
    (.rejected "criterion_recorded requires a criterion_id, criterion, and recognized state.")
  .ok projection

def primary_artifact_recorded (data : Json) : Except Refusal AssignmentControlPlaneProjection := do
  require (strings (data.field "primary_artifact_refs") ≠ [])
    (.rejected "primary_artifact_recorded requires at least one artifact reference.")
  .ok projection

def noop_completion_claimed (data : Json) : Except Refusal AssignmentControlPlaneProjection := do
  let claimId := string (data.field "claim_id")
  require (claimId ≠ "") (.rejected "noop_completion_claimed requires claim_id.")
  require (projection.noop_completion.status ≠ .accepted)
    (.rejected "An accepted no-op completion claim is immutable.")
  .ok { projection with noop_completion := ⟨some claimId, .pending⟩ }

def noop_completion_validated (data : Json) : Except Refusal AssignmentControlPlaneProjection := do
  let claimId := string (data.field "claim_id")
  let accepted := (data.field "accepted").isBool true
  require (claimId ≠ "" ∧ projection.noop_completion.claim_id = some claimId)
    (.rejected "noop_completion_validated must reference the latest no-op claim.")
  require (accepted → event.actor = "canonical_noop_completion_validator")
    (.rejected "Only the canonical no-op validator may accept a claim.")
  .ok { projection with noop_completion :=
    { projection.noop_completion with status := if accepted then .accepted else .rejected } }

def read_completion_claimed (data : Json) : Except Refusal AssignmentControlPlaneProjection := do
  let claimId := string (data.field "claim_id")
  require (claimId ≠ "") (.rejected "read_completion_claimed requires claim_id.")
  .ok { projection with read_completion := ⟨some claimId, .pending⟩ }

/-- An attempt may support an accepted read completion. -/
def supportsRead (attempt : AssignmentAttemptRecord) : Bool :=
  attempt.generation = projection.generation && attempt.purpose = .action && attempt.requested_effect = .read
    && attempt.admission = .admitted && attempt.dispatch.state = .acknowledged && attempt.terminal_state = .settled
    && attempt.effect.state = .none && 1 ≤ attempt.receipt_refs.length && 1 ≤ attempt.evidence_refs.length
    && attempt.effect.authority ∈ [.native_host, .native_receipt, .target_readback, .independent_verifier]

def read_completion_validated (data : Json) : Except Refusal AssignmentControlPlaneProjection := do
  let claimId := string (data.field "claim_id")
  let accepted := (data.field "accepted").isBool true
  let support := strings (data.field "supporting_attempt_ids")
  require (claimId ≠ "" ∧ projection.read_completion.claim_id = some claimId)
    (.rejected "read_completion_validated must reference the latest completion claim.")
  require (accepted → event.actor = "canonical_read_completion_validator")
    (.rejected "Only the canonical read-completion validator may accept a claim.")
  require (accepted → projection.quiescent)
    (.rejected "A read-completion claim cannot be accepted before Assignment quiescence.")
  require (accepted → support ≠ []) (.rejected "Accepted read completion requires supporting attempts.")
  require (accepted → ∀ id ∈ support, (projection.find id).any (supportsRead projection))
    (.rejected "Accepted read completion references an ineligible supporting attempt.")
  .ok { projection with read_completion :=
    { projection.read_completion with status := if accepted then .accepted else .rejected } }

/-- The outcome a terminal state is shown as. -/
def terminalOutcome (state : AssignmentTerminalState) (reason : String) : AssignmentOutcomeState :=
  if state = .complete ∧ reason = "verified_noop_two_fresh_target_observations" then .verified_noop
  else if state = .verified ∨ state = .complete then .complete
  else if state = .blocked then .blocked else .failed

def assignment_terminal (data : Json) : Except Refusal AssignmentControlPlaneProjection := do
  require projection.quiescent (.rejected ("assignment_settlement_deferred_in_flight:"
    ++ text.joinWith "," projection.in_flight_attempt_ids ++ ":"
    ++ projection.next_in_flight_deadline.getD "unknown_deadline"))
  require (projection.pending_clarification_id = none) (.rejected "assignment_settlement_deferred_awaiting_user_input")
  require (projection.pending_review_id = none) (.rejected "assignment_settlement_deferred_awaiting_user_review")
  match terminalState (data.field "terminal_state") with
  | none => refuse "A recognized terminal_state is required."
  | some state => do
    let reason := string (data.field "reason")
    require (state = .complete → reason = "authoritative_read_completed" → projection.read_completion.status = .accepted)
      (.rejected "Authoritative read completion requires an accepted canonical completion claim.")
    require (state = .complete → reason = "verified_noop_two_fresh_target_observations" →
        projection.noop_completion.status = .accepted)
      (.rejected "Verified no-op completion requires an accepted desired-state equivalence claim.")
    .ok { projection with
      terminal_state := state
      terminal_reason := nonEmpty reason
      phase := .settled
      outcome_state := terminalOutcome state reason }

end events

section attempts

variable (projection : AssignmentControlPlaneProjection) (event : AssignmentAttemptEvent)
  (attempt : AssignmentAttemptRecord)

def admission_recorded (data : Json) : Except Refusal AssignmentControlPlaneProjection :=
  match admissionState (data.field "admission_state") with
  | none => refuse "admission_state must be admitted or rejected."
  | some state => do
    require (attempt.terminal_state = .active)
      (.rejected "A terminal attempt cannot accept a later admission callback.")
    if attempt.admission ≠ .pending then do
      require (attempt.admission = state)
        (.rejected ("Admission cannot change from " ++ attempt.admission.name ++ " to " ++ state.name ++ "."))
      .ok projection
    else if state = .rejected then do
      let given := EffectData.ofEvent data
      let updated ← applied attempt { given with
        effect_state := some .none
        effect_authority := some (given.effect_authority.getD .admission_policy)
        reason := orElse given.reason "admission_rejected" }
      .ok (projection.put { updated with
        admission := state
        terminal_state := .settled
        lease := { updated.lease with state := .failed_before_dispatch } })
    else .ok (projection.put { attempt with admission := state })

/-- The attempt may have reached Revit. -/
def dispatchMayHaveOccurred (data : Json) : Bool :=
  attempt.dispatch.state = .dispatched || attempt.dispatch.state = .acknowledged
    || (data.field "dispatch_may_have_occurred").isBool true

/-- The effect a dispatch record has on its attempt. -/
def dispatchEffect (data : Json) (state : DispatchState) : Option EffectData :=
  let id := string (data.field "dispatch_id")
  let reason := string (data.field "reason")
  let mayHaveOccurred := dispatchMayHaveOccurred attempt data
  if attempt.requested_effect = .apply ∧ (state = .dispatched ∨ state = .acknowledged) then
    some (.bare .unknown .dispatch_transport "dispatch_occurred_effect_unsettled" id)
  else if state = .failed ∧ attempt.requested_effect = .apply ∧ mayHaveOccurred then
    some (.bare .unknown .dispatch_transport (orElse reason "dispatch_may_have_occurred") id)
  else if state = .failed ∨ state = .not_dispatched then
    some (.bare .none (if mayHaveOccurred then .dispatch_transport else .transport_pre_dispatch)
      (orElse reason (if mayHaveOccurred then "dispatch_failed_after_handoff" else "dispatch_did_not_occur")) id)
  else none

/-- The attempt after a dispatch record: its dispatch, and what follows for its
    lease. -/
def dispatchedAs (data : Json) (state : DispatchState) : AssignmentAttemptRecord :=
  let recorded := { attempt with dispatch := ⟨state, nonEmpty (string (data.field "dispatch_id"))⟩ }
  if state = .dispatched ∨ state = .acknowledged then
    { recorded with lease := { recorded.lease with state := .dispatched } }
  else if state = .failed ∨ state = .not_dispatched then
    { recorded with terminal_state := .settled, lease := { recorded.lease with state := .failed_before_dispatch } }
  else recorded

def dispatch_recorded (data : Json) : Except Refusal AssignmentControlPlaneProjection :=
  match dispatchState (data.field "dispatch_state") with
  | none => refuse "A recognized dispatch_state is required."
  | some state => do
    require (attempt.terminal_state = .active)
      (.rejected "A terminal attempt cannot accept a later dispatch callback.")
    require (attempt.dispatch.state = .acknowledged → state = .acknowledged)
      (.rejected ("Acknowledged dispatch cannot change to " ++ state.name ++ "."))
    require (attempt.dispatch.state = .dispatched → state ≠ .not_dispatched)
      (.rejected "A dispatched attempt cannot later be classified not_dispatched.")
    match dispatchEffect attempt data state with
    | none => .ok (projection.put (dispatchedAs attempt data state))
    | some effect => do
      let updated ← applied attempt effect
      .ok (projection.put (dispatchedAs updated data state))

/-- The lease states that settle an attempt. -/
def settlingLeases : List AssignmentAttemptLeaseState :=
  [.settled, .failed_before_dispatch, .timed_out_read, .effect_unknown, .canceled_before_dispatch, .quarantined_late]

def lease_recorded (data : Json) : Except Refusal AssignmentControlPlaneProjection :=
  match leaseState (data.field "lease_state") with
  | none => refuse "A recognized lease_state is required."
  | some state => .ok (projection.put { attempt with
      lease := { attempt.lease with state := state }
      terminal_state := if state ∈ settlingLeases then .settled else attempt.terminal_state })

/-- The attempt after its effect was recorded: settled, unless the effect is
    unknown or evidence is still to come. -/
def settledBy (data : Json) : AssignmentAttemptRecord :=
  let marked := if attempt.effect.state = .unknown then
    { attempt with lease := { attempt.lease with state := .effect_unknown } } else attempt
  if attempt.effect.state ≠ .unknown ∧ !(data.field "settlement_pending_evidence").isBool true then
    { marked with terminal_state := .settled, lease := { marked.lease with state := .settled } }
  else marked

def effect_recorded (data : Json) : Except Refusal AssignmentControlPlaneProjection := do
  let updated ← applied attempt (.ofEvent data)
  .ok { projection.put (settledBy updated data) with
    phase := if updated.effect.state = .applied then .verifying else projection.phase }

/-- The attempt a verification is bound to. -/
def verifiedAttempt (data : Json) : Option AssignmentAttemptRecord :=
  projection.attempts.find? fun candidate => some candidate.attempt_id = attempt.reconciliation_of_attempt_id
    ∨ candidate.attempt_id = string (data.field "applied_attempt_id")

/-- The projection after the verification of an applied attempt. -/
def verifiedAs (state : AssignmentVerificationState) : AssignmentControlPlaneProjection :=
  let settled := projection.put { attempt with
    verification := state
    terminal_state := .settled
    lease := { attempt.lease with state := .settled } }
  if state = .passed then { settled with
    terminal_state := .verified
    terminal_reason := some "exact_postconditions_verified"
    phase := .settled }
  else if state = .failed then { settled with
    terminal_state := .failed
    terminal_reason := some "verification_failed_after_apply"
    phase := .settled }
  else settled

def verification_recorded (data : Json) : Except Refusal AssignmentControlPlaneProjection := do
  require (attempt.purpose = .verification) (.rejected "Verification evidence must reference a verification attempt.")
  match verifiedAttempt projection attempt data with
  | none => refuse "Verification must be bound to an applied attempt."
  | some bound => do
    require (bound.effect.state = .applied) (.rejected "Verification must be bound to an applied attempt.")
    require (attempt.target_fingerprint = bound.target_fingerprint)
      (.rejected "Verification target does not match the applied attempt.")
    match verificationState (data.field "verification_state") with
    | none => refuse "A recognized verification_state is required."
    | some state => do
      require (∀ other ∈ projection.inFlight, other.attempt_id = attempt.attempt_id)
        (.rejected "Verification cannot terminally settle while other current-generation work is in flight.")
      .ok (verifiedAs projection attempt state)

/-- The attempt a reconciliation is about. -/
def reconciledAttempt : Option AssignmentAttemptRecord :=
  attempt.reconciliation_of_attempt_id.bind projection.find

def reconciliation_started : Except Refusal AssignmentControlPlaneProjection :=
  match reconciledAttempt projection attempt with
  | none => refuse "Reconciliation must reference an unresolved unknown attempt."
  | some original => do
    require (attempt.purpose = .reconciliation ∧ original.effect.state = .unknown)
      (.rejected "Reconciliation must reference an unresolved unknown attempt.")
    require (attempt.target_fingerprint = original.target_fingerprint)
      (.rejected "Reconciliation must inspect the exact original target.")
    .ok { projection with phase := .reconciling }

/-- What is left of the reconciling attempt. -/
def reconciler (reconciling : AssignmentAttemptRecord) (data : Json) : AssignmentAttemptRecord :=
  { reconciling with
    effect := ⟨.none, "reconciliation_is_read_only", .target_readback, nonEmpty (string (data.field "authority_id"))⟩
    evidence_refs := union reconciling.evidence_refs (strings (data.field "evidence_refs"))
    terminal_state := .reconciled
    lease := { reconciling.lease with state := .settled } }

/-- What is left of the reconciled attempt. -/
def reconciled (original : AssignmentAttemptRecord) : AssignmentAttemptRecord :=
  { original with terminal_state := .reconciled, lease := { original.lease with state := .settled } }

/-- Both attempts of a reconciliation that changed `original`; they can be one
    and the same. -/
def putReconciled (original : AssignmentAttemptRecord) (data : Json) : AssignmentControlPlaneProjection :=
  if original.attempt_id = attempt.attempt_id then projection.put (reconciled (reconciler original data))
  else (projection.put (reconciler attempt data)).put (reconciled original)

def reconciliation_resolved (data : Json) : Except Refusal AssignmentControlPlaneProjection :=
  match reconciledAttempt projection attempt with
  | none => refuse "Reconciliation must resolve an unknown original attempt."
  | some original => do
    require (attempt.purpose = .reconciliation ∧ original.effect.state = .unknown)
      (.rejected "Reconciliation must resolve an unknown original attempt.")
    match effectState (data.field "effect_state") with
    | none => refuse "Reconciliation result must be none, unknown, or applied."
    | some resolved => do
      let given := EffectData.ofEvent data
      let updated ← applied original { given with
        effect_authority := some .target_readback
        reason := orElse given.reason ("reconciled_" ++ resolved.name) }
      .ok { putReconciled projection attempt updated data with
        phase := match resolved with
          | .applied => .verifying
          | .unknown => .reconciling
          | .none => .planning }

def attempt_terminal (data : Json) : Except Refusal AssignmentControlPlaneProjection := do
  require (attempt.effect.state ≠ .unknown)
    (.rejected "An unknown-effect attempt requires reconciliation before terminal settlement.")
  let lease := match leaseState (data.field "lease_state") with
    | some .timed_out_read => .timed_out_read
    | some .canceled_before_dispatch => .canceled_before_dispatch
    | some .quarantined_late => .quarantined_late
    | _ => .settled
  .ok (projection.put { attempt with terminal_state := .settled, lease := { attempt.lease with state := lease } })

end attempts

section reducer

variable (host : ControlPlaneHost)

def rejectReason (projection : AssignmentControlPlaneProjection) (event : AssignmentAttemptEvent) :
    Except Refusal Unit := do
  require (event.schema = ASSIGNMENT_ATTEMPT_EVENT_SCHEMA) (.rejected "Unsupported event schema.")
  require (event.assignment_id = projection.assignment_id) (.rejected "Event belongs to a different Assignment.")
  require (projection.terminal_state = .open)
    (.rejected ("Assignment is terminal (" ++ projection.terminal_state.name ++ ")."))
  if event.kind = .run_started then do
    require (event.generation = projection.generation + 1) (.rejected "Run generation must increase exactly once.")
    require (event.run_id ≠ "") (.rejected "run_id is required.")
  else do
    require (projection.run_id.any (· ≠ "")) (.rejected "No active Assignment run exists.")
    require (some event.run_id = projection.run_id ∧ event.generation = projection.generation)
      (.rejected "Event belongs to a stale or superseded run generation.")

/-- The events about one attempt. -/
def applyAttemptEvent (projection : AssignmentControlPlaneProjection) (event : AssignmentAttemptEvent)
    (attempt : AssignmentAttemptRecord) (data : Json) : Except Refusal AssignmentControlPlaneProjection :=
  match event.kind with
  | .admission_recorded => admission_recorded projection attempt data
  | .dispatch_recorded => dispatch_recorded projection attempt data
  | .lease_recorded => lease_recorded projection attempt data
  | .effect_recorded => effect_recorded projection attempt data
  | .verification_recorded => verification_recorded projection attempt data
  | .reconciliation_started => reconciliation_started projection attempt
  | .reconciliation_resolved => reconciliation_resolved projection attempt data
  | .attempt_terminal => attempt_terminal projection attempt data
  | _ => refuse "Unsupported event kind."

def applyAcceptedEvent (projection : AssignmentControlPlaneProjection) (event : AssignmentAttemptEvent) :
    Except Refusal AssignmentControlPlaneProjection :=
  let data := event.data.row
  match event.kind with
  | .run_started => .ok (run_started projection event data)
  | .run_superseded => .ok { projection.supersedeActive with phase := .settled }
  | .attempt_opened => attempt_opened host projection event data
  | .progress_recorded => .ok (progress_recorded host projection data)
  | .provider_call_recorded => provider_call_recorded projection data
  | .late_receipt_recorded => .ok { projection with late_receipt_count := projection.late_receipt_count + 1 }
  | .clarification_requested => clarification_requested projection data
  | .clarification_resolved => clarification_resolved projection data
  | .review_requested => review_requested projection data
  | .review_resolved => review_resolved projection data
  | .criterion_recorded => criterion_recorded projection data
  | .primary_artifact_recorded => primary_artifact_recorded projection data
  | .noop_completion_claimed => noop_completion_claimed projection data
  | .noop_completion_validated => noop_completion_validated projection event data
  | .read_completion_claimed => read_completion_claimed projection data
  | .read_completion_validated => read_completion_validated projection event data
  | .assignment_terminal => assignment_terminal projection data
  | _ =>
    match projection.attemptFor event with
    | none => refuse "Event references an unknown attempt."
    | some attempt => applyAttemptEvent projection event attempt data

/-- What one event does: the projection it is accepted with, or why not. -/
def accept (projection : AssignmentControlPlaneProjection) (event : AssignmentAttemptEvent) :
    Except Refusal AssignmentControlPlaneProjection := do
  rejectReason projection event
  applyAcceptedEvent host projection event

structure AssignmentReduceResult where
  projection : AssignmentControlPlaneProjection
  seen : List String
  accepted_event_ids : List String
  rejected : List (AssignmentAttemptEvent × String)

def AssignmentReduceResult.initial (assignment_id : String) : AssignmentReduceResult :=
  ⟨initialProjection assignment_id, [], [], []⟩

/-- One turn of the loop of the reducer; a date that cannot be written ends
    it. -/
def reduceEvent (result : AssignmentReduceResult) (event : AssignmentAttemptEvent) :
    Except String AssignmentReduceResult :=
  if event.event_id ∈ result.seen then .ok result
  else
    let seen := result.seen ++ [event.event_id]
    match accept host result.projection event with
    | .ok projection => .ok { result with
        projection := projection
        seen := seen
        accepted_event_ids := result.accepted_event_ids ++ [event.event_id] }
    | .error (.rejected reason) => .ok { result with seen := seen, rejected := result.rejected ++ [(event, reason)] }
    | .error (.threw message) => .error message

def reduceAssignmentControlPlane (assignment_id : String) (events : List AssignmentAttemptEvent) :
    Except String AssignmentReduceResult :=
  checked_run.feed (reduceEvent host) (.initial assignment_id) events

end reducer

end revit_operator.assignment_control_plane
