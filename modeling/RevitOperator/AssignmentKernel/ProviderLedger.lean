import RevitOperator.AssignmentKernel.Events

open checked

namespace revit_operator.assignment_kernel

/-- The members that every object inherits. -/
def inheritedMembers : List String :=
  ["constructor", "__defineGetter__", "__defineSetter__", "hasOwnProperty", "__lookupGetter__",
    "__lookupSetter__", "isPrototypeOf", "propertyIsEnumerable", "toString", "valueOf", "__proto__",
    "toLocaleString"]

/-- The provider call that an event looks up. -/
def AssignmentEventBodyV2.providerCall? : AssignmentEventBodyV2 → Option String
  | .provider_call_recorded callId .. => some callId
  | .provider_call_state_recorded event => some event.call_id
  | .provider_call_receipt_recorded call => some call.call_id
  | _ => none

/-- The event names no provider call after an inherited member. The source finds that
    member where no call is retained, takes it for one and skips the admission; the
    ledger here holds its own entries only. -/
def AssignmentEventV2.NamesOwnCall (event : AssignmentEventV2) : Prop :=
  ∀ callId ∈ event.body.providerCall?, callId ∉ inheritedMembers

instance (event : AssignmentEventV2) : Decidable event.NamesOwnCall :=
  inferInstanceAs (Decidable (∀ callId ∈ event.body.providerCall?, callId ∉ inheritedMembers))

/-- Retain a call under its identity. -/
def AssignmentSnapshotV2.withProviderCall (snapshot : AssignmentSnapshotV2) (call : ProviderCallV2) :
    AssignmentSnapshotV2 :=
  { snapshot with
    provider_calls := snapshot.provider_calls.set call.call_id call
    provider_call_ids := text.sortedUnique (snapshot.provider_call_ids ++ [call.call_id]) }

/-- The call a first `admitted` state opens. -/
def admittedCall (snapshot : AssignmentSnapshotV2) (occurredAt : String) (event : ProviderCallStateEvent) :
    ProviderCallV2 where
  call_id := event.call_id
  controller_turn_id := none
  upstream_receipt := none
  binding := snapshot.current_binding
  state := .admitted
  provider := event.provider.getD ""
  model := event.model.getD ""
  reasoning_effort := event.reasoning_effort
  gap_ids := text.sortedUnique event.gap_ids
  criterion_ids := text.sortedUnique event.criterion_ids
  expected_information := text.sortedUnique event.expected_information
  admitted_at := occurredAt
  dispatched_at := none
  response_started_at := none
  usage_received_at := none
  completed_at := none
  provider_duration_ms := none
  response_transport_completed_at := none
  usage := none
  success := none
  error_class := none

/-- Open a call on its first state, which has to be `admitted`. -/
def admitProviderCall (snapshot : AssignmentSnapshotV2) (occurredAt : String)
    (event : ProviderCallStateEvent) : Except KernelFault AssignmentSnapshotV2 := do
  kernelAssertV2 (snapshot.provider_usage_hold = none) "assignment_provider_usage_held"
    "A provider usage hold admits no new provider request."
  kernelAssertV2 (snapshot.completion_proposal = none) "assignment_completion_proposal_pending"
    "An unverified checkpoint cannot start another provider call."
  kernelAssertV2 (¬ snapshot.paused) "assignment_execution_paused"
    "Paused work cannot admit another provider request."
  kernelAssertV2 (event.state = .admitted) "provider_call_not_admitted"
    "The first provider-call state must be admitted."
  kernelAssertV2 (event.provider.any text.nonBlank ∧ event.model.any text.nonBlank)
    "provider_call_route_missing" "Provider admission requires the selected provider and model."
  kernelAssertV2 (advisoryVerificationV2 snapshot.spec ∨ (event.gap_ids ≠ [] ∧ event.criterion_ids ≠ []))
    "provider_call_progress_binding_missing"
    "Provider admission requires unresolved gap and criterion bindings."
  kernelAssertV2 (event.expected_information ≠ []) "provider_call_expected_information_missing"
    "Provider admission must state expected information."
  return snapshot.withProviderCall (admittedCall snapshot occurredAt event)

/-- A bounded text without control characters. -/
def boundedReceiptText (value : String) : Bool :=
  value != "" && text.length value ≤ 256 && !text.hasUnitIn 0 0x1F value

/-- An unknown duration, or an exact number of milliseconds. -/
def durationValid : Option ℚ → Bool
  | none => true
  | some duration => duration.den == 1 && 0 ≤ duration.num && isSafeInteger duration.num

def upstreamReceiptValid (host : JavaScriptHost) (receipt : UpstreamProviderReceiptV2) : Bool :=
  receipt.route == "desktop_computer" && boundedReceiptText receipt.call_id
    && boundedReceiptText receipt.model && boundedReceiptText receipt.requested_model
    && boundedReceiptText receipt.started_at_utc && host.finiteDate receipt.started_at_utc
    && durationValid receipt.duration_ms

/-- Another call already carries this upstream receipt. -/
def upstreamReceiptReused (snapshot : AssignmentSnapshotV2) (callId : String)
    (receipt : UpstreamProviderReceiptV2) : Bool :=
  snapshot.provider_calls.values.any fun call => call.call_id != callId
    && (call.upstream_receipt.map UpstreamProviderReceiptV2.call_id) == some receipt.call_id

def checkUpstreamReceipt (host : JavaScriptHost) (snapshot : AssignmentSnapshotV2)
    (previous : ProviderCallV2) (event : ProviderCallStateEvent) (receipt : UpstreamProviderReceiptV2) :
    Except KernelFault Unit := do
  kernelAssertV2 (event.state = .usage_received ∧ upstreamReceiptValid host receipt)
    "provider_upstream_receipt_invalid"
    "Upstream receipt requires bounded host-observed identity and timing."
  kernelAssertV2 (previous.upstream_receipt.all (· == receipt)) "provider_upstream_receipt_conflict"
    "Upstream receipt identity is immutable."
  kernelAssertV2 (¬ upstreamReceiptReused snapshot event.call_id receipt)
    "provider_upstream_receipt_reused" "One upstream receipt cannot settle two provider calls."

/-- What a later state of a call has to bring along, and where it has to agree
    with what the call retains. -/
def checkProviderState (host : JavaScriptHost) (snapshot : AssignmentSnapshotV2)
    (previous : ProviderCallV2) (event : ProviderCallStateEvent) : Except KernelFault Unit := do
  kernelAssertV2 (event.state ≠ .admitted) "provider_call_duplicate_admission"
    "Provider admission is unique."
  onlyIf (event.state = .usage_received)
    (kernelAssertV2 event.usage.isSome "provider_call_usage_missing"
      "Usage state requires provider usage data.")
  onlyIf (event.state = .completed)
    (kernelAssertV2 event.success.isSome "provider_call_completion_missing"
      "Provider completion requires success truth.")
  onlyIf (event.state = .response_transport_completed)
    (kernelAssertV2 (truthy previous.completed_at) "provider_transport_before_completion"
      "Downstream response transport cannot complete before provider completion.")
  forEach event.upstream_receipt.toList (checkUpstreamReceipt host snapshot previous event)
  onlyIf (event.state = .usage_received ∧ previous.usage.isSome)
    (kernelAssertV2 (previous.usage = event.usage) "provider_call_usage_conflict"
      "Replayed provider usage must agree with retained usage.")
  onlyIf (event.state = .completed ∧ truthy previous.completed_at)
    (kernelAssertV2 (previous.success = event.success
        ∧ (event.error_class = none ∨ previous.error_class = event.error_class))
      "provider_call_completion_conflict"
      "Replayed provider completion must agree with retained completion.")

/-- The first time a state of the call was recorded. -/
def stampState (previous : ProviderCallV2) (state : ProviderCallStateV2) (occurredAt : String) :
    ProviderCallV2 :=
  match state with
  | .admitted => previous
  | .dispatched => { previous with dispatched_at := previous.dispatched_at.or (some occurredAt) }
  | .response_started =>
    { previous with response_started_at := previous.response_started_at.or (some occurredAt) }
  | .usage_received =>
    { previous with usage_received_at := previous.usage_received_at.or (some occurredAt) }
  | .completed => { previous with completed_at := previous.completed_at.or (some occurredAt) }
  | .response_transport_completed =>
    { previous with
      response_transport_completed_at := previous.response_transport_completed_at.or (some occurredAt) }

/-- The call after a later state, which never moves back. -/
def advancedCall (previous : ProviderCallV2) (occurredAt : String) (event : ProviderCallStateEvent) :
    ProviderCallV2 :=
  { stampState previous event.state occurredAt with
    state := if PROVIDER_STATE_RANK previous.state < PROVIDER_STATE_RANK event.state then event.state
      else previous.state
    usage := event.usage.or previous.usage
    upstream_receipt := event.upstream_receipt.or previous.upstream_receipt
    success := event.success.or previous.success
    error_class := event.error_class.or previous.error_class }

/-- The lookup is the one of the source for every identity outside `inheritedMembers`. -/
def applyProviderState (host : JavaScriptHost) (snapshot : AssignmentSnapshotV2) (occurredAt : String)
    (event : ProviderCallStateEvent) : Except KernelFault AssignmentSnapshotV2 := do
  kernelAssertV2 (text.nonBlank event.call_id) "provider_call_identity_missing"
    "Provider call requires a stable identity."
  match snapshot.provider_calls.get? event.call_id with
  | none => admitProviderCall snapshot occurredAt event
  | some previous =>
    checkProviderState host snapshot previous event
    return { snapshot with
      provider_calls := snapshot.provider_calls.set event.call_id (advancedCall previous occurredAt event) }

/-- A finished call as plain telemetry reports it. -/
def telemetryCall (snapshot : AssignmentSnapshotV2) (occurredAt callId provider model : String)
    (reasoningEffort : Option String) (success : Bool) : ProviderCallV2 where
  call_id := callId
  controller_turn_id := none
  upstream_receipt := none
  binding := snapshot.current_binding
  state := .completed
  provider
  model
  reasoning_effort := reasoningEffort
  gap_ids := []
  criterion_ids := []
  expected_information := []
  admitted_at := occurredAt
  dispatched_at := none
  response_started_at := none
  usage_received_at := none
  completed_at := some occurredAt
  provider_duration_ms := none
  response_transport_completed_at := none
  usage := none
  success := some success
  error_class := none

/-- Telemetry retains a call only when none is retained under its identity, which is
    outside `inheritedMembers` as before. -/
def recordProviderCall (snapshot : AssignmentSnapshotV2) (occurredAt callId provider model : String)
    (reasoningEffort : Option String) (success : Bool) : Except KernelFault AssignmentSnapshotV2 := do
  kernelAssertV2 (text.nonBlank callId) "provider_call_identity_missing"
    "Provider-call telemetry requires a stable call identity."
  return { snapshot with
    provider_call_ids := text.sortedUnique (snapshot.provider_call_ids ++ [callId])
    provider_calls :=
      if (snapshot.provider_calls.get? callId).isSome then snapshot.provider_calls
      else snapshot.provider_calls.set callId
        (telemetryCall snapshot occurredAt callId provider model reasoningEffort success) }

/-- Retain the receipt of a completed upstream call. -/
def recordProviderReceipt (snapshot : AssignmentSnapshotV2) (call : ProviderCallV2) :
    Except KernelFault AssignmentSnapshotV2 := do
  kernelAssertV2 (sameAssignmentBindingV2 snapshot.current_binding call.binding)
    "provider_call_binding_mismatch" "Provider receipt binding is not current."
  kernelAssertV2 (call.state = .completed ∧ truthy call.completed_at) "provider_call_receipt_incomplete"
    "Provider receipt must represent a completed upstream call."
  kernelAssertV2 (call.provider_duration_ms.all durationValid) "provider_call_duration_invalid"
    "Provider receipt duration must be an exact non-negative integer or unknown."
  kernelAssertV2 ((advisoryVerificationV2 snapshot.spec ∨ (call.gap_ids ≠ [] ∧ call.criterion_ids ≠ []))
      ∧ call.expected_information ≠ []) "provider_call_progress_binding_missing"
    "Provider receipt must retain its admission justification."
  kernelAssertV2 ((snapshot.provider_calls.get? call.call_id).isNone) "provider_call_duplicate_admission"
    "Provider call identity is already retained."
  return snapshot.withProviderCall call

end revit_operator.assignment_kernel
