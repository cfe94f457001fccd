import RevitOperator.AssignmentKernel.PublicationLedger

open checked
open revit_operator.assignment_kernel

namespace revit_operator.contracts

def ASSIGNMENT_KERNEL_PUBLICATION_V2_SCHEMA : String := "revit-operator.assignment-kernel-publication/v2"

def ASSIGNMENT_PROVIDER_LEDGER_V2_SCHEMA : String := "revit-operator.assignment-provider-ledger/v2"

structure AssignmentProviderLedgerPublicationV2 where
  schema : String
  assignment_id : String
  run_id : String
  generation : Int
  call_ids : List String
  calls : Record ProviderCallV2
  in_flight_call_ids : List String

structure AssignmentKernelPublicationV2 where
  schema : String
  assignment_id : String
  assignment_version : Nat
  snapshot : AssignmentSnapshotV2
  provider_ledger : AssignmentProviderLedgerPublicationV2

/-- Continue when the condition holds and throw the `TypeError` of an invalid
    publication otherwise. -/
abbrev publicationAssert (condition : Prop) [Decidable condition] (reason : String) : Except String Unit :=
  require condition ("assignment_kernel_v2_publication_invalid:" ++ reason)

def requiredString (value : String) : Bool := text.nonBlank value

def requiredStringArray (values : List String) : Bool := values.all requiredString

/-- An array of required strings without repeats. -/
def distinctStrings (values : List String) : Bool := requiredStringArray values && decide values.Nodup

def validOptionalTimestamp (value : Option String) : Bool := value.all requiredString

def validOptionalNonNegativeInteger : Option ℚ → Bool
  | none => true
  | some value => value.den == 1 && isSafeInteger value.num && 0 ≤ value.num

def validOptionalNonNegativeNumber : Option ℚ → Bool
  | none => true
  | some value => 0 ≤ value

/-- An optional count of a usage: absent and `null` are the same to the
    parser. -/
def count (value : Option (Option ℚ)) : Option ℚ := value.getD none

def validProviderUsage : Option ProviderUsageV2 → Bool
  | none => true
  | some usage => validOptionalNonNegativeInteger usage.input_tokens
      && validOptionalNonNegativeInteger (count usage.cached_input_tokens)
      && validOptionalNonNegativeInteger (count usage.cache_write_input_tokens)
      && usage.input_tokens.all (fun input =>
        (count usage.cached_input_tokens).getD 0 + (count usage.cache_write_input_tokens).getD 0 ≤ input)
      && validOptionalNonNegativeInteger usage.output_tokens
      && validOptionalNonNegativeInteger usage.reasoning_tokens
      && validOptionalNonNegativeInteger usage.total_tokens
      && validOptionalNonNegativeNumber usage.estimated_cost_usd

/-- The members of a call that are checked one by one. -/
def validProviderCallShape (host : JavaScriptHost) (call : ProviderCallV2) : Bool :=
  requiredString call.provider && requiredString call.model && call.reasoning_effort.all requiredString
    && distinctStrings call.gap_ids && distinctStrings call.criterion_ids
    && distinctStrings call.expected_information
    && requiredString call.admitted_at && validOptionalTimestamp call.dispatched_at
    && validOptionalTimestamp call.response_started_at && validOptionalTimestamp call.usage_received_at
    && validOptionalTimestamp call.completed_at && validOptionalTimestamp call.response_transport_completed_at
    && validOptionalNonNegativeInteger (count call.provider_duration_ms)
    && validProviderUsage call.usage && call.upstream_receipt.all (upstreamReceiptValid host)
    && call.controller_turn_id.all requiredString

/-- The state of a call agrees with its times, its success and whether it is
    listed in flight. -/
def coherentProviderCallState (listedInFlight : Bool) (call : ProviderCallV2) : Bool :=
  let completed := call.completed_at.any requiredString
  completed == isTerminalProviderCallStateV2 call.state && listedInFlight != completed
    && !(completed && call.success.isNone)
    && !(call.state == .response_transport_completed
      && !call.response_transport_completed_at.any requiredString)

/-- One round of the loop over the calls of the ledger. -/
def checkPublishedCall (host : JavaScriptHost) (publication : AssignmentKernelPublicationV2) (callId : String) :
    Except String Unit :=
  match publication.provider_ledger.calls.get? callId, publication.snapshot.provider_calls.get? callId with
  | some call, some snapshotCall => do
    publicationAssert (call.call_id = callId ∧ snapshotCall.call_id = callId) "provider_call_identity"
    publicationAssert (call = snapshotCall) "provider_call_projection"
    publicationAssert (sameAssignmentBindingV2 call.binding publication.snapshot.current_binding)
      "provider_call_binding"
    publicationAssert (validProviderCallShape host call) "provider_call_shape"
    publicationAssert
      (coherentProviderCallState (publication.provider_ledger.in_flight_call_ids.contains callId) call)
      "provider_call_state"
  | _, _ => publicationAssert False "provider_call_identity"

/-- One round of the loop over the execution failures. -/
def checkPublishedFailure (snapshot : AssignmentSnapshotV2) (failureId : String) : Except String Unit :=
  match snapshot.execution_failures.get? failureId with
  | some failure => publicationAssert (failure.schema = ASSIGNMENT_EXECUTION_FAILURE_V2_SCHEMA
      ∧ failure.failure_id = failureId ∧ sameAssignmentBindingV2 failure.binding snapshot.current_binding
      ∧ failure.code = executionFailureCodeV2 failure.error_class) "execution_failure_shape"
  | none => publicationAssert False "execution_failure_shape"

/-- The texts of a hold's binding are display identities. -/
def displayBinding (binding : AssignmentBindingV2) : Bool :=
  isDisplayId 240 binding.assignment_id && isDisplayId 240 binding.session_id && isDisplayId 240 binding.run_id
    && isDisplayId 240 binding.principal_id && binding.document_fingerprint.all (isDisplayId 240)

/-- An integer that JavaScript represents exactly and that counts from one. -/
def positiveSafeInteger (n : Int) : Bool := isSafeInteger n && 1 ≤ n

def parseProviderUsageHoldV1 (host : JavaScriptHost) (hold : ProviderUsageHoldV1)
    (expectedBinding : AssignmentBindingV2) : Except String Unit := do
  publicationAssert (hold.schema = PROVIDER_USAGE_HOLD_V1_SCHEMA ∧ hold.code = "usageLimitExceeded"
      ∧ (isDisplayId 240 hold.hold_id ∧ isDisplayId 240 hold.attempt_id
        ∧ isDisplayId 240 hold.provider_thread_id ∧ isDisplayId 240 hold.provider_turn_id)
      ∧ text.length hold.recorded_at ≤ 80 ∧ host.finiteDate hold.recorded_at) "provider_usage_hold_shape"
  publicationAssert (displayBinding hold.binding ∧ positiveSafeInteger hold.binding.generation
      ∧ sameAssignmentBindingV2 hold.binding expectedBinding) "provider_usage_hold_binding"
  publicationAssert (budgetBounded hold.resume_budget) "provider_usage_hold_budget"
  publicationAssert (hold.worker_identity.all validProviderUsageWorkerIdentityV1)
    "provider_usage_hold_worker_identity"

/-- The checks of an exact publication. Members whose type already fixes their
    value are not checked again. -/
def parseAssignmentKernelPublicationV2 (host : JavaScriptHost) (publication : AssignmentKernelPublicationV2) :
    Except String AssignmentKernelPublicationV2 := do
  let snapshot := publication.snapshot
  let binding := snapshot.current_binding
  let ledger := publication.provider_ledger
  publicationAssert (publication.schema = ASSIGNMENT_KERNEL_PUBLICATION_V2_SCHEMA) "schema"
  publicationAssert (requiredString publication.assignment_id
    ∧ positiveSafeInteger publication.assignment_version) "identity"
  publicationAssert (snapshot.assignment_version = publication.assignment_version) "snapshot"
  publicationAssert (∀ control ∈ snapshot.execution_control,
    text.isStableIdentity 159 control.command_id ∧ host.finiteDate control.changed_at) "execution_control"
  publicationAssert (binding.assignment_id = publication.assignment_id ∧ requiredString binding.run_id
    ∧ positiveSafeInteger binding.generation ∧ requiredString binding.session_id
    ∧ requiredString binding.principal_id) "binding"
  publicationAssert (ledger.schema = ASSIGNMENT_PROVIDER_LEDGER_V2_SCHEMA
    ∧ ledger.assignment_id = publication.assignment_id ∧ ledger.run_id = binding.run_id
    ∧ ledger.generation = binding.generation) "provider_ledger_binding"
  publicationAssert (requiredStringArray ledger.call_ids ∧ requiredStringArray ledger.in_flight_call_ids
    ∧ requiredStringArray snapshot.provider_call_ids
    ∧ requiredStringArray snapshot.in_flight_provider_call_ids
    ∧ ledger.call_ids.Nodup ∧ ledger.in_flight_call_ids.Nodup
    ∧ ledger.call_ids = snapshot.provider_call_ids
    ∧ ledger.in_flight_call_ids = snapshot.in_flight_provider_call_ids
    ∧ ∀ callId ∈ ledger.in_flight_call_ids, callId ∈ ledger.call_ids) "provider_ledger_index"
  publicationAssert (text.sorted ledger.calls.ids = text.sorted ledger.call_ids
    ∧ text.sorted snapshot.provider_calls.ids = text.sorted ledger.call_ids) "provider_ledger_calls"
  forEach ledger.call_ids (checkPublishedCall host publication)
  publicationAssert (requiredStringArray snapshot.execution_failure_ids ∧ snapshot.execution_failure_ids.Nodup
    ∧ text.sorted snapshot.execution_failures.ids = text.sorted snapshot.execution_failure_ids)
    "execution_failure_index"
  forEach snapshot.execution_failure_ids (checkPublishedFailure snapshot)
  forEach snapshot.provider_usage_hold.toList fun hold => parseProviderUsageHoldV1 host hold binding
  return publication

end revit_operator.contracts
