import RevitOperator.AssignmentKernel.Observation

namespace revit_operator.assignment_kernel

inductive OperationAdmissionStateV2 where
  | proposed
  | admitted
  | rejected
deriving DecidableEq, Repr

inductive OperationDispatchStateV2 where
  | not_dispatched
  | dispatching
  | dispatched
deriving DecidableEq, Repr

inductive PersistentEffectV2 where
  | none
  | unknown
  | applied
deriving DecidableEq, Repr

inductive OperationPurposeV2 where
  | work
  | discovery
  | verification
  | evidence_read
  | reconciliation
deriving DecidableEq, Repr

inductive OperationSettlementStateV2 where
  | open_
  | awaiting_result
  | retaining_observation
  | observation_commit_failed
  | settled
deriving DecidableEq, Repr

inductive OperationRoleV2 where
  | root
  | prerequisite
  | child
deriving DecidableEq, Repr

inductive HttpMethod where
  | GET
  | POST
deriving DecidableEq, Repr

def HttpMethod.toText : HttpMethod → String
  | .GET => "GET"
  | .POST => "POST"

structure OperationRequestIdentityV2 where
  capability_id : String
  method : Option HttpMethod
  path : Option String
  request_signature : String
deriving DecidableEq

structure CanonicalTargetV2 where
  target_id : Option String
  target_kind : Option String
  document_fingerprint : Option String
  semantic_scope : Option (Record SemanticFactScalarV2)

/-- The members of a target as a JSON object. -/
def CanonicalTargetV2.toJson (target : CanonicalTargetV2) : Json :=
  .obj ((target.target_id.map fun id => ("target_id", .str id)).toList
    ++ (target.target_kind.map fun kind => ("target_kind", .str kind)).toList
    ++ (target.document_fingerprint.map fun print => ("document_fingerprint", .str print)).toList
    ++ (target.semantic_scope.map fun scope => ("semantic_scope",
        .obj (scope.entries.map fun entry => (entry.1, entry.2.toJson)))).toList)

/-- Two targets have the same canonical JSON. -/
def sameTarget (left right : CanonicalTargetV2) : Bool :=
  left.toJson.canonicalValue == right.toJson.canonicalValue

/-- The target identity and the values of its semantic scope, as far as they
    are strings. -/
def CanonicalTargetV2.declared (target : CanonicalTargetV2) : List String :=
  target.target_id.toList ++ (target.semantic_scope.getD ∅).values.filterMap fun
    | .str text => some text
    | _ => none

inductive NativeTransactionStateV2 where
  | not_applicable
  | not_started
  | committed
  | rolled_back
  | unknown
deriving DecidableEq, Repr

inductive OperationResultStatusV2 where
  | succeeded
  | completed_without_native_dispatch
  | failed_before_dispatch
  | failed_after_dispatch
  | timed_out
  | canceled
deriving DecidableEq, Repr

structure OperationInputSchemaGapV2 where
  schema : String
  gap_id : String
  operation_id : String
  capability_id : String
  input_schema_id : String
  input_schema_digest : String
  method : HttpMethod
  path : String
  request_signature : String
  dispatch : Bool
  effect : PersistentEffectV2
  issues : List Json
deriving DecidableEq

inductive ResultSemanticReasonV2 where
  | preview_semantic_adapter_missing
  | preview_result_contract_invalid
deriving DecidableEq, Repr

def ResultSemanticReasonV2.toText : ResultSemanticReasonV2 → String
  | .preview_semantic_adapter_missing => "preview_semantic_adapter_missing"
  | .preview_result_contract_invalid => "preview_result_contract_invalid"

structure OperationResultSemanticGapV2 where
  schema : String
  gap_id : String
  operation_id : String
  capability_id : String
  result_schema_id : String
  reason_code : ResultSemanticReasonV2
  retryable : Bool
  provider_correctable : Bool
  native_replay_allowed : Bool
deriving DecidableEq

/-- The native artifact receipt stays the JSON the native host wrote. -/
structure OperationResultV2 where
  result_id : String
  operation_id : String
  binding : AssignmentBindingV2
  status : OperationResultStatusV2
  dispatch_state : OperationDispatchStateV2
  persistent_effect : PersistentEffectV2
  native_transaction_state : NativeTransactionStateV2
  native_artifact_receipt : Option Json
  authority : String
  result_schema_id : String
  observation_required : Bool
  raw_payload_hash : Option String
  affected_target_identities : Option (List String)
  receipt_id : Option String
  native_correlation_id : Option String
  completed_at : String
  error_code : Option String
  request_identity : Option OperationRequestIdentityV2
  input_schema_gap : Option OperationInputSchemaGapV2
  result_semantic_gap : Option OperationResultSemanticGapV2
deriving DecidableEq

def OBSERVATION_COMMIT_INPUT_V2_SCHEMA : String := "revit-operator.observation-commit-input/v2"

structure ObservationCommitInputV2 where
  schema : String
  result_id : String
  raw_payload : Json
deriving DecidableEq

structure NativeFailureDependencyV1 where
  element_id : String
  target_element_ids : List String
deriving DecidableEq

structure NativeFailureContextV1 where
  operation_id : String
  result_id : String
  raw_payload_hash : String
  receipt_id : String
  native_correlation_id : String
  request_signature : String
  dependencies : List NativeFailureDependencyV1
deriving DecidableEq

inductive NativeInventoryKindV1 where
  | regular
  | panel
  | all
  | power_circuits
deriving DecidableEq, Repr

structure NativeInventoryWorkloadV1 where
  operation_id : String
  result_id : String
  raw_payload_hash : String
  receipt_id : String
  native_correlation_id : String
  request_signature : String
  inventory_kind : NativeInventoryKindV1
  item_count : Int
deriving DecidableEq

structure NativeTemplateStateV1 where
  result_id : String
  raw_payload_hash : String
  view_id : Int
  template_id : Int
deriving DecidableEq

structure NativeScheduleFilterStateV1 where
  result_id : String
  raw_payload_hash : String
  schedule_id : Int
  state_hash : String
deriving DecidableEq

inductive RetryBasisV2 where
  | corrected_input
  | corrected_admission
  | new_target
  | reconciled_none
  | changed_plan
  | authorization_restored
  | host_recovered
  | committed_target_change
  | family_session_capacity_released
  | native_pre_dispatch_read
  | committed_target_read
  | committed_document_read
deriving DecidableEq, Repr

inductive DispatchAuthorityV2 where
  | mcp
  | backend
  | native
  | dynamic_runtime
  | courier
deriving DecidableEq, Repr

/-- One operation of an assignment. The receipt of a late native completion
    stays the JSON it arrived as. -/
structure OperationV2 where
  operation_id : String
  binding : AssignmentBindingV2
  work_unit_id : String
  capability_id : String
  requested_effect : RequestedEffectV2
  purpose : OperationPurposeV2
  operation_role : Option OperationRoleV2
  fulfillment_role : Option OperationFulfillmentRoleV2
  delegation_authority_id : Option String
  parent_operation_id : Option String
  root_operation_id : Option String
  blocks_parent_settlement : Option Bool
  request_identity : Option OperationRequestIdentityV2
  advances_criterion_ids : List String
  eligible_criterion_ids : Option (List String)
  resolves_gap_ids : List String
  target : CanonicalTargetV2
  input : Json
  admission_state : OperationAdmissionStateV2
  dispatch_state : OperationDispatchStateV2
  persistent_effect : PersistentEffectV2
  settlement_state : OperationSettlementStateV2
  result : Option OperationResultV2
  native_completion_reconciliation : Option Json
  native_failure_context : Option NativeFailureContextV1
  native_inventory_workload : Option NativeInventoryWorkloadV1
  observation_commit : Option ObservationCommitInputV2
  observation_commit_attempts : Option Int
  observation_ids : List String
  verification_operation_ids : List String
  verification_of_operation_id : Option String
  retry_of_operation_id : Option String
  retry_basis : Option RetryBasisV2
  retry_after_operation_id : Option String
  checkpoint_of_operation_id : Option String
  checkpoint_after_operation_id : Option String
  native_template_state : Option NativeTemplateStateV1
  reassignment_of_operation_id : Option String
  reassignment_after_operation_id : Option String
  native_schedule_filter_state : Option NativeScheduleFilterStateV1
  filter_restoration_of_operation_id : Option String
  filter_restoration_after_operation_id : Option String
  admitted_assignment_version : Option Nat
  settled_assignment_version : Option Nat
  reconciliation_of_operation_id : Option String
  opened_at : String
  dispatch_started_at : Option String
  dispatched_at : Option String
  dispatch_authority : Option DispatchAuthorityV2
  deadline_at : String
  settled_at : Option String
  observation_retention_error : Option String

namespace OperationV2

/-- The role of an operation, `root` unless stated. -/
def role (operation : OperationV2) : OperationRoleV2 := operation.operation_role.getD .root

/-- The operation is admitted and its own part of the work is not finished. -/
def inFlight (operation : OperationV2) : Bool :=
  operation.settlement_state == .open_ || operation.settlement_state == .awaiting_result
    || operation.settlement_state == .retaining_observation

/-- The operation is a child of `parent` that keeps it from settling. -/
def blocks (operation : OperationV2) (parent : String) : Bool :=
  operation.parent_operation_id == some parent && operation.blocks_parent_settlement != some false
    && operation.settlement_state != .settled

/-- The `body` member of the input. -/
def inputBody (operation : OperationV2) : Json := operation.input.field "body"

/-- A member of the input is exactly this optional text, absence included. -/
def inputIs (operation : OperationV2) (key : String) (expected : Option String) : Bool :=
  operation.input.member? key == expected.map Json.str

end OperationV2

/-- What the kernel takes from the JavaScript host: time parsing (`none` for
    `NaN`), Unicode case and compatibility mapping, the text `String(value)`,
    JSON text and hashing. -/
structure JavaScriptHost where
  parseDate : String → Option Int
  toLowerCase : String → String
  toUpperCase : String → String
  stringOf : Json → String
  normalizeNFKC : String → String
  stringify : Json → String
  utf8TextSha256V2 : String → String

/-- The canonical JSON text of a value. -/
def JavaScriptHost.canonicalJsonV2 (host : JavaScriptHost) (value : Json) : String :=
  host.stringify value.canonicalValue

/-- Two values have the same canonical JSON. -/
def sameJson (left right : Json) : Bool := left.canonicalValue == right.canonicalValue

/-- Two instants both parse and the first is not later than the second. -/
def JavaScriptHost.notAfter (host : JavaScriptHost) (left right : String) : Bool :=
  match host.parseDate left, host.parseDate right with
  | some a, some b => a ≤ b
  | _, _ => false

/-- Two instants both parse and the first is earlier than the second. -/
def JavaScriptHost.before (host : JavaScriptHost) (left right : String) : Bool :=
  match host.parseDate left, host.parseDate right with
  | some a, some b => a < b
  | _, _ => false

def JavaScriptHost.finiteDate (host : JavaScriptHost) (text : String) : Bool :=
  (host.parseDate text).isSome

end revit_operator.assignment_kernel
