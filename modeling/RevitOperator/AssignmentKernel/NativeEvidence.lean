import RevitOperator.AssignmentKernel.ExecutionPolicy
import RevitOperator.Contracts.Receipts
import RevitOperator.Library.Folds

open revit_operator.contracts

namespace revit_operator.assignment_kernel

/-- The operation is bound to a document and targets that document. -/
def OperationV2.inBoundDocument (operation : OperationV2) : Bool :=
  truthy operation.binding.document_fingerprint
    && operation.target.document_fingerprint == operation.binding.document_fingerprint

/-- The result repeats the request identity of its operation. -/
def sameRequestIdentity (operation : OperationV2) (result : OperationResultV2) : Bool :=
  result.request_identity == operation.request_identity

/-- The result carries both native identities and neither kind of gap. -/
def cleanNativeReceipt (result : OperationResultV2) : Bool :=
  truthy result.receipt_id && truthy result.native_correlation_id && result.input_schema_gap.isNone
    && result.result_semantic_gap.isNone

/-- The payload still held for retention is the one the result was hashed
    from. -/
def heldPayload (host : JavaScriptHost) (operation : OperationV2) (result : OperationResultV2) :
    Option ObservationCommitInputV2 :=
  operation.observation_commit.filter fun commit => commit.result_id == result.result_id
    && some (host.utf8TextSha256V2 (host.canonicalJsonV2 commit.raw_payload)) == result.raw_payload_hash

/-- The failure context a native rollback leaves, derived only after its
    observation is retained. -/
def deriveNativeFailureContextV1 (host : JavaScriptHost) (operation : OperationV2)
    (dependencies : Option (List NativeFailureDependencyV1)) : Option NativeFailureContextV1 :=
  match operation.result, operation.request_identity, dependencies with
  | some result, some request, some dependencies =>
    if operation.requested_effect != .apply || operation.role != .root
        || operation.dispatch_authority != some .native || !operation.inBoundDocument
        || result.status != .failed_after_dispatch || result.dispatch_state != .dispatched
        || result.authority != "native-host" || result.persistent_effect != .none
        || result.native_transaction_state != .rolled_back || !result.observation_required
        || !cleanNativeReceipt result || !truthy result.raw_payload_hash
        || result.operation_id != operation.operation_id
        || !sameAssignmentBindingV2 operation.binding result.binding || request.method != some .POST
        || !truthy request.path || result.result_schema_id != nativePostSchema (some request)
        || !sameRequestIdentity operation result || dependencies.isEmpty then none
    else
      match heldPayload host operation result with
      | some commit =>
        if commit.schema = OBSERVATION_COMMIT_INPUT_V2_SCHEMA then some
          { operation_id := operation.operation_id
            result_id := result.result_id
            raw_payload_hash := result.raw_payload_hash.getD ""
            receipt_id := result.receipt_id.getD ""
            native_correlation_id := result.native_correlation_id.getD ""
            request_signature := request.request_signature
            dependencies }
        else none
      | none => none
  | _, _, _ => none

/-- A later correction changed a named dependency together with the target the
    failed operation wanted. -/
def committedNativeFailureDependencyV1 (prior : OperationV2)
    (declaredCorrection affected targets : List String) : Bool :=
  match prior.native_failure_context, prior.result with
  | some context, some result =>
    context.operation_id == prior.operation_id && context.result_id == result.result_id
      && some context.raw_payload_hash == result.raw_payload_hash
      && some context.receipt_id == result.receipt_id
      && some context.native_correlation_id == result.native_correlation_id
      && some context.request_signature
        == prior.request_identity.map OperationRequestIdentityV2.request_signature
      && context.dependencies.any fun dependency => declaredCorrection.contains dependency.element_id
        && affected.contains dependency.element_id
        && dependency.target_element_ids.any fun id => targets.contains id && affected.contains id
  | _, _ => false

/-- The result of a native read without effect, as inventories need it. -/
def inventoryReadResult (operation : OperationV2) (result : OperationResultV2)
    (request : OperationRequestIdentityV2) : Bool :=
  operation.requested_effect == .read && operation.dispatch_authority == some .native
    && operation.persistent_effect == .none && result.authority == "native-host"
    && result.status == .succeeded && result.dispatch_state == .dispatched
    && result.persistent_effect == .none && result.native_transaction_state == .not_applicable
    && result.observation_required && cleanNativeReceipt result && truthy result.raw_payload_hash
    && result.operation_id == operation.operation_id
    && result.result_schema_id == nativePostSchema (some request) && sameRequestIdentity operation result

/-- The size of a source inventory, derived from the retained native result. -/
def deriveNativeInventoryWorkloadV1 (host : JavaScriptHost) (operation : OperationV2) :
    Option NativeInventoryWorkloadV1 :=
  match operation.result, operation.request_identity with
  | some result, some request =>
    if !operation.inBoundDocument || !inventoryReadResult operation result request
        || !sameAssignmentBindingV2 operation.binding result.binding then none
    else
      match heldPayload host operation result with
      | none => none
      | some commit =>
        if commit.schema ≠ OBSERVATION_COMMIT_INPUT_V2_SCHEMA then none
        else
          match nativeSourceInventoryWorkloadV1 host operation commit.raw_payload with
          | none => none
          | some (kind, count) => some
            { operation_id := operation.operation_id
              result_id := result.result_id
              raw_payload_hash := result.raw_payload_hash.getD ""
              receipt_id := result.receipt_id.getD ""
              native_correlation_id := result.native_correlation_id.getD ""
              request_signature := request.request_signature
              inventory_kind := kind
              item_count := count }
  | _, _ => none

/-- The workload an operation retains repeats its own result and request. -/
def workloadIsOwn (host : JavaScriptHost) (operation : OperationV2) (result : OperationResultV2)
    (request : OperationRequestIdentityV2) (state : NativeInventoryWorkloadV1) : Bool :=
  state.operation_id == operation.operation_id && state.result_id == result.result_id
    && some state.raw_payload_hash == result.raw_payload_hash
    && some state.receipt_id == result.receipt_id
    && some state.native_correlation_id == result.native_correlation_id
    && state.request_signature == request.request_signature
    && (match nativeSourceInventoryRequestV1 host operation with
      | none => false
      | some source => state.inventory_kind == source.kind && isSafeInteger state.item_count
          && 1 ≤ state.item_count && state.item_count ≤ source.max)

/-- An inventory read is a root, or the child of a settled current root. -/
def inventoryTopology (snapshot : AssignmentSnapshotV2) (operation : OperationV2) : Bool :=
  match operation.operation_role with
  | none | some .root => true
  | some .prerequisite => false
  | some .child =>
    truthy operation.parent_operation_id
      && (match operation.parent_operation_id.bind snapshot.operations.get? with
        | none => false
        | some parent => operation.root_operation_id == some parent.operation_id
            && parent.settlement_state == .settled
            && sameAssignmentBindingV2 parent.binding snapshot.current_binding)

/-- The instants of an inventory read are in order. -/
def inventoryTimesOrdered (host : JavaScriptHost) (snapshot : AssignmentSnapshotV2)
    (operation : OperationV2) (result : OperationResultV2) : Bool :=
  let settled := operation.settled_at.getD ""
  host.finiteDate operation.opened_at && !host.before operation.opened_at snapshot.spec.created_at
    && host.finiteDate result.completed_at && !host.before result.completed_at operation.opened_at
    && host.finiteDate settled && !host.before settled result.completed_at

/-- The operation settled after it was admitted and not later than now. -/
def versionsOrdered (snapshot : AssignmentSnapshotV2) (operation : OperationV2) : Bool :=
  match operation.admitted_assignment_version, operation.settled_assignment_version with
  | some admitted, some settled => admitted < settled && settled ≤ snapshot.assignment_version
  | _, _ => false

/-- As above, with a positive version of admission. -/
def stampedInOrder (snapshot : AssignmentSnapshotV2) (operation : OperationV2) : Bool :=
  versionsOrdered snapshot operation && operation.admitted_assignment_version != some 0

/-- A native observation of the operation under the binding carries the payload
    hash of its result. -/
def hasNativeObservation (snapshot : AssignmentSnapshotV2) (binding : AssignmentBindingV2)
    (operation : OperationV2) (payloadHash : Option String) : Bool :=
  operation.observation_ids.any fun id =>
    match snapshot.observations.get? id with
    | none => false
    | some observation => observation.operation_id == operation.operation_id
        && observation.authority == "native-host"
        && sameAssignmentBindingV2 binding observation.binding
        && some observation.raw_payload_hash == payloadHash

/-- The item count of a read that may size the planning allocation. -/
def creditedInventory (host : JavaScriptHost) (snapshot : AssignmentSnapshotV2) (operation : OperationV2) :
    Option Int :=
  match operation.native_inventory_workload, operation.result, operation.request_identity with
  | some state, some result, some request =>
    if workloadIsOwn host operation result request state && inventoryReadResult operation result request
        && operation.dispatch_state == .dispatched && operation.settlement_state == .settled
        && !truthy operation.observation_retention_error
        && sameAssignmentBindingV2 operation.binding snapshot.current_binding
        && operation.target.document_fingerprint == snapshot.current_binding.document_fingerprint
        && sameAssignmentBindingV2 result.binding snapshot.current_binding
        && inventoryTimesOrdered host snapshot operation result && versionsOrdered snapshot operation
        && hasNativeObservation snapshot snapshot.current_binding operation result.raw_payload_hash
        && inventoryTopology snapshot operation then some state.item_count
    else none
  | _, _, _ => none

structure NativeInventoryPlanningV1 where
  units : Int
  items : Int

/-- The quotient rounded up. -/
def ceilDiv (dividend divisor : Int) : Int := -(-dividend / divisor)

/-- Repeated inventories count once: the largest complete one sizes the
    allocation. -/
def nativeInventoryPlanningV1 (host : JavaScriptHost) (snapshot : AssignmentSnapshotV2) :
    Option NativeInventoryPlanningV1 :=
  match snapshot.spec.execution_policy.bind AssignmentExecutionPolicyV1.native_scope_planning with
  | none => none
  | some planning =>
    if !truthy snapshot.current_binding.document_fingerprint
        || !validNativeScopePlanningPolicyV1 host snapshot.spec then none
    else
      let count := (snapshot.operations.values.filterMap (creditedInventory host snapshot)).foldl max 0
      some ⟨min planning.max_units (max 1 (ceilDiv count planning.items_per_unit)), count⟩

/-- An unused pair of retained operations that permits one more admission of an
    applied request: the request's own latest run and a later counter-state. -/
structure CounterStateCitation where
  of_operation_id : String
  after_operation_id : String
deriving DecidableEq, Repr

/-- The two operations were admitted for the same native request. -/
def sameNativeRequest (left right : OperationV2) : Bool :=
  match left.request_identity, right.request_identity with
  | some a, some b =>
    a.method == b.method && a.path == b.path && a.request_signature == b.request_signature
  | _, _ => false

/-- Two operations have the same canonical input and target. -/
def sameInputAndTarget (left right : OperationV2) : Bool :=
  sameJson left.input right.input && sameTarget left.target right.target

/-- The first version is present and later than the second. -/
def laterVersion (version earlier : Option Nat) : Bool :=
  match version, earlier with
  | some later, some before => before < later
  | _, _ => false

/-- An edit is still open or its effect is unknown. -/
def unresolvedApply (operation : OperationV2) : Bool :=
  operation.requested_effect == .apply
    && (operation.settlement_state != .settled || operation.persistent_effect == .unknown)

/-- The operation was not admitted as a retry. -/
def OperationV2.isNoRetry (operation : OperationV2) : Bool :=
  !truthy operation.retry_of_operation_id && operation.retry_basis.isNone
    && !truthy operation.retry_after_operation_id

/-- Another member of the snapshot, told apart by its identity. -/
def otherOperations (snapshot : AssignmentSnapshotV2) (operation : OperationV2) : List OperationV2 :=
  snapshot.operations.values.filter fun other => other.operation_id != operation.operation_id

/-- The operation that settled last. -/
def latestSettled (operations : List OperationV2) : Option OperationV2 :=
  choice.maxBy (fun operation : OperationV2 => operation.settled_assignment_version.getD 0) operations

/-- The operation that was admitted last. -/
def latestAdmitted (operations : List OperationV2) : Option OperationV2 :=
  choice.maxBy (fun operation : OperationV2 => operation.admitted_assignment_version.getD 0) operations

/-- The native result names the element under one of its two spellings. -/
def affectsElement (operation : OperationV2) (id : Int) : Bool :=
  ((operation.result.bind OperationResultV2.affected_target_identities).getD []).any fun identity =>
    identity == "element_id:" ++ toString id || identity == "id:" ++ toString id

/-- What a committed native change of a bound document has settled as. -/
def committedNativeResult (host : JavaScriptHost) (operation : OperationV2) (result : OperationResultV2) :
    Bool :=
  operation.inBoundDocument && operation.dispatch_authority == some .native
    && result.authority == "native-host" && result.status == .succeeded
    && result.dispatch_state == .dispatched && result.persistent_effect == .applied
    && result.native_transaction_state == .committed && cleanNativeReceipt result
    && result.operation_id == operation.operation_id
    && sameAssignmentBindingV2 operation.binding result.binding
    && result.result_schema_id == contracts.nativePostSchema operation.request_identity
    && sameRequestIdentity operation result && (heldPayload host operation result).isSome

end revit_operator.assignment_kernel
