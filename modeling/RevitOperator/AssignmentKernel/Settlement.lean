import RevitOperator.Contracts.Receipts

open checked
open revit_operator.contracts

namespace revit_operator.assignment_kernel

def RequestedEffectV2.toText : RequestedEffectV2 → String
  | .read => "read"
  | .preview => "preview"
  | .apply => "apply"

def OPERATION_RESULT_SEMANTIC_GAP_V2_SCHEMA : String :=
  "revit-operator.operation-result-semantic-gap/v2"

/-- No child that blocks the settlement of the operation is unsettled. -/
def childrenSettled (snapshot : AssignmentSnapshotV2) (operationId : String) : Bool :=
  !snapshot.operations.values.any fun candidate => candidate.blocks operationId

/-- What each status of a result says about the dispatch of its operation. -/
def checkResultDispatch (operation : OperationV2) (result : OperationResultV2) :
    Except KernelFault Unit :=
  if result.status = .completed_without_native_dispatch then
    kernelAssertV2 (result.dispatch_state = .not_dispatched ∧ result.persistent_effect = .none
        ∧ result.native_transaction_state = .not_applicable ∧ ¬ result.observation_required
        ∧ ¬ text.startsWith result.authority "native") "operation_result_non_native_invalid"
      "A controller-only result cannot claim native dispatch, persistent effect, or authoritative Observation truth."
  else if result.status = .failed_before_dispatch then
    kernelAssertV2 (operation.dispatch_state ≠ .dispatched ∧ result.dispatch_state = .not_dispatched
        ∧ result.persistent_effect = .none) "operation_result_predispatch_invalid"
      "Pre-dispatch failure must prove no effect and cannot contradict durable native dispatch."
  else if result.dispatch_state = .dispatching then do
    kernelAssertV2 (operation.dispatch_state = .dispatching) "operation_result_dispatch_unproven"
      "An indeterminate dispatch result requires an operation at the MCP dispatch boundary."
    kernelAssertV2 (result.status ≠ .succeeded ∧ result.persistent_effect
        = (if operation.requested_effect = .apply then .unknown else .none))
      "operation_result_dispatch_indeterminate_invalid"
      "Indeterminate dispatch may be unknown only for apply and cannot claim success."
  else
    kernelAssertV2 (operation.dispatch_state = .dispatched ∧ result.dispatch_state = .dispatched)
      "operation_result_dispatch_unproven"
      "A post-dispatch result requires an explicit native dispatch event."

/-- The receipt of a native artifact names the phase of its operation. -/
def artifactPhaseMatches (operation : OperationV2) (receipt : Json) : Bool :=
  (receipt.row.field "phase").isText operation.requested_effect.toText

/-- The effect of a result is one its operation and its native evidence
    allow. -/
def checkResultEffect (host : JavaScriptHost) (operation : OperationV2) (result : OperationResultV2) :
    Except KernelFault Unit := do
  let artifactEffect := nativeArtifactResultEffectV2 host result
  onlyIf (operation.requested_effect = .read)
    (kernelAssertV2 (result.persistent_effect = .none ∧ result.native_transaction_state ≠ .committed)
      "operation_read_effect_invalid" "Read result cannot claim a persistent effect.")
  onlyIf (result.native_transaction_state = .not_started)
    (kernelAssertV2 (result.authority = "native-host" ∧ result.dispatch_state = .dispatched
        ∧ result.persistent_effect = .none ∧ result.affected_target_identities.getD [] = [])
      "operation_native_preflight_invalid"
      "A native preflight result must prove no model effect or affected targets.")
  forEach result.native_artifact_receipt.toList fun receipt =>
    kernelAssertV2 (artifactEffect.isSome ∧ artifactPhaseMatches operation receipt)
      "operation_artifact_authority_invalid"
      "Artifact effects require a native, exact-route, current-invocation file receipt."
  onlyIf (result.persistent_effect = .applied)
    (kernelAssertV2 (operation.requested_effect = .apply
        ∧ (result.native_transaction_state = .committed ∨ artifactEffect = some .applied))
      "operation_apply_authority_invalid"
      "Applied effect requires a committed transaction or authoritative native artifact export.")
  onlyIf (operation.requested_effect = .preview ∧ result.status = .succeeded)
    (kernelAssertV2 (result.persistent_effect = .none
        ∧ (result.native_transaction_state = .rolled_back ∨ artifactEffect = some .none))
      "operation_preview_settlement_invalid"
      "Successful preview requires authoritative rollback or a native export plan that did not write files.")

def checkInputSchemaGap (host : JavaScriptHost) (result : OperationResultV2)
    (gap : OperationInputSchemaGapV2) : Except KernelFault Unit :=
  match operationInputSchemaGapErrorV2 host gap result with
  | some (code, message) => .error (.assertion code message)
  | none => .ok ()

def checkAffectedTargets (result : OperationResultV2) (identities : List String) :
    Except KernelFault Unit :=
  kernelAssertV2 (isCanonicalNativeAffectedTargetSetV2 identities
      ∧ (identities = [] ∨ (result.dispatch_state = .dispatched
        ∧ (result.authority = "native-host" ∨ result.authority = "dynamic-runtime"))))
    "operation_result_affected_targets_invalid"
    "Affected targets require a bounded, unique, ordinal native settlement identity set."

/-- A semantic gap of a result belongs to one rolled-back task preview and
    rules out its replay. -/
def checkSemanticGap (host : JavaScriptHost) (operation : OperationV2) (result : OperationResultV2)
    (gap : OperationResultSemanticGapV2) : Except KernelFault Unit := do
  kernelAssertV2 (operation.requested_effect = .preview
      ∧ operation.fulfillment_role = some .delegated_task_execution
      ∧ result.status = .failed_after_dispatch ∧ result.dispatch_state = .dispatched
      ∧ result.persistent_effect = .none
      ∧ (result.native_transaction_state = .rolled_back
        ∨ nativeArtifactResultEffectV2 host result = some .none)
      ∧ result.observation_required) "operation_result_semantic_gap_effect_invalid"
    "A result-semantic gap is valid only for a safely rolled-back task preview with durable native evidence."
  kernelAssertV2 (gap.schema = OPERATION_RESULT_SEMANTIC_GAP_V2_SCHEMA
      ∧ gap.gap_id = "result-semantics:" ++ operation.operation_id
      ∧ gap.operation_id = operation.operation_id ∧ gap.capability_id = operation.capability_id
      ∧ gap.result_schema_id = result.result_schema_id
      ∧ some gap.reason_code.toText = result.error_code ∧ ¬ gap.retryable
      ∧ ¬ gap.provider_correctable ∧ ¬ gap.native_replay_allowed)
    "operation_result_semantic_gap_invalid"
    "A result-semantic gap must bind the exact operation/result contract and prohibit provider correction or native replay."

/-- A result belongs to the operation it settles and claims no more than the
    dispatch and the native evidence bear out. -/
def validateResult (host : JavaScriptHost) (snapshot : AssignmentSnapshotV2) (operation : OperationV2)
    (result : OperationResultV2) : Except KernelFault Unit := do
  kernelAssertV2 (result.operation_id = operation.operation_id) "operation_result_identity_mismatch"
    "Result operation identity is incorrect."
  kernelAssertV2 (sameAssignmentBindingV2 operation.binding result.binding)
    "operation_result_binding_mismatch" "Result binding is incorrect."
  kernelAssertV2 (childrenSettled snapshot operation.operation_id) "operation_parent_blocked_by_child"
    "A parent operation cannot settle while a blocking child operation is unresolved."
  onlyIf operation.request_identity.isSome
    (kernelAssertV2 (result.request_identity = operation.request_identity)
      "operation_result_request_identity_mismatch"
      "Result request identity does not match the exact admitted operation.")
  checkResultDispatch operation result
  checkResultEffect host operation result
  forEach result.input_schema_gap.toList (checkInputSchemaGap host result)
  forEach result.affected_target_identities.toList (checkAffectedTargets result)
  forEach result.result_semantic_gap.toList (checkSemanticGap host operation result)

end revit_operator.assignment_kernel
