import RevitOperator.Library.Folds
import RevitOperator.AssignmentKernel.WorkPlan

open revit_operator.contracts

namespace revit_operator.assignment_kernel

/-- The operation ran natively, settled under the current binding and a
    matching native observation states that it succeeded. -/
def retainedNativeExecutionSuccess (snapshot : AssignmentSnapshotV2) (operation : OperationV2) : Bool :=
  match operation.result with
  | none => false
  | some result =>
    operation.admission_state == .admitted && operation.dispatch_state == .dispatched
      && operation.settlement_state == .settled
      && sameAssignmentBindingV2 operation.binding snapshot.current_binding
      && result.authority == "native-host" && result.status == .succeeded
      && result.dispatch_state == .dispatched && result.operation_id == operation.operation_id
      && sameAssignmentBindingV2 result.binding operation.binding && result.result_semantic_gap.isNone
      && operation.observation_ids.any fun id =>
        match snapshot.observations.get? id with
        | none => false
        | some observation => observation.authority == "native-host"
            && observation.operation_id == operation.operation_id
            && sameAssignmentBindingV2 observation.binding operation.binding
            && observation.capability_id == some operation.capability_id
            && observation.raw_payload_hash != ""
            && some observation.raw_payload_hash == result.raw_payload_hash
            && observation.facts.any fun fact =>
              fact.fact_id == "control.domain_succeeded" && fact.value.isTrue

/-- As above, and no later answer has invalidated the operation. -/
def retainedNativeSuccess (snapshot : AssignmentSnapshotV2) (operation : OperationV2) : Bool :=
  !snapshot.input_invalidated_operation_ids.contains operation.operation_id
    && retainedNativeExecutionSuccess snapshot operation

/-- What a native commit counts as: a model change by its receipt, or a save of
    the change before it. -/
inductive NativeCommitProgressIdentity where
  | change (document : Option String) (native_receipt : String)
  | saved (document : Option String) (saved_native_change : Option (Option String × String))
deriving DecidableEq

/-- The document and receipt of a committed native model change. -/
def nativeModelCommitProgressIdentityV2 (snapshot : AssignmentSnapshotV2) (operation : OperationV2)
    (historicalPacing : Bool) : Option (Option String × String) :=
  match operation.result with
  | none => none
  | some result =>
    if snapshot.spec.requested_effect != .apply || operation.requested_effect != .apply
        || operation.purpose != .work || operation.fulfillment_role != some .delegated_task_execution
        || operation.persistent_effect != .applied || result.persistent_effect != .applied
        || result.native_transaction_state != .committed || !truthy result.receipt_id
        || (result.affected_target_identities.getD []).isEmpty
        || !(if historicalPacing then retainedNativeExecutionSuccess snapshot operation
          else retainedNativeSuccess snapshot operation) then none
    else some (operation.binding.document_fingerprint, result.receipt_id.getD "")

def resultCompletedAt (operation : OperationV2) : String :=
  (operation.result.map OperationResultV2.completed_at).getD ""

/-- The request and result identities of an operation carry one signature. -/
def signaturesAgree (operation : OperationV2) (result : OperationResultV2) : Bool :=
  (result.request_identity.map OperationRequestIdentityV2.request_signature)
    == (operation.request_identity.map OperationRequestIdentityV2.request_signature)

/-- The progress identity of a committed change or of a native save. -/
def nativeCommitProgressIdentityV2 (host : JavaScriptHost) (snapshot : AssignmentSnapshotV2)
    (operation : OperationV2) : Option NativeCommitProgressIdentity :=
  match nativeModelCommitProgressIdentityV2 snapshot operation false with
  | some (document, receipt) => some (.change document receipt)
  | none =>
    match operation.result, operation.request_identity, host.parseDate operation.opened_at with
    | some result, some identity, some opened =>
      let body := operation.inputBody.row
      let pathOk := match body.field "filePath" with
        | .str path => text.length path ≤ 2000 && !text.hasUnitIn 0 0x1F path
        | _ => false
      if snapshot.spec.requested_effect != .apply || operation.requested_effect != .apply
          || operation.purpose != .work || operation.fulfillment_role != some .delegated_task_execution
          || operation.persistent_effect != .applied
          || !nativeDocumentCheckpointRequestMatchesV2 host operation operation.binding.document_fingerprint
          || !retainedNativeSuccess snapshot operation || identity.method != some .POST
          || !operation.inputIs "path" identity.path
          || !text.isHexTextAnyCase 64 identity.request_signature || !signaturesAgree operation result
          || !truthy result.receipt_id || !truthy result.native_correlation_id
          || (body.field "dryRun").isBool true || !pathOk
          || !host.notAfter operation.opened_at result.completed_at then none
      else
        let preceding := snapshot.operations.values.filter fun other =>
          other.operation_id != operation.operation_id
            && (nativeModelCommitProgressIdentityV2 snapshot other false).isSome
            && (match host.parseDate (resultCompletedAt other) with
              | some completed => completed ≤ opened
              | none => false)
        let latest := choice.maxBy (fun other : OperationV2 => toLex
          ((host.parseDate (resultCompletedAt other)).getD 0, other.settled_assignment_version.getD 0))
          preceding
        some (.saved operation.binding.document_fingerprint
          (latest.bind fun other => nativeModelCommitProgressIdentityV2 snapshot other false))
    | _, _, _ => none

def NATIVE_OBSERVED_PHYSICAL_TARGETS_V1 : String := "control.native_observed_physical_targets"

/-- The physical targets one observation lists, when it lists them well. -/
def observedPhysicalTargets (observation : ObservationV2) : List String :=
  match observation.facts.filter fun fact =>
      fact.fact_id == NATIVE_OBSERVED_PHYSICAL_TARGETS_V1 && fact.fact_class == some .control with
  | [fact] =>
    match fact.value with
    | .scalar _ => []
    | .list values =>
      match values.mapM (fun | .str identity => some identity | _ => none) with
      | none => []
      | some targets =>
        if targets.isEmpty || 500 < targets.length || !decide targets.Nodup
            || !targets.all (text.isNumbered "element_id:") then []
        else targets
  | _ => []

/-- The operation is a committed change whose result repeats its signature. -/
def observedMutation (host : JavaScriptHost) (snapshot : AssignmentSnapshotV2) (operation : OperationV2) :
    Bool :=
  match operation.result with
  | none => false
  | some result =>
    (nativeModelCommitProgressIdentityV2 snapshot operation true).isSome
      && host.finiteDate result.completed_at
      && host.notAfter snapshot.spec.created_at operation.opened_at
      && (match operation.request_identity with
        | some identity => identity.request_signature != "" | none => false)
      && signaturesAgree operation result

/-- The changed targets one native read saw again, as far as the read names
    them. -/
def observedReadTargets (host : JavaScriptHost) (snapshot : AssignmentSnapshotV2)
    (mutations : List OperationV2) (read : OperationV2) : List String :=
  match read.result with
  | none => []
  | some result =>
    if read.requested_effect != .read || read.persistent_effect != .none
        || result.persistent_effect != .none || result.native_transaction_state != .not_applicable
        || !retainedNativeExecutionSuccess snapshot read || !truthy result.receipt_id
        || !truthy result.native_correlation_id
        || !host.notAfter snapshot.spec.created_at read.opened_at
        || !host.notAfter read.opened_at result.completed_at
        || !(match read.request_identity with
          | some identity => identity.request_signature != "" | none => false)
        || !signaturesAgree read result
        || read.target.document_fingerprint != snapshot.current_binding.document_fingerprint then []
    else
      let named := (reportedOperationTargetIdentitiesV2 read).flatMap
        (operationTargetIdentityAliasesV2 host)
      let listed := read.observation_ids.flatMap fun id =>
        match snapshot.observations.get? id with
        | none => []
        | some observation =>
          if observation.authority != "native-host" || observation.operation_id != read.operation_id
              || !sameAssignmentBindingV2 observation.binding read.binding
              || some observation.raw_payload_hash != result.raw_payload_hash
              || observation.raw_payload_ref == ""
              || observation.result_schema_id != result.result_schema_id then []
          else observedPhysicalTargets observation
      listed.filter fun target =>
        (operationTargetIdentityAliasesV2 host target).any named.contains
          && mutations.any fun m => host.notAfter (resultCompletedAt m) read.opened_at
            && ((m.result.bind OperationResultV2.affected_target_identities).getD []).contains target

/-- The distinct physical targets native reads have observed after a change. -/
def observedNativeWorkTargetIdentitiesV1 (host : JavaScriptHost) (snapshot : AssignmentSnapshotV2) :
    List String :=
  let enabled := match snapshot.spec.execution_policy.bind AssignmentExecutionPolicyV1.progress_allowance with
    | some allowance => allowance.mode == .observed_native_work_v1
    | none => false
  if snapshot.spec.requested_effect != .apply || !enabled
      || !host.finiteDate snapshot.spec.created_at then []
  else
    let mutations := snapshot.operations.values.filter (observedMutation host snapshot)
    text.sortedUnique (snapshot.operations.values.flatMap (observedReadTargets host snapshot mutations))

end revit_operator.assignment_kernel
