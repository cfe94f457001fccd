import RevitOperator.AssignmentKernel.InputRegistry
import RevitOperator.AssignmentKernel.NativeEvidence
import RevitOperator.AssignmentKernel.UserFollowupAllocation
import RevitOperator.AssignmentKernel.Progress.NativeWorkProgress

namespace revit_operator.assignment_kernel

/-- The native rollback preview is a root, or the only child layer of a settled
    preview call that wraps it. -/
def previewTopology (snapshot : AssignmentSnapshotV2) (operation : OperationV2) : Bool :=
  match operation.operation_role with
  | some .root => true
  | some .child =>
    match operation.parent_operation_id.bind snapshot.operations.get? with
    | none => false
    | some parent => truthy operation.parent_operation_id
        && operation.root_operation_id == operation.parent_operation_id
        && parent.operation_role == some .root && parent.capability_id == "revit_call_tool"
        && parent.requested_effect == .preview && parent.settlement_state == .settled
        && (parent.request_identity.bind OperationRequestIdentityV2.path)
          == (operation.request_identity.bind OperationRequestIdentityV2.path)
        && sameAssignmentBindingV2 parent.binding snapshot.current_binding
        && !snapshot.input_invalidated_operation_ids.contains parent.operation_id
  | _ => false

/-- A settled native preview that rolled back and reports a ready dry run. -/
def readyRollbackPreview (snapshot : AssignmentSnapshotV2) (operation : OperationV2) : Bool :=
  match operation.result with
  | none => false
  | some result =>
    operation.requested_effect == .preview && operation.settlement_state == .settled
      && !snapshot.input_invalidated_operation_ids.contains operation.operation_id
      && sameAssignmentBindingV2 operation.binding snapshot.current_binding
      && result.authority == "native-host" && result.status == .succeeded
      && result.native_transaction_state == .rolled_back
      && sameAssignmentBindingV2 result.binding snapshot.current_binding
      && previewTopology snapshot operation && operation.observation_ids.any fun id =>
        match snapshot.observations.get? id with
        | none => false
        | some observation => observation.authority == "native-host"
            && observation.operation_id == operation.operation_id
            && sameAssignmentBindingV2 observation.binding snapshot.current_binding
            && observation.facts.any fun fact =>
              fact.fact_id == "control.field.status" && fact.value.isText "DryRunReady"

/-- The last opened ready preview of a plan with a single edit. -/
def readyNativeRollbackPreviewV2 (host : JavaScriptHost) (snapshot : AssignmentSnapshotV2) :
    Option OperationV2 :=
  let edits := (snapshot.work_plan.map fun plan =>
    (plan.items.filter fun item => item.kind != some .inspection).length)
  if snapshot.spec.requested_effect != .apply || edits != some 1 then none
  else choice.maxBy (fun operation : OperationV2 => (host.parseDate operation.opened_at).getD 0)
    (snapshot.operations.values.filter (readyRollbackPreview snapshot))

def AssignmentWorkPlanItemV2.isEdit (item : AssignmentWorkPlanItemV2) : Bool :=
  item.kind != some .inspection

/-- A source-required batch is broad work even when one call can edit all of
    it: the retained plan pairs edits with an inspection of edits only. -/
def sourceRequiredBatchPlan (host : JavaScriptHost) (snapshot : AssignmentSnapshotV2) : Bool :=
  let spec := snapshot.spec
  match snapshot.work_plan, spec.interpreted_scope with
  | some plan, some bound =>
    let edits := (plan.items.filter AssignmentWorkPlanItemV2.isEdit).map AssignmentWorkPlanItemV2.item_id
    spec.work_plan_required && spec.work_plan_min_items != some 1 && validBoundOperationScope host spec
      && bound.scope.model_effect == .apply && 2 ≤ plan.items.length && host.finiteDate spec.created_at
      && plan.items.all (fun item => host.notAfter spec.created_at item.declared_at)
      && !edits.isEmpty && plan.items.any fun item => item.kind == some .inspection
        && !(item.depends_on.getD []).isEmpty && (item.depends_on.getD []).all edits.contains
  | _, _ => false

structure EarnedAllowance where
  broad : Bool
  verified_changes : Nat
  verified_targets : Option Nat
  observed_targets : Option Nat
  resource_targets : Option Nat
  source_planning_units : Option Int
  source_planning_items : Option Int
  source_required_plan : Bool
  provider_calls : Int

/-- An allowance without any credit. -/
def plainAllowance (broad : Bool) (providerCalls : Int) : EarnedAllowance where
  broad
  verified_changes := 0
  verified_targets := none
  observed_targets := none
  resource_targets := none
  source_planning_units := none
  source_planning_items := none
  source_required_plan := false
  provider_calls := providerCalls

/-- The signatures and targets credited so far and the number of changes. -/
structure CreditState where
  signatures : List String
  targets : List String
  verified : Nat

/-- The operation is a verified native change of the current binding, opened no
    earlier than its scope was declared. -/
def earnsCredit (host : JavaScriptHost) (snapshot : AssignmentSnapshotV2) (declared : Option Int)
    (operation : OperationV2) : Bool :=
  match operation.result, declared, host.parseDate operation.opened_at with
  | some result, some declared, some opened => declared ≤ opened
      && sameAssignmentBindingV2 operation.binding snapshot.current_binding
      && sameAssignmentBindingV2 result.binding snapshot.current_binding
      && result.authority == "native-host" && result.status == .succeeded
      && result.native_transaction_state == .committed
      && appliedOperationHasVerifiedPostconditionV2 snapshot operation.operation_id
  | _, _, _ => false

/-- Credit one operation: its signature once, and a change only for targets not
    credited before. -/
def creditOperation (host : JavaScriptHost) (snapshot : AssignmentSnapshotV2) (targetCredits : Bool)
    (declared : Option Int) (credit : CreditState) (operation : OperationV2) : CreditState :=
  let signature := (operation.request_identity.map OperationRequestIdentityV2.request_signature).getD ""
  let affected := verifiedNativeWorkTargetIdentitiesV2 host snapshot operation.operation_id
  if signature == "" || credit.signatures.contains signature || affected.isEmpty
      || (!targetCredits && affected.any credit.targets.contains)
      || !earnsCredit host snapshot declared operation then credit
  else if affected.all credit.targets.contains then
    { credit with signatures := signature :: credit.signatures }
  else
    { signatures := signature :: credit.signatures
      targets := (credit.targets ++ affected).dedup
      verified := credit.verified + 1 }

/-- The earliest of some instants; `none` when one does not parse. -/
def earliestInstant (host : JavaScriptHost) (instants : List String) : Option Int :=
  match instants.mapM host.parseDate with
  | some (first :: rest) => some (rest.foldl min first)
  | _ => none

/-- What independently verified, distinct native changes have earned. -/
def earnedAssignmentWorkAllowanceV2 (host : JavaScriptHost) (snapshot : AssignmentSnapshotV2) :
    EarnedAllowance :=
  let policy := snapshot.spec.execution_policy
  let allowance := progressAllowance snapshot
  let observedCredits := (allowance.map ProgressAllowanceV1.mode) == some .observed_native_work_v1
  let targetCredits := (allowance.bind ProgressAllowanceV1.credit_unit)
    == some .distinct_verified_targets_v1 || observedCredits
  let applies := snapshot.spec.requested_effect == .apply
  let items := (snapshot.work_plan.map AssignmentWorkPlanV2.items).getD []
  let requiredBatchPlan := sourceRequiredBatchPlan host snapshot
  let broad := applies && (allowance.isSome || requiredBatchPlan
    || 2 ≤ (items.filter AssignmentWorkPlanItemV2.isEdit).length)
  match policy with
  | some policy =>
    if allowance.isNone || !applies then plainAllowance true policy.max_provider_calls
    else allowanceOver policy.max_provider_calls
      (earliestInstant host [snapshot.spec.created_at]) targetCredits observedCredits requiredBatchPlan
  | none =>
    if !broad then
      plainAllowance false (if (readyNativeRollbackPreviewV2 host snapshot).isSome then 48 else 32)
    else allowanceOver 0 (earliestInstant host (items.map AssignmentWorkPlanItemV2.declared_at))
      targetCredits observedCredits requiredBatchPlan
where
  /-- Count the credits from an instant on. -/
  allowanceOver (policyCalls : Int) (declared : Option Int)
      (targetCredits observedCredits requiredBatchPlan : Bool) : EarnedAllowance :=
    let operations := snapshot.operations.values.insertionSort fun a b : OperationV2 =>
      (host.parseDate a.opened_at).getD 0 ≤ (host.parseDate b.opened_at).getD 0
    let credit := operations.foldl (creditOperation host snapshot targetCredits declared) ⟨[], [], 0⟩
    let observed := if observedCredits then observedNativeWorkTargetIdentitiesV1 host snapshot else []
    let resourceTargets := (credit.targets ++ observed).dedup.length
    let units : Nat := if targetCredits then min 24 resourceTargets else credit.verified
    let planning := nativeInventoryPlanningV1 host snapshot
    { broad := true
      verified_changes := credit.verified
      verified_targets := if targetCredits then some credit.targets.length else none
      observed_targets := if observedCredits then some observed.length else none
      resource_targets := if observedCredits then some resourceTargets else none
      source_planning_units := planning.map NativeInventoryPlanningV1.units
      source_planning_items := planning.map NativeInventoryPlanningV1.items
      source_required_plan := requiredBatchPlan
      provider_calls := match progressAllowance snapshot with
        | some ceiling => min ceiling.max_provider_calls
            (policyCalls * (planning.map NativeInventoryPlanningV1.units).getD 1 + units * 8)
        | none => min 256 (64 + credit.verified * 8) }

/-- The budget of the work an assignment may still do. -/
def defaultAssignmentWorkBudgetV2 (host : JavaScriptHost) (snapshot : AssignmentSnapshotV2)
    (ordinary : AssignmentProgressBudgetV2) : AssignmentProgressBudgetV2 :=
  let allowance := earnedAssignmentWorkAllowanceV2 host snapshot
  match snapshot.spec.execution_policy with
  | some policy =>
    let credit : Int := min 24 ((allowance.resource_targets.or allowance.verified_targets).getD
      allowance.verified_changes)
    let ceiling := policy.progress_allowance
    let units := allowance.source_planning_units.getD 1
    let capped (most : Option Int) (base step : Int) : Int :=
      match most with
      | some most => min most (base * units + credit * step)
      | none => base
    applyUserFollowupAllocationV1 snapshot { ordinary with
      max_provider_calls := allowance.provider_calls
      max_reasoning_turns := allowance.provider_calls
      max_operations := capped (ceiling.map ProgressAllowanceV1.max_operations) policy.max_operations 32
      max_total_tokens :=
        capped (ceiling.map ProgressAllowanceV1.max_total_tokens) policy.max_total_tokens 1000000
      max_wall_clock_ms := capped (ceiling.bind ProgressAllowanceV1.max_wall_clock_ms)
        policy.max_wall_clock_ms (5 * 60000) }
  | none =>
    if !allowance.broad then
      if ordinary.max_provider_calls < allowance.provider_calls then { ordinary with
        max_provider_calls := allowance.provider_calls
        max_reasoning_turns := max ordinary.max_reasoning_turns allowance.provider_calls
        max_total_tokens := max ordinary.max_total_tokens 6000000 }
      else ordinary
    else
      let credit : Int := min 24 allowance.verified_changes
      { ordinary with
        max_provider_calls := allowance.provider_calls
        max_reasoning_turns := allowance.provider_calls
        max_operations := min 1024 (256 + credit * 32)
        max_total_tokens := min 32000000 (8000000 + credit * 1000000)
        max_wall_clock_ms := min 120 (30 + credit * 5) * 60000 }

/-- The frozen limits of a policy as an ordinary budget. -/
def policyBudget (policy : AssignmentExecutionPolicyV1) : AssignmentProgressBudgetV2 where
  max_reasoning_turns := policy.max_provider_calls
  max_provider_calls := policy.max_provider_calls
  max_operations := policy.max_operations
  max_equivalent_operations := 0
  max_no_progress_epochs := 0
  max_reconciliation_attempts := 0
  max_wall_clock_ms := policy.max_wall_clock_ms
  max_total_tokens := policy.max_total_tokens

/-- The budget of an advisory assignment from its frozen policy. -/
def advisoryWorkBudget (host : JavaScriptHost) (snapshot : AssignmentSnapshotV2)
    (policy : AssignmentExecutionPolicyV1) : AssignmentProgressBudgetV2 :=
  defaultAssignmentWorkBudgetV2 host snapshot (policyBudget policy)

/-- Allocate follow-up work on top of what the assignment has earned without an
    earlier allocation. -/
def allocateAuthenticatedFollowupV1 (host : JavaScriptHost) (snapshot : AssignmentSnapshotV2)
    (policy : AssignmentExecutionPolicyV1) (commandId now : String)
    (renewal : Option UserResourceRenewalRequestV1) : Except KernelFault AssignmentSnapshotV2 :=
  let earned := advisoryWorkBudget host { snapshot with user_followup_allocation := none } policy
  allocateUserFollowupV1 host snapshot commandId now earned (advisoryWorkBudget host snapshot policy) renewal

end revit_operator.assignment_kernel
