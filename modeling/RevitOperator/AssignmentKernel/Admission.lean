import RevitOperator.AssignmentKernel.Retries
import RevitOperator.AssignmentKernel.ScheduleFilterRestoration
import RevitOperator.AssignmentKernel.TemplateReassignment
import RevitOperator.AssignmentKernel.ProviderUsageHold

open checked

namespace revit_operator.assignment_kernel

/-- An advisory assignment has not used up its operations. -/
def operationAllowanceLeft (host : JavaScriptHost) (snapshot : AssignmentSnapshotV2) : Bool :=
  match snapshot.spec.execution_policy with
  | none => true
  | some policy =>
    snapshot.operations.ids.length < (advisoryWorkBudget host snapshot policy).max_operations

/-- Context derived from native evidence never comes with an admission. -/
def checkNoDerivedContext (operation : OperationV2) : Except KernelFault Unit := do
  kernelAssertV2 (operation.native_failure_context = none) "operation_native_failure_context_forbidden"
    "Failure context is derived only from retained native evidence."
  kernelAssertV2 (operation.native_inventory_workload = none) "operation_native_inventory_workload_forbidden"
    "Source workload is derived only from retained native evidence."
  kernelAssertV2 (operation.native_template_state = none) "operation_native_template_state_forbidden"
    "Template state is derived only from retained native evidence."
  kernelAssertV2 (operation.native_schedule_filter_state = none) "operation_native_filter_state_forbidden"
    "Filter state is derived only from retained native evidence."

/-- The assignment as a whole may take on this operation. -/
def checkAdmissionGate (host : JavaScriptHost) (snapshot : AssignmentSnapshotV2) (operation : OperationV2) :
    Except KernelFault Unit := do
  let advisory := advisoryVerificationV2 snapshot.spec
  let nested := truthy operation.parent_operation_id
  kernelAssertV2 (operationAllowanceLeft host snapshot) "operation_budget_exhausted"
    "The retained local operation allowance is exhausted."
  kernelAssertV2 (snapshot.completion_proposal = none ∨ nested) "assignment_completion_proposal_pending"
    "A proposed checkpoint admits no new root work."
  kernelAssertV2 (advisory ∨ operation.requested_effect ≠ .apply ∨ ¬ snapshot.spec.work_plan_required
      ∨ snapshot.work_plan.isSome) "assignment_kernel_v2_declare_work_plan_before_apply"
    "Multi-part editing requires a declared scope before native admission."
  kernelAssertV2 (¬ snapshot.paused ∨ nested) "assignment_execution_paused"
    "Paused work cannot admit another root operation; admitted children may settle."
  kernelAssertV2 (sameAssignmentBindingV2 snapshot.current_binding operation.binding)
    "operation_binding_mismatch" "Operation binding is not current."
  kernelAssertV2 ((snapshot.operations.get? operation.operation_id).isNone) "operation_duplicate"
    "Operation identity already exists."
  kernelAssertV2 (snapshot.unresolved_unknown_operation_ids = [] ∨ operation.requested_effect = .read)
    "operation_unknown_effect_requires_reconciliation"
    "Unknown-effect work must be reconciled before another preview or write is admitted."

/-- The purpose a fulfillment role needs. -/
def checkFulfillmentPurpose (operation : OperationV2) :
    OperationFulfillmentRoleV2 → Except KernelFault Unit
  | .delegated_task_execution => kernelAssertV2 (operation.purpose = .work)
      "operation_delegated_purpose_invalid" "Delegated task execution requires work purpose."
  | .verification => kernelAssertV2 (operation.purpose = .verification)
      "operation_verification_fulfillment_invalid"
      "Verification fulfillment requires verification purpose."
  | .reconciliation => kernelAssertV2 (operation.purpose = .reconciliation)
      "operation_reconciliation_fulfillment_invalid"
      "Reconciliation fulfillment requires reconciliation purpose."
  | .prerequisite => kernelAssertV2
      (operation.purpose = .discovery ∧ operation.operation_role = some .prerequisite)
      "operation_prerequisite_fulfillment_invalid"
      "Prerequisite fulfillment requires prerequisite topology and discovery purpose."
  | .telemetry => .error (.assertion "operation_telemetry_admission_invalid"
      "Telemetry is retained in the provider ledger, not admitted as task execution.")
  | .supporting_control => .ok ()

/-- The operation can fulfil one of the criteria it claims to be eligible
    for. -/
def checkEligibleCriterion (spec : AssignmentSpecV2) (unit : AssignmentWorkUnitSpecV2)
    (operation : OperationV2) (criterionId : String) : Except KernelFault Unit := do
  kernelAssertV2 ((findCriterion spec criterionId).any fun criterion =>
      operationEffectAdmissibleForCriterionV2 spec.requested_effect operation.requested_effect criterion
        (if criterion.comparesDesiredState then some .desired_state_equivalence else none))
    "operation_eligible_criterion_effect_mismatch"
    "Criterion eligibility requires the Assignment effect or an explicit desired-state-equivalence contract."
  kernelAssertV2 (criterionId ∈ unit.criterion_ids) "operation_eligible_criterion_unbound"
    "Operation criterion eligibility is outside its admitted work unit."
  kernelAssertV2 (criterionId ∈ operation.advances_criterion_ids)
    "operation_eligible_criterion_progress_unbound" "Eligible criterion must retain its progress binding."

/-- The fulfillment contract of an operation under typed semantic evidence. -/
def checkFulfillment (spec : AssignmentSpecV2) (unit : AssignmentWorkUnitSpecV2) (operation : OperationV2) :
    Except KernelFault Unit :=
  match operation.fulfillment_role, operation.eligible_criterion_ids with
  | some role, some eligible => do
    onlyIf (¬ fulfillmentRoleCanCarryTaskCriteriaV2 role)
      (kernelAssertV2 (eligible = []) "operation_support_criterion_forbidden"
        "Supporting, prerequisite, reconciliation, and telemetry work cannot satisfy task criteria.")
    checkFulfillmentPurpose operation role
    onlyIf (operation.role = .root ∧ fulfillmentRoleCanCarryTaskCriteriaV2 role)
      (kernelAssertV2 (truthy operation.delegation_authority_id) "operation_delegation_authority_missing"
        "A criterion-fulfillment root must issue one delegation authority.")
    forEach eligible (checkEligibleCriterion spec unit operation)
    onlyIf (operation.role = .prerequisite)
      (kernelAssertV2 (role = .prerequisite) "operation_prerequisite_fulfillment_invalid"
        "Prerequisite topology requires prerequisite fulfillment semantics.")
  | _, _ => .error (.assertion "operation_fulfillment_contract_missing"
      "A semantic-evidence Assignment requires an explicit operation fulfillment contract.")

/-- The operation is bound to criteria or gaps that are still open. -/
def checkProgressBinding (host : JavaScriptHost) (snapshot : AssignmentSnapshotV2)
    (unit : AssignmentWorkUnitSpecV2) (operation : OperationV2) : Except KernelFault Unit := do
  let advisory := advisoryVerificationV2 snapshot.spec
  kernelAssertV2 (advisory ∨ operation.role ≠ .root ∨ (criteriaPendingEvaluationV2 host snapshot).ids = [])
    "operation_criterion_evaluation_pending"
    "Retained authoritative evidence must be evaluated before another root operation is admitted."
  kernelAssertV2 (advisory ∨ operation.role ≠ .root ∨ operation.advances_criterion_ids ≠ []
      ∨ operation.resolves_gap_ids ≠ []) "operation_progress_binding_missing"
    "A root operation must bind to unresolved criterion or gap work; nested work binds through its parent."
  forEach operation.advances_criterion_ids fun criterionId =>
    kernelAssertV2 (criterionId ∈ unit.criterion_ids) "operation_progress_criterion_unbound"
      "Operation criterion is not admitted by its work unit."
  let gapIds := (deriveProgressGapsV2 host snapshot).map ProgressGapV2.gap_id
  forEach operation.resolves_gap_ids fun gapId =>
    kernelAssertV2 (advisory ∨ gapId ∈ gapIds) "operation_progress_gap_stale"
      "Operation gap is no longer unresolved."

/-- The derivation an operation calls for by naming either end of a pair. -/
def derivedCitation (of_ after : Option String) (derived : Option CounterStateCitation) :
    Option CounterStateCitation :=
  if truthy of_ || truthy after then derived else none

/-- A named pair is exactly the derived one. -/
def checkCitation (of_ after : Option String) (citation : Option CounterStateCitation)
    (code message : String) : Except KernelFault Unit :=
  onlyIf (of_.isSome ∨ after.isSome)
    (kernelAssertV2 (citation.any fun pair =>
      some pair.of_operation_id == of_ && some pair.after_operation_id == after) code message)

def checkpointCitation (host : JavaScriptHost) (snapshot : AssignmentSnapshotV2) (operation : OperationV2) :
    Option CounterStateCitation :=
  derivedCitation operation.checkpoint_of_operation_id operation.checkpoint_after_operation_id
    (documentCheckpointContinuationV2 host snapshot operation)

def reassignmentCitation (host : JavaScriptHost) (snapshot : AssignmentSnapshotV2) (operation : OperationV2) :
    Option CounterStateCitation :=
  derivedCitation operation.reassignment_of_operation_id operation.reassignment_after_operation_id
    (templateReassignmentV1 host snapshot operation)

def restorationCitation (host : JavaScriptHost) (snapshot : AssignmentSnapshotV2) (operation : OperationV2) :
    Option CounterStateCitation :=
  derivedCitation operation.filter_restoration_of_operation_id
    operation.filter_restoration_after_operation_id (scheduleFilterRestorationV1 host snapshot operation)

/-- The operation carries one of the three derived counter-state pairs. -/
def citesCounterState (host : JavaScriptHost) (snapshot : AssignmentSnapshotV2) (operation : OperationV2) :
    Bool :=
  (checkpointCitation host snapshot operation).isSome
    || (reassignmentCitation host snapshot operation).isSome
    || (restorationCitation host snapshot operation).isSome

def checkCitations (host : JavaScriptHost) (snapshot : AssignmentSnapshotV2) (operation : OperationV2) :
    Except KernelFault Unit := do
  checkCitation operation.checkpoint_of_operation_id operation.checkpoint_after_operation_id
    (checkpointCitation host snapshot operation) "operation_document_checkpoint_invalid"
    "A checkpoint requires an unused complete native save and a later committed change to the same document."
  checkCitation operation.reassignment_of_operation_id operation.reassignment_after_operation_id
    (reassignmentCitation host snapshot operation) "operation_template_reassignment_invalid"
    "Reassignment requires an unused native committed counter-state on the exact view."
  checkCitation operation.filter_restoration_of_operation_id operation.filter_restoration_after_operation_id
    (restorationCitation host snapshot operation) "operation_filter_restoration_invalid"
    "Restoration requires an unused native committed counter-state on the exact schedule."

/-- An operation of the same progress is already retained. -/
def repeatsProgress (snapshot : AssignmentSnapshotV2) (operation : OperationV2) : Bool :=
  snapshot.operations.values.any fun candidate =>
    operationProgressIdentityV2 candidate == operationProgressIdentityV2 operation

/-- An earlier edit of the same native request, not an ancestor, may have had an
    effect. -/
def duplicatesWrite (snapshot : AssignmentSnapshotV2) (operation : OperationV2) : Bool :=
  snapshot.operations.values.any fun prior =>
    prior.requested_effect == .apply && some prior.operation_id != operation.parent_operation_id
      && some prior.operation_id != operation.root_operation_id && sameNativeRequest prior operation
      && (prior.persistent_effect != .none || prior.settlement_state != .settled)

/-- Equivalent work needs a typed basis, and an advisory edit never repeats a
    write that may have been applied. -/
def checkRepeat (host : JavaScriptHost) (snapshot : AssignmentSnapshotV2) (operation : OperationV2) :
    Except KernelFault Unit := do
  let advisory := advisoryVerificationV2 snapshot.spec
  let cited := citesCounterState host snapshot operation
  kernelAssertV2 ((advisory ∧ operation.requested_effect = .read) ∨ ¬ repeatsProgress snapshot operation
      ∨ truthy operation.retry_of_operation_id ∨ cited ∨ operation.purpose = .reconciliation)
    "operation_progress_equivalent_repeat"
    "Equivalent operation requires a typed retry or reconciliation basis."
  onlyIf (advisory ∧ operation.requested_effect = .apply)
    (kernelAssertV2 (¬ duplicatesWrite snapshot operation ∨ cited) "operation_native_write_repeat_unsafe"
      "Applied or unsettled native requests cannot be replayed by changing semantic metadata.")

/-- One interpreted prerequisite is answered well enough to edit. -/
def checkPrerequisite (snapshot : AssignmentSnapshotV2) (prerequisite : InterpretedPrerequisiteV1) :
    Except KernelFault Unit := do
  kernelAssertV2 (snapshot.input_values.has prerequisite.variable_id) "operation_input_missing"
    "The interpreted user prerequisite remains unanswered."
  kernelAssertV2 (prerequisiteValueSatisfied prerequisite.kind
      (snapshot.input_values.get? prerequisite.variable_id).join) "operation_prerequisite_unresolved"
    "The prerequisite requires authenticated information or explicit approval."

def prerequisitesOf (spec : AssignmentSpecV2) : List InterpretedPrerequisiteV1 :=
  (spec.interpreted_scope.map fun bound => bound.scope.prerequisites).getD []

/-- The effect, dependencies and inputs of the work unit allow the
    operation. -/
def checkWorkUnit (snapshot : AssignmentSnapshotV2) (unit : AssignmentWorkUnitSpecV2)
    (operation : OperationV2) : Except KernelFault Unit := do
  kernelAssertV2 (operation.requested_effect = unit.requested_effect) "operation_effect_mismatch"
    "Operation effect must come from its admitted work unit."
  kernelAssertV2 (EFFECT_RANK operation.requested_effect ≤ EFFECT_RANK snapshot.spec.requested_effect)
    "operation_effect_exceeds_assignment" "Operation effect exceeds the Assignment effect envelope."
  forEach unit.dependency_ids fun dependency =>
    kernelAssertV2 (snapshot.work_unit_states.get? dependency = some .complete
        ∨ snapshot.work_unit_states.get? dependency = some .retained) "operation_dependency_incomplete"
      "Operation dependencies must be complete or retained."
  forEach (workUnitInputVariableIdsV2 snapshot unit.work_unit_id) fun variableId =>
    kernelAssertV2 (snapshot.input_values.has variableId) "operation_input_missing"
      "Operation requires a known stable input variable."
  onlyIf (operation.requested_effect ≠ .read)
    (forEach (prerequisitesOf snapshot.spec) (checkPrerequisite snapshot))

/-- A fulfillment child stays within what its parent delegates. -/
def checkDelegation (parent operation : OperationV2) : Except KernelFault Unit := do
  forEach (operation.eligible_criterion_ids.getD []) fun criterionId =>
    kernelAssertV2 (criterionId ∈ parent.eligible_criterion_ids.getD [])
      "operation_delegated_criterion_widening" "A child cannot widen its parent's criterion eligibility."
  if operation.fulfillment_role.any fulfillmentRoleCanCarryTaskCriteriaV2 then
    kernelAssertV2 (truthy parent.delegation_authority_id
        ∧ operation.delegation_authority_id = parent.delegation_authority_id)
      "operation_delegation_authority_invalid"
      "A fulfillment child requires the exact parent-issued delegation authority."
  else
    kernelAssertV2 (¬ truthy operation.delegation_authority_id) "operation_support_delegation_forbidden"
      "Supporting children cannot retain task-fulfillment delegation authority."

/-- The parent a child names, when it names one that is retained. -/
def parentOf (snapshot : AssignmentSnapshotV2) (operation : OperationV2) : Option OperationV2 :=
  if truthy operation.parent_operation_id then
    operation.parent_operation_id.bind snapshot.operations.get?
  else none

/-- A root stands alone; a child hangs below one unsettled operation of its
    own binding. -/
def checkTopology (snapshot : AssignmentSnapshotV2) (operation : OperationV2) : Except KernelFault Unit :=
  if operation.role = .root then do
    kernelAssertV2 (¬ truthy operation.parent_operation_id ∧ ¬ truthy operation.root_operation_id)
      "operation_root_relation_invalid"
      "A root operation cannot cite a parent or another root operation."
    kernelAssertV2 (operation.blocks_parent_settlement ≠ some true) "operation_root_blocking_invalid"
      "Only a child operation can block parent settlement."
  else
    match parentOf snapshot operation with
    | none => .error (.assertion "operation_parent_invalid"
        "A child operation requires one current unsettled parent operation.")
    | some parent => do
      kernelAssertV2 parent.inFlight "operation_parent_invalid"
        "A child operation requires one current unsettled parent operation."
      kernelAssertV2 (sameAssignmentBindingV2 parent.binding operation.binding)
        "operation_parent_binding_mismatch"
        "Parent and child operations must share one Assignment binding."
      kernelAssertV2 (operation.root_operation_id
          = some (parent.root_operation_id.getD parent.operation_id)) "operation_root_identity_mismatch"
        "A child operation must retain the deterministic root operation identity."
      kernelAssertV2 (operation.operation_id ≠ parent.operation_id) "operation_child_identity_collision"
        "A child operation must have its own immutable identity."
      onlyIf snapshot.spec.semanticEvidence (checkDelegation parent operation)

def checkRequestIdentity (operation : OperationV2) (identity : OperationRequestIdentityV2) :
    Except KernelFault Unit := do
  kernelAssertV2 (identity.capability_id = operation.capability_id) "operation_request_capability_mismatch"
    "Operation request identity must preserve its admitted capability."
  kernelAssertV2 (text.nonBlank identity.request_signature) "operation_request_signature_missing"
    "Operation request identity requires a stable signature."

/-- The derived retry names the cited predecessor. -/
def retryNamed (derived : Option TypedRetry) (operation : OperationV2) : Bool :=
  derived.any fun retry => some retry.retry_of_operation_id == operation.retry_of_operation_id

/-- The derived retry names the cited predecessor and later operation. -/
def retryNamedAfter (derived : Option TypedRetry) (operation : OperationV2) : Bool :=
  retryNamed derived operation && derived.any fun retry =>
    retry.retry_after_operation_id == operation.retry_after_operation_id

/-- A corrected input asks the rejected route again with another signature. -/
def correctedInput (prior operation : OperationV2) : Bool :=
  match prior.result.bind OperationResultV2.input_schema_gap with
  | none => false
  | some gap => operation.capability_id == prior.capability_id
      && (operation.request_identity.bind OperationRequestIdentityV2.method) == some gap.method
      && (operation.request_identity.bind OperationRequestIdentityV2.path) == some gap.path
      && (operation.request_identity.map OperationRequestIdentityV2.request_signature)
        != some gap.request_signature

/-- A retry basis that the history has to bear out is rederived from it. -/
def checkRetryBasis (host : JavaScriptHost) (snapshot : AssignmentSnapshotV2) (prior operation : OperationV2) :
    RetryBasisV2 → Except KernelFault Unit
  | .native_pre_dispatch_read => kernelAssertV2
      (retryNamed (preDispatchReadRetryV2 snapshot operation) operation)
      "operation_pre_dispatch_read_retry_invalid"
      "Retry requires an unused, settled native non-dispatch of the same verification read and unchanged committed subject."
  | .committed_target_read => kernelAssertV2
      (retryNamedAfter (committedReadRefreshV2 host snapshot operation) operation)
      "operation_committed_read_refresh_invalid"
      "Inspection refresh requires an unused later native commit on an exact declared target."
  | .committed_document_read => kernelAssertV2
      (retryNamedAfter (committedDocumentReadRefreshV2 host snapshot operation) operation)
      "operation_committed_document_read_refresh_invalid"
      "Read refresh requires an unused later native commit to the same bound document. It is not write or completion authority."
  | .family_session_capacity_released => do
    let derived ← familyCapacityRetryV2 snapshot operation
    kernelAssertV2 (retryNamedAfter derived operation) "operation_family_capacity_retry_invalid"
      "Retry requires a retained native capacity refusal and an unused later confirmed no-save close."
  | .committed_target_change => kernelAssertV2
      (retryNamedAfter (committedTargetChangeRetryV2 snapshot operation) operation)
      "operation_committed_target_retry_invalid"
      "Retry requires an unused, later committed native change on an exact target or retained native failure dependency."
  | .corrected_input => kernelAssertV2 (correctedInput prior operation)
      "operation_corrected_input_retry_invalid"
      "Corrected-input retry must bind to the exact schema-rejected capability and route with materially changed input."
  | .corrected_admission | .new_target | .reconciled_none | .changed_plan | .authorization_restored
  | .host_recovered => .ok ()

/-- The retry bases that name a later operation. -/
def retryBasisNamesChange (basis : Option RetryBasisV2) : Bool :=
  basis == some .committed_target_change || basis == some .family_session_capacity_released
    || basis == some .committed_target_read || basis == some .committed_document_read

/-- A retry follows a settled operation without effect. -/
def checkRetryOf (host : JavaScriptHost) (snapshot : AssignmentSnapshotV2) (operation : OperationV2) :
    Except KernelFault Unit :=
  match operation.retry_of_operation_id.bind snapshot.operations.get? with
  | none => .error (.assertion "operation_retry_unsafe" "A retry requires a settled no-effect predecessor.")
  | some prior => do
    kernelAssertV2 (prior.settlement_state = .settled ∧ prior.persistent_effect = .none)
      "operation_retry_unsafe" "A retry requires a settled no-effect predecessor."
    match operation.retry_basis with
    | none => .error (.assertion "operation_retry_basis_missing"
        "A retry must state the material correction that permits it.")
    | some basis => checkRetryBasis host snapshot prior operation basis

def checkRetry (host : JavaScriptHost) (snapshot : AssignmentSnapshotV2) (operation : OperationV2) :
    Except KernelFault Unit := do
  if truthy operation.retry_of_operation_id then checkRetryOf host snapshot operation
  else
    kernelAssertV2 (operation.retry_basis = none) "operation_retry_basis_unbound"
      "Retry basis requires a predecessor operation."
  kernelAssertV2 (¬ truthy operation.retry_after_operation_id ∨ retryBasisNamesChange operation.retry_basis)
    "operation_retry_change_unbound" "A committed-change reference requires its typed retry basis."

/-- A verification inspects exactly the target of one settled applied edit. -/
def checkVerificationSubject (host : JavaScriptHost) (snapshot : AssignmentSnapshotV2)
    (operation : OperationV2) : Except KernelFault Unit :=
  if operation.purpose = .verification then
    match (if truthy operation.verification_of_operation_id then
        operation.verification_of_operation_id.bind snapshot.operations.get? else none) with
    | none => .error (.assertion "operation_verification_subject_invalid"
        "Verification must bind to one settled applied operation.")
    | some subject => do
      kernelAssertV2 (subject.requested_effect = .apply ∧ subject.persistent_effect = .applied
          ∧ subject.settlement_state = .settled) "operation_verification_subject_invalid"
        "Verification must bind to one settled applied operation."
      kernelAssertV2 (admittedTargets operation ≠ []
          ∧ (admittedTargets operation).all (fun target =>
            operationMatchesTargetIdentityV2 host subject [target])
          ∧ operation.target.document_fingerprint = subject.target.document_fingerprint)
        "operation_verification_target_mismatch"
        "Verification must inspect the exact applied target in the same document."
  else kernelAssertV2 (¬ truthy operation.verification_of_operation_id)
    "operation_verification_relation_unbound" "Only a verification operation may cite an applied operation."

/-- A new operation claims neither dispatch nor result nor effect. -/
def checkAdmissionShape (operation : OperationV2) : Except KernelFault Unit := do
  kernelAssertV2 (operation.admission_state = .admitted ∧ operation.dispatch_state = .not_dispatched)
    "operation_admission_shape_invalid" "A newly admitted operation must not already claim dispatch."
  kernelAssertV2 (operation.persistent_effect = .none ∧ operation.settlement_state = .open_
      ∧ ¬ truthy operation.settled_at ∧ operation.result = none
      ∧ operation.native_completion_reconciliation = none) "operation_admission_effect_invalid"
    "A newly admitted operation cannot claim a result, persistent effect, or settlement."

def validateOperationAdmission (host : JavaScriptHost) (snapshot : AssignmentSnapshotV2)
    (operation : OperationV2) : Except KernelFault Unit := do
  assertProviderUsageOperationAdmissionV1 snapshot operation
  checkNoDerivedContext operation
  checkAdmissionGate host snapshot operation
  match findWorkUnit snapshot.spec operation.work_unit_id with
  | none => .error (.assertion "operation_work_unit_unknown"
      "Operation work unit is not in AssignmentSpecV2.")
  | some unit =>
    onlyIf snapshot.spec.semanticEvidence (checkFulfillment snapshot.spec unit operation)
    checkProgressBinding host snapshot unit operation
    checkCitations host snapshot operation
    checkRepeat host snapshot operation
    checkWorkUnit snapshot unit operation
    checkTopology snapshot operation
    forEach operation.request_identity.toList (checkRequestIdentity operation)
    checkRetry host snapshot operation
    checkVerificationSubject host snapshot operation
    checkAdmissionShape operation

end revit_operator.assignment_kernel
