import RevitOperator.AssignmentKernel.CriterionEvaluator
import RevitOperator.AssignmentKernel.ExecutionPolicy
import RevitOperator.AssignmentKernel.Progress.ExecutionTime

namespace revit_operator.assignment_kernel

/-- The basis the controller evaluates a criterion on. -/
def controllerBasis (spec : AssignmentSpecV2) (criterion : AssignmentCriterionSpecV2) : CriterionBasisV2 :=
  if spec.requested_effect = .apply ∧ criterion.comparesDesiredState then .desired_state_equivalence
  else .observation

/-- The admitted observations that state a fact the criterion requires. -/
def relevantObservationIds (host : JavaScriptHost) (snapshot : AssignmentSnapshotV2)
    (criterion : AssignmentCriterionSpecV2) : List String :=
  text.sorted ((snapshot.observations.values.filter fun observation =>
    observationAdmitted host snapshot criterion observation none
        (some (controllerBasis snapshot.spec criterion))
      && observation.facts.any fun fact =>
        criterion.semantic_fact_requirements.contains fact.fact_id).map ObservationV2.observation_id)

/-- The overall result criterion waits until the declared work is finished. -/
def waitsForWorkPlan (host : JavaScriptHost) (snapshot : AssignmentSnapshotV2)
    (criterion : AssignmentCriterionSpecV2) : Bool :=
  snapshot.spec.requested_effect == .apply && workPlanPendingV2 host snapshot
    && !verifiedSavedPartialV2 host snapshot && asksOnlyForResult criterion

/-- An observation of the criterion is newer than its evaluation. -/
def observedSinceEvaluation (snapshot : AssignmentSnapshotV2) (criterion : AssignmentCriterionSpecV2)
    (observationIds : List String) : Bool :=
  let evaluated := (snapshot.criterion_evaluation_versions.get? criterion.criterion_id).getD 0
  observationIds.any fun id => evaluated < (snapshot.observation_versions.get? id).getD 0

/-- The criteria whose new observations are not evaluated yet, with the
    observations to evaluate. -/
def criteriaPendingEvaluationV2 (host : JavaScriptHost) (snapshot : AssignmentSnapshotV2) :
    Record (List String) :=
  snapshot.spec.criteria.foldl
    (fun pending criterion =>
      let observations := relevantObservationIds host snapshot criterion
      if !waitsForWorkPlan host snapshot criterion
          && observedSinceEvaluation snapshot criterion observations then
        pending.set criterion.criterion_id observations
      else pending)
    ∅

def inputSchemaDocumentationCapabilities : List String := ["revit_tool_doc", "revit_tool_examples"]

/-- The same capability asks the rejected route again with another input. -/
def correctsRejectedInput (gap : OperationInputSchemaGapV2) (rejected candidate : OperationV2) : Bool :=
  match candidate.request_identity with
  | none => false
  | some identity => identity.method == some gap.method && identity.path == some gap.path
      && ((candidate.capability_id == rejected.capability_id
          && identity.request_signature != gap.request_signature)
        || inputSchemaDocumentationCapabilities.contains candidate.capability_id)

/-- A settled child of the candidate that read supporting documentation. -/
def isDocumentationChild (candidate child : OperationV2) : Bool :=
  child.parent_operation_id == some candidate.operation_id && child.settlement_state == .settled
    && (child.result.map OperationResultV2.status) == some .succeeded && !child.observation_ids.isEmpty
    && (child.fulfillment_role == some .supporting_control || child.fulfillment_role == some .prerequisite)

/-- The text of an input member, empty when the member is nullish. -/
def inputText (host : JavaScriptHost) (operation : OperationV2) (key : String) : String :=
  if operation.input.isNullish key then "" else host.stringOf (operation.input.field key)

/-- A later operation of the same run corrected the rejected input, or read the
    exact documentation of its route. -/
def resolvesInputSchemaGap (host : JavaScriptHost) (snapshot : AssignmentSnapshotV2)
    (rejected : OperationV2) (gap : OperationInputSchemaGapV2) (candidate : OperationV2) : Bool :=
  match candidate.result with
  | none => false
  | some result =>
    let correctedRetry := candidate.retry_of_operation_id == some rejected.operation_id
      && candidate.retry_basis == some .corrected_input && correctsRejectedInput gap rejected candidate
      && result.dispatch_state == .dispatched && !candidate.observation_ids.isEmpty
    let documentation := candidate.fulfillment_role == some .supporting_control
      && inputSchemaDocumentationCapabilities.contains candidate.capability_id
      && host.toUpperCase (inputText host candidate "method") == gap.method.toText
      && inputText host candidate "path" == gap.path
      && (!candidate.observation_ids.isEmpty
        || snapshot.operations.values.any (isDocumentationChild candidate))
    candidate.operation_id != rejected.operation_id && candidate.resolves_gap_ids.contains gap.gap_id
      && candidate.settlement_state == .settled
      && (result.status == .succeeded || result.status == .completed_without_native_dispatch)
      && candidate.binding.run_id == rejected.binding.run_id
      && candidate.binding.generation == rejected.binding.generation
      && (correctedRetry || documentation)

def inputSchemaGapResolvedV2 (host : JavaScriptHost) (snapshot : AssignmentSnapshotV2)
    (rejected : OperationV2) : Bool :=
  match rejected.result.bind OperationResultV2.input_schema_gap with
  | none => false
  | some gap => snapshot.operations.values.any (resolvesInputSchemaGap host snapshot rejected gap)

/-- A settled task preview without a typed fact that the preview is valid. -/
def settledPreviewWithoutTypedProof (snapshot : AssignmentSnapshotV2) (operation : OperationV2) : Bool :=
  operation.requested_effect == .preview && operation.fulfillment_role == some .delegated_task_execution
    && operation.settlement_state == .settled
    && (operation.result.map OperationResultV2.status) == some .succeeded
    && !operation.observation_ids.any fun id =>
      match snapshot.observations.get? id with
      | none => false
      | some observation => observation.facts.any fun fact =>
          fact.fact_id == "task.preview_valid" && fact.fact_class == some .domain && fact.value.isTrue

def requiredCriterionIds (spec : AssignmentSpecV2) : List String :=
  (spec.criteria.filter AssignmentCriterionSpecV2.required).map AssignmentCriterionSpecV2.criterion_id

def workPlanGaps (host : JavaScriptHost) (snapshot : AssignmentSnapshotV2) : List ProgressGapV2 :=
  if workPlanPendingV2 host snapshot then
    [{ gap_id := "work-plan:scope"
       kind := .work_plan_required
       criterion_ids := requiredCriterionIds snapshot.spec
       work_unit_ids := ["work-primary", "work-discovery", "work-evidence"]
       current_observation_ids := [] }]
  else []

def resultDeliveryGaps (snapshot : AssignmentSnapshotV2) : List ProgressGapV2 :=
  if snapshot.spec.result_delivery_required && snapshot.result_delivery.isNone then
    [{ gap_id := "result:delivery"
       kind := .result_delivery_required
       criterion_ids := requiredCriterionIds snapshot.spec
       work_unit_ids := ["work-primary", "work-evidence"]
       current_observation_ids := (snapshot.observations.values.filter
         fun observation => observation.evidence_class == some .task_result).map
           ObservationV2.observation_id }]
  else []

/-- A result that failed its semantic contract, or a preview without proof. -/
def semanticResultGaps (snapshot : AssignmentSnapshotV2) (operation : OperationV2) :
    List ProgressGapV2 :=
  let semanticGap := operation.result.bind OperationResultV2.result_semantic_gap
  if semanticGap.isSome || settledPreviewWithoutTypedProof snapshot operation then
    [{ gap_id := (semanticGap.map OperationResultSemanticGapV2.gap_id).getD
         ("result-semantics:" ++ operation.operation_id)
       kind := .operation_result_semantic_invalid
       criterion_ids := operation.advances_criterion_ids
       work_unit_ids := [operation.work_unit_id]
       current_observation_ids := operation.observation_ids }]
  else []

def inputSchemaGaps (host : JavaScriptHost) (snapshot : AssignmentSnapshotV2)
    (operation : OperationV2) : List ProgressGapV2 :=
  match operation.result.bind OperationResultV2.input_schema_gap with
  | none => []
  | some gap =>
    if inputSchemaGapResolvedV2 host snapshot operation then []
    else
      [{ gap_id := gap.gap_id
         kind := .operation_input_schema_invalid
         criterion_ids := operation.advances_criterion_ids
         work_unit_ids := [operation.work_unit_id]
         current_observation_ids := [] }]

def missingInputGap (snapshot : AssignmentSnapshotV2) (variableId : String) : ProgressGapV2 :=
  let units := snapshot.spec.work_units.filter
    fun unit => (workUnitInputVariableIdsV2 snapshot unit.work_unit_id).contains variableId
  { gap_id := "input:" ++ variableId
    kind := .input_missing
    criterion_ids := text.sortedUnique (units.flatMap AssignmentWorkUnitSpecV2.criterion_ids)
    work_unit_ids := text.sortedUnique (units.map AssignmentWorkUnitSpecV2.work_unit_id)
    current_observation_ids := [] }

def unknownEffectGap (snapshot : AssignmentSnapshotV2) (operationId : String) : ProgressGapV2 :=
  let operation := snapshot.operations.get? operationId
  { gap_id := "effect:" ++ operationId
    kind := .effect_unknown
    criterion_ids := (operation.map OperationV2.advances_criterion_ids).getD []
    work_unit_ids := (operation.map OperationV2.work_unit_id).toList
    current_observation_ids := (operation.map OperationV2.observation_ids).getD [] }

/-- A settled applied edit that no verification has confirmed. -/
def verificationGaps (snapshot : AssignmentSnapshotV2) (operation : OperationV2) : List ProgressGapV2 :=
  if operation.requested_effect == .apply && operation.persistent_effect == .applied
      && operation.settlement_state == .settled
      && !appliedOperationHasVerifiedPostconditionV2 snapshot operation.operation_id then
    let reserved := snapshot.spec.work_units.any
      fun unit => unit.work_unit_id == ASSIGNMENT_VERIFICATION_WORK_UNIT_ID_V2
    [{ gap_id := "verification:" ++ operation.operation_id
       kind := .verification_required
       criterion_ids := operation.advances_criterion_ids
       work_unit_ids := [if reserved then ASSIGNMENT_VERIFICATION_WORK_UNIT_ID_V2 else operation.work_unit_id]
       current_observation_ids := text.sorted (operation.verification_operation_ids.flatMap fun id =>
         ((snapshot.operations.get? id).map OperationV2.observation_ids).getD []) }]
  else []

/-- A required criterion that neither passes nor is out of scope. -/
def criterionGaps (host : JavaScriptHost) (snapshot : AssignmentSnapshotV2)
    (criterion : AssignmentCriterionSpecV2) : List ProgressGapV2 :=
  let status := (snapshot.criteria.get? criterion.criterion_id).map CriterionEvaluationV2.status
  if !criterion.required || status == some .pass || status == some .not_applicable then []
  else
    let units := snapshot.spec.work_units.filter
      fun unit => unit.criterion_ids.contains criterion.criterion_id
    [{ gap_id := "criterion:" ++ criterion.criterion_id
       kind := if status = some .uncertain then .criterion_uncertain else .criterion_fact_missing
       criterion_ids := [criterion.criterion_id]
       work_unit_ids := text.sorted (units.map AssignmentWorkUnitSpecV2.work_unit_id)
       current_observation_ids := relevantObservationIds host snapshot criterion }]

/-- The unresolved work of a snapshot, kind by kind. -/
def deriveProgressGapsV2 (host : JavaScriptHost) (snapshot : AssignmentSnapshotV2) : List ProgressGapV2 :=
  let operations := snapshot.operations.values
  workPlanGaps host snapshot ++ resultDeliveryGaps snapshot
    ++ operations.flatMap (semanticResultGaps snapshot)
    ++ operations.flatMap (inputSchemaGaps host snapshot)
    ++ snapshot.pending_input_variable_ids.map (missingInputGap snapshot)
    ++ snapshot.unresolved_unknown_operation_ids.map (unknownEffectGap snapshot)
    ++ operations.flatMap (verificationGaps snapshot)
    ++ snapshot.spec.criteria.flatMap (criterionGaps host snapshot)

/-- The epochs since the last one with progress or with other gaps. -/
def assignmentConsecutiveNoProgressEpochsV2 (snapshot : AssignmentSnapshotV2) : Nat :=
  match snapshot.progress_epochs.getLast? with
  | none => 0
  | some latest =>
    if latest.genuine_progress then 0
    else (snapshot.progress_epochs.reverse.takeWhile fun epoch =>
      !epoch.genuine_progress && epoch.unresolved_gap_ids == latest.unresolved_gap_ids).length

/-- The tokens the provider calls of a snapshot have consumed. -/
def consumedTokens (snapshot : AssignmentSnapshotV2) : ℚ :=
  (snapshot.provider_calls.values.map ProviderCallV2.totalTokens).sum

/-- The resource that stops further host readbacks, if one is used up. -/
def assignmentNativeReadbackResourceBlockerV2 (host : JavaScriptHost) (snapshot : AssignmentSnapshotV2)
    (budget : AssignmentProgressBudgetV2) (now : String) (additionalOperations : Int) : Option String :=
  if !isSafeInteger additionalOperations || additionalOperations < 0 then
    some "invalid_readback_operation_count"
  else if budget.max_operations < snapshot.operations.ids.length + additionalOperations then
    some "operation_budget_exhausted"
  else if !advisoryVerificationV2 snapshot.spec
      && budget.max_no_progress_epochs ≤ assignmentConsecutiveNoProgressEpochsV2 snapshot then
    some "no_progress_budget_exhausted"
  else if budget.max_total_tokens ≤ consumedTokens snapshot then some "token_budget_exhausted"
  else if !activeTimeBelow host snapshot now budget.max_wall_clock_ms then some "execution_lease_exhausted"
  else none

/-- The resource that stops further reasoning, if one is used up. -/
def assignmentProgressBudgetBlockerV2 (host : JavaScriptHost) (snapshot : AssignmentSnapshotV2)
    (budget : AssignmentProgressBudgetV2) (now : String) : Option String :=
  let reasoningTurns := (snapshot.provider_calls.values.filter fun call => call.state != .admitted).length
  if budget.max_provider_calls ≤ snapshot.provider_calls.ids.length then some "provider_call_budget_exhausted"
  else if budget.max_reasoning_turns ≤ reasoningTurns then some "reasoning_turn_budget_exhausted"
  else if budget.max_operations ≤ snapshot.operations.ids.length then some "operation_budget_exhausted"
  else assignmentNativeReadbackResourceBlockerV2 host snapshot budget now 0

/-- What makes two operations the same progress. Its canonical text is
    injective, so equal texts are equal identities. -/
structure OperationProgressIdentity where
  capability_id : String
  requested_effect_value : RequestedEffectV2
  purpose : OperationPurposeV2
  target : Json
  input : Json
  advances_criterion_ids : List String
  eligible_criterion_ids : List String
  fulfillment_role : Option OperationFulfillmentRoleV2
  resolves_gap_ids : List String
  operation_role : OperationRoleV2
  parent_operation_id : Option String
  request_identity : Option OperationRequestIdentityV2
deriving DecidableEq

def operationProgressIdentityV2 (operation : OperationV2) : OperationProgressIdentity where
  capability_id := operation.capability_id
  requested_effect_value := operation.requested_effect
  purpose := operation.purpose
  target := operation.target.toJson.canonicalValue
  input := operation.input.canonicalValue
  advances_criterion_ids := text.sorted operation.advances_criterion_ids
  eligible_criterion_ids := text.sorted (operation.eligible_criterion_ids.getD [])
  fulfillment_role := operation.fulfillment_role
  resolves_gap_ids := text.sorted operation.resolves_gap_ids
  operation_role := operation.role
  parent_operation_id := operation.parent_operation_id
  request_identity := operation.request_identity

end revit_operator.assignment_kernel
