import RevitOperator.AssignmentKernel.CheckpointContinuation
import RevitOperator.AssignmentKernel.Lifecycle
import RevitOperator.AssignmentKernel.ProviderLedger
import RevitOperator.AssignmentKernel.ResultDelivery
import RevitOperator.AssignmentKernel.WorkPlanLocation
import RevitOperator.Library.Run

open checked

namespace revit_operator.assignment_kernel

/-- What the reducer carries from one event to the next. -/
structure ReducerStateV2 where
  snapshot : Option AssignmentSnapshotV2
  superseded : Bool
  clarificationByVariable : Record String
  providerUsageHoldIds : List String

def ReducerStateV2.initial : ReducerStateV2 := ⟨none, false, ∅, []⟩

def current (state : ReducerStateV2) : Except KernelFault AssignmentSnapshotV2 :=
  match state.snapshot with
  | none => .error (.assertion "assignment_not_created" "The first V2 event must create the Assignment.")
  | some snapshot => .ok snapshot

/-- The version the next event has to carry. -/
def expectedVersion (state : ReducerStateV2) : Nat :=
  match state.snapshot with
  | none => 1
  | some snapshot => snapshot.assignment_version + 1

def validateVersion (state : ReducerStateV2) (event : AssignmentEventV2) : Except KernelFault Unit := do
  kernelAssertV2 (event.assignment_version = expectedVersion state) "assignment_event_out_of_order"
    s!"Expected Assignment version {expectedVersion state}."
  kernelAssertV2 (event.binding.assignment_id = event.assignment_id) "assignment_event_binding_mismatch"
    "Event Assignment identity disagrees with its binding."

/-- The evidence policy of one criterion under typed semantic evidence. -/
def checkEvidencePolicy (criterion : AssignmentCriterionSpecV2) : Except KernelFault Unit :=
  match criterion.evidence_policy with
  | none => .error (.assertion "criterion_evidence_policy_missing"
      "Semantic-evidence criteria require one explicit evidence policy.")
  | some policy => do
    kernelAssertV2 (policy.schema = CRITERION_EVIDENCE_POLICY_V2_SCHEMA)
      "criterion_evidence_policy_schema_invalid"
      "Criterion evidence policy schema must be the current shared contract."
    kernelAssertV2 (text.sorted policy.required_fact_ids = text.sorted criterion.semantic_fact_requirements)
      "criterion_evidence_policy_fact_mismatch"
      "Criterion fact requirements and evidence-policy requirements must be identical."
    kernelAssertV2 (policy.allowed_evidence_classes ≠ [] ∧ policy.allowed_fulfillment_roles ≠ []
        ∧ policy.allowed_fact_classes ≠ []) "criterion_evidence_policy_empty"
      "Criterion evidence policy must declare evidence, fulfillment, and fact classes."
    kernelAssertV2 (.control ∉ policy.allowed_fact_classes) "criterion_control_fact_forbidden"
      "User-task criteria cannot admit control facts as acceptance evidence."
    kernelAssertV2 (policy.allowed_evidence_classes.Nodup ∧ policy.allowed_fulfillment_roles.Nodup
        ∧ policy.allowed_fact_classes.Nodup ∧ policy.allowed_capability_ids.Nodup
        ∧ policy.allowed_result_schema_ids.Nodup ∧ policy.required_fact_ids.Nodup)
      "criterion_evidence_policy_duplicate" "Criterion evidence policy entries must be unique."

def checkCreation (host : JavaScriptHost) (state : ReducerStateV2) (event : AssignmentEventV2)
    (spec : AssignmentSpecV2) : Except KernelFault Unit := do
  kernelAssertV2 state.snapshot.isNone "assignment_already_created" "Assignment creation is unique."
  kernelAssertV2 (validLocalAdvisoryPolicyV1 host spec) "assignment_execution_policy_invalid"
    "Local experiment policy must be bounded and bound at creation."
  kernelAssertV2 (spec.interpreted_scope = none ∨ validBoundOperationScope host spec)
    "assignment_interpreted_scope_invalid"
    "Interpreted scope must bind the exact source and required inputs at creation."
  kernelAssertV2 (event.assignment_id = spec.binding.assignment_id
      ∧ sameAssignmentBindingV2 event.binding spec.binding) "assignment_spec_binding_mismatch"
    "Creation event and spec binding disagree."
  onlyIf spec.semanticEvidence (forEach spec.criteria checkEvidencePolicy)

/-- The snapshot an assignment starts with. -/
def createdSnapshot (event : AssignmentEventV2) (spec : AssignmentSpecV2) : AssignmentSnapshotV2 where
  assignment_version := event.assignment_version
  spec
  current_binding := event.binding
  user_followup_allocation := none
  work_plan_scope_requests := []
  execution_control := none
  provider_usage_hold := none
  discovered_inputs := ∅
  input_values := .ofPairs ((spec.input_variables.filter fun input => input.value_state == .known).map
    fun input => (input.variable_id, input.value))
  input_invalidated_operation_ids := []
  pending_input_variable_ids := text.sorted ((spec.input_variables.filter
    fun input => input.required && input.value_state != .known).map AssignmentInputVariableV2.variable_id)
  clarifications := ∅
  work_unit_states := .ofPairs (spec.work_units.map fun unit => (unit.work_unit_id, .pending))
  pending_review_ids := []
  completion_proposal := none
  provider_call_ids := []
  provider_calls := ∅
  in_flight_provider_call_ids := []
  provider_budget_exhausted := false
  execution_failure_ids := []
  execution_failures := ∅
  progress_epochs := []
  progress_blocker := none
  operations := ∅
  operation_children := ∅
  blocking_child_operation_ids := []
  observations := ∅
  observation_versions := ∅
  criteria := ∅
  criterion_evaluation_versions := ∅
  outcome := .active
  terminal := false
  result_delivery := none
  advisory_followups := []
  work_plan_claims := []
  work_plan := none
  terminal_reason := none
  in_flight_operation_ids := []
  unresolved_unknown_operation_ids := []
  quiescent := true
  finished_at := none

/-- The snapshot as the first event of a run finds it. -/
def AssignmentSnapshotV2.inRun (snapshot : AssignmentSnapshotV2) (binding : AssignmentBindingV2)
    (version : Nat) : AssignmentSnapshotV2 :=
  { snapshot with
    current_binding := binding
    assignment_version := version }

/-- A new run keeps the trusted scope and has a later generation. -/
def startRun (state : ReducerStateV2) (snapshot : AssignmentSnapshotV2) (event : AssignmentEventV2) :
    Except KernelFault AssignmentSnapshotV2 := do
  kernelAssertV2 state.superseded "assignment_run_not_superseded"
    "A new run requires explicit supersession."
  kernelAssertV2 (event.binding.assignment_id = snapshot.current_binding.assignment_id
      ∧ event.binding.session_id = snapshot.current_binding.session_id
      ∧ event.binding.principal_id = snapshot.current_binding.principal_id
      ∧ event.binding.document_fingerprint = snapshot.current_binding.document_fingerprint
      ∧ snapshot.current_binding.generation < event.binding.generation) "assignment_run_binding_invalid"
    "New run must preserve trusted scope and advance generation."
  return snapshot.inRun event.binding event.assignment_version

def recordUsageHold (host : JavaScriptHost) (state : ReducerStateV2) (snapshot : AssignmentSnapshotV2)
    (event : AssignmentEventV2) (hold : ProviderUsageHoldV1) : Except KernelFault AssignmentSnapshotV2 := do
  validateProviderUsageHoldV1 host snapshot event.actor event.occurred_at hold
  kernelAssertV2 (hold.hold_id ∉ state.providerUsageHoldIds) "provider_usage_hold_identity_reused"
    "A retired hold identity cannot be resurrected."
  return { snapshot with provider_usage_hold := some hold }

def checkSupersession (snapshot : AssignmentSnapshotV2) (event : AssignmentEventV2) (generation : Int) :
    Except KernelFault Unit := do
  kernelAssertV2 (snapshot.provider_usage_hold = none) "assignment_provider_usage_held"
    "A usage hold must be explicitly resumed before replacing its run."
  kernelAssertV2 (event.binding.generation < generation) "assignment_generation_not_advanced"
    "Supersession must advance generation."
  kernelAssertV2 snapshot.quiescent "assignment_run_not_quiescent"
    "A run cannot be superseded while operations are unresolved."

def changeWorkUnitState (snapshot : AssignmentSnapshotV2) (workUnitId : String)
    (unitState : AssignmentWorkUnitStateV2) : Except KernelFault AssignmentSnapshotV2 := do
  kernelAssertV2 (snapshot.work_unit_states.has workUnitId) "work_unit_unknown"
    "Work unit is not in AssignmentSpecV2."
  return { snapshot with work_unit_states := snapshot.work_unit_states.set workUnitId unitState }

/-- A question may declare the variable it asks for. -/
def declareInput (host : JavaScriptHost) (snapshot : AssignmentSnapshotV2) (variableId : String)
    (declaration : Option DiscoveredAssignmentInputV2) : Except KernelFault AssignmentSnapshotV2 :=
  match declaration with
  | none => .ok snapshot
  | some declaration => do
    kernelAssertV2 (declaration.variable_.variable_id = variableId) "input_declaration_binding_invalid"
      "Question and declared variable must agree."
    appendDiscoveredInputV2 host snapshot declaration

def requestInput (host : JavaScriptHost) (state : ReducerStateV2) (snapshot : AssignmentSnapshotV2)
    (occurredAt variableId clarificationId question : String)
    (declaration : Option DiscoveredAssignmentInputV2) : Except KernelFault AssignmentSnapshotV2 := do
  let declared ← declareInput host snapshot variableId declaration
  kernelAssertV2 ((assignmentInputVariablesV2 declared).any fun candidate =>
      candidate.variable_id == variableId) "input_variable_unknown"
    "Input variable is not in AssignmentSpecV2."
  kernelAssertV2 (¬ state.clarificationByVariable.has variableId) "input_clarification_already_pending"
    "Input variable already has an unresolved clarification."
  return { declared with
    pending_input_variable_ids :=
      text.sortedUnique (declared.pending_input_variable_ids ++ [variableId])
    clarifications := declared.clarifications.set clarificationId
      ⟨clarificationId, variableId, question, occurredAt, none⟩ }

def INVALIDATE_DEPENDENT_RESULTS_V1 : String := "invalidate_dependent_results_v1"

/-- An interpreted prerequisite is answered by the user, and well enough. -/
def checkPrerequisiteAnswer (spec : AssignmentSpecV2) (actor variableId : String) (value : Option Json) :
    Except KernelFault Unit := do
  let asked := (prerequisitesOf spec).filter fun prerequisite => prerequisite.variable_id == variableId
  onlyIf (asked ≠ []) do
    kernelAssertV2 (actor = "authenticated-user") "input_prerequisite_authority_invalid"
      "Only an authenticated user can resolve a interpreted prerequisite."
    kernelAssertV2 (asked.all fun prerequisite => prerequisiteValueSatisfied prerequisite.kind value)
      "input_prerequisite_unresolved"
      "A prerequisite requires information or explicit approval, not an empty or arbitrary value."

/-- The snapshot with an answer saved and its clarification resolved. -/
def answeredSnapshot (snapshot : AssignmentSnapshotV2) (occurredAt variableId clarificationId : String)
    (value : Option Json) : AssignmentSnapshotV2 :=
  { snapshot with
    input_values := snapshot.input_values.set variableId value
    pending_input_variable_ids := snapshot.pending_input_variable_ids.filter (· != variableId)
    clarifications := match snapshot.clarifications.get? clarificationId with
      | none => snapshot.clarifications
      | some asked => snapshot.clarifications.set clarificationId
          { asked with resolved_at := some occurredAt } }

def supplyInput (state : ReducerStateV2) (snapshot : AssignmentSnapshotV2)
    (actor occurredAt variableId clarificationId : String) (value : Option Json)
    (resultFreshness : Option String) : Except KernelFault AssignmentSnapshotV2 := do
  checkPrerequisiteAnswer snapshot.spec actor variableId value
  kernelAssertV2 (resultFreshness = none ∨ resultFreshness = some INVALIDATE_DEPENDENT_RESULTS_V1)
    "input_result_freshness_invalid" "Input result freshness must use the host contract."
  kernelAssertV2 (state.clarificationByVariable.get? variableId = some clarificationId)
    "clarification_binding_invalid" "Input does not resolve the current clarification."
  let answered := answeredSnapshot snapshot occurredAt variableId clarificationId value
  return if resultFreshness = some INVALIDATE_DEPENDENT_RESULTS_V1 then
    invalidateDependentInputResultsV2 answered variableId else answered

def isSuccessful : AssignmentOutcomeV2 → Bool
  | .complete | .complete_with_issues | .verified_noop => true
  | _ => false

def recordExecutionFailure (snapshot : AssignmentSnapshotV2) (failure : ExecutionFailureV2) :
    Except KernelFault AssignmentSnapshotV2 := do
  kernelAssertV2 (failure.schema = ASSIGNMENT_EXECUTION_FAILURE_V2_SCHEMA)
    "execution_failure_schema_invalid" "Execution failure requires the shared V2 schema."
  kernelAssertV2 (sameAssignmentBindingV2 snapshot.current_binding failure.binding)
    "execution_failure_binding_mismatch" "Execution failure binding is not current."
  kernelAssertV2 (text.isStableIdentity 239 failure.failure_id) "execution_failure_identity_invalid"
    "Execution failure requires one bounded stable identity."
  kernelAssertV2 (failure.code = executionFailureCodeV2 failure.error_class)
    "execution_failure_code_invalid" "Execution failure code must be derived from its typed class."
  kernelAssertV2 ((snapshot.execution_failures.get? failure.failure_id).isNone)
    "execution_failure_duplicate" "Execution failure identity is already retained."
  kernelAssertV2 (¬ isSuccessful snapshot.outcome) "execution_failure_after_success_forbidden"
    "An execution failure cannot replace already-derived successful work."
  return { snapshot with
    execution_failure_ids := snapshot.execution_failure_ids ++ [failure.failure_id]
    execution_failures := snapshot.execution_failures.set failure.failure_id failure }

def exhaustProviderBudget (snapshot : AssignmentSnapshotV2) (limit : Int) :
    Except KernelFault AssignmentSnapshotV2 := do
  kernelAssertV2 (0 < limit ∧ limit ≤ snapshot.provider_call_ids.length)
    "provider_budget_exhaustion_invalid"
    "Provider budget exhaustion requires the durable call count to reach the configured limit."
  return { snapshot with provider_budget_exhausted := true }

def recordProgressEpoch (snapshot : AssignmentSnapshotV2) (epoch : ProgressEpochV2) :
    Except KernelFault AssignmentSnapshotV2 := do
  kernelAssertV2 (sameAssignmentBindingV2 snapshot.current_binding epoch.binding)
    "progress_epoch_binding_mismatch" "Progress epoch binding is not current."
  kernelAssertV2 (epoch.before_assignment_version < epoch.after_assignment_version
      ∧ epoch.after_assignment_version < snapshot.assignment_version) "progress_epoch_version_invalid"
    "Progress epoch must describe an earlier bounded snapshot transition."
  kernelAssertV2 (¬ snapshot.progress_epochs.any fun earlier => earlier.epoch_id == epoch.epoch_id)
    "progress_epoch_duplicate" "Progress epoch identity already exists."
  return { snapshot with progress_epochs := snapshot.progress_epochs ++ [epoch] }

def blockProgress (snapshot : AssignmentSnapshotV2) (occurredAt code : String) (gapIds : List String) :
    Except KernelFault AssignmentSnapshotV2 := do
  kernelAssertV2 snapshot.quiescent "progress_blocked_not_quiescent"
    "Progress can be blocked only at a quiescent checkpoint."
  kernelAssertV2 (text.nonBlank code) "progress_blocker_code_missing"
    "Progress blocker requires a stable code."
  return { snapshot with progress_blocker := some ⟨code, text.sortedUnique gapIds, occurredAt⟩ }

def deliverResult (host : JavaScriptHost) (snapshot : AssignmentSnapshotV2) (actor : String)
    (delivery : AssignmentResultDeliveryV2) : Except KernelFault AssignmentSnapshotV2 := do
  kernelAssertV2 (actor = "operator-result-delivery") "assignment_result_delivery_authority_invalid"
    "Only the trusted evidence presentation boundary can retain a result."
  validateResultDeliveryV2 host snapshot delivery
  kernelAssertV2 (snapshot.result_delivery = none) "assignment_result_delivery_duplicate"
    "Result delivery is immutable."
  return { snapshot with result_delivery := some delivery }

def recordFollowupDisposition (snapshot : AssignmentSnapshotV2) (event : AssignmentEventV2)
    (disposition : AdvisoryFollowupDispositionV2) : Except KernelFault AssignmentSnapshotV2 := do
  kernelAssertV2 (advisoryVerificationV2 snapshot.spec ∧ event.actor = "operator-work-plan")
    "advisory_followup_not_enabled" "Unverified followups use the existing trusted work-plan boundary."
  kernelAssertV2 (¬ snapshot.paused ∧ snapshot.completion_proposal = none) "advisory_followup_not_active"
    "A new disposition cannot resume a paused task or release a checkpoint."
  kernelAssertV2 (event.event_id = "advisory-followup:" ++ disposition.command_id)
    "advisory_followup_command_invalid" "Disposition retries must retain their command identity."
  let followups ← dispositionAdvisoryFollowupV2 snapshot.advisory_followups disposition
    snapshot.assignment_version
  return { snapshot with advisory_followups := followups }

/-- The work plan an event of the trusted plan boundary leaves. -/
def replaceWorkPlan (snapshot : AssignmentSnapshotV2) (actor : String)
    (plan : Except KernelFault AssignmentWorkPlanV2) : Except KernelFault AssignmentSnapshotV2 := do
  kernelAssertV2 (actor = "operator-work-plan") "work_plan_authority_invalid"
    "Work plans use the trusted assignment boundary."
  let plan ← plan
  return { snapshot with work_plan := some plan }

def CURRENT_NATIVE_READS_V1 : String := "current_native_reads_v1"

def requestPlanScope (snapshot : AssignmentSnapshotV2) (actor occurredAt itemId : String) (scope : Json)
    (operationIds : List String) (readSelection : Option String) :
    Except KernelFault AssignmentSnapshotV2 := do
  kernelAssertV2 (actor = "operator-work-plan" ∧ validWorkPlanScopeV1 scope
      ∧ (findPlanItem snapshot itemId).isSome
      ∧ (readSelection = none ∨ readSelection = some CURRENT_NATIVE_READS_V1)
      ∧ (operationIds ≠ [] ∨ readSelection = some CURRENT_NATIVE_READS_V1)
      ∧ operationIds.length ≤ 128 ∧ operationIds.Nodup
      ∧ (operationIds.all fun id =>
        (snapshot.operations.get? id).map OperationV2.requested_effect == some .read)
      ∧ snapshot.work_plan_scope_requests.length < 256) "work_plan_scope_request_invalid"
    "A scope check retains a bounded selector and native read references; it cannot mark work complete."
  return { snapshot with
    work_plan_scope_requests := snapshot.work_plan_scope_requests
      ++ [⟨itemId, scope, operationIds, occurredAt, readSelection⟩] }

def claimPlanItem (snapshot : AssignmentSnapshotV2) (actor occurredAt itemId : String)
    (operationIds : List String) : Except KernelFault AssignmentSnapshotV2 := do
  kernelAssertV2 (advisoryVerificationV2 snapshot.spec ∧ actor = "operator-work-plan")
    "advisory_claim_not_enabled" "Unverified checklist claims require the trusted experimental boundary."
  kernelAssertV2 ((findPlanItem snapshot itemId).isSome ∧ operationIds.length ≤ 128
      ∧ operationIds.all snapshot.operations.has) "advisory_claim_invalid"
    "A claim must identify an existing item and retained operations."
  kernelAssertV2 (¬ (findPlanItem snapshot itemId).any workPlanItemDeferredV2) "work_plan_item_deferred"
    "Resume a deferred item before claiming its work."
  return { snapshot with
    work_plan_claims := snapshot.work_plan_claims ++ [⟨itemId, operationIds, occurredAt⟩] }

def checkOutcome (host : JavaScriptHost) (snapshot : AssignmentSnapshotV2) (outcome : AssignmentOutcomeV2) :
    Except KernelFault Unit :=
  kernelAssertV2 (outcome = deriveAssignmentOutcomeV2 host (withDerivedState host snapshot))
    "assignment_outcome_claim_invalid" "Outcome event contradicts the pure criterion projection."

/-- The assignment ends only at rest and with the outcome its criteria
    derive. -/
def endAssignment (host : JavaScriptHost) (snapshot : AssignmentSnapshotV2) (occurredAt : String)
    (outcome : TerminalOutcomeV2) (reason : String) : Except KernelFault AssignmentSnapshotV2 := do
  let derived := withDerivedState host snapshot
  kernelAssertV2 derived.quiescent "assignment_terminal_not_quiescent"
    "Terminal settlement requires quiescence."
  kernelAssertV2 (outcome.outcome = derived.outcome) "assignment_terminal_outcome_invalid"
    "Terminal outcome contradicts the pure criterion projection."
  return { derived with
    terminal := true
    terminal_reason := some reason
    finished_at := some occurredAt }

/-- What an event of the current run does to the snapshot, whose version is
    already the one of the event. -/
def recordEvent (host : JavaScriptHost) (state : ReducerStateV2) (snapshot : AssignmentSnapshotV2)
    (event : AssignmentEventV2) : Except KernelFault AssignmentSnapshotV2 :=
  match event.body with
  | .assignment_created _ | .run_started => .ok snapshot
  | .execution_control_requested request => applyAssignmentExecutionControlV2 host snapshot event.actor
      event.assignment_version event.occurred_at request
  | .provider_usage_hold_recorded hold => recordUsageHold host state snapshot event hold
  | .run_superseded generation => do
    checkSupersession snapshot event generation
    return snapshot
  | .work_unit_state_changed workUnitId unitState => changeWorkUnitState snapshot workUnitId unitState
  | .input_requested variableId clarificationId question declaration =>
    requestInput host state snapshot event.occurred_at variableId clarificationId question declaration
  | .input_supplied variableId clarificationId value resultFreshness =>
    supplyInput state snapshot event.actor event.occurred_at variableId clarificationId value
      resultFreshness
  | .provider_call_recorded callId provider model reasoningEffort success =>
    recordProviderCall snapshot event.occurred_at callId provider model reasoningEffort success
  | .provider_call_state_recorded call => applyProviderState host snapshot event.occurred_at call
  | .provider_call_receipt_recorded call => recordProviderReceipt snapshot call
  | .execution_failure_recorded failure => recordExecutionFailure snapshot failure
  | .provider_budget_exhausted limit => exhaustProviderBudget snapshot limit
  | .progress_epoch_recorded epoch => recordProgressEpoch snapshot epoch
  | .progress_blocked code gapIds => blockProgress snapshot event.occurred_at code gapIds
  | .operation_admitted operation => admitOperation host snapshot operation
  | .operation_dispatch_started operationId => startDispatch snapshot event.occurred_at operationId
  | .operation_dispatch_recorded operationId authority =>
    recordOperationDispatch snapshot event.occurred_at operationId authority
  | .native_dispatch_recorded operationId => recordNativeDispatch snapshot event.occurred_at operationId
  | .operation_result_recorded result commit => recordResult host snapshot result commit
  | .observation_retained observation => retainObservation host snapshot event.occurred_at observation
  | .observation_commit_retry_recorded operationId resultId attempt errorCode =>
    recordCommitRetry snapshot operationId resultId attempt errorCode
  | .observation_commit_failed operationId resultId attempt errorCode =>
    recordCommitFailure snapshot event.occurred_at operationId resultId attempt errorCode
  | .observation_retention_failed operationId errorCode =>
    recordRetentionFailure snapshot event.occurred_at operationId errorCode
  | .criterion_evaluated evaluation => recordEvaluation host snapshot evaluation
  | .result_delivered delivery => deliverResult host snapshot event.actor delivery
  | .work_plan_declared declaration =>
    replaceWorkPlan snapshot event.actor (declareWorkPlanV2 snapshot declaration event.occurred_at)
  | .work_plan_location_recorded itemId hint =>
    replaceWorkPlan snapshot event.actor
      (recordWorkPlanLocationV2 host snapshot itemId hint event.occurred_at)
  | .advisory_followup_disposition_recorded disposition =>
    recordFollowupDisposition snapshot event disposition
  | .work_plan_item_claimed itemId operationIds =>
    claimPlanItem snapshot event.actor event.occurred_at itemId operationIds
  | .work_plan_scope_requested itemId scope operationIds readSelection =>
    requestPlanScope snapshot event.actor event.occurred_at itemId scope operationIds readSelection
  | .work_plan_item_deferred itemId action reason =>
    replaceWorkPlan snapshot event.actor
      (deferWorkPlanItemV2 snapshot itemId action reason event.occurred_at)
  | .work_plan_item_completed itemId operationIds inspection =>
    replaceWorkPlan snapshot event.actor
      (completeWorkPlanItemV2 host snapshot itemId operationIds event.occurred_at inspection)
  | .review_requested reviewId workUnitIds proposal =>
    requestReview snapshot event.actor event.occurred_at reviewId workUnitIds proposal
  | .review_resolved reviewId decision continuation =>
    resolveReview host snapshot event.actor event.occurred_at reviewId decision continuation
  | .reconciliation_recorded operationId effect observationIds =>
    recordReconciliation snapshot operationId effect observationIds
  | .native_completion_reconciled operationId completion =>
    reconcileCompletion host snapshot event.actor operationId completion
  | .outcome_derived outcome => do
    checkOutcome host snapshot outcome
    return snapshot
  | .assignment_terminal outcome reason => endAssignment host snapshot event.occurred_at outcome reason

/-- Only a new trusted run follows supersession, and every other event belongs
    to the current run. -/
def checkOpenRun (state : ReducerStateV2) (snapshot : AssignmentSnapshotV2) (event : AssignmentEventV2) :
    Except KernelFault Unit := do
  kernelAssertV2 (¬ state.superseded) "assignment_run_superseded"
    "Only a new trusted run may follow run supersession."
  kernelAssertV2 (sameAssignmentBindingV2 snapshot.current_binding event.binding)
    "assignment_event_stale_binding" "Event does not bind to the current Assignment run and generation."

/-- What the reducer remembers of an accepted event beside the snapshot. -/
def remember (state : ReducerStateV2) (event : AssignmentEventV2) : ReducerStateV2 :=
  match event.body with
  | .run_started => { state with superseded := false }
  | .run_superseded _ => { state with superseded := true }
  | .provider_usage_hold_recorded hold =>
    { state with providerUsageHoldIds := hold.hold_id :: state.providerUsageHoldIds }
  | .input_requested variableId clarificationId _ _ =>
    { state with
      clarificationByVariable := state.clarificationByVariable.set variableId clarificationId }
  | .input_supplied variableId _ _ _ =>
    { state with clarificationByVariable := state.clarificationByVariable.delete variableId }
  | _ => state

/-- The snapshot as the event of a version finds it. -/
def AssignmentSnapshotV2.atVersion (snapshot : AssignmentSnapshotV2) (version : Nat) :
    AssignmentSnapshotV2 :=
  { snapshot with assignment_version := version }

/-- An event on an assignment that exists. -/
def advance (host : JavaScriptHost) (state : ReducerStateV2) (event : AssignmentEventV2) :
    Except KernelFault AssignmentSnapshotV2 := do
  let snapshot ← current state
  kernelAssertV2 (¬ snapshot.terminal) "assignment_terminal_immutable"
    "A terminal V2 Assignment cannot accept another event."
  match event.body with
  | .run_started => startRun state snapshot event
  | _ =>
    checkOpenRun state snapshot event
    recordEvent host state (snapshot.atVersion event.assignment_version) event

/-- One event on the state of the reducer. -/
def applyEvent (host : JavaScriptHost) (state : ReducerStateV2) (event : AssignmentEventV2) :
    Except KernelFault ReducerStateV2 := do
  validateVersion state event
  match event.body with
  | .assignment_created spec =>
    checkCreation host state event spec
    return { state with snapshot := some (withDerivedState host (createdSnapshot event spec)) }
  | _ =>
    let snapshot ← advance host state event
    return { remember state event with snapshot := some (withDerivedState host snapshot) }

/-- The snapshot a journal of events reduces to. -/
def reduceAssignmentEventsV2 (host : JavaScriptHost) (events : List AssignmentEventV2) :
    Except KernelFault AssignmentSnapshotV2 := do
  let state ← checked_run.feed (applyEvent host) .initial events
  current state

end revit_operator.assignment_kernel
