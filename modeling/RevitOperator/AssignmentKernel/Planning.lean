import RevitOperator.AssignmentKernel.Journal

open checked

namespace revit_operator.assignment_kernel

/-- What an assignment asks, plans and leaves unfinished, beside its ledger. -/
structure PlanningRecord where
  pending_input_variable_ids : List String
  clarifications : Record Clarification
  work_unit_states : Record AssignmentWorkUnitStateV2
  criteria : Record CriterionEvaluationV2
  work_plan : Option AssignmentWorkPlanV2
  advisory_followups : List AdvisoryFollowupV2
  user_followup_allocation : Option UserFollowupAllocationV1

def AssignmentSnapshotV2.planning (snapshot : AssignmentSnapshotV2) : PlanningRecord where
  pending_input_variable_ids := snapshot.pending_input_variable_ids
  clarifications := snapshot.clarifications
  work_unit_states := snapshot.work_unit_states
  criteria := snapshot.criteria
  work_plan := snapshot.work_plan
  advisory_followups := snapshot.advisory_followups
  user_followup_allocation := snapshot.user_followup_allocation

/-- The event is about the plan of the assignment: its questions, units,
    criteria, work plan, follow-ups or reviews. -/
def AssignmentEventBodyV2.plans : AssignmentEventBodyV2 → Bool
  | .work_unit_state_changed .. | .input_requested .. | .input_supplied .. | .operation_admitted .. => true
  | .observation_retained .. | .criterion_evaluated .. | .work_plan_declared .. => true
  | .work_plan_location_recorded .. | .work_plan_item_deferred .. | .work_plan_item_completed .. => true
  | .advisory_followup_disposition_recorded .. | .review_requested .. | .review_resolved .. => true
  | .assignment_terminal .. => true
  | _ => false

/-- The plan an event of the trusted plan boundary computes. -/
def plannedBy (host : JavaScriptHost) (snapshot : AssignmentSnapshotV2) (event : AssignmentEventV2) :
    Option (Except KernelFault AssignmentWorkPlanV2) :=
  match event.body with
  | .work_plan_declared declaration => some (declareWorkPlanV2 snapshot declaration event.occurred_at)
  | .work_plan_location_recorded itemId hint =>
    some (recordWorkPlanLocationV2 host snapshot itemId hint event.occurred_at)
  | .work_plan_item_deferred itemId action reason =>
    some (deferWorkPlanItemV2 snapshot itemId action reason event.occurred_at)
  | .work_plan_item_completed itemId operationIds inspection =>
    some (completeWorkPlanItemV2 host snapshot itemId operationIds event.occurred_at inspection)
  | _ => none

/-- What one accepted event of the current run does to the planning record. -/
inductive PlanningEffect (host : JavaScriptHost) (state : ReducerStateV2) (snapshot : AssignmentSnapshotV2)
    (event : AssignmentEventV2) : PlanningRecord → Prop
  | quiet (hbody : event.body.plans = false) : PlanningEffect host state snapshot event snapshot.planning
  | unit_changed (id : String) (unitState : AssignmentWorkUnitStateV2)
      (hbody : event.body = .work_unit_state_changed id unitState) :
      PlanningEffect host state snapshot event
        { snapshot.planning with work_unit_states := snapshot.work_unit_states.set id unitState }
  | requested (variableId clarificationId question : String)
      (declaration : Option DiscoveredAssignmentInputV2)
      (hbody : event.body = .input_requested variableId clarificationId question declaration)
      (hfree : state.clarificationByVariable.has variableId = false) :
      PlanningEffect host state snapshot event
        { snapshot.planning with
          pending_input_variable_ids :=
            text.sortedUnique (snapshot.pending_input_variable_ids ++ [variableId])
          clarifications := snapshot.clarifications.set clarificationId
            ⟨clarificationId, variableId, question, event.occurred_at, none⟩ }
  | supplied (variableId clarificationId : String) (value : Option Json) (freshness : Option String)
      (hbody : event.body = .input_supplied variableId clarificationId value freshness)
      (hcurrent : state.clarificationByVariable.get? variableId = some clarificationId) :
      PlanningEffect host state snapshot event
        (let answered := answeredSnapshot snapshot event.occurred_at variableId clarificationId value
        if freshness = some INVALIDATE_DEPENDENT_RESULTS_V1 then
          invalidateDependentInputResultsV2 answered variableId else answered).planning
  | admitted (operation : OperationV2) (hbody : event.body = .operation_admitted operation)
      (hvalid : validateOperationAdmission host snapshot operation = .ok ()) :
      PlanningEffect host state snapshot event
        { snapshot.planning with
          work_unit_states := snapshot.work_unit_states.set operation.work_unit_id .active }
  | retained (observation : ObservationV2) (unitId : String) (useful : Bool)
      (hbody : event.body = .observation_retained observation) :
      PlanningEffect host state snapshot event
        { snapshot.planning with
          work_unit_states := if useful then snapshot.work_unit_states.set unitId .retained
            else snapshot.work_unit_states }
  | evaluated (evaluation : CriterionEvaluationV2) (hbody : event.body = .criterion_evaluated evaluation)
      (hvalid : validateCriterionEvaluation host snapshot evaluation = .ok ()) :
      PlanningEffect host state snapshot event
        (projectWorkUnitCriteria { snapshot with
          criteria := snapshot.criteria.set evaluation.criterion_id
            (mergeEvaluation (snapshot.criteria.get? evaluation.criterion_id) evaluation)
          criterion_evaluation_versions := snapshot.criterion_evaluation_versions.set evaluation.criterion_id
            snapshot.assignment_version }).planning
  | planned (plan : AssignmentWorkPlanV2) (hplan : plannedBy host snapshot event = some (.ok plan)) :
      PlanningEffect host state snapshot event { snapshot.planning with work_plan := some plan }
  | disposed (disposition : AdvisoryFollowupDispositionV2) (followups : List AdvisoryFollowupV2)
      (hbody : event.body = .advisory_followup_disposition_recorded disposition)
      (hdisposed : dispositionAdvisoryFollowupV2 snapshot.advisory_followups disposition
        snapshot.assignment_version = .ok followups) :
      PlanningEffect host state snapshot event { snapshot.planning with advisory_followups := followups }
  | reviewed (reviewId : String) (workUnitIds : List String)
      (hbody : event.body = .review_requested reviewId workUnitIds none) :
      PlanningEffect host state snapshot event snapshot.planning
  | proposed (reviewId : String) (workUnitIds : List String) (proposal : AdvisoryCompletionProposalV1)
      (hbody : event.body = .review_requested reviewId workUnitIds (some proposal)) :
      PlanningEffect host state snapshot event
        { snapshot.planning with
          advisory_followups :=
            retainAdvisoryFollowupsV2 snapshot.advisory_followups proposal snapshot.assignment_version }
  | released (reviewId decision : String) (continuation : Option AdvisoryCheckpointContinuationV1)
      (hbody : event.body = .review_resolved reviewId decision continuation) :
      PlanningEffect host state snapshot event snapshot.planning
  | allocated (reviewId decision : String) (continuation : AdvisoryCheckpointContinuationV1)
      (policy : AssignmentExecutionPolicyV1) (candidate : AssignmentSnapshotV2)
      (hbody : event.body = .review_resolved reviewId decision (some continuation))
      (hpolicy : snapshot.spec.execution_policy = some policy)
      (hallocated : allocateAuthenticatedFollowupV1 host snapshot policy continuation.command_id
        event.occurred_at continuation.resource_renewal = .ok candidate) :
      PlanningEffect host state snapshot event
        { snapshot.planning with user_followup_allocation := candidate.user_followup_allocation }
  | ended (outcome : TerminalOutcomeV2) (reason : String) (hbody : event.body = .assignment_terminal outcome reason) :
      PlanningEffect host state snapshot event (withDerivedState host snapshot).planning

/-! Each handler either leaves the planning record alone or changes it in its
one way. -/

section handlers

variable {host : JavaScriptHost} {state : ReducerStateV2} {snapshot next : AssignmentSnapshotV2}
  {event : AssignmentEventV2}

theorem requestInput_planning {occurredAt variableId clarificationId question : String}
    {declaration : Option DiscoveredAssignmentInputV2}
    (h : requestInput host state snapshot occurredAt variableId clarificationId question declaration = .ok next) :
    state.clarificationByVariable.has variableId = false ∧
      next.planning = { snapshot.planning with
        pending_input_variable_ids := text.sortedUnique (snapshot.pending_input_variable_ids ++ [variableId])
        clarifications := snapshot.clarifications.set clarificationId
          ⟨clarificationId, variableId, question, occurredAt, none⟩ } := by
  simp only [requestInput, bind_eq_ok, pure_eq_ok, require_eq_ok, exists_const] at h
  obtain ⟨declared, hdeclared, -, hfree, rfl⟩ := h
  refine ⟨by simpa using hfree, ?_⟩
  cases declaration with
  | none =>
    obtain rfl : snapshot = declared := by simpa [declareInput] using hdeclared
    rfl
  | some declaration =>
    simp only [declareInput, appendDiscoveredInputV2, check_bind_eq_ok, pure_eq_ok] at hdeclared
    obtain ⟨-, -, -, -, -, -, rfl⟩ := hdeclared
    rfl

theorem supplyInput_planning {actor occurredAt variableId clarificationId : String} {value : Option Json}
    {freshness : Option String}
    (h : supplyInput state snapshot actor occurredAt variableId clarificationId value freshness = .ok next) :
    state.clarificationByVariable.get? variableId = some clarificationId ∧
      next = if freshness = some INVALIDATE_DEPENDENT_RESULTS_V1 then
          invalidateDependentInputResultsV2
            (answeredSnapshot snapshot occurredAt variableId clarificationId value) variableId
        else answeredSnapshot snapshot occurredAt variableId clarificationId value := by
  simp only [supplyInput, check_bind_eq_ok, pure_eq_ok, require_eq_ok] at h
  obtain ⟨-, -, hcurrent, rfl⟩ := h
  exact ⟨hcurrent, rfl⟩

theorem allocateAuthenticatedFollowupV1_planning {policy : AssignmentExecutionPolicyV1} {commandId now : String}
    {renewal : Option UserResourceRenewalRequestV1}
    (h : allocateAuthenticatedFollowupV1 host snapshot policy commandId now renewal = .ok next) :
    next.planning = { snapshot.planning with user_followup_allocation := next.user_followup_allocation } := by
  simp only [allocateAuthenticatedFollowupV1, allocateUserFollowupV1, check_bind_eq_ok] at h
  obtain ⟨-, h⟩ := h
  split at h
  · split at h
    · obtain rfl : snapshot = next := by simpa using h
      rfl
    · rw [check_bind_eq_ok] at h
      obtain ⟨-, h⟩ := h
      split at h
      · cases h
      · simp only [bind_eq_ok, pure_eq_ok] at h
        obtain ⟨-, -, rfl⟩ := h
        rfl
  · obtain rfl : snapshot = next := by simpa using h
    rfl

theorem resolveReview_planning {actor occurredAt reviewId decision : String}
    {continuation : Option AdvisoryCheckpointContinuationV1}
    (h : resolveReview host snapshot actor occurredAt reviewId decision continuation = .ok next) :
    next.planning = snapshot.planning ∨ ∃ given policy candidate, continuation = some given
      ∧ snapshot.spec.execution_policy = some policy
      ∧ allocateAuthenticatedFollowupV1 host snapshot policy given.command_id occurredAt given.resource_renewal
        = .ok candidate
      ∧ next.planning
        = { snapshot.planning with user_followup_allocation := candidate.user_followup_allocation } := by
  simp only [resolveReview, bind_eq_ok, pure_eq_ok] at h
  obtain ⟨-, -, released, hreleased, rfl⟩ := h
  unfold releaseCheckpoint at hreleased
  split at hreleased
  · simp only [bind_eq_ok, pure_eq_ok] at hreleased
    obtain ⟨-, -, candidate, hchecked, rfl⟩ := hreleased
    simp only [assertAdvisoryCheckpointContinuationV1, check_bind_eq_ok] at hchecked
    obtain ⟨-, hchecked⟩ := hchecked
    split at hchecked
    · next given policy hpolicy =>
      simp only [bind_eq_ok, pure_eq_ok] at hchecked
      obtain ⟨-, -, -, -, allocated, hallocated, -, -, -, -, rfl⟩ := hchecked
      cases hdecision : decision == USER_FOLLOWUP_ALLOCATION_V1 with
      | false =>
        obtain rfl : snapshot = allocated := by simpa [continuationCandidate, hdecision] using hallocated
        exact .inl rfl
      | true =>
        have hcandidate : allocateAuthenticatedFollowupV1 host snapshot policy given.command_id occurredAt
            given.resource_renewal = .ok allocated := by simpa [continuationCandidate, hdecision] using hallocated
        have hplanning := allocateAuthenticatedFollowupV1_planning hcandidate
        exact .inr ⟨given, policy, allocated, rfl, hpolicy, hcandidate, hplanning⟩
    · cases hchecked
  · simp only [check_bind_eq_ok, pure_eq_ok] at hreleased
    obtain ⟨-, rfl⟩ := hreleased
    exact .inl rfl

theorem requestReview_planning {actor occurredAt reviewId : String} {workUnitIds : List String}
    {proposal : Option AdvisoryCompletionProposalV1}
    (h : requestReview snapshot actor occurredAt reviewId workUnitIds proposal = .ok next) :
    next.planning = match proposal with
      | none => snapshot.planning
      | some proposal => { snapshot.planning with
          advisory_followups :=
            retainAdvisoryFollowupsV2 snapshot.advisory_followups proposal snapshot.assignment_version } := by
  simp only [requestReview, bind_eq_ok, pure_eq_ok] at h
  obtain ⟨proposed, hproposed, -, -, rfl⟩ := h
  cases proposal with
  | none =>
    obtain rfl : snapshot = proposed := by simpa [withProposal] using hproposed
    rfl
  | some proposal =>
    simp only [withProposal, proposeCompletion, check_bind_eq_ok, pure_eq_ok] at hproposed
    obtain ⟨-, -, -, rfl⟩ := hproposed
    rfl

theorem replaceWorkPlan_planning {actor : String} {plan : Except KernelFault AssignmentWorkPlanV2}
    (h : replaceWorkPlan snapshot actor plan = .ok next) :
    ∃ replaced, plan = .ok replaced ∧ next.planning = { snapshot.planning with work_plan := some replaced } := by
  simp only [replaceWorkPlan, bind_eq_ok, pure_eq_ok] at h
  obtain ⟨-, -, replaced, hplan, rfl⟩ := h
  exact ⟨replaced, hplan, rfl⟩

theorem recordFollowupDisposition_planning {disposition : AdvisoryFollowupDispositionV2}
    (h : recordFollowupDisposition snapshot event disposition = .ok next) :
    ∃ followups, dispositionAdvisoryFollowupV2 snapshot.advisory_followups disposition
        snapshot.assignment_version = .ok followups
      ∧ next.planning = { snapshot.planning with advisory_followups := followups } := by
  simp only [recordFollowupDisposition, bind_eq_ok, pure_eq_ok] at h
  obtain ⟨-, -, -, -, -, -, followups, hfollowups, rfl⟩ := h
  exact ⟨followups, hfollowups, rfl⟩

theorem retainObservation_planning {occurredAt : String} {observation : ObservationV2}
    (h : retainObservation host snapshot occurredAt observation = .ok next) :
    ∃ unitId, ∃ useful : Bool, next.planning = { snapshot.planning with
      work_unit_states := if useful then snapshot.work_unit_states.set unitId .retained
        else snapshot.work_unit_states } := by
  simp only [retainObservation, bind_eq_ok, pure_eq_ok] at h
  obtain ⟨operation, -, -, -, operations, -, rfl⟩ := h
  exact ⟨operation.work_unit_id, _, rfl⟩

/-! Provider calls, operations, progress and delivery leave the planning record
alone. -/

theorem recordProviderCall_planning {occurredAt callId provider model : String} {effort : Option String}
    {success : Bool} (h : recordProviderCall snapshot occurredAt callId provider model effort success = .ok next) :
    next.planning = snapshot.planning := by
  simp only [recordProviderCall, check_bind_eq_ok, pure_eq_ok] at h
  obtain ⟨-, rfl⟩ := h
  cases snapshot.provider_calls.get? callId <;> rfl

theorem applyProviderState_planning {occurredAt : String} {call : ProviderCallStateEvent}
    (h : applyProviderState host snapshot occurredAt call = .ok next) : next.planning = snapshot.planning := by
  simp only [applyProviderState, check_bind_eq_ok] at h
  obtain ⟨-, h⟩ := h
  split at h
  · simp only [admitProviderCall, check_bind_eq_ok, pure_eq_ok] at h
    obtain ⟨-, -, -, -, -, -, -, rfl⟩ := h
    rfl
  · simp only [check_bind_eq_ok, pure_eq_ok] at h
    obtain ⟨-, rfl⟩ := h
    rfl

theorem recordResult_planning {result : OperationResultV2} {commit : Option ObservationCommitInputV2}
    (h : recordResult host snapshot result commit = .ok next) : next.planning = snapshot.planning := by
  simp only [recordResult, bind_eq_ok, pure_eq_ok] at h
  obtain ⟨operation, -, -, -, -, -, rfl⟩ := h
  rfl

theorem reconcileCompletion_planning {actor id : String} {completion : Json}
    (h : reconcileCompletion host snapshot actor id completion = .ok next) : next.planning = snapshot.planning := by
  simp only [reconcileCompletion, bind_eq_ok] at h
  obtain ⟨-, -, operation, -, h⟩ := h
  split at h
  · cases h
  · obtain rfl := pure_eq_ok.1 h
    rfl

end handlers

section effect

variable {host : JavaScriptHost} {state : ReducerStateV2} {snapshot next : AssignmentSnapshotV2}
  {event : AssignmentEventV2}

private theorem quiet_planning {body : AssignmentEventBodyV2} (hbody : event.body = body)
    (hplanning : next.planning = snapshot.planning) (hquiet : body.plans = false) :
    PlanningEffect host state snapshot event next.planning := by
  rw [hplanning]
  exact .quiet (hbody ▸ hquiet)

private theorem planned_planning {plan : Except KernelFault AssignmentWorkPlanV2} {actor : String}
    (hplanned : plannedBy host snapshot event = some plan) (h : replaceWorkPlan snapshot actor plan = .ok next) :
    PlanningEffect host state snapshot event next.planning := by
  obtain ⟨replaced, rfl, hplanning⟩ := replaceWorkPlan_planning h
  rw [hplanning]
  exact .planned replaced hplanned

theorem recordEvent_planning (h : recordEvent host state snapshot event = .ok next) :
    PlanningEffect host state snapshot event next.planning := by
  unfold recordEvent at h
  cases hbody : event.body with
    simp only [hbody, Except.ok.injEq, check_bind_eq_ok, pure_eq_ok] at h
  | assignment_created spec => exact quiet_planning hbody (h ▸ rfl) rfl
  | run_started => exact quiet_planning hbody (h ▸ rfl) rfl
  | execution_control_requested request =>
    simp only [applyAssignmentExecutionControlV2, check_bind_eq_ok, pure_eq_ok] at h
    obtain ⟨-, -, -, -, rfl⟩ := h
    exact quiet_planning hbody rfl rfl
  | provider_usage_hold_recorded hold =>
    simp only [recordUsageHold, check_bind_eq_ok, pure_eq_ok] at h
    obtain ⟨-, -, rfl⟩ := h
    exact quiet_planning hbody rfl rfl
  | run_superseded generation => exact quiet_planning hbody (h.2 ▸ rfl) rfl
  | work_unit_state_changed id unitState =>
    simp only [changeWorkUnitState, check_bind_eq_ok, pure_eq_ok] at h
    obtain ⟨-, rfl⟩ := h
    exact .unit_changed id unitState hbody
  | input_requested id clarification question declaration =>
    obtain ⟨hfree, hplanning⟩ := requestInput_planning h
    rw [hplanning]
    exact .requested id clarification question declaration hbody hfree
  | input_supplied id clarification value freshness =>
    obtain ⟨hcurrent, rfl⟩ := supplyInput_planning h
    exact .supplied id clarification value freshness hbody hcurrent
  | provider_call_recorded callId provider model effort success =>
    exact quiet_planning hbody (recordProviderCall_planning h) rfl
  | provider_call_state_recorded call => exact quiet_planning hbody (applyProviderState_planning h) rfl
  | provider_call_receipt_recorded call =>
    simp only [recordProviderReceipt, check_bind_eq_ok, pure_eq_ok] at h
    obtain ⟨-, -, -, -, -, rfl⟩ := h
    exact quiet_planning hbody rfl rfl
  | execution_failure_recorded failure =>
    simp only [recordExecutionFailure, check_bind_eq_ok, pure_eq_ok] at h
    obtain ⟨-, -, -, -, -, -, rfl⟩ := h
    exact quiet_planning hbody rfl rfl
  | provider_budget_exhausted limit =>
    simp only [exhaustProviderBudget, check_bind_eq_ok, pure_eq_ok] at h
    obtain ⟨-, rfl⟩ := h
    exact quiet_planning hbody rfl rfl
  | progress_epoch_recorded epoch =>
    simp only [recordProgressEpoch, check_bind_eq_ok, pure_eq_ok] at h
    obtain ⟨-, -, -, rfl⟩ := h
    exact quiet_planning hbody rfl rfl
  | progress_blocked code gapIds =>
    simp only [blockProgress, check_bind_eq_ok, pure_eq_ok] at h
    obtain ⟨-, -, rfl⟩ := h
    exact quiet_planning hbody rfl rfl
  | operation_admitted operation =>
    simp only [admitOperation, check_bind_eq_ok, pure_eq_ok] at h
    obtain ⟨hvalid, rfl⟩ := h
    exact .admitted operation hbody hvalid
  | operation_dispatch_started id =>
    simp only [startDispatch, bind_eq_ok, pure_eq_ok] at h
    obtain ⟨operation, -, rfl⟩ := h
    exact quiet_planning hbody rfl rfl
  | operation_dispatch_recorded id authority =>
    simp only [recordOperationDispatch, bind_eq_ok, pure_eq_ok] at h
    obtain ⟨operation, -, -, -, -, -, rfl⟩ := h
    exact quiet_planning hbody rfl rfl
  | native_dispatch_recorded id =>
    simp only [recordNativeDispatch, bind_eq_ok, pure_eq_ok] at h
    obtain ⟨operation, -, -, -, rfl⟩ := h
    exact quiet_planning hbody rfl rfl
  | operation_result_recorded result commit => exact quiet_planning hbody (recordResult_planning h) rfl
  | observation_retained observation =>
    obtain ⟨unitId, useful, hplanning⟩ := retainObservation_planning h
    rw [hplanning]
    exact .retained observation unitId useful hbody
  | observation_commit_retry_recorded id resultId attempt errorCode =>
    simp only [recordCommitRetry, bind_eq_ok, pure_eq_ok] at h
    obtain ⟨operation, -, -, -, -, -, rfl⟩ := h
    exact quiet_planning hbody rfl rfl
  | observation_commit_failed id resultId attempt errorCode =>
    simp only [recordCommitFailure, bind_eq_ok, pure_eq_ok] at h
    obtain ⟨operation, -, -, -, -, -, rfl⟩ := h
    exact quiet_planning hbody rfl rfl
  | observation_retention_failed id errorCode =>
    simp only [recordRetentionFailure, bind_eq_ok, pure_eq_ok] at h
    obtain ⟨operation, -, -, -, rfl⟩ := h
    exact quiet_planning hbody rfl rfl
  | criterion_evaluated evaluation =>
    simp only [recordEvaluation, check_bind_eq_ok, pure_eq_ok] at h
    obtain ⟨hvalid, rfl⟩ := h
    exact .evaluated evaluation hbody hvalid
  | result_delivered delivery =>
    simp only [deliverResult, check_bind_eq_ok, pure_eq_ok] at h
    obtain ⟨-, -, -, rfl⟩ := h
    exact quiet_planning hbody rfl rfl
  | work_plan_declared declaration => exact planned_planning (by simp [plannedBy, hbody]) h
  | work_plan_location_recorded itemId hint => exact planned_planning (by simp [plannedBy, hbody]) h
  | advisory_followup_disposition_recorded disposition =>
    obtain ⟨followups, hfollowups, hplanning⟩ := recordFollowupDisposition_planning h
    rw [hplanning]
    exact .disposed disposition followups hbody hfollowups
  | work_plan_item_claimed itemId operationIds =>
    simp only [claimPlanItem, check_bind_eq_ok, pure_eq_ok] at h
    obtain ⟨-, -, -, rfl⟩ := h
    exact quiet_planning hbody rfl rfl
  | work_plan_scope_requested itemId scope operationIds selection =>
    simp only [requestPlanScope, check_bind_eq_ok, pure_eq_ok] at h
    obtain ⟨-, rfl⟩ := h
    exact quiet_planning hbody rfl rfl
  | work_plan_item_deferred itemId action reason => exact planned_planning (by simp [plannedBy, hbody]) h
  | work_plan_item_completed itemId operationIds inspection =>
    exact planned_planning (by simp [plannedBy, hbody]) h
  | review_requested reviewId workUnitIds proposal =>
    have hplanning := requestReview_planning h
    rw [hplanning]
    cases proposal with
    | none => exact .reviewed reviewId workUnitIds hbody
    | some proposal => exact .proposed reviewId workUnitIds proposal hbody
  | review_resolved reviewId decision continuation =>
    rcases resolveReview_planning h with hplanning | ⟨given, policy, candidate, rfl, hpolicy, hallocated, hplanning⟩
    · rw [hplanning]
      exact .released reviewId decision continuation hbody
    · rw [hplanning]
      exact .allocated reviewId decision given policy candidate hbody hpolicy hallocated
  | reconciliation_recorded id effect observationIds =>
    simp only [recordReconciliation, bind_eq_ok, pure_eq_ok] at h
    obtain ⟨operation, -, -, -, rfl⟩ := h
    exact quiet_planning hbody rfl rfl
  | native_completion_reconciled id completion => exact quiet_planning hbody (reconcileCompletion_planning h) rfl
  | outcome_derived outcome => exact quiet_planning hbody (h.2 ▸ rfl) rfl
  | assignment_terminal outcome reason =>
    simp only [endAssignment, check_bind_eq_ok, pure_eq_ok] at h
    obtain ⟨-, -, rfl⟩ := h
    exact .ended outcome reason hbody

end effect

end revit_operator.assignment_kernel
