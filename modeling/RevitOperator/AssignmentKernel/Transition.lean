import RevitOperator.AssignmentKernel.Ledger

open checked
open revit_operator.contracts

namespace revit_operator.assignment_kernel

/-- The operation whose lifecycle an event is about. -/
def AssignmentEventBodyV2.touched : AssignmentEventBodyV2 → Option String
  | .operation_dispatch_started id => some id
  | .operation_dispatch_recorded id _ => some id
  | .native_dispatch_recorded id => some id
  | .operation_result_recorded result _ => some result.operation_id
  | .observation_retained observation => some observation.operation_id
  | .observation_commit_retry_recorded id _ _ _ => some id
  | .observation_commit_failed id _ _ _ => some id
  | .observation_retention_failed id _ => some id
  | .reconciliation_recorded id _ _ => some id
  | .native_completion_reconciled id _ => some id
  | _ => none

/-- How one accepted event moves the operation it names, and under which
    guard. -/
inductive OperationMove (host : JavaScriptHost) (snapshot : AssignmentSnapshotV2)
    (event : AssignmentEventV2) (id : String) (operation : OperationV2) : OperationV2 → Prop
  | dispatch_started (hbody : event.body = .operation_dispatch_started id)
      (hawaits : operation.awaitsDispatch = true) :
      OperationMove host snapshot event id operation (startedOperation event.occurred_at operation)
  | native_dispatched (hbody : event.body = .native_dispatch_recorded id)
      (hdispatchable : operation.dispatchable = true)
      (hchildren : childrenSettled snapshot operation.operation_id = true) :
      OperationMove host snapshot event id operation
        (dispatchedOperation .native (dispatchEffect operation) event.occurred_at operation)
  | dispatched (authority : RecordedDispatchAuthorityV2)
      (hbody : event.body = .operation_dispatch_recorded id authority)
      (hdispatchable : operation.dispatchable = true)
      (hchildren : childrenSettled snapshot operation.operation_id = true)
      (hread : operation.requested_effect = .read) :
      OperationMove host snapshot event id operation
        (dispatchedOperation authority.authority .none event.occurred_at operation)
  | resulted (result : OperationResultV2) (commit : Option ObservationCommitInputV2)
      (hbody : event.body = .operation_result_recorded result commit) (hid : result.operation_id = id)
      (hawaits : operation.awaitsResult = true)
      (hvalid : validateResult host snapshot operation result = .ok ()) :
      OperationMove host snapshot event id operation
        (resultedOperation snapshot.assignment_version result commit operation)
  | commit_retried (resultId : String) (attempt : Int) (errorCode : String)
      (hbody : event.body = .observation_commit_retry_recorded id resultId attempt errorCode)
      (hretaining : operation.retaining = true) :
      OperationMove host snapshot event id operation (attemptedOperation attempt errorCode operation)
  | commit_failed (resultId : String) (attempt : Int) (errorCode : String)
      (hbody : event.body = .observation_commit_failed id resultId attempt errorCode)
      (hretaining : operation.retaining = true) :
      OperationMove host snapshot event id operation (commitFailedOperation attempt errorCode operation)
  | retention_failed (errorCode : String)
      (hbody : event.body = .observation_retention_failed id errorCode)
      (hretaining : operation.retaining = true) :
      OperationMove host snapshot event id operation
        (unretainedOperation snapshot.assignment_version event.occurred_at errorCode operation)
  | completion_reconciled (effect : PersistentEffectV2) (completion : Json)
      (hbody : event.body = .native_completion_reconciled id completion)
      (hunknown : operation.persistent_effect = .unknown)
      (heffect : nativeCompletionReconciliationEffectV1 host completion operation = some effect) :
      OperationMove host snapshot event id operation (completedOperation effect completion operation)
  | reconciled (effect : ResolvedEffectV2) (observationIds : List String)
      (hbody : event.body = .reconciliation_recorded id effect observationIds)
      (hunknown : operation.persistent_effect = .unknown) :
      OperationMove host snapshot event id operation (reconciledOperation effect operation)

variable {id : String}

theorem OperationMove.touched {host : JavaScriptHost} {snapshot : AssignmentSnapshotV2}
    {event : AssignmentEventV2} {before after : OperationV2}
    (h : OperationMove host snapshot event id before after) : event.body.touched = some id := by
  cases h with
  | resulted _ _ hbody hid => rw [hbody, ← hid]; rfl
  | dispatch_started hbody => rw [hbody]; rfl
  | native_dispatched hbody => rw [hbody]; rfl
  | dispatched _ hbody => rw [hbody]; rfl
  | commit_retried _ _ _ hbody => rw [hbody]; rfl
  | commit_failed _ _ _ hbody => rw [hbody]; rfl
  | retention_failed _ hbody => rw [hbody]; rfl
  | completion_reconciled _ _ hbody => rw [hbody]; rfl
  | reconciled _ _ hbody => rw [hbody]; rfl

/-- What one accepted event does to the provider calls. -/
inductive ProviderEffect (host : JavaScriptHost) (snapshot : AssignmentSnapshotV2)
    (event : AssignmentEventV2) : Record ProviderCallV2 → Prop
  | admitted (call : ProviderCallStateEvent) (hbody : event.body = .provider_call_state_recorded call)
      (hid : text.nonBlank call.call_id = true)
      (hnew : snapshot.provider_calls.get? call.call_id = none) :
      ProviderEffect host snapshot event
        (snapshot.provider_calls.set call.call_id (admittedCall snapshot event.occurred_at call))
  | advanced (call : ProviderCallStateEvent) (previous : ProviderCallV2)
      (hbody : event.body = .provider_call_state_recorded call)
      (hget : snapshot.provider_calls.get? call.call_id = some previous)
      (hcheck : checkProviderState host snapshot previous call = .ok ()) :
      ProviderEffect host snapshot event
        (snapshot.provider_calls.set call.call_id (advancedCall previous event.occurred_at call))
  | recorded (callId provider model : String) (effort : Option String) (success : Bool)
      (hbody : event.body = .provider_call_recorded callId provider model effort success)
      (hid : text.nonBlank callId = true) (hnew : snapshot.provider_calls.get? callId = none) :
      ProviderEffect host snapshot event (snapshot.provider_calls.set callId
        (telemetryCall snapshot event.occurred_at callId provider model effort success))
  | received (call : ProviderCallV2) (hbody : event.body = .provider_call_receipt_recorded call)
      (hbinding : call.binding = snapshot.current_binding) (hcompleted : truthy call.completed_at = true)
      (hnew : snapshot.provider_calls.get? call.call_id = none) :
      ProviderEffect host snapshot event (snapshot.provider_calls.set call.call_id call)

theorem ProviderEffect.touched {host : JavaScriptHost} {snapshot : AssignmentSnapshotV2}
    {event : AssignmentEventV2} {calls : Record ProviderCallV2}
    (h : ProviderEffect host snapshot event calls) : event.body.touched = none := by
  cases h with
  | admitted _ hbody => rw [hbody]; rfl
  | advanced _ _ hbody => rw [hbody]; rfl
  | recorded _ _ _ _ _ hbody => rw [hbody]; rfl
  | received _ hbody => rw [hbody]; rfl

/-- What one accepted event of the current run does to the ledger. -/
inductive LedgerEffect (host : JavaScriptHost) (snapshot : AssignmentSnapshotV2)
    (event : AssignmentEventV2) : OperationLedger → Prop
  | quiet (huntouched : event.body.touched = none) : LedgerEffect host snapshot event snapshot.ledger
  | ended (outcome : TerminalOutcomeV2) (reason : String)
      (hbody : event.body = .assignment_terminal outcome reason) :
      LedgerEffect host snapshot event { snapshot.ledger with terminal := true }
  | provider {calls : Record ProviderCallV2} (hcalls : ProviderEffect host snapshot event calls) :
      LedgerEffect host snapshot event { snapshot.ledger with provider_calls := calls }
  | admitted (operation : OperationV2) (hbody : event.body = .operation_admitted operation)
      (hvalid : validateOperationAdmission host snapshot operation = .ok ()) :
      LedgerEffect host snapshot event
        { snapshot.ledger with
          operations := snapshot.operations.set operation.operation_id
            (admittedOperation snapshot.assignment_version operation) }
  | moved {id : String} {before after : OperationV2} (hget : snapshot.operations.get? id = some before)
      (hmove : OperationMove host snapshot event id before after) :
      LedgerEffect host snapshot event
        { snapshot.ledger with operations := snapshot.operations.set before.operation_id after }
  | retained (observation : ObservationV2) {before : OperationV2} {operations : Record OperationV2}
      (hbody : event.body = .observation_retained observation)
      (hget : snapshot.operations.get? observation.operation_id = some before)
      (hretaining : before.retaining = true)
      (hcheck : checkObservation snapshot before observation = .ok ())
      (hlink : linkVerification (snapshot.operations.set before.operation_id
        (retainedOperation host snapshot.assignment_version event.occurred_at observation before)) before
          = .ok operations) :
      LedgerEffect host snapshot event
        { snapshot.ledger with
          operations
          observations := snapshot.observations.set observation.observation_id observation
          observation_versions :=
            snapshot.observation_versions.set observation.observation_id snapshot.assignment_version }

variable {host : JavaScriptHost} {state : ReducerStateV2} {snapshot next : AssignmentSnapshotV2}
  {event : AssignmentEventV2}

private theorem moved_effect {before after : OperationV2}
    (hget : snapshot.operations.get? id = some before)
    (hmove : OperationMove host snapshot event id before after)
    (hnext : next.ledger
      = { snapshot.ledger with operations := snapshot.operations.set before.operation_id after }) :
    LedgerEffect host snapshot event next.ledger := by
  rw [hnext]
  exact .moved hget hmove

private theorem quiet_effect {body : AssignmentEventBodyV2} (hbody : event.body = body)
    (h : next.ledger = snapshot.ledger) (huntouched : body.touched = none) :
    LedgerEffect host snapshot event next.ledger := by
  rw [h]
  exact .quiet (hbody ▸ huntouched)

private theorem admitOperation_effect {operation : OperationV2}
    (hbody : event.body = .operation_admitted operation)
    (h : admitOperation host snapshot operation = .ok next) :
    LedgerEffect host snapshot event next.ledger := by
  simp only [admitOperation, check_bind_eq_ok, pure_eq_ok] at h
  obtain ⟨hvalid, rfl⟩ := h
  exact .admitted operation hbody hvalid

private theorem startDispatch_effect
    (hbody : event.body = .operation_dispatch_started id)
    (h : startDispatch snapshot event.occurred_at id = .ok next) :
    LedgerEffect host snapshot event next.ledger := by
  simp only [startDispatch, bind_eq_ok, pure_eq_ok, requireOperation_eq_ok] at h
  obtain ⟨operation, ⟨hget, hawaits⟩, rfl⟩ := h
  exact moved_effect hget (.dispatch_started hbody hawaits) rfl

private theorem recordNativeDispatch_effect
    (hbody : event.body = .native_dispatch_recorded id)
    (h : recordNativeDispatch snapshot event.occurred_at id = .ok next) :
    LedgerEffect host snapshot event next.ledger := by
  simp only [recordNativeDispatch, bind_eq_ok, pure_eq_ok, requireOperation_eq_ok, require_eq_ok] at h
  obtain ⟨operation, ⟨hget, hdispatchable⟩, -, hchildren, rfl⟩ := h
  exact moved_effect hget (.native_dispatched hbody hdispatchable hchildren) rfl

private theorem recordOperationDispatch_effect {authority : RecordedDispatchAuthorityV2}
    (hbody : event.body = .operation_dispatch_recorded id authority)
    (h : recordOperationDispatch snapshot event.occurred_at id authority = .ok next) :
    LedgerEffect host snapshot event next.ledger := by
  simp only [recordOperationDispatch, bind_eq_ok, pure_eq_ok, requireOperation_eq_ok, require_eq_ok] at h
  obtain ⟨operation, ⟨hget, hdispatchable⟩, -, hchildren, -, hread, rfl⟩ := h
  exact moved_effect hget (.dispatched authority hbody hdispatchable hchildren hread) rfl

private theorem recordResult_effect {result : OperationResultV2} {commit : Option ObservationCommitInputV2}
    (hbody : event.body = .operation_result_recorded result commit)
    (h : recordResult host snapshot result commit = .ok next) :
    LedgerEffect host snapshot event next.ledger := by
  simp only [recordResult, bind_eq_ok, pure_eq_ok, requireOperation_eq_ok] at h
  obtain ⟨operation, ⟨hget, hawaits⟩, _, hvalid, -, -, rfl⟩ := h
  exact moved_effect hget (.resulted result commit hbody rfl hawaits hvalid) rfl

private theorem retainObservation_effect {observation : ObservationV2}
    (hbody : event.body = .observation_retained observation)
    (h : retainObservation host snapshot event.occurred_at observation = .ok next) :
    LedgerEffect host snapshot event next.ledger := by
  simp only [retainObservation, bind_eq_ok, pure_eq_ok, requireOperation_eq_ok] at h
  obtain ⟨operation, ⟨hget, hretaining⟩, _, hcheck, operations, hlink, rfl⟩ := h
  exact .retained observation hbody hget hretaining hcheck hlink

private theorem recordCommitRetry_effect {resultId errorCode : String} {attempt : Int}
    (hbody : event.body = .observation_commit_retry_recorded id resultId attempt errorCode)
    (h : recordCommitRetry snapshot id resultId attempt errorCode = .ok next) :
    LedgerEffect host snapshot event next.ledger := by
  simp only [recordCommitRetry, bind_eq_ok, pure_eq_ok, requireOperation_eq_ok] at h
  obtain ⟨operation, ⟨hget, hretaining⟩, -, -, -, -, rfl⟩ := h
  simp only [Bool.and_eq_true] at hretaining
  exact moved_effect hget (.commit_retried resultId attempt errorCode hbody hretaining.1) rfl

private theorem recordCommitFailure_effect {resultId errorCode : String} {attempt : Int}
    (hbody : event.body = .observation_commit_failed id resultId attempt errorCode)
    (h : recordCommitFailure snapshot event.occurred_at id resultId attempt errorCode = .ok next) :
    LedgerEffect host snapshot event next.ledger := by
  simp only [recordCommitFailure, bind_eq_ok, pure_eq_ok, requireOperation_eq_ok] at h
  obtain ⟨operation, ⟨hget, hretaining⟩, -, -, -, -, rfl⟩ := h
  exact moved_effect hget (.commit_failed resultId attempt errorCode hbody hretaining) rfl

private theorem recordRetentionFailure_effect {errorCode : String}
    (hbody : event.body = .observation_retention_failed id errorCode)
    (h : recordRetentionFailure snapshot event.occurred_at id errorCode = .ok next) :
    LedgerEffect host snapshot event next.ledger := by
  simp only [recordRetentionFailure, bind_eq_ok, pure_eq_ok, requireOperation_eq_ok] at h
  obtain ⟨operation, ⟨hget, hretaining⟩, -, -, rfl⟩ := h
  exact moved_effect hget (.retention_failed errorCode hbody hretaining) rfl

private theorem reconcileCompletion_effect {actor : String} {completion : Json}
    (hbody : event.body = .native_completion_reconciled id completion)
    (h : reconcileCompletion host snapshot actor id completion = .ok next) :
    LedgerEffect host snapshot event next.ledger := by
  simp only [reconcileCompletion, bind_eq_ok, requireOperation_eq_ok] at h
  obtain ⟨-, -, operation, ⟨hget, hawaits⟩, h⟩ := h
  simp only [OperationV2.awaitsCompletion, OperationV2.isUnknown, Bool.and_eq_true, beq_iff_eq] at hawaits
  cases heffect : nativeCompletionReconciliationEffectV1 host completion operation with
  | none => simp [heffect] at h
  | some effect =>
    simp only [heffect, pure_eq_ok] at h
    subst h
    exact moved_effect hget (.completion_reconciled effect completion hbody hawaits.1 heffect) rfl

private theorem recordReconciliation_effect {effect : ResolvedEffectV2}
    {observationIds : List String} (hbody : event.body = .reconciliation_recorded id effect observationIds)
    (h : recordReconciliation snapshot id effect observationIds = .ok next) :
    LedgerEffect host snapshot event next.ledger := by
  simp only [recordReconciliation, bind_eq_ok, pure_eq_ok, requireOperation_eq_ok] at h
  obtain ⟨operation, ⟨hget, hunknown⟩, -, -, rfl⟩ := h
  simp only [OperationV2.isUnknown, beq_iff_eq] at hunknown
  exact moved_effect hget (.reconciled effect observationIds hbody hunknown) rfl

private theorem applyProviderState_effect {call : ProviderCallStateEvent}
    (hbody : event.body = .provider_call_state_recorded call)
    (h : applyProviderState host snapshot event.occurred_at call = .ok next) :
    LedgerEffect host snapshot event next.ledger := by
  simp only [applyProviderState, check_bind_eq_ok, require_eq_ok] at h
  obtain ⟨hid, h⟩ := h
  cases hget : snapshot.provider_calls.get? call.call_id with
  | none =>
    simp only [hget, admitProviderCall, check_bind_eq_ok, pure_eq_ok] at h
    obtain ⟨-, -, -, -, -, -, -, rfl⟩ := h
    exact .provider (.admitted call hbody hid hget)
  | some previous =>
    simp only [hget, check_bind_eq_ok, pure_eq_ok] at h
    obtain ⟨hcheck, rfl⟩ := h
    exact .provider (.advanced call previous hbody hget hcheck)

private theorem recordProviderCall_effect {callId provider model : String} {effort : Option String}
    {success : Bool} (hbody : event.body = .provider_call_recorded callId provider model effort success)
    (h : recordProviderCall snapshot event.occurred_at callId provider model effort success = .ok next) :
    LedgerEffect host snapshot event next.ledger := by
  simp only [recordProviderCall, check_bind_eq_ok, pure_eq_ok, require_eq_ok] at h
  obtain ⟨hid, rfl⟩ := h
  cases hget : snapshot.provider_calls.get? callId with
  | none => exact .provider (.recorded callId provider model effort success hbody hid hget)
  | some call => exact .quiet (by simp [AssignmentEventBodyV2.touched, hbody])

private theorem recordProviderReceipt_effect {call : ProviderCallV2}
    (hbody : event.body = .provider_call_receipt_recorded call)
    (h : recordProviderReceipt snapshot call = .ok next) :
    LedgerEffect host snapshot event next.ledger := by
  simp only [recordProviderReceipt, check_bind_eq_ok, pure_eq_ok, require_eq_ok,
    sameAssignmentBindingV2_iff, Option.isNone_iff_eq_none] at h
  obtain ⟨hbinding, ⟨-, hcompleted⟩, -, -, hnew, rfl⟩ := h
  exact .provider (.received call hbody hbinding.symm hcompleted hnew)

private theorem endAssignment_effect {occurredAt reason : String} {outcome : TerminalOutcomeV2}
    (hbody : event.body = .assignment_terminal outcome reason)
    (h : endAssignment host snapshot occurredAt outcome reason = .ok next) :
    LedgerEffect host snapshot event next.ledger := by
  simp only [endAssignment, check_bind_eq_ok, pure_eq_ok] at h
  obtain ⟨-, -, rfl⟩ := h
  exact .ended outcome reason hbody

theorem recordEvent_effect (h : recordEvent host state snapshot event = .ok next) :
    LedgerEffect host snapshot event next.ledger := by
  unfold recordEvent at h
  cases hbody : event.body with
    simp only [hbody, Except.ok.injEq, check_bind_eq_ok, pure_eq_ok] at h
  | assignment_created spec => exact quiet_effect hbody (h ▸ rfl) rfl
  | run_started => exact quiet_effect hbody (h ▸ rfl) rfl
  | execution_control_requested request =>
    exact quiet_effect hbody (applyAssignmentExecutionControlV2_ledger h) rfl
  | provider_usage_hold_recorded hold => exact quiet_effect hbody (recordUsageHold_ledger h) rfl
  | run_superseded generation => exact quiet_effect hbody (h.2 ▸ rfl) rfl
  | work_unit_state_changed id unitState => exact quiet_effect hbody (changeWorkUnitState_frame h).ledger rfl
  | input_requested id clarification question declaration => exact quiet_effect hbody (requestInput_frame h).ledger rfl
  | input_supplied id clarification value freshness => exact quiet_effect hbody (supplyInput_frame h).ledger rfl
  | provider_call_recorded callId provider model effort success => exact recordProviderCall_effect hbody h
  | provider_call_state_recorded call => exact applyProviderState_effect hbody h
  | provider_call_receipt_recorded call => exact recordProviderReceipt_effect hbody h
  | execution_failure_recorded failure => exact quiet_effect hbody (recordExecutionFailure_ledger h) rfl
  | provider_budget_exhausted limit => exact quiet_effect hbody (exhaustProviderBudget_frame h).ledger rfl
  | progress_epoch_recorded epoch => exact quiet_effect hbody (recordProgressEpoch_frame h).ledger rfl
  | progress_blocked code gapIds => exact quiet_effect hbody (blockProgress_frame h).ledger rfl
  | operation_admitted operation => exact admitOperation_effect hbody h
  | operation_dispatch_started id => exact startDispatch_effect hbody h
  | operation_dispatch_recorded id authority => exact recordOperationDispatch_effect hbody h
  | native_dispatch_recorded id => exact recordNativeDispatch_effect hbody h
  | operation_result_recorded result commit => exact recordResult_effect hbody h
  | observation_retained observation => exact retainObservation_effect hbody h
  | observation_commit_retry_recorded id resultId attempt errorCode => exact recordCommitRetry_effect hbody h
  | observation_commit_failed id resultId attempt errorCode => exact recordCommitFailure_effect hbody h
  | observation_retention_failed id errorCode => exact recordRetentionFailure_effect hbody h
  | criterion_evaluated evaluation => exact quiet_effect hbody (recordEvaluation_frame h).ledger rfl
  | result_delivered delivery => exact quiet_effect hbody (deliverResult_frame h).ledger rfl
  | work_plan_declared declaration => exact quiet_effect hbody (replaceWorkPlan_frame h).ledger rfl
  | work_plan_location_recorded itemId hint => exact quiet_effect hbody (replaceWorkPlan_frame h).ledger rfl
  | advisory_followup_disposition_recorded disposition =>
    exact quiet_effect hbody (recordFollowupDisposition_frame h).ledger rfl
  | work_plan_item_claimed itemId operationIds => exact quiet_effect hbody (claimPlanItem_frame h).ledger rfl
  | work_plan_scope_requested itemId scope operationIds selection =>
    exact quiet_effect hbody (requestPlanScope_frame h).ledger rfl
  | work_plan_item_deferred itemId action reason => exact quiet_effect hbody (replaceWorkPlan_frame h).ledger rfl
  | work_plan_item_completed itemId operationIds inspection =>
    exact quiet_effect hbody (replaceWorkPlan_frame h).ledger rfl
  | review_requested reviewId workUnitIds proposal => exact quiet_effect hbody (requestReview_frame h).ledger rfl
  | review_resolved reviewId decision continuation => exact quiet_effect hbody (resolveReview_frame h).ledger rfl
  | reconciliation_recorded id effect observationIds => exact recordReconciliation_effect hbody h
  | native_completion_reconciled id completion => exact reconcileCompletion_effect hbody h
  | outcome_derived outcome => exact quiet_effect hbody (h.2 ▸ rfl) rfl
  | assignment_terminal outcome reason => exact endAssignment_effect hbody h

end revit_operator.assignment_kernel
