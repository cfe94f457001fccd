import RevitOperator.AssignmentKernel.StateHistory

open checked checked_run
open revit_operator.contracts

namespace revit_operator.assignment_kernel

def isTerminalProviderCallStateV2 : ProviderCallStateV2 → Bool
  | .completed | .response_transport_completed => true
  | _ => false

/-- The times of a call fit its state, and its duration is exact. -/
structure ProviderCallV2.Staged (call : ProviderCallV2) : Prop where
  completed : call.completed_at.isSome = true ↔ isTerminalProviderCallStateV2 call.state = true
  transported : call.state = .response_transport_completed → call.response_transport_completed_at.isSome = true
  duration : ∀ duration, call.provider_duration_ms = some duration → durationValid duration = true

/-- The fields of a usage hold that its admission settles. -/
structure ProviderUsageHoldV1.Admitted (host : JavaScriptHost) (hold : ProviderUsageHoldV1) : Prop where
  contract : hold.schema = PROVIDER_USAGE_HOLD_V1_SCHEMA ∧ hold.code = "usageLimitExceeded"
  identities : boundedIdentity hold.hold_id = true ∧ boundedIdentity hold.attempt_id = true
    ∧ boundedIdentity hold.provider_thread_id = true ∧ boundedIdentity hold.provider_turn_id = true
  recorded : host.finiteDate hold.recorded_at = true
  budget : budgetBounded hold.resume_budget = true
  worker : hold.worker_identity.all validProviderUsageWorkerIdentityV1 = true

/-- The fields of an execution failure that its admission settles. -/
structure ExecutionFailureV2.Admitted (failure : ExecutionFailureV2) : Prop where
  schema : failure.schema = ASSIGNMENT_EXECUTION_FAILURE_V2_SCHEMA
  failure_id : text.isStableIdentity 239 failure.failure_id = true
  code : failure.code = executionFailureCodeV2 failure.error_class

/-- What one accepted event of the current run does to the provider calls and
    the publication index. -/
inductive PublicationEffect (host : JavaScriptHost) (snapshot : AssignmentSnapshotV2) (event : AssignmentEventV2) :
    Record ProviderCallV2 → PublicationIndex → Prop
  | quiet : PublicationEffect host snapshot event snapshot.provider_calls snapshot.publicationIndex
  | controlled (request : ExecutionControlRequest) (hid : text.isStableIdentity 159 request.command_id = true) :
      PublicationEffect host snapshot event snapshot.provider_calls
        { snapshot.publicationIndex with
          provider_usage_hold := if request.resumes then none else snapshot.provider_usage_hold
          execution_control := some
            ⟨if request.resumes then .running else .paused, request.command_id, event.occurred_at⟩ }
  | held (hold : ProviderUsageHoldV1) (hadmitted : hold.Admitted host)
      (hbinding : hold.binding = snapshot.current_binding) :
      PublicationEffect host snapshot event snapshot.provider_calls
        { snapshot.publicationIndex with provider_usage_hold := some hold }
  | opened (call : ProviderCallV2) (hstaged : call.Staged)
      (hnew : snapshot.provider_calls.get? call.call_id = none) :
      PublicationEffect host snapshot event (snapshot.provider_calls.set call.call_id call)
        { snapshot.publicationIndex with
          provider_call_ids := text.sortedUnique (snapshot.provider_call_ids ++ [call.call_id]) }
  | repeated (id : String) (hknown : (snapshot.provider_calls.get? id).isSome = true) :
      PublicationEffect host snapshot event snapshot.provider_calls
        { snapshot.publicationIndex with
          provider_call_ids := text.sortedUnique (snapshot.provider_call_ids ++ [id]) }
  | advanced (call : ProviderCallStateEvent) (previous : ProviderCallV2)
      (hget : snapshot.provider_calls.get? call.call_id = some previous)
      (hcheck : checkProviderState host snapshot previous call = .ok ()) :
      PublicationEffect host snapshot event
        (snapshot.provider_calls.set call.call_id (advancedCall previous event.occurred_at call))
        snapshot.publicationIndex
  | failed (failure : ExecutionFailureV2) (hadmitted : failure.Admitted)
      (hnew : snapshot.execution_failures.get? failure.failure_id = none) :
      PublicationEffect host snapshot event snapshot.provider_calls
        { snapshot.publicationIndex with
          execution_failure_ids := snapshot.execution_failure_ids ++ [failure.failure_id]
          execution_failures := snapshot.execution_failures.set failure.failure_id failure }

section staged

variable {host : JavaScriptHost} {snapshot : AssignmentSnapshotV2} {occurredAt : String}

theorem admittedCall_staged (event : ProviderCallStateEvent) :
    (admittedCall snapshot occurredAt event).Staged :=
  ⟨by simp [admittedCall, isTerminalProviderCallStateV2], by simp [admittedCall], by simp [admittedCall]⟩

theorem telemetryCall_staged (callId provider model : String) (effort : Option String) (success : Bool) :
    (telemetryCall snapshot occurredAt callId provider model effort success).Staged :=
  ⟨by simp [telemetryCall, isTerminalProviderCallStateV2], by simp [telemetryCall], by simp [telemetryCall]⟩

private theorem isTerminal_iff_rank {state : ProviderCallStateV2} :
    isTerminalProviderCallStateV2 state = true ↔ 4 ≤ PROVIDER_STATE_RANK state := by
  cases state <;> simp [isTerminalProviderCallStateV2, PROVIDER_STATE_RANK]

private theorem isTerminal_max {previous reported : ProviderCallStateV2} :
    isTerminalProviderCallStateV2
        (if PROVIDER_STATE_RANK previous < PROVIDER_STATE_RANK reported then reported else previous) = true
      ↔ isTerminalProviderCallStateV2 previous = true ∨ isTerminalProviderCallStateV2 reported = true := by
  simp only [isTerminal_iff_rank]
  split <;> omega

theorem advancedCall_staged {previous : ProviderCallV2} {event : ProviderCallStateEvent} (h : previous.Staged)
    (hcheck : checkProviderState host snapshot previous event = .ok ()) :
    (advancedCall previous occurredAt event).Staged := by
  simp only [checkProviderState, check_bind_eq_ok, onlyIf_eq_ok, require_eq_ok] at hcheck
  obtain ⟨-, -, -, htransport, -⟩ := hcheck
  have hcompleted : ∀ {time : Option String}, truthy time = true → time.isSome = true := by
    intro time htime
    cases time with
    | none => cases htime
    | some time => rfl
  constructor
  · simp only [advancedCall, isTerminal_max]
    rw [← h.completed]
    cases hstate : event.state with
    | completed => simp [stampState, isTerminalProviderCallStateV2]
    | response_transport_completed =>
      simp [stampState, isTerminalProviderCallStateV2, hcompleted (htransport hstate)]
    | _ => simp [stampState, isTerminalProviderCallStateV2]
  · intro hreached
    cases hstate : event.state with
    | response_transport_completed => simp [advancedCall, stampState, hstate]
    | _ =>
      have hprevious : previous.state = .response_transport_completed := by
        simp only [advancedCall, hstate] at hreached
        split at hreached
        · cases hreached
        · exact hreached
      simpa [advancedCall, stampState, hstate] using h.transported hprevious
  · have hkept : (advancedCall previous occurredAt event).provider_duration_ms = previous.provider_duration_ms := by
      cases hstate : event.state <;> simp [advancedCall, stampState, hstate]
    rw [hkept]
    exact h.duration

end staged

/-! Events about operations and observations leave what is published alone. -/

/-- The later snapshot has the provider calls and the publication index of the
    earlier one. -/
def AssignmentSnapshotV2.PublishesAs (next snapshot : AssignmentSnapshotV2) : Prop :=
  next.provider_calls = snapshot.provider_calls ∧ next.publicationIndex = snapshot.publicationIndex

section frame

variable {host : JavaScriptHost} {state : ReducerStateV2} {snapshot next : AssignmentSnapshotV2}
  {event : AssignmentEventV2}

theorem AssignmentSnapshotV2.Frames.publishesAs (h : next.Frames snapshot) : next.PublishesAs snapshot :=
  ⟨congrArg OperationLedger.provider_calls h.ledger, h.index⟩

private theorem admitOperation_publishesAs {operation : OperationV2}
    (h : admitOperation host snapshot operation = .ok next) : next.PublishesAs snapshot := by
  simp only [admitOperation, check_bind_eq_ok, pure_eq_ok] at h
  obtain ⟨-, rfl⟩ := h
  exact ⟨rfl, rfl⟩

private theorem startDispatch_publishesAs {occurredAt id : String}
    (h : startDispatch snapshot occurredAt id = .ok next) : next.PublishesAs snapshot := by
  simp only [startDispatch, bind_eq_ok, pure_eq_ok] at h
  obtain ⟨-, -, rfl⟩ := h
  exact ⟨rfl, rfl⟩

private theorem recordNativeDispatch_publishesAs {occurredAt id : String}
    (h : recordNativeDispatch snapshot occurredAt id = .ok next) : next.PublishesAs snapshot := by
  simp only [recordNativeDispatch, bind_eq_ok, pure_eq_ok] at h
  obtain ⟨-, -, -, -, rfl⟩ := h
  exact ⟨rfl, rfl⟩

private theorem recordOperationDispatch_publishesAs {occurredAt id : String} {authority : RecordedDispatchAuthorityV2}
    (h : recordOperationDispatch snapshot occurredAt id authority = .ok next) : next.PublishesAs snapshot := by
  simp only [recordOperationDispatch, bind_eq_ok, pure_eq_ok] at h
  obtain ⟨-, -, -, -, -, -, rfl⟩ := h
  exact ⟨rfl, rfl⟩

private theorem recordResult_publishesAs {result : OperationResultV2} {commit : Option ObservationCommitInputV2}
    (h : recordResult host snapshot result commit = .ok next) : next.PublishesAs snapshot := by
  simp only [recordResult, bind_eq_ok, pure_eq_ok] at h
  obtain ⟨-, -, -, -, -, -, rfl⟩ := h
  exact ⟨rfl, rfl⟩

private theorem retainObservation_publishesAs {occurredAt : String} {observation : ObservationV2}
    (h : retainObservation host snapshot occurredAt observation = .ok next) : next.PublishesAs snapshot := by
  simp only [retainObservation, bind_eq_ok, pure_eq_ok] at h
  obtain ⟨-, -, -, -, -, -, rfl⟩ := h
  exact ⟨rfl, rfl⟩

private theorem recordCommitRetry_publishesAs {id resultId errorCode : String} {attempt : Int}
    (h : recordCommitRetry snapshot id resultId attempt errorCode = .ok next) : next.PublishesAs snapshot := by
  simp only [recordCommitRetry, bind_eq_ok, pure_eq_ok] at h
  obtain ⟨-, -, -, -, -, -, rfl⟩ := h
  exact ⟨rfl, rfl⟩

private theorem recordCommitFailure_publishesAs {occurredAt id resultId errorCode : String} {attempt : Int}
    (h : recordCommitFailure snapshot occurredAt id resultId attempt errorCode = .ok next) : next.PublishesAs snapshot := by
  simp only [recordCommitFailure, bind_eq_ok, pure_eq_ok] at h
  obtain ⟨-, -, -, -, -, -, rfl⟩ := h
  exact ⟨rfl, rfl⟩

private theorem recordRetentionFailure_publishesAs {occurredAt id errorCode : String}
    (h : recordRetentionFailure snapshot occurredAt id errorCode = .ok next) : next.PublishesAs snapshot := by
  simp only [recordRetentionFailure, bind_eq_ok, pure_eq_ok] at h
  obtain ⟨-, -, -, -, rfl⟩ := h
  exact ⟨rfl, rfl⟩

private theorem recordReconciliation_publishesAs {id : String} {effect : ResolvedEffectV2} {observationIds : List String}
    (h : recordReconciliation snapshot id effect observationIds = .ok next) : next.PublishesAs snapshot := by
  simp only [recordReconciliation, bind_eq_ok, pure_eq_ok] at h
  obtain ⟨-, -, -, -, rfl⟩ := h
  exact ⟨rfl, rfl⟩

private theorem endAssignment_publishesAs {occurredAt reason : String} {outcome : TerminalOutcomeV2}
    (h : endAssignment host snapshot occurredAt outcome reason = .ok next) : next.PublishesAs snapshot := by
  simp only [endAssignment, check_bind_eq_ok, pure_eq_ok] at h
  obtain ⟨-, -, rfl⟩ := h
  exact ⟨rfl, rfl⟩

private theorem reconcileCompletion_publishesAs {actor id : String} {completion : Json}
    (h : reconcileCompletion host snapshot actor id completion = .ok next) : next.PublishesAs snapshot := by
  simp only [reconcileCompletion, bind_eq_ok] at h
  obtain ⟨-, -, operation, -, h⟩ := h
  cases heffect : nativeCompletionReconciliationEffectV1 host completion operation with
  | none => simp [heffect] at h
  | some effect =>
    simp only [heffect, pure_eq_ok] at h
    subst h
    exact ⟨rfl, rfl⟩

end frame

section effect

variable {host : JavaScriptHost} {state : ReducerStateV2} {snapshot next : AssignmentSnapshotV2}
  {event : AssignmentEventV2}

private theorem quiet_publication (h : next.PublishesAs snapshot) :
    PublicationEffect host snapshot event next.provider_calls next.publicationIndex := by
  rw [h.1, h.2]
  exact .quiet

private theorem control_publication {actor : String} {version : Nat} {request : ExecutionControlRequest}
    (h : applyAssignmentExecutionControlV2 host snapshot actor version event.occurred_at request = .ok next) :
    PublicationEffect host snapshot event next.provider_calls next.publicationIndex := by
  simp only [applyAssignmentExecutionControlV2, check_bind_eq_ok, pure_eq_ok, require_eq_ok] at h
  obtain ⟨-, hid, -, -, rfl⟩ := h
  exact .controlled request hid

private theorem hold_publication {hold : ProviderUsageHoldV1}
    (h : recordUsageHold host state snapshot event hold = .ok next) :
    PublicationEffect host snapshot event next.provider_calls next.publicationIndex := by
  simp only [recordUsageHold, validateProviderUsageHoldV1, check_bind_eq_ok, pure_eq_ok, require_eq_ok,
    sameAssignmentBindingV2_iff] at h
  obtain ⟨⟨-, hcontract, hids, hbinding, ⟨-, hrecorded⟩, hbudget, hworker, -⟩, -, rfl⟩ := h
  exact .held hold ⟨hcontract, hids, hrecorded, hbudget, hworker⟩ hbinding.symm

private theorem failure_publication {failure : ExecutionFailureV2}
    (h : recordExecutionFailure snapshot failure = .ok next) :
    PublicationEffect host snapshot event next.provider_calls next.publicationIndex := by
  simp only [recordExecutionFailure, check_bind_eq_ok, pure_eq_ok, require_eq_ok,
    Option.isNone_iff_eq_none] at h
  obtain ⟨hschema, -, hid, hcode, hnew, -, rfl⟩ := h
  exact .failed failure ⟨hschema, hid, hcode⟩ hnew

private theorem state_publication {call : ProviderCallStateEvent}
    (h : applyProviderState host snapshot event.occurred_at call = .ok next) :
    PublicationEffect host snapshot event next.provider_calls next.publicationIndex := by
  simp only [applyProviderState, check_bind_eq_ok] at h
  obtain ⟨-, h⟩ := h
  cases hget : snapshot.provider_calls.get? call.call_id with
  | none =>
    simp only [hget, admitProviderCall, check_bind_eq_ok, pure_eq_ok] at h
    obtain ⟨-, -, -, -, -, -, -, rfl⟩ := h
    exact .opened _ (admittedCall_staged call) hget
  | some previous =>
    simp only [hget, check_bind_eq_ok, pure_eq_ok] at h
    obtain ⟨hcheck, rfl⟩ := h
    exact .advanced call previous hget hcheck

private theorem telemetry_publication {callId provider model : String} {effort : Option String} {success : Bool}
    (h : recordProviderCall snapshot event.occurred_at callId provider model effort success = .ok next) :
    PublicationEffect host snapshot event next.provider_calls next.publicationIndex := by
  simp only [recordProviderCall, check_bind_eq_ok, pure_eq_ok] at h
  obtain ⟨-, rfl⟩ := h
  cases hget : snapshot.provider_calls.get? callId with
  | none => exact .opened _ (telemetryCall_staged callId provider model effort success) hget
  | some call => exact .repeated callId (by simp [hget])

private theorem receipt_publication {call : ProviderCallV2} (h : recordProviderReceipt snapshot call = .ok next) :
    PublicationEffect host snapshot event next.provider_calls next.publicationIndex := by
  simp only [recordProviderReceipt, check_bind_eq_ok, pure_eq_ok, require_eq_ok, Option.isNone_iff_eq_none] at h
  obtain ⟨-, ⟨hstate, hcompleted⟩, hduration, -, hnew, rfl⟩ := h
  refine .opened call ⟨?_, by simp [hstate], ?_⟩ hnew
  · cases hcall : call.completed_at with
    | none => simp [hcall, truthy] at hcompleted
    | some time => simp [hstate, isTerminalProviderCallStateV2]
  · intro duration hrecorded
    simpa [hrecorded] using hduration

/-- Every accepted event of the current run has one of the publication
    effects. -/
theorem recordEvent_publication (h : recordEvent host state snapshot event = .ok next) :
    PublicationEffect host snapshot event next.provider_calls next.publicationIndex := by
  unfold recordEvent at h
  cases hbody : event.body with
    simp only [hbody, Except.ok.injEq, check_bind_eq_ok, pure_eq_ok] at h
  | assignment_created spec => exact h ▸ .quiet
  | run_started => exact h ▸ .quiet
  | execution_control_requested request => exact control_publication h
  | provider_usage_hold_recorded hold => exact hold_publication h
  | run_superseded generation => exact h.2 ▸ .quiet
  | work_unit_state_changed => exact quiet_publication (changeWorkUnitState_frame h).publishesAs
  | input_requested => exact quiet_publication (requestInput_frame h).publishesAs
  | input_supplied => exact quiet_publication (supplyInput_frame h).publishesAs
  | provider_call_recorded => exact telemetry_publication h
  | provider_call_state_recorded => exact state_publication h
  | provider_call_receipt_recorded => exact receipt_publication h
  | execution_failure_recorded => exact failure_publication h
  | provider_budget_exhausted => exact quiet_publication (exhaustProviderBudget_frame h).publishesAs
  | progress_epoch_recorded => exact quiet_publication (recordProgressEpoch_frame h).publishesAs
  | progress_blocked => exact quiet_publication (blockProgress_frame h).publishesAs
  | operation_admitted => exact quiet_publication (admitOperation_publishesAs h)
  | operation_dispatch_started => exact quiet_publication (startDispatch_publishesAs h)
  | operation_dispatch_recorded => exact quiet_publication (recordOperationDispatch_publishesAs h)
  | native_dispatch_recorded => exact quiet_publication (recordNativeDispatch_publishesAs h)
  | operation_result_recorded => exact quiet_publication (recordResult_publishesAs h)
  | observation_retained => exact quiet_publication (retainObservation_publishesAs h)
  | observation_commit_retry_recorded => exact quiet_publication (recordCommitRetry_publishesAs h)
  | observation_commit_failed => exact quiet_publication (recordCommitFailure_publishesAs h)
  | observation_retention_failed => exact quiet_publication (recordRetentionFailure_publishesAs h)
  | criterion_evaluated => exact quiet_publication (recordEvaluation_frame h).publishesAs
  | result_delivered => exact quiet_publication (deliverResult_frame h).publishesAs
  | work_plan_declared => exact quiet_publication (replaceWorkPlan_frame h).publishesAs
  | work_plan_location_recorded => exact quiet_publication (replaceWorkPlan_frame h).publishesAs
  | advisory_followup_disposition_recorded =>
    exact quiet_publication (recordFollowupDisposition_frame h).publishesAs
  | work_plan_item_claimed => exact quiet_publication (claimPlanItem_frame h).publishesAs
  | work_plan_scope_requested => exact quiet_publication (requestPlanScope_frame h).publishesAs
  | work_plan_item_deferred => exact quiet_publication (replaceWorkPlan_frame h).publishesAs
  | work_plan_item_completed => exact quiet_publication (replaceWorkPlan_frame h).publishesAs
  | review_requested => exact quiet_publication (requestReview_frame h).publishesAs
  | review_resolved => exact quiet_publication (resolveReview_frame h).publishesAs
  | reconciliation_recorded => exact quiet_publication (recordReconciliation_publishesAs h)
  | native_completion_reconciled => exact quiet_publication (reconcileCompletion_publishesAs h)
  | outcome_derived => exact h.2 ▸ .quiet
  | assignment_terminal => exact quiet_publication (endAssignment_publishesAs h)

end effect

/-- What holds of the provider calls and the publication index of every
    snapshot: the call and failure ids are those of the calls and failures,
    without repeats, every call is kept under its own identity with times that
    fit its state, every failure, control command and usage hold is as its
    admission left it, and a hold belongs to the current run. -/
structure PublicationSound (host : JavaScriptHost) (binding : AssignmentBindingV2)
    (calls : Record ProviderCallV2) (index : PublicationIndex) : Prop where
  call_ids_nodup : index.provider_call_ids.Nodup
  call_ids : ∀ id, id ∈ index.provider_call_ids ↔ (calls.get? id).isSome = true
  calls : ∀ id call, calls.get? id = some call → call.call_id = id ∧ call.Staged
  failure_ids_nodup : index.execution_failure_ids.Nodup
  failure_ids : ∀ id, id ∈ index.execution_failure_ids ↔ (index.execution_failures.get? id).isSome = true
  failures : ∀ id failure, index.execution_failures.get? id = some failure →
    failure.failure_id = id ∧ failure.Admitted
  control : ∀ control, index.execution_control = some control →
    text.isStableIdentity 159 control.command_id = true
  hold : ∀ hold, index.provider_usage_hold = some hold → hold.Admitted host ∧ hold.binding = binding

/-- The published part of the snapshot is sound. -/
def AssignmentSnapshotV2.Publishes (host : JavaScriptHost) (snapshot : AssignmentSnapshotV2) : Prop :=
  PublicationSound host snapshot.current_binding snapshot.provider_calls snapshot.publicationIndex

section sound

variable {host : JavaScriptHost} {state nextState : ReducerStateV2} {snapshot : AssignmentSnapshotV2}
  {event : AssignmentEventV2} {calls : Record ProviderCallV2} {index : PublicationIndex}

private theorem nodup_sortedUnique (xs : List String) : (text.sortedUnique xs).Nodup :=
  (List.perm_insertionSort _ _).nodup_iff.2 (List.nodup_dedup xs)

private theorem isSome_set_iff {α : Type} {record : Record α} {id other : String} {value : α} :
    ((record.set id value).get? other).isSome = true ↔ (record.get? other).isSome = true ∨ other = id := by
  rw [Record.get?_set]
  by_cases h : other = id <;> simp [h]

theorem PublicationEffect.sound (h : PublicationEffect host snapshot event calls index)
    (hsound : snapshot.Publishes host) : PublicationSound host snapshot.current_binding calls index := by
  cases h with
  | quiet => exact hsound
  | controlled request hid =>
    refine { hsound with control := ?_, hold := ?_ }
    · rintro control ⟨⟩
      exact hid
    · intro hold hhold
      dsimp only at hhold
      split at hhold
      · cases hhold
      · exact hsound.hold hold hhold
  | held hold hadmitted hbinding =>
    refine { hsound with hold := ?_ }
    rintro kept ⟨⟩
    exact ⟨hadmitted, hbinding⟩
  | opened call hstaged hnew =>
    refine { hsound with call_ids_nodup := nodup_sortedUnique _, call_ids := ?_, calls := ?_ }
    · intro id
      have hid := hsound.call_ids id
      simp only [AssignmentSnapshotV2.publicationIndex] at hid
      rw [text.mem_sortedUnique, List.mem_append, List.mem_singleton, isSome_set_iff, hid]
    · exact Record.forall_get?_set ⟨rfl, hstaged⟩ fun id kept _ hkept => hsound.calls id kept hkept
  | repeated id hknown =>
    refine { hsound with call_ids_nodup := nodup_sortedUnique _, call_ids := ?_ }
    intro other
    have hother := hsound.call_ids other
    simp only [AssignmentSnapshotV2.publicationIndex] at hother
    rw [text.mem_sortedUnique, List.mem_append, List.mem_singleton, hother]
    constructor
    · rintro (h | rfl)
      · exact h
      · exact hknown
    · exact .inl
  | advanced call previous hget hcheck =>
    obtain ⟨hprevious, hstaged⟩ := hsound.calls _ _ hget
    refine { hsound with call_ids := ?_, calls := ?_ }
    · intro id
      rw [hsound.call_ids id, isSome_set_iff]
      constructor
      · exact .inl
      · rintro (h | rfl)
        · exact h
        · simp [hget]
    · refine Record.forall_get?_set ⟨?_, advancedCall_staged hstaged hcheck⟩
        fun id kept _ hkept => hsound.calls id kept hkept
      exact (stampState_call_id previous call.state event.occurred_at).trans hprevious
  | failed failure hadmitted hnew =>
    have hids := hsound.failure_ids
    simp only [AssignmentSnapshotV2.publicationIndex] at hids
    refine { hsound with failure_ids_nodup := ?_, failure_ids := ?_, failures := ?_ }
    · rw [List.nodup_append]
      refine ⟨hsound.failure_ids_nodup, by simp, ?_⟩
      rintro id hid other hother rfl
      rw [List.mem_singleton] at hother
      subst hother
      have hknown := (hids failure.failure_id).1 hid
      simp [hnew] at hknown
    · intro id
      rw [List.mem_append, List.mem_singleton, hids, isSome_set_iff]
    · exact Record.forall_get?_set ⟨rfl, hadmitted⟩ fun id kept _ hkept => hsound.failures id kept hkept

theorem createdSnapshot_publishes (spec : AssignmentSpecV2) : (createdSnapshot event spec).Publishes host := by
  constructor <;> simp [createdSnapshot, AssignmentSnapshotV2.publicationIndex]

/-- A superseded run holds no usage hold: a new run starts without one. -/
structure ReducerStateV2.Publishes (host : JavaScriptHost) (state : ReducerStateV2) : Prop where
  snapshot : state.Satisfies fun snapshot => 1 ≤ snapshot.assignment_version ∧ snapshot.Publishes host
  unheld : state.superseded = true → state.Satisfies fun snapshot => snapshot.provider_usage_hold = none

theorem ReducerStateV2.initial_publishes : ReducerStateV2.initial.Publishes host :=
  ⟨ReducerStateV2.satisfies_initial _, fun _ => ReducerStateV2.satisfies_initial _⟩

private theorem ends_run_of_superseded (hlive : state.superseded = false)
    (h : (remember state event).superseded = true) :
    ∃ generation, event.body = .run_superseded generation := by
  cases hbody : event.body with
  | run_superseded generation => exact ⟨generation, rfl⟩
  | _ => simp [remember, hbody, hlive] at h

theorem applyEvent_publishes (hstate : state.Publishes host) (h : applyEvent host state event = .ok nextState) :
    nextState.Publishes host := by
  cases applyEvent_effect h with
  | created spec hbody hnone hversion hbinding =>
    constructor
    · refine ReducerStateV2.satisfies_of_some rfl ⟨?_, createdSnapshot_publishes spec⟩
      exact hversion.ge
    · intro hsuperseded
      exact ReducerStateV2.satisfies_of_some rfl rfl
  | restarted snapshot hsome hopen hversion hbody hsuperseded hscope hgeneration =>
    obtain ⟨hpositive, hsound⟩ := hstate.snapshot snapshot hsome
    have hunheld := hstate.unheld hsuperseded snapshot hsome
    refine ⟨ReducerStateV2.satisfies_of_some rfl ⟨?_, ?_⟩, fun hlive => ?_⟩
    · change 1 ≤ event.assignment_version
      omega
    · refine { hsound with hold := ?_ }
      intro hold hhold
      exact absurd (hunheld.symm.trans hhold) (by simp)
    · cases hlive
  | recorded snapshot next hsome hopen hversion hlive hbinding hbody hrecord =>
    obtain ⟨hpositive, hsound⟩ := hstate.snapshot snapshot hsome
    have hledger := recordEvent_effect hrecord
    refine ⟨ReducerStateV2.satisfies_of_some rfl ⟨?_, ?_⟩, fun hsuperseded => ?_⟩
    · have hkept : next.assignment_version = event.assignment_version := hledger.assignment_version
      change 1 ≤ next.assignment_version
      omega
    · have hkept : next.current_binding = snapshot.current_binding := hledger.current_binding
      change PublicationSound host next.current_binding _ _
      rw [hkept]
      exact (recordEvent_publication hrecord).sound hsound
    · obtain ⟨generation, hend⟩ := ends_run_of_superseded hlive hsuperseded
      simp only [recordEvent, hend, checkSupersession, check_bind_eq_ok, pure_eq_ok, require_eq_ok] at hrecord
      obtain ⟨⟨hunheld, -⟩, rfl⟩ := hrecord
      exact ReducerStateV2.satisfies_of_some rfl hunheld

/-- The published part of every snapshot the reducer returns is sound, and its
    version is positive. -/
theorem publishes_of_reduce {events : List AssignmentEventV2}
    (h : reduceAssignmentEventsV2 host events = .ok snapshot) :
    1 ≤ snapshot.assignment_version ∧ snapshot.Publishes host := by
  obtain ⟨state, hstate, hsome⟩ := reduceAssignmentEventsV2_eq_ok.1 h
  have hsound := feed_invariant (fun _ _ _ hbefore hnext => applyEvent_publishes hbefore hnext)
    (ReducerStateV2.initial_publishes : ReducerStateV2.initial.Publishes host) hstate
  exact hsound.snapshot snapshot hsome

end sound

end revit_operator.assignment_kernel
