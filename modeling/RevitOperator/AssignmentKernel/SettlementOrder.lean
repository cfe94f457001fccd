import RevitOperator.AssignmentKernel.JournalBuilder
import RevitOperator.AssignmentKernel.StateHistory

open checked checked_run

namespace revit_operator.assignment_kernel

/-- The order of settlement: open, awaiting the result, retaining the
    observation, and then settled or with a failed commit. -/
def OperationSettlementStateV2.rank : OperationSettlementStateV2 → Nat
  | .open_ => 0
  | .awaiting_result => 1
  | .retaining_observation => 2
  | .observation_commit_failed => 3
  | .settled => 3

/-- The settlement states that come with a result. -/
def OperationSettlementStateV2.hasResult : OperationSettlementStateV2 → Bool
  | .open_ | .awaiting_result => false
  | .retaining_observation | .observation_commit_failed | .settled => true

/-- A result is recorded exactly in the settlement states that come with one. -/
def OperationV2.ResultFollowsSettlement (operation : OperationV2) : Prop :=
  operation.result.isSome = operation.settlement_state.hasResult

/-- Every operation of the state has a result exactly when its settlement state
    comes with one. -/
def ResultsFollowSettlement (state : ReducerStateV2) : Prop :=
  ∀ id operation, state.operation? id = some operation → operation.ResultFollowsSettlement

/-- No operation moves back in the order of settlement. -/
def SettlementAdvances (state : ReducerStateV2) (_ : AssignmentEventV2) (next : ReducerStateV2) : Prop :=
  ∀ id before after, state.operation? id = some before → next.operation? id = some after →
    before.settlement_state.rank ≤ after.settlement_state.rank

/-- A recorded dispatch names an operation that has no result yet. -/
def DispatchesWithoutResult (state : ReducerStateV2) (event : AssignmentEventV2) : Prop :=
  ∀ id operation, event.Dispatches id → state.operation? id = some operation → operation.result = none

section change

variable {host : JavaScriptHost} {snapshot : AssignmentSnapshotV2} {event : AssignmentEventV2}
  {id : String} {before after : OperationV2}

private theorem no_result_rank (h : before.ResultFollowsSettlement) (hnone : before.result = none) :
    before.settlement_state.rank ≤ 1 := by
  unfold OperationV2.ResultFollowsSettlement at h
  cases hstate : before.settlement_state <;>
    simp_all [OperationSettlementStateV2.hasResult, OperationSettlementStateV2.rank]

private theorem retaining_iff :
    before.retaining = true ↔
      before.settlement_state = .retaining_observation ∧ before.result.isSome = true := by
  simp [OperationV2.retaining]

/-- A move keeps results and settlement together and does not go back, unless
    it dispatches an operation that already has its result. -/
private theorem OperationMove.settlement_order (h : OperationMove host snapshot event id before after)
    (hbefore : before.ResultFollowsSettlement) (hdispatch : event.Dispatches id → before.result = none) :
    after.ResultFollowsSettlement ∧ before.settlement_state.rank ≤ after.settlement_state.rank := by
  cases h with
  | dispatch_started hbody hawaits =>
    simp only [OperationV2.awaitsDispatch, Bool.and_eq_true, beq_iff_eq] at hawaits
    unfold OperationV2.ResultFollowsSettlement at hbefore ⊢
    simp_all [startedOperation, OperationSettlementStateV2.hasResult, OperationSettlementStateV2.rank]
  | native_dispatched hbody =>
    have hnone := hdispatch (.inl hbody)
    refine ⟨?_, no_result_rank hbefore hnone⟩
    simp [OperationV2.ResultFollowsSettlement, dispatchedOperation, hnone,
      OperationSettlementStateV2.hasResult]
  | dispatched authority hbody =>
    have hnone := hdispatch (.inr ⟨authority, hbody⟩)
    refine ⟨?_, no_result_rank hbefore hnone⟩
    simp [OperationV2.ResultFollowsSettlement, dispatchedOperation, hnone,
      OperationSettlementStateV2.hasResult]
  | resulted result commit hbody hid hawaits =>
    simp only [OperationV2.awaitsResult, Bool.and_eq_true, Option.isNone_iff_eq_none] at hawaits
    have hrank := no_result_rank hbefore hawaits.2
    cases hrequired : result.observation_required with
    | true =>
      refine ⟨by simp [OperationV2.ResultFollowsSettlement, resultedOperation, hrequired,
        OperationSettlementStateV2.hasResult], ?_⟩
      simp only [resultedOperation, hrequired, if_true]
      exact hrank.trans (by decide)
    | false =>
      refine ⟨by simp [OperationV2.ResultFollowsSettlement, resultedOperation, hrequired,
        OperationSettlementStateV2.hasResult], ?_⟩
      simp only [resultedOperation, hrequired, Bool.false_eq_true, if_false]
      exact hrank.trans (by decide)
  | commit_retried => exact ⟨hbefore, le_refl _⟩
  | commit_failed _ _ _ _ hretaining =>
    obtain ⟨hstate, hresult⟩ := retaining_iff.1 hretaining
    refine ⟨?_, by simp [hstate, commitFailedOperation, OperationSettlementStateV2.rank]⟩
    simpa [OperationV2.ResultFollowsSettlement, commitFailedOperation, attemptedOperation,
      OperationSettlementStateV2.hasResult] using hresult
  | retention_failed _ _ hretaining =>
    obtain ⟨hstate, hresult⟩ := retaining_iff.1 hretaining
    refine ⟨?_, by simp [hstate, unretainedOperation, OperationSettlementStateV2.rank]⟩
    simpa [OperationV2.ResultFollowsSettlement, unretainedOperation,
      OperationSettlementStateV2.hasResult] using hresult
  | completion_reconciled => exact ⟨hbefore, le_refl _⟩
  | reconciled => exact ⟨hbefore, le_refl _⟩

private theorem Changed.settlement_order (h : Changed host snapshot event id before after)
    (hbefore : before.ResultFollowsSettlement) (hdispatch : event.Dispatches id → before.result = none) :
    after.ResultFollowsSettlement ∧ before.settlement_state.rank ≤ after.settlement_state.rank := by
  obtain ⟨moved, hchange, hlink⟩ := h
  have hmoved : moved.ResultFollowsSettlement
      ∧ before.settlement_state.rank ≤ moved.settlement_state.rank := by
    cases hchange with
    | kept => exact ⟨hbefore, le_refl _⟩
    | moved hmove => exact hmove.settlement_order hbefore hdispatch
    | retained _ _ _ hretaining =>
      obtain ⟨hstate, hresult⟩ := retaining_iff.1 hretaining
      refine ⟨?_, by simp [hstate, retainedOperation, OperationSettlementStateV2.rank]⟩
      simpa [OperationV2.ResultFollowsSettlement, retainedOperation,
        OperationSettlementStateV2.hasResult] using hresult
  cases hlink with
  | unlinked => exact hmoved
  | linked => exact hmoved

private theorem Admitted.result_follows (h : Admitted host snapshot event id after) :
    after.ResultFollowsSettlement := by
  obtain ⟨operation, -, hvalid, -, rfl⟩ := h
  have haccepted := validateOperationAdmission_accepted hvalid
  simp [OperationV2.ResultFollowsSettlement, admittedOperation, haccepted.result_none,
    haccepted.settlement_open, OperationSettlementStateV2.hasResult]

end change

section step

variable {host : JavaScriptHost} {state next : ReducerStateV2} {event : AssignmentEventV2}

private theorem settlement_step (hstate : state.Sound) (hresults : ResultsFollowSettlement state)
    (hmeet : DispatchesWithoutResult state event) (h : applyEvent host state event = .ok next) :
    ResultsFollowSettlement next ∧ SettlementAdvances state event next := by
  constructor
  · intro id after hafter
    obtain ⟨snapshot, hsome, ⟨before, hbefore, hchange⟩ | hadmitted⟩ := applyEvent_lookup hstate h hafter
    · have hget := (ReducerStateV2.operation?_of_some hsome).trans hbefore
      exact (hchange.settlement_order (hresults id before hget) fun hdispatch =>
        hmeet id before hdispatch hget).1
    · exact hadmitted.result_follows
  · intro id before after hbefore hafter
    obtain ⟨snapshot, hsome, hget⟩ := ReducerStateV2.operation?_eq_some.1 hbefore
    obtain ⟨kept, hkept, hchange⟩ := applyEvent_persists hstate h hsome hget
    obtain rfl : kept = after := by simpa using hkept.symm.trans hafter
    exact (hchange.settlement_order (hresults id before hbefore) fun hdispatch =>
      hmeet id before hdispatch hbefore).2

private theorem late_dispatch_breaks (hstate : state.Sound)
    (hmiss : ¬ DispatchesWithoutResult state event) (h : applyEvent host state event = .ok next) :
    ¬ ResultsFollowSettlement next := by
  simp only [DispatchesWithoutResult, not_forall] at hmiss
  obtain ⟨id, before, hdispatch, hbefore, hresult⟩ := hmiss
  obtain ⟨-, authority, effect, hafter⟩ := dispatch_recorded hstate h hdispatch hbefore
  intro hresults
  have hfollows : before.result.isSome = false := hresults id _ hafter
  simp [hresult] at hfollows

end step

/-- The settlement of every operation only moves forward along a run, with a
    result exactly in the states that come with one, if and only if no recorded
    dispatch of the run names an operation that already has its result. -/
theorem settlement_order_iff (host : JavaScriptHost) {events : List AssignmentEventV2}
    {snapshot : AssignmentSnapshotV2} (hrun : reduceAssignmentEventsV2 host events = .ok snapshot) :
    (AlongRun (applyEvent host) .initial events ResultsFollowSettlement
        ∧ AlongSteps (applyEvent host) .initial events SettlementAdvances)
      ↔ StepsMeet (applyEvent host) .initial events DispatchesWithoutResult := by
  obtain ⟨final, hfeed, -⟩ := reduceAssignmentEventsV2_eq_ok.1 hrun
  have hinitial : ResultsFollowSettlement .initial := by
    intro id operation hget
    simp at hget
  refine alongRun_and_alongSteps_iff_stepsMeet sound_steps ?_ ?_ (ReducerStateV2.satisfies_initial _)
    hinitial hfeed
  · intro state event next hstate hresults hmeet hnext
    exact settlement_step hstate hresults hmeet hnext
  · intro state event next hstate _ hmiss hnext hboth
    exact late_dispatch_breaks hstate hmiss hnext hboth.1

/-- A failure before dispatch whose observation is required leaves the
    operation dispatchable, and the dispatch is then recorded after all. -/
def lateDispatchJournal : List AssignmentEventV2 :=
  sampleJournal [
    ("assignment-kernel", .operation_admitted (sampleEdit "edit-1")),
    ("assignment-kernel", .operation_result_recorded (submittedResult (sampleEdit "edit-1")
      .failed_before_dispatch .not_dispatched .none .not_applicable "backend" true sampleTime) none),
    ("assignment-kernel", .native_dispatch_recorded "edit-1")]

/-- The late dispatch is accepted and puts the operation with its result back
    to awaiting one. -/
theorem late_dispatch_reopens :
    (∃ snapshot, reduceAssignmentEventsV2 asciiHost lateDispatchJournal = .ok snapshot)
      ∧ ¬ AlongRun (applyEvent asciiHost) .initial lateDispatchJournal ResultsFollowSettlement
      ∧ ¬ AlongSteps (applyEvent asciiHost) .initial lateDispatchJournal SettlementAdvances := by
  have hbefore : (operationAfter asciiHost (lateDispatchJournal.take 3) "edit-1").map
      OperationV2.settlement_state = some .retaining_observation := by decide
  have hafter : (operationAfter asciiHost lateDispatchJournal "edit-1").map (fun operation =>
      (operation.settlement_state, operation.result.isSome)) = some (.awaiting_result, true) := by decide
  simp only [Option.map_eq_some_iff, operationAfter_eq_some, Prod.mk.injEq] at hbefore hafter
  obtain ⟨before, ⟨state, hstate, hget⟩, hretaining⟩ := hbefore
  obtain ⟨after, ⟨final, hfinal, hfinalGet⟩, hawaiting, hresult⟩ := hafter
  refine ⟨?_, fun hresults => ?_, fun hadvances => ?_⟩
  · obtain ⟨snapshot, hsome, -⟩ := ReducerStateV2.operation?_eq_some.1 hfinalGet
    exact ⟨snapshot, reduceAssignmentEventsV2_eq_ok.2 ⟨final, hfinal, hsome⟩⟩
  · have hfollows := hresults lateDispatchJournal (List.prefix_refl _) final hfinal "edit-1" after hfinalGet
    simp [OperationV2.ResultFollowsSettlement, hawaiting, hresult,
      OperationSettlementStateV2.hasResult] at hfollows
  · obtain ⟨mid, hmid, hlast⟩ := feed_snoc_eq_ok.1 (show feed (applyEvent asciiHost) .initial
      (lateDispatchJournal.take 3 ++ [_]) = .ok final from hfinal)
    obtain rfl : state = mid := by simpa using hstate.symm.trans hmid
    have hrank := hadvances _ _ (List.prefix_refl _) state final hstate hlast "edit-1" before after hget
      hfinalGet
    simp [hretaining, hawaiting, OperationSettlementStateV2.rank] at hrank

theorem settlement_order_iff_on_first_edit :
    (AlongRun (applyEvent asciiHost) .initial (lateDispatchJournal.take 3) ResultsFollowSettlement
        ∧ AlongSteps (applyEvent asciiHost) .initial (lateDispatchJournal.take 3) SettlementAdvances)
      ↔ StepsMeet (applyEvent asciiHost) .initial (lateDispatchJournal.take 3) DispatchesWithoutResult := by
  have haccepted : (reduceAssignmentEventsV2 asciiHost (lateDispatchJournal.take 3)).isOk = true := by decide
  obtain ⟨snapshot, hrun⟩ := exists_of_isOk haccepted
  exact settlement_order_iff asciiHost hrun

end revit_operator.assignment_kernel
