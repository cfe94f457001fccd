import RevitOperator.AssignmentKernel.JournalBuilder
import RevitOperator.AssignmentKernel.StateHistory

open checked checked_run

namespace revit_operator.assignment_kernel

/-- Some operation is settled with an effect that is not known. -/
def SettledUnknown (state : ReducerStateV2) : Prop :=
  ∃ id operation, state.operation? id = some operation ∧ operation.settlement_state = .settled
    ∧ operation.persistent_effect = .unknown

/-- The effect of every operation is known. -/
def EffectsKnown (state : ReducerStateV2) : Prop :=
  ∀ id operation, state.operation? id = some operation → operation.persistent_effect ≠ .unknown

/-- The events admit the operation in a state where every effect is known. -/
def AdmittedWhileKnown (host : JavaScriptHost) (events : List AssignmentEventV2) (id : String) : Prop :=
  ∃ pre event state operation, pre ++ [event] <+: events
    ∧ feed (applyEvent host) .initial pre = .ok state ∧ EffectsKnown state
    ∧ event.body = .operation_admitted operation ∧ operation.operation_id = id

/-- The event admits no preview and no apply. -/
def AdmitsOnlyReads (event : AssignmentEventV2) : Prop :=
  ∀ operation, event.body = .operation_admitted operation → operation.requested_effect = .read

/-- The step puts the operation into the dispatched state. -/
def MovesToDispatched (state next : ReducerStateV2) (id : String) : Prop :=
  ∃ before after, state.operation? id = some before ∧ next.operation? id = some after
    ∧ before.requested_effect ≠ .read ∧ before.dispatch_state ≠ .dispatched
    ∧ after.dispatch_state = .dispatched

section step

variable {host : JavaScriptHost} {state next : ReducerStateV2} {event : AssignmentEventV2} {id : String}

private theorem effectsKnown_of_admitted {snapshot : AssignmentSnapshotV2} {operation : OperationV2}
    {version : Nat} (hstate : state.Sound) (hsome : state.snapshot = some snapshot)
    (hvalid : validateOperationAdmission host (snapshot.atVersion version) operation = .ok ())
    (heffect : operation.requested_effect ≠ .read) : EffectsKnown state := by
  intro id retained hretained
  rw [ReducerStateV2.operation?_of_some hsome] at hretained
  have hnone : snapshot.unresolved_unknown_operation_ids = [] :=
    (validateOperationAdmission_accepted hvalid).fenced.resolve_right heffect
  exact (hstate snapshot hsome).2.1.unknown.1 hnone id retained hretained

private theorem admitsOnlyReads (hstate : state.Sound) (hunknown : SettledUnknown state)
    (h : applyEvent host state event = .ok next) : AdmitsOnlyReads event := by
  intro operation hbody
  by_contra heffect
  obtain ⟨snapshot, hsome, -, hvalid, -⟩ := admission_recorded h hbody
  obtain ⟨id, retained, hretained, -, hretainedUnknown⟩ := hunknown
  exact effectsKnown_of_admitted hstate hsome hvalid heffect id retained hretained hretainedUnknown

/-- The step that first retains a preview or an apply admits it while every
    effect is known. -/
private theorem admitted_while_known (hstate : state.Sound) (h : applyEvent host state event = .ok next)
    (hnew : ¬ ∃ operation, state.operation? id = some operation ∧ operation.requested_effect ≠ .read)
    (hretained : ∃ operation, next.operation? id = some operation ∧ operation.requested_effect ≠ .read) :
    EffectsKnown state ∧ ∃ operation, event.body = .operation_admitted operation
      ∧ operation.operation_id = id := by
  obtain ⟨after, hafter, heffect⟩ := hretained
  obtain ⟨snapshot, hsome, ⟨before, hbefore, hchange⟩ | ⟨operation, hbody, hvalid, hid, rfl⟩⟩ :=
    applyEvent_lookup hstate h hafter
  · refine absurd ⟨before, (ReducerStateV2.operation?_of_some hsome).trans hbefore, ?_⟩ hnew
    rwa [← hchange.requested_effect]
  · exact ⟨effectsKnown_of_admitted hstate hsome hvalid heffect, operation, hbody, hid⟩

end step

/-- Every preview and every apply of a run was admitted while all effects were
    known. -/
private theorem feed_admitted_while_known {host : JavaScriptHost} {events : List AssignmentEventV2}
    {state : ReducerStateV2} (hrun : feed (applyEvent host) .initial events = .ok state) {id : String}
    {operation : OperationV2} (hget : state.operation? id = some operation)
    (heffect : operation.requested_effect ≠ .read) : AdmittedWhileKnown host events id := by
  obtain ⟨pre, event, earlier, next, hpre, hearlier, hstep, hnew, hretained⟩ :=
    exists_step_of_feed
      (P := fun state => ∃ operation, state.operation? id = some operation ∧ operation.requested_effect ≠ .read)
      (by simp) hrun ⟨operation, hget, heffect⟩
  obtain ⟨hknown, admitted, hbody, hid⟩ :=
    admitted_while_known (feed_sound hearlier) hstep hnew hretained
  exact ⟨pre, event, earlier, admitted, hpre, hearlier, hknown, hbody, hid⟩

/-- While some settled effect is unknown no preview or apply is admitted, and
    one that is dispatched then was admitted earlier in the run, when every
    effect was known. -/
theorem unknown_effect_fence (host : JavaScriptHost) {events : List AssignmentEventV2}
    {snapshot : AssignmentSnapshotV2} (hrun : reduceAssignmentEventsV2 host events = .ok snapshot) :
    ∀ pre event, pre ++ [event] <+: events →
      ∃ state next, feed (applyEvent host) .initial pre = .ok state
        ∧ applyEvent host state event = .ok next
        ∧ (SettledUnknown state → AdmitsOnlyReads event
          ∧ ∀ id, MovesToDispatched state next id → AdmittedWhileKnown host pre id) := by
  intro pre event hpre
  obtain ⟨final, hfeed, -⟩ := reduceAssignmentEventsV2_eq_ok.1 hrun
  obtain ⟨next, hnext⟩ := feed_prefix hpre hfeed
  obtain ⟨state, hstate, hstep⟩ := feed_snoc_eq_ok.1 hnext
  refine ⟨state, next, hstate, hstep, fun hunknown => ⟨?_, ?_⟩⟩
  · exact admitsOnlyReads (feed_sound hstate) hunknown hstep
  · rintro id ⟨before, after, hbefore, -, heffect, -, -⟩
    exact feed_admitted_while_known hstate hbefore heffect

/-- Two edits are admitted, the first settles with an unknown effect, and the
    second is dispatched. -/
def fencedDispatchJournal : List AssignmentEventV2 :=
  sampleJournal [
    ("assignment-kernel", .operation_admitted (sampleEdit "edit-1")),
    ("assignment-kernel", .operation_admitted (sampleEdit "edit-2")),
    ("native-host", .native_dispatch_recorded "edit-1"),
    ("native-host", .operation_result_recorded (submittedResult (sampleEdit "edit-1")
      .failed_after_dispatch .dispatched .unknown .unknown "native-host" false sampleTime) none),
    ("native-host", .native_dispatch_recorded "edit-2")]

/-- The second edit is dispatched while the effect of the first is unknown. -/
theorem fence_passes_dispatch :
    (∃ snapshot, reduceAssignmentEventsV2 asciiHost fencedDispatchJournal = .ok snapshot)
      ∧ ∃ state next, feed (applyEvent asciiHost) .initial (fencedDispatchJournal.take 5) = .ok state
        ∧ feed (applyEvent asciiHost) .initial fencedDispatchJournal = .ok next
        ∧ SettledUnknown state ∧ MovesToDispatched state next "edit-2" := by
  have hunknown : (operationAfter asciiHost (fencedDispatchJournal.take 5) "edit-1").map (fun operation =>
      (operation.settlement_state, operation.persistent_effect)) = some (.settled, .unknown) := by decide
  have hbefore : (operationAfter asciiHost (fencedDispatchJournal.take 5) "edit-2").map (fun operation =>
      (operation.requested_effect, operation.dispatch_state)) = some (.apply, .not_dispatched) := by decide
  have hafter : (operationAfter asciiHost fencedDispatchJournal "edit-2").map
      OperationV2.dispatch_state = some .dispatched := by decide
  simp only [Option.map_eq_some_iff, operationAfter_eq_some, Prod.mk.injEq] at hunknown hbefore hafter
  obtain ⟨first, ⟨state, hstate, hfirst⟩, hsettled, hfirstUnknown⟩ := hunknown
  obtain ⟨before, ⟨_, hsame, hbeforeGet⟩, heffect, hopen⟩ := hbefore
  obtain rfl := Except.ok.inj (hstate.symm.trans hsame)
  obtain ⟨after, ⟨next, hnext, hafterGet⟩, hdispatched⟩ := hafter
  constructor
  · obtain ⟨snapshot, hsome, -⟩ := ReducerStateV2.operation?_eq_some.1 hafterGet
    exact ⟨snapshot, reduceAssignmentEventsV2_eq_ok.2 ⟨next, hnext, hsome⟩⟩
  · refine ⟨state, next, hstate, hnext, ⟨"edit-1", first, hfirst, hsettled, hfirstUnknown⟩, before, after,
      hbeforeGet, hafterGet, ?_, ?_, hdispatched⟩
    · simp [heffect]
    · simp [hopen]

/-- The event that dispatches the second edit. -/
def fencedDispatch : AssignmentEventV2 := fencedDispatchJournal.getLast (by decide)

theorem unknown_effect_fence_on_second_edit :
    ∃ state next, feed (applyEvent asciiHost) .initial (fencedDispatchJournal.take 5) = .ok state
      ∧ applyEvent asciiHost state fencedDispatch = .ok next
      ∧ (SettledUnknown state → AdmitsOnlyReads fencedDispatch
        ∧ ∀ id, MovesToDispatched state next id →
          AdmittedWhileKnown asciiHost (fencedDispatchJournal.take 5) id) := by
  have haccepted : (reduceAssignmentEventsV2 asciiHost fencedDispatchJournal).isOk = true := by decide
  obtain ⟨snapshot, hrun⟩ := exists_of_isOk haccepted
  exact unknown_effect_fence asciiHost hrun (fencedDispatchJournal.take 5) fencedDispatch ⟨[], rfl⟩

end revit_operator.assignment_kernel
