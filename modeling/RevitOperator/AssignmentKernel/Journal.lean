import RevitOperator.AssignmentKernel.Transition

open checked checked_run

namespace revit_operator.assignment_kernel

/-- What one accepted event does to the state of the reducer. -/
inductive StateEffect (host : JavaScriptHost) (state : ReducerStateV2) (event : AssignmentEventV2) :
    ReducerStateV2 → Prop
  | created (spec : AssignmentSpecV2) (hbody : event.body = .assignment_created spec)
      (hnone : state.snapshot = none) (hversion : event.assignment_version = 1)
      (hbinding : event.binding = spec.binding) :
      StateEffect host state event
        { state with snapshot := some (withDerivedState host (createdSnapshot event spec)) }
  | restarted (snapshot : AssignmentSnapshotV2) (hsome : state.snapshot = some snapshot)
      (hopen : snapshot.terminal = false)
      (hversion : event.assignment_version = snapshot.assignment_version + 1)
      (hbody : event.body = .run_started) (hsuperseded : state.superseded = true)
      (hscope : event.binding.assignment_id = snapshot.current_binding.assignment_id
        ∧ event.binding.session_id = snapshot.current_binding.session_id
        ∧ event.binding.principal_id = snapshot.current_binding.principal_id
        ∧ event.binding.document_fingerprint = snapshot.current_binding.document_fingerprint)
      (hgeneration : snapshot.current_binding.generation < event.binding.generation) :
      StateEffect host state event
        { state with
          superseded := false
          snapshot := some
            (withDerivedState host (snapshot.inRun event.binding event.assignment_version)) }
  | recorded (snapshot next : AssignmentSnapshotV2) (hsome : state.snapshot = some snapshot)
      (hopen : snapshot.terminal = false)
      (hversion : event.assignment_version = snapshot.assignment_version + 1)
      (hlive : state.superseded = false) (hbinding : event.binding = snapshot.current_binding)
      (hbody : event.body ≠ .run_started)
      (hrecord : recordEvent host state (snapshot.atVersion event.assignment_version) event = .ok next) :
      StateEffect host state event
        { remember state event with snapshot := some (withDerivedState host next) }

variable {host : JavaScriptHost} {state nextState : ReducerStateV2} {event : AssignmentEventV2}

private theorem current_eq_ok {snapshot : AssignmentSnapshotV2} :
    current state = .ok snapshot ↔ state.snapshot = some snapshot := by
  cases h : state.snapshot <;> simp [current, h]

private theorem advance_cases {snapshot next : AssignmentSnapshotV2} (hsome : state.snapshot = some snapshot)
    (hversion : event.assignment_version = snapshot.assignment_version + 1)
    (h : advance host state event = .ok next) :
    StateEffect host state event
      { remember state event with snapshot := some (withDerivedState host next) } := by
  simp only [advance, bind_eq_ok, current_eq_ok, hsome, Option.some.injEq, require_eq_ok] at h
  obtain ⟨_, rfl, -, hopen, h⟩ := h
  have hopen : snapshot.terminal = false := by simpa using hopen
  split at h
  · next hbody =>
    simp only [startRun, check_bind_eq_ok, pure_eq_ok, require_eq_ok] at h
    obtain ⟨hsuperseded, ⟨h1, h2, h3, h4, h5⟩, rfl⟩ := h
    simp only [remember, hbody]
    exact .restarted snapshot hsome hopen hversion hbody hsuperseded ⟨h1, h2, h3, h4⟩ h5
  · next hbody =>
    simp only [check_bind_eq_ok, checkOpenRun, require_eq_ok, sameAssignmentBindingV2_iff] at h
    obtain ⟨⟨hlive, hbinding⟩, hrecord⟩ := h
    exact .recorded snapshot next hsome hopen hversion (by simpa using hlive) hbinding.symm hbody hrecord

theorem applyEvent_effect (h : applyEvent host state event = .ok nextState) :
    StateEffect host state event nextState := by
  simp only [applyEvent, validateVersion, check_bind_eq_ok, require_eq_ok] at h
  obtain ⟨⟨hversion, -⟩, h⟩ := h
  split at h
  · next spec hbody =>
    simp only [checkCreation, check_bind_eq_ok, require_eq_ok, pure_eq_ok, Option.isNone_iff_eq_none,
      sameAssignmentBindingV2_iff] at h
    obtain ⟨⟨hnone, -, -, ⟨-, hbinding⟩, -⟩, rfl⟩ := h
    exact .created spec hbody hnone (by simpa [expectedVersion, hnone] using hversion) hbinding
  · simp only [bind_eq_ok, pure_eq_ok] at h
    obtain ⟨next, hadvance, rfl⟩ := h
    cases hsome : state.snapshot with
    | none => simp [advance, current, hsome, bind_eq_ok] at hadvance
    | some snapshot =>
      exact advance_cases hsome (by simpa [expectedVersion, hsome] using hversion) hadvance

/-- The events reduce to a snapshot when they drive the reducer into a state
    that holds it. -/
theorem reduceAssignmentEventsV2_eq_ok {events : List AssignmentEventV2} {snapshot : AssignmentSnapshotV2} :
    reduceAssignmentEventsV2 host events = .ok snapshot ↔
      ∃ state, feed (applyEvent host) .initial events = .ok state ∧ state.snapshot = some snapshot := by
  simp [reduceAssignmentEventsV2, bind_eq_ok, current_eq_ok]

/-- The snapshot of the state, if there is one, has the property. -/
def ReducerStateV2.Satisfies (state : ReducerStateV2) (P : AssignmentSnapshotV2 → Prop) : Prop :=
  ∀ snapshot, state.snapshot = some snapshot → P snapshot

theorem ReducerStateV2.satisfies_initial (P : AssignmentSnapshotV2 → Prop) :
    ReducerStateV2.initial.Satisfies P := by
  simp [Satisfies, initial]

theorem ReducerStateV2.satisfies_of_some {P : AssignmentSnapshotV2 → Prop} {state : ReducerStateV2}
    {snapshot : AssignmentSnapshotV2} (hsome : state.snapshot = some snapshot) (h : P snapshot) :
    state.Satisfies P := by
  intro kept hkept
  obtain rfl : snapshot = kept := by simpa [hsome] using hkept
  exact h

/-- A property of the ledger that creation establishes, that does not depend on
    the run, and that every event of a run preserves, is an invariant of the
    reducer. -/
theorem ledger_step {P : OperationLedger → Prop}
    (hcreated : ∀ event spec, P (createdSnapshot event spec).ledger)
    (hrestarted : ∀ ledger binding, P ledger →
      P { ledger with current_binding := binding, assignment_version := ledger.assignment_version + 1 })
    (hrecorded : ∀ (snapshot : AssignmentSnapshotV2) event next, P snapshot.ledger →
      LedgerEffect host (snapshot.atVersion (snapshot.assignment_version + 1)) event next → P next)
    (hstate : state.Satisfies fun snapshot => P snapshot.ledger)
    (hnext : applyEvent host state event = .ok nextState) :
    nextState.Satisfies fun snapshot => P snapshot.ledger := by
  cases applyEvent_effect hnext with
  | created spec hbody hnone hversion hbinding =>
    exact ReducerStateV2.satisfies_of_some rfl (hcreated event spec)
  | restarted snapshot hsome hopen hversion hbody hsuperseded hscope hgeneration =>
    have h := hrestarted snapshot.ledger event.binding (hstate snapshot hsome)
    rw [hversion]
    exact ReducerStateV2.satisfies_of_some rfl h
  | recorded snapshot next hsome hopen hversion hlive hbinding hbody hrecord =>
    rw [hversion] at hrecord
    exact ReducerStateV2.satisfies_of_some rfl
      (hrecorded snapshot event next.ledger (hstate snapshot hsome) (recordEvent_effect hrecord))

end revit_operator.assignment_kernel
