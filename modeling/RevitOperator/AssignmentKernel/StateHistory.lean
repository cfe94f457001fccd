import RevitOperator.AssignmentKernel.Coherence

open checked checked_run

namespace revit_operator.assignment_kernel

/-- The operation a state retains under an identity. -/
def ReducerStateV2.operation? (state : ReducerStateV2) (id : String) : Option OperationV2 :=
  state.snapshot.bind fun snapshot => snapshot.operations.get? id

/-- The provider call a state retains under an identity. -/
def ReducerStateV2.providerCall? (state : ReducerStateV2) (id : String) : Option ProviderCallV2 :=
  state.snapshot.bind fun snapshot => snapshot.provider_calls.get? id

/-- The event records the dispatch of the operation. -/
def AssignmentEventV2.Dispatches (event : AssignmentEventV2) (id : String) : Prop :=
  event.body = .native_dispatch_recorded id
    ∨ ∃ authority, event.body = .operation_dispatch_recorded id authority

variable {host : JavaScriptHost} {state next : ReducerStateV2} {event : AssignmentEventV2} {id : String}

theorem ReducerStateV2.operation?_eq_some {operation : OperationV2} :
    state.operation? id = some operation ↔
      ∃ snapshot, state.snapshot = some snapshot ∧ snapshot.operations.get? id = some operation := by
  simp [operation?, Option.bind_eq_some_iff]

theorem ReducerStateV2.providerCall?_eq_some {call : ProviderCallV2} :
    state.providerCall? id = some call ↔
      ∃ snapshot, state.snapshot = some snapshot ∧ snapshot.provider_calls.get? id = some call := by
  simp [providerCall?, Option.bind_eq_some_iff]

theorem ReducerStateV2.operation?_of_some {snapshot : AssignmentSnapshotV2} (h : state.snapshot = some snapshot) :
    state.operation? id = snapshot.operations.get? id := by
  simp [operation?, h]

theorem ReducerStateV2.providerCall?_of_some {snapshot : AssignmentSnapshotV2}
    (h : state.snapshot = some snapshot) :
    state.providerCall? id = snapshot.provider_calls.get? id := by
  simp [providerCall?, h]

@[simp]
theorem ReducerStateV2.operation?_initial : ReducerStateV2.initial.operation? id = none :=
  rfl

@[simp]
theorem ReducerStateV2.providerCall?_initial : ReducerStateV2.initial.providerCall? id = none :=
  rfl

theorem applyEvent_version (h : applyEvent host state event = .ok next) {snapshot : AssignmentSnapshotV2}
    (hsome : state.snapshot = some snapshot) :
    event.assignment_version = snapshot.assignment_version + 1 := by
  cases applyEvent_effect h with
  | created spec hbody hnone => simp [hnone] at hsome
  | restarted kept hkept hopen hversion =>
    obtain rfl : kept = snapshot := by simpa using hkept.symm.trans hsome
    exact hversion
  | recorded kept recorded hkept hopen hversion =>
    obtain rfl : kept = snapshot := by simpa using hkept.symm.trans hsome
    exact hversion

theorem applyEvent_next_version (h : applyEvent host state event = .ok next)
    {nextSnapshot : AssignmentSnapshotV2} (hnext : next.snapshot = some nextSnapshot) :
    nextSnapshot.assignment_version = event.assignment_version := by
  cases applyEvent_effect h with
  | created =>
    obtain rfl : _ = nextSnapshot := Option.some.inj hnext
    rfl
  | restarted =>
    obtain rfl : _ = nextSnapshot := Option.some.inj hnext
    rfl
  | recorded snapshot recorded hsome hopen hversion hlive hbinding hnotStart hrecord =>
    obtain rfl : _ = nextSnapshot := Option.some.inj hnext
    exact (recordEvent_effect hrecord).assignment_version

/-- Every operation after an event was there before it, or is the one it
    admits. -/
theorem applyEvent_lookup (hstate : state.Sound) (h : applyEvent host state event = .ok next)
    {after : OperationV2} (hafter : next.operation? id = some after) :
    ∃ snapshot, state.snapshot = some snapshot ∧
      ((∃ before, snapshot.operations.get? id = some before
          ∧ Changed host (snapshot.atVersion event.assignment_version) event id before after)
        ∨ Admitted host (snapshot.atVersion event.assignment_version) event id after) := by
  cases applyEvent_effect h with
  | created spec => simp [ReducerStateV2.operation?, createdSnapshot] at hafter
  | restarted snapshot hsome hopen hversion hbody =>
    exact ⟨snapshot, hsome,
      .inl ⟨after, hafter, .kept (by simp [hbody, AssignmentEventBodyV2.touched])⟩⟩
  | recorded snapshot recorded hsome hopen hversion hlive hbinding hnotStart hrecord =>
    have hkeys : KeyedById (snapshot.atVersion event.assignment_version).operations :=
      (hstate snapshot hsome).1.keyed
    exact ⟨snapshot, hsome, (recordEvent_effect hrecord).lookup hkeys hafter⟩

variable {before : OperationV2}

/-- Every operation is still there after an event, changed only as the event
    allows. -/
theorem applyEvent_persists (hstate : state.Sound) (h : applyEvent host state event = .ok next)
    {snapshot : AssignmentSnapshotV2} (hsome : state.snapshot = some snapshot)
    (hbefore : snapshot.operations.get? id = some before) :
    ∃ after, next.operation? id = some after
      ∧ Changed host (snapshot.atVersion event.assignment_version) event id before after := by
  cases applyEvent_effect h with
  | created spec hbody hnone => simp [hnone] at hsome
  | restarted kept hkept hopen hversion hbody =>
    obtain rfl : kept = snapshot := by simpa using hkept.symm.trans hsome
    exact ⟨before, hbefore, .kept (by simp [hbody, AssignmentEventBodyV2.touched])⟩
  | recorded kept recorded hkept hopen hversion hlive hbinding hnotStart hrecord =>
    obtain rfl : kept = snapshot := by simpa using hkept.symm.trans hsome
    have hkeys : KeyedById (kept.atVersion event.assignment_version).operations :=
      (hstate kept hsome).1.keyed
    exact (recordEvent_effect hrecord).persists hkeys hbefore

theorem admission_recorded (h : applyEvent host state event = .ok next) {operation : OperationV2}
    (hbody : event.body = .operation_admitted operation) :
    ∃ snapshot, state.snapshot = some snapshot
      ∧ event.assignment_version = snapshot.assignment_version + 1
      ∧ validateOperationAdmission host (snapshot.atVersion event.assignment_version) operation = .ok ()
      ∧ next.operation? operation.operation_id
        = some (admittedOperation event.assignment_version operation) := by
  cases applyEvent_effect h with
  | created spec hcreated => simp [hbody] at hcreated
  | restarted snapshot hsome hopen hversion hrestarted => simp [hbody] at hrestarted
  | recorded snapshot recorded hsome hopen hversion hlive hbinding hnotStart hrecord =>
    simp only [recordEvent, hbody, admitOperation, check_bind_eq_ok, pure_eq_ok] at hrecord
    obtain ⟨hvalid, rfl⟩ := hrecord
    refine ⟨snapshot, hsome, hversion, hvalid, ?_⟩
    rw [ReducerStateV2.operation?_of_some rfl]
    exact Record.get?_set_self _ _ _

/-- A recorded dispatch leaves its operation dispatched, awaiting its
    result. -/
theorem Changed.of_dispatch {snapshot : AssignmentSnapshotV2} {after : OperationV2}
    (h : Changed host snapshot event id before after) (hdispatch : event.Dispatches id) :
    before.dispatchable = true ∧ ∃ authority effect,
      after = dispatchedOperation authority effect event.occurred_at before := by
  have htouched : event.body.touched = some id := by
    obtain hbody | ⟨authority, hbody⟩ := hdispatch <;> simp [hbody, AssignmentEventBodyV2.touched]
  have hkind : ∀ body, event.body = body →
      body = .native_dispatch_recorded id ∨ ∃ authority, body = .operation_dispatch_recorded id authority :=
    fun body hbody => hbody ▸ hdispatch
  obtain ⟨moved, hchange, hlink⟩ := h
  cases hlink with
  | linked observation verification hbody => simpa using hkind _ hbody
  | unlinked =>
    cases hchange with
    | kept huntouched => exact absurd htouched huntouched
    | retained observation hbody => simpa using hkind _ hbody
    | moved hmove =>
      cases hmove with
      | native_dispatched _ hdispatchable => exact ⟨hdispatchable, _, _, rfl⟩
      | dispatched _ _ hdispatchable => exact ⟨hdispatchable, _, _, rfl⟩
      | dispatch_started hbody => simpa using hkind _ hbody
      | resulted _ _ hbody => simpa using hkind _ hbody
      | commit_retried _ _ _ hbody => simpa using hkind _ hbody
      | commit_failed _ _ _ hbody => simpa using hkind _ hbody
      | retention_failed _ hbody => simpa using hkind _ hbody
      | completion_reconciled _ _ hbody => simpa using hkind _ hbody
      | reconciled _ _ hbody => simpa using hkind _ hbody

/-- An accepted dispatch finds its operation dispatchable and leaves it
    dispatched, awaiting its result. -/
theorem dispatch_recorded (hstate : state.Sound) (h : applyEvent host state event = .ok next)
    (hdispatch : event.Dispatches id) (hbefore : state.operation? id = some before) :
    before.dispatchable = true ∧ ∃ authority effect,
      next.operation? id = some (dispatchedOperation authority effect event.occurred_at before) := by
  obtain ⟨snapshot, hsome, hget⟩ := ReducerStateV2.operation?_eq_some.1 hbefore
  obtain ⟨after, hafter, hchange⟩ := applyEvent_persists hstate h hsome hget
  obtain ⟨hdispatchable, authority, effect, rfl⟩ := hchange.of_dispatch hdispatch
  exact ⟨hdispatchable, authority, effect, hafter⟩

/-- The operation a journal leaves under an identity. -/
def operationAfter (host : JavaScriptHost) (events : List AssignmentEventV2) (id : String) :
    Option OperationV2 :=
  match feed (applyEvent host) .initial events with
  | .ok state => state.operation? id
  | .error _ => none

variable {events : List AssignmentEventV2}

theorem operationAfter_eq_some {operation : OperationV2} :
    operationAfter host events id = some operation ↔
      ∃ state, feed (applyEvent host) .initial events = .ok state
        ∧ state.operation? id = some operation := by
  unfold operationAfter
  cases feed (applyEvent host) .initial events <;> simp

theorem applyEvent_derives (h : applyEvent host state event = .ok next) :
    ∃ recorded, next.snapshot = some (withDerivedState host recorded) := by
  cases applyEvent_effect h with
  | created => exact ⟨_, rfl⟩
  | restarted => exact ⟨_, rfl⟩
  | recorded => exact ⟨_, rfl⟩

theorem feed_derives {snapshot : AssignmentSnapshotV2}
    (h : feed (applyEvent host) .initial events = .ok state) (hsome : state.snapshot = some snapshot) :
    ∃ recorded, snapshot = withDerivedState host recorded := by
  have hsatisfies : state.Satisfies fun snapshot => ∃ recorded, snapshot = withDerivedState host recorded := by
    refine feed_invariant (I := fun state => state.Satisfies fun snapshot =>
      ∃ recorded, snapshot = withDerivedState host recorded) ?_ (ReducerStateV2.satisfies_initial _) h
    intro state event next _ hnext
    obtain ⟨recorded, hrecorded⟩ := applyEvent_derives hnext
    exact ReducerStateV2.satisfies_of_some hrecorded ⟨recorded, rfl⟩
  exact hsatisfies snapshot hsome

/-- What an admission establishes of an operation and every change keeps holds
    of the operations every journal leaves. -/
theorem feed_operation {P : OperationV2 → Prop}
    (hchanged : ∀ snapshot event id before after, Changed host snapshot event id before after → P before → P after)
    (hadmitted : ∀ snapshot event id after, Admitted host snapshot event id after → P after)
    (h : feed (applyEvent host) .initial events = .ok state)
    {operation : OperationV2} (hget : state.operation? id = some operation) : P operation := by
  have hall : state.Sound ∧ ∀ id operation, state.operation? id = some operation → P operation := by
    refine feed_invariant (I := fun state => state.Sound ∧ ∀ id operation, state.operation? id = some operation →
      P operation) (fun state event next hstate hnext => ⟨applyEvent_sound hstate.1 hnext, ?_⟩)
      ⟨ReducerStateV2.satisfies_initial _, fun id operation hnone => by simp at hnone⟩ h
    intro id operation hafter
    obtain ⟨snapshot, hsome, ⟨before, hbefore, hchange⟩ | hadmit⟩ := applyEvent_lookup hstate.1 hnext hafter
    · exact hchanged _ _ _ _ _ hchange (hstate.2 id before (by rw [ReducerStateV2.operation?_of_some hsome, hbefore]))
    · exact hadmitted _ _ _ _ hadmit
  exact hall.2 id operation hget

end revit_operator.assignment_kernel
