import RevitOperator.AssignmentKernel.StateHistory
import RevitOperator.Contracts.PayloadDigest

open checked checked_run
open revit_operator.contracts

namespace revit_operator.assignment_kernel

/-- An event as the durable journal stores it: an object without repeated keys,
    its members in the order JavaScript enumerates them, with the identity and
    the version the journal reads from it. -/
structure StoredEventV2 where
  value : Json
  proper : value.Proper
  enumerated : value.enumerated = value
  event_id : String
  reads_event_id : value.member? "event_id" = some (.str event_id)
  assignment_version : Nat
  reads_assignment_version : value.member? "assignment_version" = some (.num assignment_version)

theorem StoredEventV2.ext_value {a b : StoredEventV2} (h : a.value = b.value) : a = b := by
  obtain ⟨value, _, _, id, hid, version, hversion⟩ := a
  obtain ⟨other, _, _, otherId, hotherId, otherVersion, hotherVersion⟩ := b
  obtain rfl : value = other := h
  rw [hid, Option.some.injEq, Json.str.injEq] at hotherId
  rw [hversion, Option.some.injEq, Json.num.injEq, Nat.cast_inj] at hotherVersion
  subst hotherId hotherVersion
  rfl

/-- The retained events under their identities. -/
def indexById (events : List StoredEventV2) : Record StoredEventV2 :=
  .ofPairs (events.map fun event => (event.event_id, event))

theorem indexById_append (events : List StoredEventV2) (event : StoredEventV2) :
    indexById (events ++ [event]) = (indexById events).set event.event_id event := by
  simp [indexById, Record.ofPairs]

theorem mem_of_indexById {events : List StoredEventV2} {id : String} {event : StoredEventV2}
    (h : (indexById events).get? id = some event) : event ∈ events ∧ event.event_id = id := by
  induction events using List.reverseRecOn with
  | nil => simp [indexById, Record.ofPairs] at h
  | append_singleton earlier last ih =>
    rw [indexById_append, Record.get?_set] at h
    split_ifs at h with hid
    · cases h
      exact ⟨by simp, hid.symm⟩
    · obtain ⟨hmem, hevent⟩ := ih h
      exact ⟨by simp [hmem], hevent⟩

theorem indexById_eq_none {events : List StoredEventV2} {id : String} :
    (indexById events).get? id = none ↔ id ∉ events.map StoredEventV2.event_id := by
  induction events using List.reverseRecOn with
  | nil => simp [indexById, Record.ofPairs]
  | append_singleton earlier last ih =>
    rw [indexById_append, Record.get?_set]
    by_cases hid : id = last.event_id
    · simp [hid]
    · simpa [hid] using ih

/-- An append-only journal with the state its events reduce to. -/
structure AssignmentJournalV2 where
  events : List StoredEventV2
  byId : Record StoredEventV2
  state : ReducerStateV2
  indexed : byId = indexById events

variable {result state : ReducerStateV2}

namespace AssignmentJournalV2

section journal

variable (host : JavaScriptHost) (numbers : Json.NumberText) (typed : Json → AssignmentEventV2)

/-- The event a stored value is read as. -/
def read (event : StoredEventV2) : AssignmentEventV2 :=
  { typed event.value with
    event_id := event.event_id
    assignment_version := event.assignment_version }

def empty : AssignmentJournalV2 := ⟨[], ∅, .initial, rfl⟩

/-- The journal with one more event retained. -/
def push (journal : AssignmentJournalV2) (retained : StoredEventV2) (state : ReducerStateV2) :
    AssignmentJournalV2 where
  events := journal.events ++ [retained]
  byId := journal.byId.set retained.event_id retained
  state
  indexed := by rw [indexById_append, journal.indexed]

/-- A repeated identity repeats the content. -/
def checkIdentity (existing event : StoredEventV2) : Except KernelFault Unit :=
  kernelAssertV2 (canonicalPayloadJsonV2 numbers existing.value = canonicalPayloadJsonV2 numbers event.value)
    "assignment_event_id_conflict" "Event identity was reused with different content."

/-- One round of the loop of the constructor. -/
def replay (journal : AssignmentJournalV2) (event : StoredEventV2) : Except KernelFault AssignmentJournalV2 :=
  match journal.byId.get? event.event_id with
  | some existing => do
    checkIdentity numbers existing event
    return journal
  | none => do
    let state ← applyEvent host journal.state (read typed event)
    return journal.push event state

/-- The constructor: a full replay. -/
def ofEvents (events : List StoredEventV2) : Except KernelFault AssignmentJournalV2 :=
  feed (replay host numbers typed) empty events

def snapshot (journal : AssignmentJournalV2) : Except KernelFault AssignmentSnapshotV2 :=
  current journal.state

/-- The continuation copies the event list, its index and the reducer state. -/
def fork (journal : AssignmentJournalV2) : AssignmentJournalV2 where
  events := journal.events
  byId := indexById journal.events
  state := journal.state
  indexed := rfl

def append (journal : AssignmentJournalV2) (event : StoredEventV2) :
    Except KernelFault (AssignmentJournalV2 × AssignmentSnapshotV2) :=
  match journal.byId.get? event.event_id with
  | some existing => do
    checkIdentity numbers existing event
    let snapshot ← journal.snapshot
    return (journal, snapshot)
  | none => do
    let state ← applyEvent host journal.state (read typed event)
    let next := journal.push event state
    let snapshot ← next.snapshot
    return (next, snapshot)

end journal

variable {host : JavaScriptHost} {numbers : Json.NumberText} {typed : Json → AssignmentEventV2}
  {journal next : AssignmentJournalV2} {events : List StoredEventV2} {event : StoredEventV2}

@[simp]
theorem fork_eq (journal : AssignmentJournalV2) : journal.fork = journal := by
  obtain ⟨events, byId, state, rfl⟩ := journal
  rfl

theorem append_eq (journal : AssignmentJournalV2) (event : StoredEventV2) :
    journal.append host numbers typed event = (do
      let next ← journal.replay host numbers typed event
      let snapshot ← next.snapshot
      return (next, snapshot)) := by
  unfold append replay
  split
  · next existing hexisting =>
    cases hcheck : checkIdentity numbers existing event <;> rfl
  · next hnew =>
    cases happly : applyEvent host journal.state (read typed event) <;> rfl

theorem ofEvents_append (events : List StoredEventV2) (event : StoredEventV2) :
    ofEvents host numbers typed (events ++ [event])
      = (ofEvents host numbers typed events >>= fun journal => journal.replay host numbers typed event) := by
  simp only [ofEvents, feed_append, feed_singleton]

theorem isSome_of_applyEvent {event : AssignmentEventV2}
    (h : applyEvent host state event = .ok result) : result.snapshot.isSome = true := by
  cases applyEvent_effect h <;> rfl

/-- A journal that retains an event has a snapshot. -/
def Started (journal : AssignmentJournalV2) : Prop := journal.state.snapshot.isSome = true

theorem replay_started (hjournal : journal.events ≠ [] → journal.Started)
    (h : journal.replay host numbers typed event = .ok next) : next.Started := by
  unfold replay at h
  split at h
  · next existing hexisting =>
    rw [check_bind_eq_ok, pure_eq_ok] at h
    obtain ⟨-, rfl⟩ := h
    rw [journal.indexed] at hexisting
    obtain ⟨hmem, -⟩ := mem_of_indexById hexisting
    exact hjournal (List.ne_nil_of_mem hmem)
  · rw [bind_eq_ok] at h
    obtain ⟨state, hstate, h⟩ := h
    rw [pure_eq_ok] at h
    subst h
    exact isSome_of_applyEvent hstate

private theorem ofEvents_started_of_ne (h : ofEvents host numbers typed events = .ok journal) :
    (events = [] → journal = empty) ∧ (events ≠ [] → journal.Started) := by
  induction events using List.reverseRecOn generalizing journal with
  | nil =>
    rw [ofEvents, feed_nil, Except.ok.injEq] at h
    exact ⟨fun _ => h.symm, fun hne => absurd rfl hne⟩
  | append_singleton earlier event ih =>
    rw [ofEvents_append, bind_eq_ok] at h
    obtain ⟨mid, hmid, hreplay⟩ := h
    refine ⟨by simp, fun _ => replay_started (fun hevents => ?_) hreplay⟩
    obtain ⟨hempty, hstarted⟩ := ih hmid
    by_cases hearlier : earlier = []
    · exact absurd (by rw [hempty hearlier]; rfl) hevents
    · exact hstarted hearlier

theorem ofEvents_snapshot (h : ofEvents host numbers typed events = .ok journal) (hne : events ≠ []) :
    ∃ snapshot, journal.snapshot = .ok snapshot := by
  obtain ⟨snapshot, hsnapshot⟩ := Option.isSome_iff_exists.1 ((ofEvents_started_of_ne h).2 hne)
  exact ⟨snapshot, by rw [AssignmentJournalV2.snapshot, current, hsnapshot]⟩

theorem version_of_canonical_eq {a b : StoredEventV2}
    (h : canonicalPayloadJsonV2 numbers a.value = canonicalPayloadJsonV2 numbers b.value) :
    a.assignment_version = b.assignment_version := by
  have hsame := (canonicalPayloadJsonV2_eq_iff a.proper b.proper).1 h
  obtain ⟨other, hother, hvalue⟩ := hsame.member? b.proper a.reads_assignment_version
  rw [b.reads_assignment_version, Option.some.injEq] at hother
  subst hother
  have hnumber : (a.assignment_version : ℚ) = b.assignment_version := hvalue
  exact_mod_cast hnumber

private theorem expectedVersion_of_applyEvent {event : AssignmentEventV2}
    (h : applyEvent host state event = .ok result) :
    event.assignment_version = expectedVersion state
      ∧ expectedVersion result = event.assignment_version + 1 := by
  constructor
  · simp only [applyEvent, validateVersion, check_bind_eq_ok, require_eq_ok] at h
    exact h.1.1
  · obtain ⟨snapshot, hsnapshot⟩ := Option.isSome_iff_exists.1 (isSome_of_applyEvent h)
    rw [expectedVersion, hsnapshot]
    exact congrArg (· + 1) (applyEvent_next_version h hsnapshot)

/-- What a journal and the plain reducer agree on after a history both accept:
    every event was retained, under an identity of its own. -/
structure Plain (events : List StoredEventV2) (state : ReducerStateV2) (journal : AssignmentJournalV2) :
    Prop where
  events_eq : journal.events = events
  state_eq : journal.state = state
  nodup : (events.map StoredEventV2.event_id).Nodup
  earlier : ∀ event ∈ events, event.assignment_version < expectedVersion state

private theorem Plain.step (hplain : Plain events state journal)
    (happly : applyEvent host state (read typed event) = .ok result)
    (hreplay : journal.replay host numbers typed event = .ok next) : Plain (events ++ [event]) result next := by
  obtain ⟨hevents, hstate, hnodup, hearlier⟩ := hplain
  obtain ⟨hversion, hresult⟩ := expectedVersion_of_applyEvent happly
  have hnow : event.assignment_version = expectedVersion state := hversion
  have hafter : expectedVersion result = event.assignment_version + 1 := hresult
  unfold replay at hreplay
  split at hreplay
  · -- a repeated identity would repeat the version of an earlier event
    next existing hexisting =>
    rw [journal.indexed, hevents] at hexisting
    obtain ⟨hmem, -⟩ := mem_of_indexById hexisting
    rw [check_bind_eq_ok] at hreplay
    have hsame : canonicalPayloadJsonV2 numbers existing.value = canonicalPayloadJsonV2 numbers event.value :=
      require_eq_ok.1 hreplay.1
    have heq := version_of_canonical_eq hsame
    have hlt := hearlier existing hmem
    omega
  · next hnone =>
    rw [hstate, happly, ok_bind, pure_eq_ok] at hreplay
    subst hreplay
    rw [journal.indexed, hevents, indexById_eq_none] at hnone
    refine ⟨congrArg (· ++ [event]) hevents, rfl, ?_, ?_⟩
    · rw [List.map_append, List.nodup_append]
      refine ⟨hnodup, by simp, ?_⟩
      rintro id hid other hother rfl
      rw [List.map_singleton, List.mem_singleton] at hother
      exact hnone (hother ▸ hid)
    · intro earlier hmem
      rw [List.mem_append, List.mem_singleton] at hmem
      obtain hmem | rfl := hmem
      · have hlt := hearlier earlier hmem
        omega
      · omega

private theorem plain_of_ok
    (hreduce : feed (applyEvent host) .initial (events.map (read typed)) = .ok state)
    (hreplay : ofEvents host numbers typed events = .ok journal) : Plain events state journal := by
  induction events using List.reverseRecOn generalizing state journal with
  | nil =>
    rw [List.map_nil, feed_nil, Except.ok.injEq] at hreduce
    rw [ofEvents, feed_nil, Except.ok.injEq] at hreplay
    subst hreduce hreplay
    exact ⟨rfl, rfl, List.nodup_nil, by simp⟩
  | append_singleton earlier event ih =>
    rw [List.map_append, List.map_singleton, feed_snoc_eq_ok] at hreduce
    rw [ofEvents_append, bind_eq_ok] at hreplay
    obtain ⟨mid, hmid, happly⟩ := hreduce
    obtain ⟨before, hbefore, hreplay⟩ := hreplay
    exact (ih hmid hbefore).step happly hreplay

/-- A history that both the reducer and the replay accept repeats no
    identity. -/
theorem nodup_of_ok {snapshot : AssignmentSnapshotV2}
    (hreduce : reduceAssignmentEventsV2 host (events.map (read typed)) = .ok snapshot)
    (hreplay : ofEvents host numbers typed events = .ok journal) :
    (events.map StoredEventV2.event_id).Nodup := by
  rw [reduceAssignmentEventsV2, bind_eq_ok] at hreduce
  obtain ⟨state, hstate, -⟩ := hreduce
  exact (plain_of_ok hstate hreplay).nodup

end AssignmentJournalV2

end revit_operator.assignment_kernel
