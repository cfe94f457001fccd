import Mathlib.Algebra.BigOperators.Group.List.Basic
import RevitOperator.AssignmentKernel.JournalBuilder
import RevitOperator.Assignments.ContentVerifiedJournal

open checked
open revit_operator.assignment_kernel

namespace revit_operator.assignments

variable {host : JavaScriptHost} {numbers : Json.NumberText} {typed : Json → AssignmentEventV2}
  {digest : String → String} {serialized : AssignmentSnapshotV2 → String} {bounds : JournalCacheBounds}
  {cache next : JournalCache} {events : List StoredEventV2} {event : StoredEventV2}
  {journal : AssignmentJournalV2} {session : JournalSession}

/-- The entry holds the journal of the history whose text its key digests. -/
def JournalCacheEntry.Replayed (host : JavaScriptHost) (numbers : Json.NumberText)
    (typed : Json → AssignmentEventV2) (digest : String → String) (entry : JournalCacheEntry) : Prop :=
  ∃ events, events ≠ [] ∧ entry.key = digest (historyText numbers events)
    ∧ AssignmentJournalV2.ofEvents host numbers typed events = .ok entry.journal

/-- Every entry is what a full replay gives, and the counted size is the size
    of the entries. -/
structure JournalCache.Sound (host : JavaScriptHost) (numbers : Json.NumberText)
    (typed : Json → AssignmentEventV2) (digest : String → String) (cache : JournalCache) : Prop where
  bytes_eq : cache.bytes = (cache.entries.map fun entry => (entry.bytes : Int)).sum
  replayed : ∀ entry ∈ cache.entries, entry.Replayed host numbers typed digest

private theorem perm_eraseP {α : Type} {p : α → Bool} {entries : List α} {found : α}
    (h : entries.find? p = some found) : entries.Perm (found :: entries.eraseP p) := by
  induction entries with
  | nil => simp at h
  | cons entry rest ih =>
    cases hp : p entry with
    | true =>
      rw [List.find?_cons_of_pos hp, Option.some.injEq] at h
      rw [List.eraseP_cons_of_pos hp, h]
    | false =>
      rw [List.find?_cons_of_neg (by simp [hp])] at h
      rw [List.eraseP_cons_of_neg (by simp [hp])]
      exact ((ih h).cons entry).trans (List.Perm.swap _ _ _)

theorem JournalCache.empty_sound : JournalCache.empty.Sound host numbers typed digest :=
  ⟨rfl, by simp [JournalCache.empty]⟩

theorem JournalCache.Sound.forget (h : cache.Sound host numbers typed digest) (key : String) :
    (cache.forget key).Sound host numbers typed digest := by
  unfold JournalCache.forget
  split
  · exact h
  · next previous hprevious =>
    have hperm := perm_eraseP hprevious
    constructor
    · have hsum := (hperm.map fun entry => (entry.bytes : Int)).sum_eq
      rw [List.map_cons, List.sum_cons, ← h.bytes_eq] at hsum
      exact (sub_eq_iff_eq_add'.2 hsum)
    · exact fun entry hentry => h.replayed entry (List.mem_of_mem_eraseP hentry)

theorem JournalCache.Sound.touch (h : cache.Sound host numbers typed digest) {key : String}
    {cached : JournalCacheEntry} (hcached : cache.get? key = some cached) :
    (cache.touch key cached).Sound host numbers typed digest := by
  have hperm : cache.entries.Perm (cache.without key ++ [cached]) :=
    (perm_eraseP hcached).trans (List.perm_append_singleton _ _).symm
  constructor
  · exact h.bytes_eq.trans (hperm.map fun entry => (entry.bytes : Int)).sum_eq
  · exact fun entry hentry => h.replayed entry (hperm.mem_iff.2 hentry)

/-- Eviction ends at the latest with an empty cache, and keeps the newest
    entries. -/
theorem JournalCache.evict_ok (bounds : JournalCacheBounds) (entries : List JournalCacheEntry) {bytes : Int}
    (hbytes : bytes = (entries.map fun entry => (entry.bytes : Int)).sum) :
    ∃ cache, evict bounds entries bytes = .ok cache ∧ cache.entries <:+ entries
      ∧ cache.bytes = (cache.entries.map fun entry => (entry.bytes : Int)).sum := by
  induction entries generalizing bytes with
  | nil =>
    have hentries := bounds.one_le_maxEntries
    have hmax := bounds.one_le_maxBytes
    have hzero : bytes = 0 := hbytes
    refine ⟨⟨[], bytes⟩, ?_, List.suffix_refl _, hbytes⟩
    rw [evict, if_neg (by omega)]
  | cons first rest ih =>
    rw [evict]
    split
    · rw [List.map_cons, List.sum_cons] at hbytes
      have hrest : bytes - first.bytes = (rest.map fun entry => (entry.bytes : Int)).sum := by omega
      obtain ⟨kept, hkept, hsuffix, hsum⟩ := ih hrest
      exact ⟨kept, hkept, hsuffix.trans (List.suffix_cons _ _), hsum⟩
    · exact ⟨_, rfl, List.suffix_refl _, hbytes⟩

/-- Retaining the journal of a history never fails, and adds an entry under the
    digest of its text at most. -/
theorem retain_ok (serialized : AssignmentSnapshotV2 → String) (bounds : JournalCacheBounds)
    (hcache : cache.Sound host numbers typed digest) (hevents : events ≠ [])
    (hjournal : AssignmentJournalV2.ofEvents host numbers typed events = .ok journal) :
    ∃ next, retain digest serialized bounds cache (historyText numbers events) journal = .ok next
      ∧ next.Sound host numbers typed digest := by
  have hkept := hcache.forget (digest (historyText numbers events))
  obtain ⟨snapshot, hsnapshot⟩ := AssignmentJournalV2.ofEvents_snapshot hjournal hevents
  simp only [retain, hsnapshot, ok_bind]
  split
  · exact ⟨_, rfl, hkept⟩
  · obtain ⟨next, hnext, hsuffix, hsum⟩ := JournalCache.evict_ok bounds
      ((cache.forget (digest (historyText numbers events))).entries
        ++ [⟨digest (historyText numbers events), journal.fork,
          text.utf8ByteLength (historyText numbers events) + text.utf8ByteLength (serialized snapshot)⟩])
      (by rw [List.map_append, List.sum_append, ← hkept.bytes_eq])
    refine ⟨next, hnext, hsum, fun entry hentry => ?_⟩
    have hmem := hsuffix.subset hentry
    rw [List.mem_append, List.mem_singleton] at hmem
    obtain hmem | rfl := hmem
    · exact hkept.replayed entry hmem
    · exact ⟨events, hevents, rfl, by rw [AssignmentJournalV2.fork_eq]; exact hjournal⟩

/-- An entry found under the digest of a history is the journal of that
    history. -/
theorem JournalCache.Sound.get? (hdigest : Function.Injective digest)
    (h : cache.Sound host numbers typed digest) {cached : JournalCacheEntry}
    (hcached : cache.get? (digest (historyText numbers events)) = some cached) :
    AssignmentJournalV2.ofEvents host numbers typed events = .ok cached.journal := by
  obtain ⟨others, -, hkey, hjournal⟩ := h.replayed cached (List.mem_of_find?_eq_some hcached)
  have hfound : cached.key = digest (historyText numbers events) := by
    simpa using List.find?_some hcached
  have htexts := hdigest (hkey.symm.trans hfound)
  rwa [historyText_injective numbers htexts] at hjournal

theorem dedup_length_iff :
    (events.map StoredEventV2.event_id).dedup.length ≠ events.length
      ↔ ¬ (events.map StoredEventV2.event_id).Nodup := by
  rw [not_iff_not, ← List.dedup_eq_self]
  constructor
  · intro hlength
    exact (List.dedup_sublist _).eq_of_length (by rw [hlength, List.length_map])
  · intro hself
    rw [hself, List.length_map]

/-- What opening a history comes to: its full replay, unless the replay fails
    or an identity is repeated. -/
theorem openHistory_eq (serialized : AssignmentSnapshotV2 → String) (bounds : JournalCacheBounds)
    (hdigest : Function.Injective digest) (hcache : cache.Sound host numbers typed digest)
    (events : List StoredEventV2) :
    if (AssignmentJournalV2.ofEvents host numbers typed events).isOk
        ∧ (events.map StoredEventV2.event_id).Nodup then
      ∃ next journal, openHistory host numbers typed digest serialized bounds cache events
          = .ok (next, ⟨journal, historyText numbers events⟩)
        ∧ next.Sound host numbers typed digest
        ∧ AssignmentJournalV2.ofEvents host numbers typed events = .ok journal
    else ∃ fault, openHistory host numbers typed digest serialized bounds cache events = .error fault := by
  split
  · next haccepted =>
    obtain ⟨hok, hnodup⟩ := haccepted
    obtain ⟨journal, hjournal⟩ := exists_of_isOk hok
    have hunrepeated : checkRepeated host typed events = .ok () := by
      rw [checkRepeated, if_neg (fun h => dedup_length_iff.1 h hnodup)]
    simp only [openHistory, hunrepeated, ok_bind]
    cases hcached : cache.get? (digest (historyText numbers events)) with
    | some cached =>
      have hsame := hcache.get? hdigest hcached
      exact ⟨_, _, rfl, hcache.touch hcached, by rw [AssignmentJournalV2.fork_eq]; exact hsame⟩
    | none =>
      simp only [hjournal, ok_bind]
      split
      · exact ⟨cache, journal, rfl, hcache, rfl⟩
      · next hevents =>
        obtain ⟨next, hnext, hsound⟩ :=
          retain_ok serialized bounds hcache hevents hjournal
        rw [hnext]
        exact ⟨next, journal, rfl, hsound, rfl⟩
  · next hrejected =>
    cases hopen : openHistory host numbers typed digest serialized bounds cache events with
    | error fault => exact ⟨fault, rfl⟩
    | ok opened =>
      exfalso
      simp only [openHistory, check_bind_eq_ok] at hopen
      obtain ⟨hrepeated, hopen⟩ := hopen
      -- an accepted call has replayed the history, now or when it was retained
      have hreplay : ∃ journal, AssignmentJournalV2.ofEvents host numbers typed events = .ok journal := by
        split at hopen
        · next cached hcached => exact ⟨_, hcache.get? hdigest hcached⟩
        · rw [bind_eq_ok] at hopen
          obtain ⟨journal, hjournal, -⟩ := hopen
          exact ⟨journal, hjournal⟩
      obtain ⟨journal, hjournal⟩ := hreplay
      refine hrejected ⟨by rw [hjournal]; rfl, ?_⟩
      by_contra hduplicate
      rw [checkRepeated, if_pos (dedup_length_iff.2 hduplicate), bind_eq_ok] at hrepeated
      obtain ⟨snapshot, hreduce, -⟩ := hrepeated
      exact hduplicate (AssignmentJournalV2.nodup_of_ok hreduce hjournal)

theorem appendEvent_eq (serialized : AssignmentSnapshotV2 → String) (bounds : JournalCacheBounds)
    (hcache : cache.Sound host numbers typed digest)
    (hsession : AssignmentJournalV2.ofEvents host numbers typed events = .ok session.journal)
    (htext : session.historyText = historyText numbers events) (event : StoredEventV2) :
    match AssignmentJournalV2.ofEvents host numbers typed (events ++ [event]) with
    | .error fault => appendEvent host numbers typed digest serialized bounds cache session event = .error fault
    | .ok journal => ∃ next snapshot,
        appendEvent host numbers typed digest serialized bounds cache session event
          = .ok (next, ⟨journal, historyText numbers (events ++ [event])⟩, snapshot)
        ∧ next.Sound host numbers typed digest ∧ journal.snapshot = .ok snapshot := by
  have hlonger : AssignmentJournalV2.ofEvents host numbers typed (events ++ [event]) = _ :=
    AssignmentJournalV2.ofEvents_append events event
  rw [hsession, ok_bind] at hlonger
  rw [appendEvent, AssignmentJournalV2.append_eq, ← hlonger]
  cases hjournal : AssignmentJournalV2.ofEvents host numbers typed (events ++ [event]) with
  | error fault => rfl
  | ok journal =>
    obtain ⟨snapshot, hsnapshot⟩ := AssignmentJournalV2.ofEvents_snapshot hjournal (by simp)
    obtain ⟨next, hnext, hsound⟩ := retain_ok serialized bounds hcache
      (by simp : events ++ [event] ≠ []) hjournal
    refine ⟨next, snapshot, ?_, hsound, hsnapshot⟩
    simp only [ok_bind, hsnapshot, htext, spliceEvent_eq]
    simp only [pure, Except.pure, ok_bind, hnext]

/-- The service and the histories replayed in full: the open journals and texts
    are those of the histories, and the cache is sound. -/
structure Represents (host : JavaScriptHost) (numbers : Json.NumberText) (typed : Json → AssignmentEventV2)
    (digest : String → String) (service : JournalService) (histories : List (List StoredEventV2)) : Prop where
  cache_sound : service.cache.Sound host numbers typed digest
  sessions : List.Forall₂ (fun session events =>
    AssignmentJournalV2.ofEvents host numbers typed events = .ok session.journal
      ∧ session.historyText = historyText numbers events) service.sessions histories

private theorem forall₂_getElem? {α β : Type} {R : α → β → Prop} {left : List α} {right : List β}
    (h : List.Forall₂ R left right) (index : Nat) :
    (left[index]? = none ∧ right[index]? = none)
      ∨ ∃ a b, left[index]? = some a ∧ right[index]? = some b ∧ R a b := by
  induction h generalizing index with
  | nil => exact .inl ⟨rfl, rfl⟩
  | cons hhead _ ih =>
    cases index with
    | zero => exact .inr ⟨_, _, rfl, rfl, hhead⟩
    | succ index => simpa using ih index

private theorem forall₂_set {α β : Type} {R : α → β → Prop} {left : List α} {right : List β}
    (h : List.Forall₂ R left right) {a : α} {b : β} (hab : R a b) (index : Nat) :
    List.Forall₂ R (left.set index a) (right.set index b) := by
  induction h generalizing index with
  | nil => exact .nil
  | cons hhead htail ih =>
    cases index with
    | zero => exact .cons hab htail
    | succ index => exact .cons hhead (ih index)

private theorem answer_represents (serialized : AssignmentSnapshotV2 → String) (hdigest : Function.Injective digest) {service : JournalService} {histories : List (List StoredEventV2)}
    (h : Represents host numbers typed digest service histories) (call : JournalCall) :
    Represents host numbers typed digest (service.answer host numbers typed digest serialized call).1
        (replayAnswer host numbers typed histories call).1
      ∧ (service.answer host numbers typed digest serialized call).2
        = (replayAnswer host numbers typed histories call).2 := by
  cases call with
  | open_ events =>
    have hopen := openHistory_eq serialized service.bounds hdigest h.cache_sound events
    simp only [JournalService.answer, replayAnswer]
    split at hopen
    · next haccepted =>
      obtain ⟨next, journal, hopened, hsound, hjournal⟩ := hopen
      rw [hopened, if_pos haccepted]
      refine ⟨⟨hsound, ?_⟩, rfl⟩
      exact List.rel_append h.sessions (.cons ⟨hjournal, rfl⟩ .nil)
    · next hrejected =>
      obtain ⟨fault, hfault⟩ := hopen
      rw [hfault, if_neg hrejected]
      exact ⟨h, rfl⟩
  | append index event =>
    simp only [JournalService.answer, replayAnswer]
    obtain ⟨hsession, hhistory⟩ | ⟨session, events, hsession, hhistory, hjournal, htext⟩ :=
      forall₂_getElem? h.sessions index
    · rw [hsession, hhistory]
      exact ⟨h, rfl⟩
    · have happend := appendEvent_eq serialized service.bounds h.cache_sound hjournal htext event
      rw [hsession, hhistory]
      dsimp only
      cases hlonger : AssignmentJournalV2.ofEvents host numbers typed (events ++ [event]) with
      | error fault =>
        rw [hlonger] at happend
        rw [happend]
        exact ⟨h, rfl⟩
      | ok journal =>
        rw [hlonger] at happend
        obtain ⟨next, snapshot, happended, hsound, hsnapshot⟩ := happend
        rw [happended]
        dsimp only
        rw [hsnapshot]
        exact ⟨⟨hsound, forall₂_set h.sessions ⟨hlonger, rfl⟩ index⟩, rfl⟩
  | snapshot index =>
    simp only [JournalService.answer, replayAnswer]
    obtain ⟨hsession, hhistory⟩ | ⟨session, events, hsession, hhistory, hjournal, -⟩ :=
      forall₂_getElem? h.sessions index
    · rw [hsession, hhistory]
      exact ⟨h, rfl⟩
    · rw [hsession, hhistory]
      simp only [hjournal, ok_bind]
      exact ⟨h, trivial⟩
  | reset => exact ⟨⟨JournalCache.empty_sound, h.sessions⟩, rfl⟩

/-- Whatever its bounds and whatever it evicts, the service answers every
    sequence of calls as a full replay of each history does: every snapshot is
    the one a journal built from the same events gives, and a history is opened
    exactly when its replay succeeds and no identity is repeated in it. -/
theorem cached_journal_equals_replay (host : JavaScriptHost) (numbers : Json.NumberText)
    (typed : Json → AssignmentEventV2) (serialized : AssignmentSnapshotV2 → String)
    {options : JournalCacheOptions} {service : JournalService}
    (hcreated : createContentVerifiedJournalV2 options = .ok service) {digest : String → String}
    (hdigest : Function.Injective digest) (calls : List JournalCall) :
    replies.run (JournalService.answer host numbers typed digest serialized) service calls
      = replies.run (replayAnswer host numbers typed) [] calls := by
  have hsimulates : replies.Simulates (JournalService.answer host numbers typed digest serialized)
      (replayAnswer host numbers typed) (Represents host numbers typed digest) :=
    ⟨fun service histories call h => (answer_represents serialized hdigest h call).1,
      fun service histories call h => (answer_represents serialized hdigest h call).2⟩
  have hstart : Represents host numbers typed digest service [] := by
    simp only [createContentVerifiedJournalV2] at hcreated
    split at hcreated
    · cases hcreated
      exact ⟨JournalCache.empty_sound, .nil⟩
    · cases hcreated
  exact hsimulates.run_eq hstart calls

/-- The creation of the sample assignment. -/
def sampleCreation : AssignmentEventV2 where
  event_id := "event-1"
  assignment_id := "assignment-1"
  assignment_version := 1
  binding := sampleBinding
  occurred_at := sampleTime
  actor := "assignment-kernel"
  body := .assignment_created sampleSpec

/-- The members of the stored creation that the journal itself reads. -/
def storedCreation : StoredEventV2 where
  value := .obj [("event_id", .str "event-1"), ("assignment_id", .str "assignment-1"),
    ("assignment_version", .num 1)]
  proper := by simp [Json.Proper, Json.EveryObject, Json.EveryMember]
  enumerated := by rfl
  event_id := "event-1"
  reads_event_id := by rfl
  assignment_version := 1
  reads_assignment_version := by rfl

/-- A history opened, extended by its first event and by a duplicate of it, and
    opened again from the cache. -/
theorem cached_journal_equals_replay_on_duplicate :
    ∃ service, createContentVerifiedJournalV2 ⟨none, none⟩ = .ok service
      ∧ replies.run (JournalService.answer asciiHost Json.integerText (fun _ => sampleCreation) id fun _ => "")
          service [.open_ [], .append 0 storedCreation, .append 0 storedCreation, .open_ [storedCreation],
            .snapshot 1]
        = replies.run (replayAnswer asciiHost Json.integerText fun _ => sampleCreation) []
          [.open_ [], .append 0 storedCreation, .append 0 storedCreation, .open_ [storedCreation],
            .snapshot 1] := by
  have hcreated : createContentVerifiedJournalV2 ⟨none, none⟩
      = .ok ⟨⟨8, 64 * 1024 * 1024, by decide, by decide⟩, .empty, []⟩ := rfl
  exact ⟨_, hcreated, cached_journal_equals_replay asciiHost Json.integerText (fun _ => sampleCreation)
    (fun _ => "") hcreated Function.injective_id _⟩

end revit_operator.assignments
