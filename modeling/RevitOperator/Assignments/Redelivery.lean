import RevitOperator.Assignments.JournalStore

open checked
open revit_operator.assignment_kernel
open revit_operator.contracts

namespace revit_operator.assignments

variable {host : JavaScriptHost} {numbers : Json.NumberText} {typed : Json → AssignmentEventV2}
  {sha256 : String → String} {now again : String} {events : List StoredEventV2} {event existing : StoredEventV2}
  {journal : AssignmentJournalV2} {current : GoalRecord} {record : AssignmentKernelJournalRecordV2}

/-- Over any sound cache the service opens what `openJournal` opens, or fails as it does. -/
theorem openHistory_journal {digest : String → String} (hdigest : Function.Injective digest) {cache : JournalCache}
    (hcache : cache.Sound host numbers typed digest) (serialized : AssignmentSnapshotV2 → String)
    (bounds : JournalCacheBounds) (events : List StoredEventV2) :
    (openHistory host numbers typed digest serialized bounds cache events).map (fun opened => opened.2.journal)
      = openJournal host numbers typed events := by
  simp only [openHistory, openJournal]
  cases checkRepeated host typed events with
  | error fault => rfl
  | ok _ =>
    simp only [ok_bind]
    cases hcached : cache.get? (digest (historyText numbers events)) with
    | some cached =>
      rw [hcache.get? hdigest hcached]
      exact congrArg Except.ok (AssignmentJournalV2.fork_eq _)
    | none =>
      cases hjournal : AssignmentJournalV2.ofEvents host numbers typed events with
      | error fault => rfl
      | ok journal =>
        simp only [ok_bind]
        split
        · rfl
        · next hevents =>
          obtain ⟨next, hnext, -⟩ := retain_ok serialized bounds hcache hevents hjournal
          rw [hnext]
          rfl

variable {fault : KernelFault}

section histories

theorem openJournal_eq_ok :
    openJournal host numbers typed events = .ok journal
      ↔ AssignmentJournalV2.ofEvents host numbers typed events = .ok journal
        ∧ (events.map StoredEventV2.event_id).Nodup := by
  rw [openJournal, check_bind_eq_ok]
  constructor
  · rintro ⟨hrepeated, hjournal⟩
    refine ⟨hjournal, ?_⟩
    by_contra hduplicate
    rw [checkRepeated, if_pos (dedup_length_iff.2 hduplicate), bind_eq_ok] at hrepeated
    obtain ⟨snapshot, hreduce, -⟩ := hrepeated
    exact hduplicate (AssignmentJournalV2.nodup_of_ok hreduce hjournal)
  · rintro ⟨hjournal, hnodup⟩
    exact ⟨by rw [checkRepeated, if_neg (fun h => dedup_length_iff.1 h hnodup)], hjournal⟩

/-- The stored history can be read. -/
def Opens (host : JavaScriptHost) (numbers : Json.NumberText) (typed : Json → AssignmentEventV2)
    (events : List StoredEventV2) : Prop :=
  ∃ journal, openJournal host numbers typed events = .ok journal

theorem storedSnapshot_of_not_opens
    (h : openJournal host numbers typed events = .error fault) :
    storedSnapshot host numbers typed events = .error fault := by
  cases events with
  | nil =>
    have hopen : openJournal host numbers typed [] = .ok .empty :=
      openJournal_eq_ok.2 ⟨rfl, List.nodup_nil⟩
    rw [hopen] at h
    cases h
  | cons first rest =>
    rw [storedSnapshot, h]
    rfl

theorem storedSnapshot_of_opens (h : openJournal host numbers typed events = .ok journal) (hne : events ≠ []) :
    ∃ snapshot, journal.snapshot = .ok snapshot
      ∧ storedSnapshot host numbers typed events = .ok (some snapshot) := by
  obtain ⟨snapshot, hsnapshot⟩ := AssignmentJournalV2.ofEvents_snapshot (openJournal_eq_ok.1 h).1 hne
  refine ⟨snapshot, hsnapshot, ?_⟩
  cases events with
  | nil => exact absurd rfl hne
  | cons first rest =>
    rw [storedSnapshot, h, ok_bind, hsnapshot]
    rfl

theorem exists_storedSnapshot (h : Opens host numbers typed events) :
    ∃ snapshot, storedSnapshot host numbers typed events = .ok snapshot := by
  obtain ⟨journal, hjournal⟩ := h
  by_cases hne : events = []
  · subst hne
    exact ⟨none, rfl⟩
  · obtain ⟨snapshot, -, hsnapshot⟩ := storedSnapshot_of_opens hjournal hne
    exact ⟨some snapshot, hsnapshot⟩

/-- A new event is appended exactly when the longer history can be replayed,
    and then that history can be read. -/
theorem append_of_fresh (event : StoredEventV2) (hopen : openJournal host numbers typed events = .ok journal)
    (hfresh : event.event_id ∉ events.map StoredEventV2.event_id) :
    match AssignmentJournalV2.ofEvents host numbers typed (events ++ [event]) with
    | .error fault => journal.append host numbers typed event = .error fault
    | .ok next => ∃ snapshot, journal.append host numbers typed event = .ok (next, snapshot)
        ∧ next.snapshot = .ok snapshot ∧ openJournal host numbers typed (events ++ [event]) = .ok next := by
  obtain ⟨hjournal, hnodup⟩ := openJournal_eq_ok.1 hopen
  have hlonger : AssignmentJournalV2.ofEvents host numbers typed (events ++ [event]) = _ :=
    AssignmentJournalV2.ofEvents_append events event
  rw [hjournal, ok_bind] at hlonger
  cases hnext : AssignmentJournalV2.ofEvents host numbers typed (events ++ [event]) with
  | error fault =>
    rw [AssignmentJournalV2.append_eq, ← hlonger, hnext]
    rfl
  | ok next =>
    obtain ⟨snapshot, hsnapshot⟩ := AssignmentJournalV2.ofEvents_snapshot hnext (by simp)
    refine ⟨snapshot, ?_, hsnapshot, openJournal_eq_ok.2 ⟨hnext, ?_⟩⟩
    · rw [AssignmentJournalV2.append_eq, ← hlonger, hnext, ok_bind, hsnapshot]
      rfl
    · rw [List.map_append, List.nodup_append]
      refine ⟨hnodup, List.nodup_singleton _, ?_⟩
      rintro id hid other hother rfl
      rw [List.map_singleton, List.mem_singleton] at hother
      exact hfresh (hother ▸ hid)

end histories

variable {entry : AssignmentKernelQuarantinedEventV2}

namespace AssignmentKernelJournalRecordV2

theorem existing?_eq_none {id : String} :
    record.existing? id = none ↔ id ∉ record.events.map StoredEventV2.event_id
      ∧ id ∉ record.quarantined_events.map fun entry => entry.event.event_id := by
  simp only [existing?, List.find?_eq_none, List.mem_append, List.mem_map, decide_eq_true_eq]
  constructor
  · intro h
    refine ⟨?_, ?_⟩
    · rintro ⟨kept, hkept, hid⟩
      exact h kept (.inl hkept) hid
    · rintro ⟨entry, hentry, hid⟩
      exact h entry.event (.inr ⟨entry, hentry, rfl⟩) hid
  · rintro ⟨hevents, hquarantined⟩ candidate (hkept | ⟨entry, hentry, rfl⟩) hid
    · exact hevents ⟨candidate, hkept, hid⟩
    · exact hquarantined ⟨entry, hentry, hid⟩

theorem existing?_accept (hfresh : record.existing? event.event_id = none) :
    (record.accept event).existing? event.event_id = some event := by
  have hnone : record.events.find? (fun candidate => candidate.event_id = event.event_id) = none := by
    rw [existing?, List.find?_append, Option.or_eq_none_iff] at hfresh
    exact hfresh.1
  simp only [existing?, accept, List.append_assoc, List.find?_append, hnone, Option.none_or]
  simp

theorem existing?_quarantine_of_some (entry : AssignmentKernelQuarantinedEventV2) {id : String}
    (h : record.existing? id = some existing) : (record.quarantine entry).existing? id = some existing := by
  rw [existing?] at h
  simp only [existing?, quarantine, List.map_append, ← List.append_assoc]
  rw [List.find?_append, h, Option.some_or]

theorem existing?_quarantine_of_none
    (h : record.existing? entry.event.event_id = none) :
    (record.quarantine entry).existing? entry.event.event_id = some entry.event := by
  rw [existing?] at h
  simp only [existing?, quarantine, List.map_append, ← List.append_assoc]
  rw [List.find?_append, h, Option.none_or]
  simp

end AssignmentKernelJournalRecordV2

open AssignmentKernelJournalRecordV2

theorem repeats_accept (numbers : Json.NumberText) (sha256 : String → String)
    (record : AssignmentKernelJournalRecordV2) (event : StoredEventV2) :
    repeats numbers sha256 (record.accept event) event event = true := by
  simp [repeats, accept]

@[simp]
theorem synchronizeGoalLifecycle_journal (goal : GoalRecord) (snapshot : AssignmentSnapshotV2) :
    (synchronizeGoalLifecycle goal snapshot).assignment_kernel_v2 = goal.assignment_kernel_v2 := by
  unfold synchronizeGoalLifecycle
  split_ifs <;> rfl

/-- The journal accepts a delivery: an event it accepted before arrives again,
    or a new one extends its history. -/
def Accepts (host : JavaScriptHost) (numbers : Json.NumberText) (typed : Json → AssignmentEventV2)
    (sha256 : String → String) (record : AssignmentKernelJournalRecordV2) (event : StoredEventV2) : Prop :=
  (∃ existing, record.existing? event.event_id = some existing
      ∧ repeats numbers sha256 record existing event = true)
    ∨ (record.existing? event.event_id = none
      ∧ (AssignmentJournalV2.ofEvents host numbers typed (record.events ++ [event])).isOk = true)

section deliveries

theorem deliver_of_not_opens (sha256 : String → String) (now : String) (event : StoredEventV2)
    (h : openJournal host numbers typed (journalForMutation current.assignment_kernel_v2).events = .error fault) :
    deliver host numbers typed sha256 now current event = .error fault := by
  have hsnapshot := storedSnapshot_of_not_opens h
  simp only [deliver]
  split
  · rw [hsnapshot]
    rfl
  · rw [h]
    simp only [bind, Except.bind, hsnapshot]

theorem deliver_of_repeated (host : JavaScriptHost) (typed : Json → AssignmentEventV2) (now : String)
    (hexisting : (journalForMutation current.assignment_kernel_v2).existing? event.event_id = some existing)
    (hrepeats : repeats numbers sha256 (journalForMutation current.assignment_kernel_v2) existing event = true) :
    deliver host numbers typed sha256 now current event
      = (storedSnapshot host numbers typed (journalForMutation current.assignment_kernel_v2).events).map
        fun snapshot => ⟨current, snapshot, true, none⟩ := by
  simp only [deliver, hexisting, hrepeats, if_true]
  cases storedSnapshot host numbers typed (journalForMutation current.assignment_kernel_v2).events <;> rfl

theorem deliver_of_new (sha256 : String → String) (now : String)
    (hopen : openJournal host numbers typed (journalForMutation current.assignment_kernel_v2).events = .ok journal)
    (hfresh : (journalForMutation current.assignment_kernel_v2).existing? event.event_id = none)
    (hok : (AssignmentJournalV2.ofEvents host numbers typed
      ((journalForMutation current.assignment_kernel_v2).events ++ [event])).isOk = true) :
    ∃ snapshot, storedSnapshot host numbers typed
          ((journalForMutation current.assignment_kernel_v2).accept event).events = .ok (some snapshot)
      ∧ deliver host numbers typed sha256 now current event
        = .ok ⟨synchronizeGoalLifecycle { current with
            assignment_kernel_v2 := some ((journalForMutation current.assignment_kernel_v2).accept event) } snapshot,
          some snapshot, true, none⟩ := by
  have happend := append_of_fresh event hopen (existing?_eq_none.1 hfresh).1
  obtain ⟨next, hnext⟩ := exists_of_isOk hok
  rw [hnext] at happend
  obtain ⟨snapshot, hsnapshot, hstate, hlonger⟩ := happend
  obtain ⟨stored, hstored, hread⟩ := storedSnapshot_of_opens hlonger (by simp)
  obtain rfl : stored = snapshot := by
    rw [hstate, Except.ok.injEq] at hstored
    exact hstored.symm
  refine ⟨stored, hread, ?_⟩
  simp only [deliver, hfresh, hopen, ok_bind, hsnapshot]
  rfl

theorem deliver_of_refused (now : String)
    (hopens : Opens host numbers typed (journalForMutation current.assignment_kernel_v2).events)
    (hrefused : ¬ Accepts host numbers typed sha256 (journalForMutation current.assignment_kernel_v2) event) :
    ∃ entry snapshot, entry.event = event
      ∧ deliver host numbers typed sha256 now current event
        = .ok ⟨{ current with
            assignment_kernel_v2 := some ((journalForMutation current.assignment_kernel_v2).quarantine entry) },
          snapshot, false, some entry.reason_code⟩ := by
  obtain ⟨snapshot, hsnapshot⟩ := exists_storedSnapshot hopens
  obtain ⟨journal, hopen⟩ := hopens
  rw [Accepts, not_or] at hrefused
  obtain ⟨hknown, hnew⟩ := hrefused
  cases hexisting : (journalForMutation current.assignment_kernel_v2).existing? event.event_id with
  | some existing =>
    have hdiffers : ¬ repeats numbers sha256 (journalForMutation current.assignment_kernel_v2) existing event
        = true := fun h => hknown ⟨existing, hexisting, h⟩
    refine ⟨conflictEntry event now, snapshot, rfl, ?_⟩
    simp only [deliver, hexisting, hsnapshot, ok_bind, hdiffers]
    rfl
  | none =>
    have happend := append_of_fresh event hopen (existing?_eq_none.1 hexisting).1
    cases hlonger : AssignmentJournalV2.ofEvents host numbers typed
        ((journalForMutation current.assignment_kernel_v2).events ++ [event]) with
    | ok next => exact absurd ⟨hexisting, by rw [hlonger]; rfl⟩ hnew
    | error fault =>
      rw [hlonger] at happend
      refine ⟨rejectedEntry event fault now, snapshot, rfl, ?_⟩
      simp only [deliver, hexisting, hopen, ok_bind, happend, hsnapshot]
      rfl

theorem not_accepts_quarantine (hentry : entry.event = event)
    (hrefused : ¬ Accepts host numbers typed sha256 record event) :
    ¬ Accepts host numbers typed sha256 (record.quarantine entry) event := by
  subst hentry
  rw [Accepts, not_or] at hrefused
  obtain ⟨hknown, -⟩ := hrefused
  cases hexisting : record.existing? entry.event.event_id with
  | some existing =>
    have hlater := existing?_quarantine_of_some entry hexisting
    rintro (⟨found, hfound, hrepeats⟩ | ⟨hnone, -⟩)
    · rw [hlater, Option.some.injEq] at hfound
      subst hfound
      exact hknown ⟨existing, hexisting, hrepeats⟩
    · rw [hlater] at hnone
      cases hnone
  | none =>
    have hlater := existing?_quarantine_of_none hexisting
    rintro (⟨found, hfound, hrepeats⟩ | ⟨hnone, -⟩)
    · have hknownId : (record.events.any fun candidate => candidate.event_id = entry.event.event_id) = true := by
        rw [repeats, Bool.and_eq_true] at hrepeats
        exact hrepeats.1
      obtain ⟨kept, hkept, hid⟩ := List.any_eq_true.1 hknownId
      exact (existing?_eq_none.1 hexisting).1 (List.mem_map.2 ⟨kept, hkept, by simpa using hid⟩)
    · rw [hlater] at hnone
      cases hnone

end deliveries

/-- What a reply says of the delivery. -/
def reported (reply : Except KernelFault AssignmentKernelAppendResultV2) :
    Except KernelFault (Bool × Option String) :=
  reply.map fun result => (result.accepted, result.quarantined_reason_code)

/-- The same event offered twice: the second offer leaves both lists as they
    are and is answered like the first. -/
def RedeliveredAlike (host : JavaScriptHost) (numbers : Json.NumberText) (typed : Json → AssignmentEventV2)
    (sha256 : String → String) (now again : String) (current : GoalRecord) (event : StoredEventV2) : Prop :=
  let first := appendAssignmentKernelEventV2 host numbers typed sha256 now current event
  let second := appendAssignmentKernelEventV2 host numbers typed sha256 again first.1 event
  journalForMutation second.1.assignment_kernel_v2 = journalForMutation first.1.assignment_kernel_v2
    ∧ reported second.2 = reported first.2

section offers

theorem append_of_error
    (h : deliver host numbers typed sha256 now current event = .error fault) :
    appendAssignmentKernelEventV2 host numbers typed sha256 now current event = (current, .error fault) := by
  rw [appendAssignmentKernelEventV2, h]

theorem append_of_delivery {delivery : Delivery}
    (h : deliver host numbers typed sha256 now current event = .ok delivery) :
    (appendAssignmentKernelEventV2 host numbers typed sha256 now current event).1 = delivery.goal := by
  rw [appendAssignmentKernelEventV2, h]
  dsimp only
  split <;> rfl

theorem redeliveredAlike_of_not_opens
    (h : ¬ Opens host numbers typed (journalForMutation current.assignment_kernel_v2).events) :
    RedeliveredAlike host numbers typed sha256 now again current event := by
  cases hopen : openJournal host numbers typed (journalForMutation current.assignment_kernel_v2).events with
  | ok journal => exact absurd ⟨journal, hopen⟩ h
  | error fault =>
    have hfirst := append_of_error (deliver_of_not_opens sha256 now event hopen)
    have hsecond := append_of_error (deliver_of_not_opens sha256 again event hopen)
    simp only [RedeliveredAlike, hfirst, hsecond]
    exact ⟨trivial, trivial⟩

/-- A repeated delivery changes nothing, so the next one finds the same
    record. -/
theorem redeliveredAlike_of_repeated
    (hexisting : (journalForMutation current.assignment_kernel_v2).existing? event.event_id = some existing)
    (hrepeats : repeats numbers sha256 (journalForMutation current.assignment_kernel_v2) existing event = true) :
    RedeliveredAlike host numbers typed sha256 now again current event := by
  have hfirst := deliver_of_repeated host typed now hexisting hrepeats
  have hsecond := deliver_of_repeated host typed again hexisting hrepeats
  have hsame : appendAssignmentKernelEventV2 host numbers typed sha256 again current event
      = appendAssignmentKernelEventV2 host numbers typed sha256 now current event := by
    rw [appendAssignmentKernelEventV2, appendAssignmentKernelEventV2, hfirst, hsecond]
  have hgoal : (appendAssignmentKernelEventV2 host numbers typed sha256 now current event).1 = current := by
    cases hsnapshot : storedSnapshot host numbers typed (journalForMutation current.assignment_kernel_v2).events with
    | error fault =>
      rw [hsnapshot] at hfirst
      rw [append_of_error hfirst]
    | ok snapshot =>
      rw [hsnapshot] at hfirst
      rw [append_of_delivery hfirst]
  simp only [RedeliveredAlike]
  rw [hgoal, hsame]
  exact ⟨congrArg (fun goal => journalForMutation goal.assignment_kernel_v2) hgoal, rfl⟩

theorem redeliveredAlike_of_new
    (hopen : openJournal host numbers typed (journalForMutation current.assignment_kernel_v2).events = .ok journal)
    (hfresh : (journalForMutation current.assignment_kernel_v2).existing? event.event_id = none)
    (hok : (AssignmentJournalV2.ofEvents host numbers typed
      ((journalForMutation current.assignment_kernel_v2).events ++ [event])).isOk = true) :
    RedeliveredAlike host numbers typed sha256 now again current event := by
  obtain ⟨snapshot, hread, hfirst⟩ := deliver_of_new sha256 now hopen hfresh hok
  have hgoal := append_of_delivery hfirst
  have hrecord : journalForMutation
      (appendAssignmentKernelEventV2 host numbers typed sha256 now current event).1.assignment_kernel_v2
        = (journalForMutation current.assignment_kernel_v2).accept event := by
    rw [hgoal]
    simp [journalForMutation]
  have hknown : (journalForMutation (appendAssignmentKernelEventV2 host numbers typed sha256 now current
      event).1.assignment_kernel_v2).existing? event.event_id = some event := by
    rw [hrecord]
    exact existing?_accept hfresh
  have hsecond := deliver_of_repeated host typed again hknown
    (by rw [hrecord]; exact repeats_accept numbers sha256 _ event)
  rw [hrecord, hread] at hsecond
  have hanswer : reported (appendAssignmentKernelEventV2 host numbers typed sha256 now current event).2
      = .ok (true, none) := by
    rw [appendAssignmentKernelEventV2, hfirst]
    rfl
  have hagain : reported (appendAssignmentKernelEventV2 host numbers typed sha256 again
      (appendAssignmentKernelEventV2 host numbers typed sha256 now current event).1 event).2 = .ok (true, none) := by
    rw [appendAssignmentKernelEventV2, hsecond]
    rfl
  refine ⟨?_, hagain.trans hanswer.symm⟩
  rw [append_of_delivery hsecond]

theorem not_redeliveredAlike_of_refused
    (hopens : Opens host numbers typed (journalForMutation current.assignment_kernel_v2).events)
    (hrefused : ¬ Accepts host numbers typed sha256 (journalForMutation current.assignment_kernel_v2) event) :
    ¬ RedeliveredAlike host numbers typed sha256 now again current event := by
  intro hsame
  obtain ⟨entry, snapshot, hentry, hfirst⟩ := deliver_of_refused now hopens hrefused
  have hlater : Opens host numbers typed (journalForMutation ({ current with
      assignment_kernel_v2 := some ((journalForMutation current.assignment_kernel_v2).quarantine entry) }
        : GoalRecord).assignment_kernel_v2).events := hopens
  obtain ⟨later, other, -, hsecond⟩ :=
    deliver_of_refused again hlater (not_accepts_quarantine hentry hrefused)
  have hlists := hsame.1
  rw [append_of_delivery hfirst, append_of_delivery hsecond] at hlists
  have hlengths := congrArg (fun record => record.quarantined_events.length) hlists
  simp [journalForMutation, quarantine] at hlengths

end offers

/-- The second offer of an event changes nothing exactly when the history cannot
    be read or the first offer was accepted. -/
theorem redeliveredAlike_iff (host : JavaScriptHost) (numbers : Json.NumberText)
    (typed : Json → AssignmentEventV2) (sha256 : String → String) (now again : String) (current : GoalRecord)
    (event : StoredEventV2) :
    RedeliveredAlike host numbers typed sha256 now again current event
      ↔ ¬ Opens host numbers typed (journalForMutation current.assignment_kernel_v2).events
        ∨ Accepts host numbers typed sha256 (journalForMutation current.assignment_kernel_v2) event := by
  constructor
  · intro hsame
    by_contra hcase
    rw [not_or, not_not] at hcase
    exact not_redeliveredAlike_of_refused hcase.1 hcase.2 hsame
  · intro hcase
    by_cases hopens : Opens host numbers typed (journalForMutation current.assignment_kernel_v2).events
    · obtain ⟨journal, hopen⟩ := id hopens
      obtain hclosed | ⟨existing, hexisting, hrepeats⟩ | ⟨hfresh, hok⟩ := hcase
      · exact absurd hopens hclosed
      · exact redeliveredAlike_of_repeated hexisting hrepeats
      · exact redeliveredAlike_of_new hopen hfresh hok
    · exact redeliveredAlike_of_not_opens hopens

variable {state : BatchState}

section batches

/-- The journal takes one event of a batch: an accepted event is repeated, or a
    new one extends the history. -/
inductive Takes (host : JavaScriptHost) (numbers : Json.NumberText) (typed : Json → AssignmentEventV2)
    (sha256 : String → String) (now : String) (record : AssignmentKernelJournalRecordV2)
    (input : AssignmentKernelCurrentEventInputV2) : AssignmentKernelJournalRecordV2 → Prop where
  | repeated (snapshot : AssignmentSnapshotV2) (existing : StoredEventV2)
      (hsnapshot : storedSnapshot host numbers typed record.events = .ok (some snapshot))
      (hexisting : record.existing? input.event_id = some existing)
      (hrepeats : repeats numbers sha256 record existing (input.candidate (some existing) snapshot now) = true) :
      Takes host numbers typed sha256 now record input record
  | extended (snapshot : AssignmentSnapshotV2)
      (hsnapshot : storedSnapshot host numbers typed record.events = .ok (some snapshot))
      (hfresh : record.existing? input.event_id = none)
      (hok : (AssignmentJournalV2.ofEvents host numbers typed
        (record.events ++ [input.candidate none snapshot now])).isOk = true) :
      Takes host numbers typed sha256 now record input (record.accept (input.candidate none snapshot now))

/-- The journal takes every event of a list in turn. -/
inductive TakesAll (host : JavaScriptHost) (numbers : Json.NumberText) (typed : Json → AssignmentEventV2)
    (sha256 : String → String) (now : String) :
    AssignmentKernelJournalRecordV2 → List AssignmentKernelCurrentEventInputV2 →
      AssignmentKernelJournalRecordV2 → Prop where
  | nil (record : AssignmentKernelJournalRecordV2) : TakesAll host numbers typed sha256 now record [] record
  | cons {record mid final : AssignmentKernelJournalRecordV2} {input : AssignmentKernelCurrentEventInputV2}
      {rest : List AssignmentKernelCurrentEventInputV2}
      (hfirst : Takes host numbers typed sha256 now record input mid)
      (hrest : TakesAll host numbers typed sha256 now mid rest final) :
      TakesAll host numbers typed sha256 now record (input :: rest) final

variable {mid final : AssignmentKernelJournalRecordV2} {input : AssignmentKernelCurrentEventInputV2}
  {inputs : List AssignmentKernelCurrentEventInputV2}

theorem TakesAll.keeps (h : TakesAll host numbers typed sha256 now record inputs final) :
    record.events <+: final.events ∧ final.quarantined_events = record.quarantined_events := by
  induction h with
  | nil record => exact ⟨List.prefix_rfl, rfl⟩
  | cons hfirst _ ih =>
    obtain ⟨hkept, hquarantined⟩ := ih
    cases hfirst with
    | repeated => exact ⟨hkept, hquarantined⟩
    | extended => exact ⟨(List.prefix_append _ _).trans hkept, hquarantined⟩

/-- The state of the loop belongs to its record. -/
structure BatchState.Sound (host : JavaScriptHost) (numbers : Json.NumberText) (typed : Json → AssignmentEventV2)
    (state : BatchState) : Prop where
  opened : openJournal host numbers typed state.record.events = .ok state.journal
  nonempty : state.record.events ≠ []
  current : state.journal.snapshot = .ok state.snapshot

theorem BatchState.Sound.storedSnapshot (h : state.Sound host numbers typed) :
    storedSnapshot host numbers typed state.record.events = .ok (some state.snapshot) := by
  obtain ⟨snapshot, hsnapshot, hstored⟩ := storedSnapshot_of_opens h.opened h.nonempty
  rw [h.current, Except.ok.injEq] at hsnapshot
  rwa [hsnapshot]

theorem startBatch_sound (h : startBatch host numbers typed record = .ok state) :
    state.Sound host numbers typed ∧ state.record = record ∧ state.appended = false := by
  simp only [startBatch, bind_eq_ok, require_eq_ok, pure_eq_ok] at h
  obtain ⟨journal, hjournal, -, hnonempty, snapshot, hsnapshot, rfl⟩ := h
  refine ⟨⟨hjournal, ?_, hsnapshot⟩, rfl, rfl⟩
  intro hempty
  rw [hempty] at hnonempty
  cases hnonempty

/-- What the loop leaves behind: it has taken the whole batch, or the events up
    to one that it quarantined. -/
inductive Batched (host : JavaScriptHost) (numbers : Json.NumberText) (typed : Json → AssignmentEventV2)
    (sha256 : String → String) (now : String) (record : AssignmentKernelJournalRecordV2)
    (inputs : List AssignmentKernelCurrentEventInputV2) :
    AssignmentKernelJournalRecordV2 → Option String → Prop where
  | whole {final : AssignmentKernelJournalRecordV2}
      (htaken : TakesAll host numbers typed sha256 now record inputs final) :
      Batched host numbers typed sha256 now record inputs final none
  | upTo {mid : AssignmentKernelJournalRecordV2} {taken rest : List AssignmentKernelCurrentEventInputV2}
      {input : AssignmentKernelCurrentEventInputV2} {entry : AssignmentKernelQuarantinedEventV2}
      (hinputs : inputs = taken ++ input :: rest)
      (htaken : TakesAll host numbers typed sha256 now record taken mid)
      (hrefused : ∀ next, ¬ Takes host numbers typed sha256 now mid input next)
      (hentry : entry.event.event_id = input.event_id) :
      Batched host numbers typed sha256 now record inputs (mid.quarantine entry) (some entry.reason_code)

theorem Batched.cons (hfirst : Takes host numbers typed sha256 now record input mid) {code : Option String}
    (h : Batched host numbers typed sha256 now mid inputs final code) :
    Batched host numbers typed sha256 now record (input :: inputs) final code := by
  cases h with
  | whole htaken => exact .whole (.cons hfirst htaken)
  | upTo hinputs htaken hrefused hentry =>
    exact .upTo (by rw [hinputs, List.cons_append]) (.cons hfirst htaken) hrefused hentry

theorem Batched.taken (h : Batched host numbers typed sha256 now record inputs final none) :
    TakesAll host numbers typed sha256 now record inputs final := by
  cases h with
  | whole htaken => exact htaken

/-- A batch that was stored keeps the history before it, and quarantines one
    event at most. -/
theorem Batched.keeps {code : Option String} (h : Batched host numbers typed sha256 now record inputs final code) :
    record.events <+: final.events
      ∧ (final.quarantined_events = record.quarantined_events
        ∨ ∃ entry, final.quarantined_events = record.quarantined_events ++ [entry]) := by
  cases h with
  | whole htaken => exact ⟨htaken.keeps.1, .inl htaken.keeps.2⟩
  | upTo hinputs htaken hrefused hentry =>
    obtain ⟨hkept, hquarantined⟩ := htaken.keeps
    exact ⟨hkept, .inr ⟨_, by rw [quarantine, hquarantined]⟩⟩

theorem Batched.refused {rest : List AssignmentKernelCurrentEventInputV2}
    (hrefused : ∀ next, ¬ Takes host numbers typed sha256 now record input next)
    (hentry : entry.event.event_id = input.event_id) :
    Batched host numbers typed sha256 now record (input :: rest) (record.quarantine entry)
      (some entry.reason_code) := by
  have hinputs : input :: rest = [] ++ input :: rest := rfl
  exact .upTo hinputs (.nil record) hrefused hentry

/-- The loop keeps its state sound and takes the batch in order. When it ends
    without an append or a refusal, its record is the one it began with. -/
theorem offerBatch_batched (sha256 : String → String) (now : String)
    (inputs : List AssignmentKernelCurrentEventInputV2) (h : state.Sound host numbers typed) :
    Batched host numbers typed sha256 now state.record inputs
        (offerBatch host numbers typed sha256 now state inputs).1.record
        (offerBatch host numbers typed sha256 now state inputs).2
      ∧ (offerBatch host numbers typed sha256 now state inputs).1.Sound host numbers typed
      ∧ ((offerBatch host numbers typed sha256 now state inputs).1.appended = false →
        state.appended = false ∧ ((offerBatch host numbers typed sha256 now state inputs).2 = none →
          (offerBatch host numbers typed sha256 now state inputs).1.record = state.record)) := by
  induction inputs generalizing state with
  | nil => exact ⟨.whole (.nil _), h, fun hnot => ⟨hnot, fun _ => rfl⟩⟩
  | cons input rest ih =>
    have hsnapshot := h.storedSnapshot
    cases hexisting : state.record.existing? input.event_id with
    | some existing =>
      cases hrepeats : repeats numbers sha256 state.record existing
          (input.candidate (some existing) state.snapshot now) with
      | true =>
        simp only [offerBatch, hexisting, hrepeats, if_true]
        obtain ⟨hbatched, hsound, hunchanged⟩ := ih h
        exact ⟨.cons (.repeated state.snapshot existing hsnapshot hexisting hrepeats) hbatched, hsound, hunchanged⟩
      | false =>
        have hrefused : ∀ next, ¬ Takes host numbers typed sha256 now state.record input next := by
          rintro next (⟨snapshot, found, hread, hfound, hsame⟩ | ⟨snapshot, -, hfresh, -⟩)
          · rw [hsnapshot, Except.ok.injEq, Option.some.injEq] at hread
            rw [hexisting, Option.some.injEq] at hfound
            rw [← hread, ← hfound, hrepeats] at hsame
            cases hsame
          · rw [hexisting] at hfresh
            cases hfresh
        simp only [offerBatch, hexisting, hrepeats]
        exact ⟨.refused hrefused rfl, ⟨h.opened, h.nonempty, h.current⟩,
          fun hnot => ⟨hnot, fun hnone => nomatch hnone⟩⟩
    | none =>
      have happend := append_of_fresh (input.candidate none state.snapshot now) h.opened
        (existing?_eq_none.1 hexisting).1
      cases hlonger : AssignmentJournalV2.ofEvents host numbers typed
          (state.record.events ++ [input.candidate none state.snapshot now]) with
      | error fault =>
        rw [hlonger] at happend
        have hrefused : ∀ next, ¬ Takes host numbers typed sha256 now state.record input next := by
          rintro next (⟨snapshot, found, -, hfound, -⟩ | ⟨snapshot, hread, -, hok⟩)
          · rw [hexisting] at hfound
            cases hfound
          · rw [hsnapshot, Except.ok.injEq, Option.some.injEq] at hread
            rw [← hread, hlonger] at hok
            cases hok
        simp only [offerBatch, hexisting, happend]
        exact ⟨.refused hrefused rfl, ⟨h.opened, h.nonempty, h.current⟩,
          fun hnot => ⟨hnot, fun hnone => nomatch hnone⟩⟩
      | ok next =>
        rw [hlonger] at happend
        obtain ⟨snapshot, happended, hcurrent, hopened⟩ := happend
        have htakes : Takes host numbers typed sha256 now state.record input
            (state.record.accept (input.candidate none state.snapshot now)) :=
          .extended state.snapshot hsnapshot hexisting (by rw [hlonger]; rfl)
        have hsound : BatchState.Sound host numbers typed
            ⟨state.record.accept (input.candidate none state.snapshot now), next, snapshot, true⟩ :=
          ⟨hopened, by simp [accept], hcurrent⟩
        simp only [offerBatch, hexisting, happended]
        obtain ⟨hbatched, hfinal, hunchanged⟩ := ih hsound
        exact ⟨.cons htakes hbatched, hfinal, fun hnot => nomatch (hunchanged hnot).1⟩

/-- What a batch leaves in the goal and what it answers: an accepted batch is
    taken as a whole and answered with the snapshot of the stored history, and a
    refused one is taken up to the event that is quarantined. A history that
    cannot be read, or is empty, stays as it is. -/
structure BatchKept (host : JavaScriptHost) (numbers : Json.NumberText) (typed : Json → AssignmentEventV2)
    (sha256 : String → String) (now : String) (inputs : List AssignmentKernelCurrentEventInputV2)
    (record stored : AssignmentKernelJournalRecordV2)
    (reply : Except KernelFault AssignmentKernelAppendResultV2) : Prop where
  accepted : ∀ result, reply = .ok result → TakesAll host numbers typed sha256 now record inputs stored
    ∧ storedSnapshot host numbers typed stored.events = .ok (some result.snapshot)
  refused : ∀ fault, reply = .error fault →
    (stored = record ∧ (inputs = [] ∨ record.events = [] ∨ ¬ Opens host numbers typed record.events))
      ∨ ∃ code, fault = .error code ∧ Batched host numbers typed sha256 now record inputs stored (some code)
  kept : record.events <+: stored.events
  quarantined : stored.quarantined_events = record.quarantined_events
    ∨ ∃ entry, stored.quarantined_events = record.quarantined_events ++ [entry]
  replays : Opens host numbers typed record.events → Opens host numbers typed stored.events

theorem BatchKept.of_unread
    (hunread : inputs = [] ∨ record.events = [] ∨ ¬ Opens host numbers typed record.events) :
    BatchKept host numbers typed sha256 now inputs record record (.error fault) where
  accepted := fun _ hresult => nomatch hresult
  refused := fun _ _ => .inl ⟨rfl, hunread⟩
  kept := List.prefix_rfl
  quarantined := .inl rfl
  replays := id

theorem not_opens_of_startBatch
    (h : startBatch host numbers typed record = .error fault) :
    record.events = [] ∨ ¬ Opens host numbers typed record.events := by
  by_contra hread
  rw [not_or, not_not] at hread
  obtain ⟨hnonempty, journal, hjournal⟩ := hread
  obtain ⟨snapshot, hsnapshot, -⟩ := storedSnapshot_of_opens hjournal hnonempty
  have hstarted : record.events.isEmpty = false := by simpa using hnonempty
  simp only [startBatch, hjournal, ok_bind, hsnapshot, throwUnless, require_of hstarted] at h
  cases h

theorem batchKept (host : JavaScriptHost) (numbers : Json.NumberText) (typed : Json → AssignmentEventV2)
    (sha256 : String → String) (now : String) (current : GoalRecord)
    (inputs : List AssignmentKernelCurrentEventInputV2) :
    BatchKept host numbers typed sha256 now inputs (journalForMutation current.assignment_kernel_v2)
      (journalForMutation
        (appendCurrentEventsUnderGoalLock host numbers typed sha256 now current inputs).1.assignment_kernel_v2)
      (appendCurrentEventsUnderGoalLock host numbers typed sha256 now current inputs).2 := by
  cases inputs with
  | nil => exact .of_unread (.inl rfl)
  | cons first rest =>
    cases hstart : startBatch host numbers typed (journalForMutation current.assignment_kernel_v2) with
    | error fault =>
      simp only [appendCurrentEventsUnderGoalLock, hstart]
      exact .of_unread (.inr (not_opens_of_startBatch hstart))
    | ok start =>
      obtain ⟨hsound, hrecord, hfirst⟩ := startBatch_sound hstart
      obtain ⟨hbatched, hfinal, hunchanged⟩ := offerBatch_batched sha256 now (first :: rest) hsound
      rw [hrecord] at hbatched hunchanged
      simp only [appendCurrentEventsUnderGoalLock, hstart]
      generalize offerBatch host numbers typed sha256 now start (first :: rest) = ended at *
      obtain ⟨final, refused⟩ := ended
      have hgoal : journalForMutation (if final.appended = true then
            synchronizeGoalLifecycle { current with assignment_kernel_v2 := some final.record } final.snapshot
          else if refused.isNone = true then current
          else { current with assignment_kernel_v2 := some final.record }).assignment_kernel_v2 = final.record := by
        split_ifs with happended hnone
        · rw [synchronizeGoalLifecycle_journal]
          rfl
        · exact ((hunchanged (by simpa using happended)).2 (Option.isNone_iff_eq_none.1 hnone)).symm
        · rfl
      obtain ⟨hkept, hquarantined⟩ := hbatched.keeps
      have hopens : Opens host numbers typed final.record.events := ⟨final.journal, hfinal.opened⟩
      cases refused with
      | none =>
        dsimp only at hgoal ⊢
        rw [hgoal]
        refine ⟨?_, fun fault hfault => (nomatch hfault), hkept, hquarantined, fun _ => hopens⟩
        intro result hresult
        cases hresult
        exact ⟨hbatched.taken, hfinal.storedSnapshot⟩
      | some code =>
        dsimp only at hgoal ⊢
        rw [hgoal]
        refine ⟨fun result hresult => (nomatch hresult), ?_, hkept, hquarantined, fun _ => hopens⟩
        intro fault hfault
        cases hfault
        exact .inr ⟨code, rfl, hbatched⟩

end batches

/-- A second offer of an event to the durable journal changes nothing exactly
    when the stored history cannot be read or the first offer is accepted: an
    event that is refused is quarantined again with every offer. A batch keeps
    what it has taken and quarantines one event at most, and what is stored
    replays to the snapshot that is returned. -/
theorem redelivery_idempotent_iff (host : JavaScriptHost) (numbers : Json.NumberText)
    (typed : Json → AssignmentEventV2) (sha256 : String → String) (now again : String) (current : GoalRecord) :
    (∀ event, RedeliveredAlike host numbers typed sha256 now again current event
      ↔ ¬ Opens host numbers typed (journalForMutation current.assignment_kernel_v2).events
        ∨ Accepts host numbers typed sha256 (journalForMutation current.assignment_kernel_v2) event)
      ∧ ∀ inputs, BatchKept host numbers typed sha256 now inputs (journalForMutation current.assignment_kernel_v2)
        (journalForMutation
          (appendCurrentEventsUnderGoalLock host numbers typed sha256 now current inputs).1.assignment_kernel_v2)
        (appendCurrentEventsUnderGoalLock host numbers typed sha256 now current inputs).2 :=
  ⟨redeliveredAlike_iff host numbers typed sha256 now again current,
    batchKept host numbers typed sha256 now current⟩

/-- A goal whose journal holds the creation of its assignment. -/
def createdGoal : GoalRecord where
  id := "assignment-1"
  status := .active
  current_phase := some "planning"
  current_step := none
  finished_at := none
  progress_summary := "Goal created."
  blocker := none
  error := none
  assignment_kernel_v2 := some ⟨[storedCreation], []⟩

/-- Another creation of the same assignment. -/
def lateCreation : StoredEventV2 where
  value := .obj [("event_id", .str "event-2"), ("assignment_id", .str "assignment-1"),
    ("assignment_version", .num 1)]
  proper := by simp [Json.Proper, Json.EveryObject, Json.EveryMember]
  enumerated := by rfl
  event_id := "event-2"
  reads_event_id := by rfl
  assignment_version := 1
  reads_assignment_version := by rfl

/-- The stale event is in quarantine twice after its second delivery. -/
theorem stale_event_quarantined_twice :
    ¬ ∀ (current : GoalRecord) (event : StoredEventV2), RedeliveredAlike asciiHost Json.integerText
      (fun _ => sampleCreation) id sampleTime sampleTime current event := by
  intro hall
  have hlists := (hall createdGoal lateCreation).1
  have hlengths := congrArg (fun record => record.quarantined_events.length) hlists
  revert hlengths
  decide +kernel

end revit_operator.assignments
