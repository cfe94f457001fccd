import RevitOperator.AssignmentKernel.AssignmentJournal

open checked
open revit_operator.assignment_kernel

namespace revit_operator.assignments

/-- The options of `createContentVerifiedJournalV2`. -/
structure JournalCacheOptions where
  maxEntries : Option Int
  maxBytes : Option Int

/-- The bounds of a cache. -/
structure JournalCacheBounds where
  maxEntries : Int
  maxBytes : Int
  one_le_maxEntries : 1 ≤ maxEntries
  one_le_maxBytes : 1 ≤ maxBytes

structure JournalCacheEntry where
  key : String
  journal : AssignmentJournalV2
  bytes : Nat

/-- The entries in the order in which they were added, and their size. -/
structure JournalCache where
  entries : List JournalCacheEntry
  bytes : Int

/-- An open history: its journal and the exact text of its events. -/
structure JournalSession where
  journal : AssignmentJournalV2
  historyText : String

namespace JournalCache

def empty : JournalCache := ⟨[], 0⟩

def get? (cache : JournalCache) (key : String) : Option JournalCacheEntry :=
  cache.entries.find? fun entry => entry.key = key

/-- The entries without the one under a key. -/
def without (cache : JournalCache) (key : String) : List JournalCacheEntry :=
  cache.entries.eraseP fun entry => entry.key = key

/-- Drop the entry that is about to be replaced. -/
def forget (cache : JournalCache) (key : String) : JournalCache :=
  match cache.get? key with
  | none => cache
  | some previous => ⟨cache.without key, cache.bytes - previous.bytes⟩

/-- Move an entry that was used to the end. -/
def touch (cache : JournalCache) (key : String) (cached : JournalCacheEntry) : JournalCache :=
  { cache with entries := cache.without key ++ [cached] }

/-- Drop the oldest entries while a bound is exceeded. -/
def evict (bounds : JournalCacheBounds) : List JournalCacheEntry → Int → Except KernelFault JournalCache
  | [], bytes =>
    if 0 > bounds.maxEntries ∨ bytes > bounds.maxBytes then
      .error (.error "Cannot read properties of undefined (reading 'bytes')")
    else .ok ⟨[], bytes⟩
  | first :: rest, bytes =>
    if ((first :: rest).length : Int) > bounds.maxEntries ∨ bytes > bounds.maxBytes then
      evict bounds rest (bytes - first.bytes)
    else .ok ⟨first :: rest, bytes⟩

end JournalCache

/-- The exact text of a history: order, duplicates and every payload field. -/
def historyText (numbers : Json.NumberText) (events : List StoredEventV2) : String :=
  Json.stringify numbers (.arr (events.map StoredEventV2.value))

/-- The text of a history after one more event, spliced into the text before
    it. -/
def spliceEvent (numbers : Json.NumberText) (historyText : String) (event : StoredEventV2) : String :=
  text.slice (text.length historyText - 1) historyText ++ (if 2 < text.length historyText then "," else "")
    ++ Json.stringify numbers event.value ++ "]"

section service

variable (host : JavaScriptHost) (numbers : Json.NumberText) (typed : Json → AssignmentEventV2)
  (digest : String → String) (serialized : AssignmentSnapshotV2 → String) (bounds : JournalCacheBounds)

def retain (cache : JournalCache) (historyText : String) (journal : AssignmentJournalV2) :
    Except KernelFault JournalCache := do
  let key := digest historyText
  let kept := cache.forget key
  let snapshot ← journal.snapshot
  let size := text.utf8ByteLength historyText + text.utf8ByteLength (serialized snapshot)
  if (size : Int) > bounds.maxBytes then return kept
  JournalCache.evict bounds (kept.entries ++ [⟨key, journal.fork, size⟩]) (kept.bytes + size)

/-- Durable history is stricter than idempotent delivery: the reducer rejects
    repeated entries. -/
def checkRepeated (events : List StoredEventV2) : Except KernelFault Unit :=
  if (events.map StoredEventV2.event_id).dedup.length ≠ events.length then do
    let _ ← reduceAssignmentEventsV2 host (events.map (AssignmentJournalV2.read typed))
    return ()
  else .ok ()

/-- `open` of the service. -/
def openHistory (cache : JournalCache) (events : List StoredEventV2) :
    Except KernelFault (JournalCache × JournalSession) := do
  checkRepeated host typed events
  let key := digest (historyText numbers events)
  match cache.get? key with
  | some cached => return (cache.touch key cached, ⟨cached.journal.fork, historyText numbers events⟩)
  | none =>
    let journal ← AssignmentJournalV2.ofEvents host numbers typed events
    if events = [] then return (cache, ⟨journal, historyText numbers events⟩)
    let retained ← retain digest serialized bounds cache (historyText numbers events) journal
    return (retained, ⟨journal, historyText numbers events⟩)

/-- `append` of an open history. -/
def appendEvent (cache : JournalCache) (session : JournalSession) (event : StoredEventV2) :
    Except KernelFault (JournalCache × JournalSession × AssignmentSnapshotV2) := do
  let (journal, snapshot) ← session.journal.append host numbers typed event
  let spliced := spliceEvent numbers session.historyText event
  let retained ← retain digest serialized bounds cache spliced journal
  return (retained, ⟨journal, spliced⟩, snapshot)

/-- The service between two calls: its cache and the histories that are
    open. -/
structure JournalService where
  bounds : JournalCacheBounds
  cache : JournalCache
  sessions : List JournalSession

def createContentVerifiedJournalV2 (options : JournalCacheOptions) : Except String JournalService :=
  let maxEntries := options.maxEntries.getD 8
  let maxBytes := options.maxBytes.getD (64 * 1024 * 1024)
  if h : isSafeInteger maxEntries = true ∧ 1 ≤ maxEntries ∧ maxEntries ≤ 256 ∧ isSafeInteger maxBytes = true
      ∧ 1 ≤ maxBytes then
    .ok ⟨⟨maxEntries, maxBytes, h.2.1, h.2.2.2.2⟩, .empty, []⟩
  else .error "journal_cache_bounds_invalid"

inductive JournalCall where
  | open_ (events : List StoredEventV2)
  | append (session : Nat) (event : StoredEventV2)
  | snapshot (session : Nat)
  | reset

inductive JournalReply where
  | opened (accepted : Bool)
  | snapshot (reply : Except KernelFault AssignmentSnapshotV2)
  | absent
  | done

/-- One call of the service. -/
def JournalService.answer (service : JournalService) : JournalCall → JournalService × JournalReply
  | .open_ events =>
    match openHistory host numbers typed digest serialized service.bounds service.cache events with
    | .error _ => (service, .opened false)
    | .ok (cache, session) => (⟨service.bounds, cache, service.sessions ++ [session]⟩, .opened true)
  | .append index event =>
    match service.sessions[index]? with
    | none => (service, .absent)
    | some session =>
      match appendEvent host numbers typed digest serialized service.bounds service.cache session event with
      | .error fault => (service, .snapshot (.error fault))
      | .ok (cache, next, snapshot) =>
        (⟨service.bounds, cache, service.sessions.set index next⟩, .snapshot (.ok snapshot))
  | .snapshot index =>
    match service.sessions[index]? with
    | none => (service, .absent)
    | some session => (service, .snapshot session.journal.snapshot)
  | .reset => ({ service with cache := .empty }, .done)

/-- The same calls without a cache: every open history is its list of events,
    and every reply comes from a full replay of it. A history with a repeated
    identity is not opened. -/
def replayAnswer (histories : List (List StoredEventV2)) :
    JournalCall → List (List StoredEventV2) × JournalReply
  | .open_ events =>
    if (AssignmentJournalV2.ofEvents host numbers typed events).isOk
        ∧ (events.map StoredEventV2.event_id).Nodup then
      (histories ++ [events], .opened true)
    else (histories, .opened false)
  | .append index event =>
    match histories[index]? with
    | none => (histories, .absent)
    | some events =>
      match AssignmentJournalV2.ofEvents host numbers typed (events ++ [event]) with
      | .error fault => (histories, .snapshot (.error fault))
      | .ok journal => (histories.set index (events ++ [event]), .snapshot journal.snapshot)
  | .snapshot index =>
    match histories[index]? with
    | none => (histories, .absent)
    | some events =>
      (histories, .snapshot (AssignmentJournalV2.ofEvents host numbers typed events >>= AssignmentJournalV2.snapshot))
  | .reset => (histories, .done)

end service

section text

variable {numbers : Json.NumberText} {events : List StoredEventV2} {event : StoredEventV2}

private theorem historyText_eq (numbers : Json.NumberText) (events : List StoredEventV2) :
    historyText numbers events
      = .ofList ('[' :: Json.itemChars numbers (events.map StoredEventV2.value)) ++ "]" := by
  have henumerated : (events.map StoredEventV2.value).map Json.enumerated = events.map StoredEventV2.value := by
    rw [List.map_map]
    exact List.map_congr_left fun event _ => event.enumerated
  rw [historyText, Json.stringify, Json.enumerated_arr, henumerated, Json.chars]
  simp [String.ext_iff]

theorem historyText_injective (numbers : Json.NumberText) : Function.Injective (historyText numbers) := by
  intro left right h
  rw [historyText_eq, historyText_eq] at h
  have hchars : Json.itemChars numbers (left.map StoredEventV2.value) ++ ']' :: []
      = Json.itemChars numbers (right.map StoredEventV2.value) ++ ']' :: [] := by
    simpa [String.ext_iff] using h
  obtain ⟨hvalues, -⟩ := Json.itemChars_append_inj numbers _ _ hchars
  exact List.map_injective_iff.2 (fun _ _ => StoredEventV2.ext_value) hvalues

private theorem two_lt_length_iff : 2 < text.length (historyText numbers events) ↔ events ≠ [] := by
  rw [historyText_eq, text.length_append]
  cases hchars : Json.itemChars numbers (events.map StoredEventV2.value) with
  | nil =>
    obtain rfl : events = [] := by simpa using Json.itemChars_eq_nil.1 hchars
    decide
  | cons c cs =>
    have hne : events ≠ [] := by
      rintro rfl
      cases hchars
    have hpos := text.charUnits_length_pos c
    have hclose : text.length "]" = 1 := by decide
    have hopen : (text.charUnits '[').length = 1 := by decide
    simp only [ne_eq, hne, not_false_iff, iff_true, hclose]
    simp only [text.length, text.codeUnits, String.toList_ofList, List.flatMap_cons, List.length_append, hopen]
    omega

theorem spliceEvent_eq (numbers : Json.NumberText) (events : List StoredEventV2) (event : StoredEventV2) :
    spliceEvent numbers (historyText numbers events) event = historyText numbers (events ++ [event]) := by
  have hslice : text.slice (text.length (historyText numbers events) - 1) (historyText numbers events)
      = .ofList ('[' :: Json.itemChars numbers (events.map StoredEventV2.value)) := by
    have hclose : text.length "]" = 1 := by decide
    rw [historyText_eq, text.length_append, hclose, Nat.add_sub_cancel, text.slice_append]
  have hevent : Json.stringify numbers event.value = .ofList (Json.chars numbers event.value) := by
    rw [Json.stringify, event.enumerated]
  rw [spliceEvent, hslice, hevent, historyText_eq numbers (events ++ [event]), List.map_append,
    List.map_singleton, Json.itemChars_append]
  by_cases hevents : events = []
  · subst hevents
    rw [if_neg (fun h => two_lt_length_iff.1 h rfl), if_pos (by simp)]
    simp [String.ext_iff]
  · rw [if_pos (two_lt_length_iff.2 hevents), if_neg (by simpa using hevents)]
    simp [String.ext_iff]

end text

end revit_operator.assignments
