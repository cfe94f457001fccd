import RevitOperator.Contracts.CompletionText

open checked
open revit_operator.contracts.completion_outbox (joined itemChars_eq memberChars_eq)

/-! The repair ledger of a session: one JSON line for each entry, each entry under
    the hash of its own content and citing the hash of the entry before it. -/

namespace revit_operator.existing_conditions

inductive ExistingConditionsStageStatus where
  | provisional
  | accepted
  | rejected_plan
  | follow_up
deriving DecidableEq

inductive ExistingConditionsStageEvent where
  | source_target_manifest_registered
  | source_disposition_recorded
  | workflow_registered
  | stage_registered
  | dry_run_accepted
  | stage_applied
  | stage_rejected
  | repair_registered
  | readback_accepted
  | continuation_accepted
  | visual_accepted
  | checkpoint_saved
deriving DecidableEq

def ExistingConditionsStageStatus.text : ExistingConditionsStageStatus → String
  | .provisional => "provisional"
  | .accepted => "accepted"
  | .rejected_plan => "rejected_plan"
  | .follow_up => "follow_up"

def ExistingConditionsStageEvent.text : ExistingConditionsStageEvent → String
  | .source_target_manifest_registered => "source_target_manifest_registered"
  | .source_disposition_recorded => "source_disposition_recorded"
  | .workflow_registered => "workflow_registered"
  | .stage_registered => "stage_registered"
  | .dry_run_accepted => "dry_run_accepted"
  | .stage_applied => "stage_applied"
  | .stage_rejected => "stage_rejected"
  | .repair_registered => "repair_registered"
  | .readback_accepted => "readback_accepted"
  | .continuation_accepted => "continuation_accepted"
  | .visual_accepted => "visual_accepted"
  | .checkpoint_saved => "checkpoint_saved"

/-- What the ledger takes from the language: the printing of numbers, hashing, case
    mapping, and `String(value)` of a value that is neither a text nor nullish. -/
structure LedgerHost where
  numbers : Json.NumberText
  sha256 : String → String
  toLowerCase : String → String
  stringOf : Json → String
  lower_ascii : ∀ s, (∀ c ∈ s.toList, c.toNat < 128) → toLowerCase s = .ofList (s.toList.map Char.toLower)

/-- An object in memory, as a payload is one. -/
structure Payload where
  members : List (String × JsValue)
  proper : (JsValue.obj members).Proper

def Payload.value (payload : Payload) : JsValue := .obj payload.members

def Payload.empty : Payload := ⟨[], JsValue.proper_obj.2 ⟨List.nodup_nil, List.forall_mem_nil _⟩⟩

structure ExistingConditionsRepairLedgerEntry where
  sequence : Nat
  ts : String
  session_id : String
  workflow_fingerprint_sha256 : String
  workflow_sha256 : String
  event : ExistingConditionsStageEvent
  status : ExistingConditionsStageStatus
  accepted_progress : Bool
  stage_key : Option String
  action_keys : List String
  event_key : String
  payload : Payload
  next_repair : Option String
  previous_entry_sha256 : Option String
  entry_sha256 : String

section canonical

variable (host : LedgerHost)

/-- `String(value ?? "").trim()`. -/
def clean (value : Json) : String :=
  text.trim (match value with
    | .null => ""
    | .str value => value
    | other => host.stringOf other)

mutual
/-- `canonicalExistingConditionsLedgerJson`. -/
def canonicalExistingConditionsLedgerJson : JsValue → Except String (List Char)
  | .undefined => .ok ['n', 'u', 'l', 'l']
  | .null => .ok ['n', 'u', 'l', 'l']
  | .str value => .ok (Json.chars host.numbers (.str value))
  | .nonFinite => .error "existing_conditions_stage_non_finite_number"
  | .num value => .ok (Json.chars host.numbers (.num value))
  | .bool value => .ok (Json.chars host.numbers (.bool value))
  | .arr items => do
    let texts ← canonicalItems items
    return '[' :: joined texts ++ [']']
  | .obj members => do
    let texts ← canonicalMembers members
    return '\x7b' :: joined ((Json.sortMembers texts).map fun entry => Json.quote entry.1 ++ ':' :: entry.2) ++ ['\x7d']

def canonicalItems : List JsValue → Except String (List (List Char))
  | [] => .ok []
  | item :: rest => do
    let first ← canonicalExistingConditionsLedgerJson item
    let others ← canonicalItems rest
    return first :: others

/-- The texts of the members that are defined. -/
def canonicalMembers : List (String × JsValue) → Except String (List (String × List Char))
  | [] => .ok []
  | (key, value) :: rest =>
    if value.isUndefined then canonicalMembers rest
    else do
      let first ← canonicalExistingConditionsLedgerJson value
      let others ← canonicalMembers rest
      return (key, first) :: others
end

def hashExistingConditionsLedgerValue (value : JsValue) : Except String String := do
  let message ← canonicalExistingConditionsLedgerJson host value
  return host.sha256 (.ofList message)

def normalizeExistingConditionsLedgerSha256 (value field : String) : Except String String := do
  let normalized := host.toLowerCase (text.trim value)
  require (text.isHexText 64 normalized) ("existing_conditions_stage_" ++ field ++ "_must_be_sha256")
  return normalized

end canonical

section entries

/-- `null` in place of a text that is not set. -/
def orNull : Option String → JsValue
  | none => .null
  | some value => .str value

namespace ExistingConditionsRepairLedgerEntry

/-- The members of an entry under their keys, without its own hash. -/
def members (entry : ExistingConditionsRepairLedgerEntry) : List (String × JsValue) :=
  [("schema_version", .num 1), ("sequence", .num entry.sequence), ("ts", .str entry.ts),
    ("session_id", .str entry.session_id), ("workflow_fingerprint_sha256", .str entry.workflow_fingerprint_sha256),
    ("workflow_sha256", .str entry.workflow_sha256), ("event", .str entry.event.text),
    ("status", .str entry.status.text), ("accepted_progress", .bool entry.accepted_progress),
    ("stage_key", orNull entry.stage_key), ("action_keys", .arr (entry.action_keys.map JsValue.str)),
    ("event_key", .str entry.event_key), ("payload", entry.payload.value), ("next_repair", orNull entry.next_repair),
    ("previous_entry_sha256", orNull entry.previous_entry_sha256)]

def withoutHash (entry : ExistingConditionsRepairLedgerEntry) : JsValue := .obj entry.members

def value (entry : ExistingConditionsRepairLedgerEntry) : JsValue :=
  .obj (entry.members ++ [("entry_sha256", .str entry.entry_sha256)])

/-- The line of an entry, as it is parsed again. -/
def line (entry : ExistingConditionsRepairLedgerEntry) : Json := entry.value.reparsed

end ExistingConditionsRepairLedgerEntry

/-- The parsed value without one of its members. -/
def withoutMember (value : Json) (key : String) : Json := .obj (value.members.filter fun entry => entry.1 ≠ key)

end entries

section store

variable (host : LedgerHost) (sessionId : String)

/-- A line of the ledger file. -/
inductive LedgerLine where
  | blank
  | malformed
  | parsed (value : Json)

/-- Where the loop of the reader stands. -/
structure LedgerRead where
  entries : List Json
  previousHash : Option String
  index : Nat

def LedgerRead.start : LedgerRead := ⟨[], none, 0⟩

/-- One turn of the loop of the reader. -/
def readLine (state : LedgerRead) : LedgerLine → Except String LedgerRead
  | .blank => .ok { state with index := state.index + 1 }
  | .malformed => .error ("existing_conditions_repair_ledger_malformed_line:" ++ toString (state.index + 1))
  | .parsed parsed => do
    require ((parsed.field "schema_version").isNumber 1 ∧ (parsed.field "sequence").isNumber (state.entries.length + 1)
        ∧ clean host (parsed.field "session_id") = text.trim sessionId
        ∧ parsed.member? "previous_entry_sha256" = some (orNull state.previousHash).toJson)
      ("existing_conditions_repair_ledger_invalid_chain_line:" ++ toString (state.index + 1))
    let actualHash ← hashExistingConditionsLedgerValue host (.ofJson (withoutMember parsed "entry_sha256"))
    require (parsed.member? "entry_sha256" = some (.str actualHash))
      ("existing_conditions_repair_ledger_hash_mismatch_line:" ++ toString (state.index + 1))
    return ⟨state.entries ++ [parsed], some actualHash, state.index + 1⟩

/-- The entries in the lines of the ledger file; a file that is missing has no lines. -/
def readExistingConditionsRepairLedger (lines : List LedgerLine) : Except String (List Json) := do
  let state ← lines.foldlM (readLine host sessionId) .start
  return state.entries

/-- What a caller hands to `appendExistingConditionsRepairLedgerEntry` beside the session. -/
structure AppendArgs where
  workflowFingerprintSha256 : String
  workflowSha256 : String
  event : ExistingConditionsStageEvent
  status : ExistingConditionsStageStatus
  acceptedProgress : Bool
  stageKey : Option String
  actionKeys : List String
  payload : Payload
  nextRepair : Option String

/-- `clean(value) || null`. -/
def cleanOrNull (value : Option String) : Option String :=
  let cleaned := text.trim (value.getD "")
  if cleaned = "" then none else some cleaned

/-- The action keys of an entry: trimmed, without blanks and repetitions. -/
def cleanActionKeys (actionKeys : List String) : List String :=
  ((actionKeys.map text.trim).filter fun key => key ≠ "").eraseDups

/-- What the event key of an entry is the hash of. -/
def eventContent (fingerprint workflow : String) (args : AppendArgs) : JsValue :=
  .obj [("workflow_fingerprint_sha256", .str fingerprint), ("workflow_sha256", .str workflow),
    ("event", .str args.event.text), ("stage_key", orNull (cleanOrNull args.stageKey)),
    ("action_keys", .arr ((cleanActionKeys args.actionKeys).map JsValue.str)), ("payload", args.payload.value)]

/-- A request that passed the checks made before the lock is taken. -/
structure PreparedAppend where
  workflowFingerprintSha256 : String
  workflowSha256 : String
  eventKey : String
  args : AppendArgs

/-- The part of an append before it opens the lock file. -/
def prepareAppend (args : AppendArgs) : Except String PreparedAppend := do
  let workflowFingerprintSha256 ← normalizeExistingConditionsLedgerSha256 host args.workflowFingerprintSha256
    "workflow_fingerprint"
  let workflowSha256 ← normalizeExistingConditionsLedgerSha256 host args.workflowSha256 "workflow"
  let eventKey ← hashExistingConditionsLedgerValue host (eventContent workflowFingerprintSha256 workflowSha256 args)
  require (text.trim sessionId ≠ "") "existing_conditions_stage_session_id_required"
  return { workflowFingerprintSha256, workflowSha256, eventKey, args }

/-- `existing.find(entry => entry.event_key === eventKey)`. -/
def duplicate? (existing : List Json) (eventKey : String) : Option Json :=
  existing.find? fun entry => entry.member? "event_key" = some (.str eventKey)

/-- `withoutHash` of the entry that is appended behind the ones that were read. -/
def draftEntry (prepared : PreparedAppend) (ts : String) (existing : List Json) : ExistingConditionsRepairLedgerEntry where
  sequence := existing.length + 1
  ts
  session_id := text.trim sessionId
  workflow_fingerprint_sha256 := prepared.workflowFingerprintSha256
  workflow_sha256 := prepared.workflowSha256
  event := prepared.args.event
  status := prepared.args.status
  accepted_progress := prepared.args.acceptedProgress
  stage_key := cleanOrNull prepared.args.stageKey
  action_keys := cleanActionKeys prepared.args.actionKeys
  event_key := prepared.eventKey
  payload := prepared.args.payload
  next_repair := cleanOrNull prepared.args.nextRepair
  previous_entry_sha256 := existing.getLast?.bind fun last => (last.field "entry_sha256").asString?
  entry_sha256 := ""

def newEntry (prepared : PreparedAppend) (ts : String) (existing : List Json) :
    Except String ExistingConditionsRepairLedgerEntry := do
  let draft := draftEntry sessionId prepared ts existing
  let entrySha256 ← hashExistingConditionsLedgerValue host draft.withoutHash
  return { draft with entry_sha256 := entrySha256 }

end store

section canonical

variable {host : LedgerHost} (read : JsValue → List Char)

theorem canonicalItems_eq_map {items : List JsValue} {texts : List (List Char)} (h : canonicalItems host items = .ok texts)
    (hread : ∀ item ∈ items, ∀ text, canonicalExistingConditionsLedgerJson host item = .ok text → text = read item) :
    texts = items.map read := by
  induction items generalizing texts with
  | nil =>
    cases h
    rfl
  | cons item rest ih =>
    obtain ⟨hitem, hrest⟩ := List.forall_mem_cons.1 hread
    simp only [canonicalItems, bind_eq_ok, pure_eq_ok] at h
    obtain ⟨first, hfirst, others, hothers, rfl⟩ := h
    rw [List.map_cons, hitem first hfirst, ih hothers hrest]

theorem canonicalMembers_eq_map {members : List (String × JsValue)} {texts : List (String × List Char)}
    (h : canonicalMembers host members = .ok texts)
    (hread : ∀ entry ∈ members, ∀ text, canonicalExistingConditionsLedgerJson host entry.2 = .ok text →
      text = read entry.2) : texts = Json.mapValues read (JsValue.definedMembers members) := by
  induction members generalizing texts with
  | nil =>
    cases h
    rfl
  | cons entry rest ih =>
    obtain ⟨hentry, hrest⟩ := List.forall_mem_cons.1 hread
    rw [canonicalMembers] at h
    cases hundefined : entry.2.isUndefined with
    | true =>
      rw [if_pos hundefined] at h
      have hskipped : JsValue.definedMembers (entry :: rest) = JsValue.definedMembers rest := by
        simp [JsValue.definedMembers, hundefined]
      rw [hskipped, ih h hrest]
    | false =>
      simp only [hundefined, Bool.false_eq_true, if_false, bind_eq_ok, pure_eq_ok] at h
      obtain ⟨first, hfirst, others, hothers, rfl⟩ := h
      have hkept : JsValue.definedMembers (entry :: rest) = entry :: JsValue.definedMembers rest := by
        simp [JsValue.definedMembers, hundefined]
      rw [hkept, hentry first hfirst, ih hothers hrest]
      rfl

theorem canonical_eq_readBack {value : JsValue} {text : List Char}
    (h : canonicalExistingConditionsLedgerJson host value = .ok text) :
    text = Json.chars host.numbers value.toJson.canonicalValue := by
  induction value using JsValue.nestedInduction generalizing text with
  | leaf value harr hobj =>
    cases value with
    | arr items => exact absurd rfl (harr items)
    | obj members => exact absurd rfl (hobj members)
    | nonFinite => cases h
    | _ => cases h; rfl
  | arr items ih =>
    simp only [canonicalExistingConditionsLedgerJson, bind_eq_ok, pure_eq_ok] at h
    obtain ⟨texts, htexts, rfl⟩ := h
    have hitems := canonicalItems_eq_map (fun item => Json.chars host.numbers item.toJson.canonicalValue) htexts
      fun item hitem text htext => ih item hitem htext
    rw [JsValue.toJson_arr, Json.canonicalValue_arr, Json.chars, itemChars_eq, hitems, List.map_map, List.map_map]
    rfl
  | obj members ih =>
    simp only [canonicalExistingConditionsLedgerJson, bind_eq_ok, pure_eq_ok] at h
    obtain ⟨texts, htexts, rfl⟩ := h
    have hmembers := canonicalMembers_eq_map (fun value => Json.chars host.numbers value.toJson.canonicalValue)
      htexts fun entry hentry text htext => ih entry hentry htext
    rw [JsValue.toJson_obj, Json.canonicalValue_obj, Json.chars, memberChars_eq, hmembers, Json.sortMembers_mapValues,
      Json.sortMembers_mapValues, Json.sortMembers_mapValues]
    simp [Json.mapValues, Function.comp_def]

private theorem canonicalItems_defined {items : List JsValue}
    (h : ∀ item ∈ items, ∃ text, canonicalExistingConditionsLedgerJson host item = .ok text) :
    ∃ texts, canonicalItems host items = .ok texts := by
  induction items with
  | nil => exact ⟨[], rfl⟩
  | cons item rest ih =>
    obtain ⟨⟨first, hfirst⟩, hrest⟩ := List.forall_mem_cons.1 h
    obtain ⟨others, hothers⟩ := ih hrest
    exact ⟨first :: others, by rw [canonicalItems, hfirst, hothers]; rfl⟩

private theorem canonicalMembers_defined {members : List (String × JsValue)}
    (h : ∀ entry ∈ members, ∃ text, canonicalExistingConditionsLedgerJson host entry.2 = .ok text) :
    ∃ texts, canonicalMembers host members = .ok texts := by
  induction members with
  | nil => exact ⟨[], rfl⟩
  | cons entry rest ih =>
    obtain ⟨⟨first, hfirst⟩, hrest⟩ := List.forall_mem_cons.1 h
    obtain ⟨others, hothers⟩ := ih hrest
    by_cases hundefined : entry.2.isUndefined = true
    · exact ⟨others, by rw [canonicalMembers, if_pos hundefined, hothers]⟩
    · exact ⟨(entry.1, first) :: others, by rw [canonicalMembers, if_neg hundefined, hfirst, hothers]; rfl⟩

theorem canonical_ofJson (json : Json) : canonicalExistingConditionsLedgerJson host (.ofJson json)
    = .ok (Json.chars host.numbers json.canonicalValue) := by
  have hdefined : ∃ text, canonicalExistingConditionsLedgerJson host (.ofJson json) = .ok text := by
    induction json using Json.nestedInduction with
    | leaf json harr hobj =>
      cases json with
      | arr items => exact absurd rfl (harr items)
      | obj members => exact absurd rfl (hobj members)
      | _ => exact ⟨_, rfl⟩
    | arr items ih =>
      have hitems : ∀ item ∈ items.map JsValue.ofJson, ∃ text, canonicalExistingConditionsLedgerJson host item = .ok text :=
        List.forall_mem_map.2 ih
      obtain ⟨texts, htexts⟩ := canonicalItems_defined hitems
      rw [JsValue.ofJson_arr, canonicalExistingConditionsLedgerJson, htexts]
      exact ⟨_, rfl⟩
    | obj members ih =>
      have hmembers : ∀ member ∈ Json.mapValues JsValue.ofJson members,
          ∃ text, canonicalExistingConditionsLedgerJson host member.2 = .ok text := List.forall_mem_map.2 ih
      obtain ⟨texts, htexts⟩ := canonicalMembers_defined hmembers
      rw [JsValue.ofJson_obj, canonicalExistingConditionsLedgerJson, htexts]
      exact ⟨_, rfl⟩
  obtain ⟨text, htext⟩ := hdefined
  rw [htext, canonical_eq_readBack htext, JsValue.toJson_ofJson]

theorem hash_reparsed {value : JsValue} (hproper : value.Proper) {hash : String}
    (h : hashExistingConditionsLedgerValue host value = .ok hash) :
    hashExistingConditionsLedgerValue host (.ofJson value.reparsed) = .ok hash := by
  simp only [hashExistingConditionsLedgerValue, bind_eq_ok, pure_eq_ok] at h ⊢
  obtain ⟨message, hmessage, rfl⟩ := h
  refine ⟨message, ?_, rfl⟩
  rw [canonical_ofJson, JsValue.reparsed, Json.canonicalValue_enumerated (JsValue.toJson_proper hproper),
    canonical_eq_readBack hmessage]

end canonical

variable {entries : List ExistingConditionsRepairLedgerEntry}

section lines

variable {host : LedgerHost} {sessionId : String}

/-- An object without `undefined` and without array indices among its keys is read back
    member by member. -/
theorem reparsed_obj {members : List (String × JsValue)}
    (hdefined : ∀ entry ∈ members, entry.2.isUndefined = false)
    (hkeys : ∀ entry ∈ members, Json.arrayIndex? entry.1 = none) :
    JsValue.reparsed (.obj members) = .obj (Json.mapValues JsValue.reparsed members) := by
  have hkept : JsValue.definedMembers members = members :=
    List.filter_eq_self.2 fun entry hentry => by rw [hdefined entry hentry]; rfl
  have hvalues : Json.mapValues Json.enumerated (Json.mapValues JsValue.toJson members)
      = Json.mapValues JsValue.reparsed members := by
    simp [Json.mapValues, JsValue.reparsed]
  rw [JsValue.reparsed, JsValue.toJson_obj, hkept, Json.enumerated_obj, hvalues, Json.enumerationOrder_of_unindexed]
  intro entry hentry
  obtain ⟨original, horiginal, rfl⟩ := List.mem_map.1 hentry
  exact hkeys original horiginal

namespace ExistingConditionsRepairLedgerEntry

variable (entry : ExistingConditionsRepairLedgerEntry)

private theorem members_defined :
    ∀ member ∈ entry.members ++ [("entry_sha256", .str entry.entry_sha256)], member.2.isUndefined = false := by
  have hnull : ∀ value : Option String, (orNull value).isUndefined = false := fun value => by cases value <;> rfl
  simp only [members, List.cons_append, List.nil_append, List.forall_mem_cons, hnull, true_and]
  exact ⟨rfl, rfl, rfl, rfl, rfl, rfl, rfl, rfl, rfl, rfl, rfl, rfl, rfl, List.forall_mem_nil _⟩

/-- The keys of an entry, its own hash last. -/
def keys : List String :=
  ["schema_version", "sequence", "ts", "session_id", "workflow_fingerprint_sha256", "workflow_sha256", "event", "status",
    "accepted_progress", "stage_key", "action_keys", "event_key", "payload", "next_repair", "previous_entry_sha256",
    "entry_sha256"]

private theorem keys_unindexed : ∀ key ∈ keys, Json.arrayIndex? key = none := by decide

theorem value_keys :
    (entry.members ++ [("entry_sha256", JsValue.str entry.entry_sha256)]).map Prod.fst = keys := rfl

theorem line_eq :
    entry.line = .obj (Json.mapValues JsValue.reparsed
      (entry.members ++ [("entry_sha256", .str entry.entry_sha256)])) := by
  refine reparsed_obj (members_defined entry) fun member hmember => keys_unindexed member.1 ?_
  rw [← value_keys entry]
  exact List.mem_map_of_mem hmember

theorem withoutMember_line : withoutMember entry.line "entry_sha256" = entry.withoutHash.reparsed := by
  have hwithout : entry.withoutHash.reparsed = .obj (Json.mapValues JsValue.reparsed entry.members) := by
    refine reparsed_obj (fun member hmember => members_defined entry member (List.mem_append_left _ hmember)) ?_
    intro member hmember
    refine keys_unindexed member.1 ?_
    rw [← value_keys entry, List.map_append]
    exact List.mem_append_left _ (List.mem_map_of_mem hmember)
  rw [hwithout, line_eq]
  rfl

theorem withoutHash_proper : entry.withoutHash.Proper := by
  have hnull : ∀ value : Option String, (orNull value).Proper := fun value => by cases value <;> exact trivial
  refine JsValue.proper_obj.2 ⟨?_, ?_⟩
  · have hall : keys.Nodup := by decide
    rw [← value_keys entry, List.map_append] at hall
    exact hall.of_append_left
  · have hactions : (JsValue.arr (entry.action_keys.map JsValue.str)).Proper :=
      JsValue.proper_arr.2 (List.forall_mem_map.2 fun _ _ => trivial)
    have htexts : ∀ value : String, (JsValue.str value).Proper := fun _ => trivial
    have hnumbers : ∀ value : ℚ, (JsValue.num value).Proper := fun _ => trivial
    have hflag : (JsValue.bool entry.accepted_progress).Proper := trivial
    simp [members, hactions, hnull, entry.payload.proper, htexts, hnumbers, hflag, Payload.value]

@[simp]
theorem line_event_key : entry.line.member? "event_key" = some (.str entry.event_key) := by
  rw [line_eq]
  rfl

theorem line_previous :
    entry.line.member? "previous_entry_sha256" = some (orNull entry.previous_entry_sha256).toJson := by
  have hnull : (orNull entry.previous_entry_sha256).reparsed = (orNull entry.previous_entry_sha256).toJson := by
    cases entry.previous_entry_sha256 <;> rfl
  rw [line_eq, ← hnull]
  rfl

@[simp]
theorem line_entry_sha256 : entry.line.member? "entry_sha256" = some (.str entry.entry_sha256) := by
  rw [line_eq]
  rfl

end ExistingConditionsRepairLedgerEntry

/-- An entry that continues the entries before it: it has the next sequence number, cites
    the last hash, stands under its own hash and is about an event of its own. -/
structure Continues (host : LedgerHost) (sessionId : String) (entries : List ExistingConditionsRepairLedgerEntry)
    (entry : ExistingConditionsRepairLedgerEntry) : Prop where
  sequence : entry.sequence = entries.length + 1
  session_id : entry.session_id = text.trim sessionId
  previous_entry_sha256 : entry.previous_entry_sha256 = entries.getLast?.map ExistingConditionsRepairLedgerEntry.entry_sha256
  entry_sha256 : hashExistingConditionsLedgerValue host entry.withoutHash = .ok entry.entry_sha256
  event_key : entry.event_key ∉ entries.map ExistingConditionsRepairLedgerEntry.event_key

/-- Entries each of which continues the ones before it. -/
def Chained (host : LedgerHost) (sessionId : String) (entries : List ExistingConditionsRepairLedgerEntry) : Prop :=
  ∀ earlier entry, earlier ++ [entry] <+: entries → Continues host sessionId earlier entry

theorem chained_nil : Chained host sessionId [] := by
  intro earlier entry hprefix
  simpa using hprefix.length_le

theorem Chained.snoc {entry : ExistingConditionsRepairLedgerEntry}
    (h : Chained host sessionId entries) (hnew : Continues host sessionId entries entry) :
    Chained host sessionId (entries ++ [entry]) := by
  intro earlier last hprefix
  rcases List.prefix_concat_iff.1 hprefix with hall | hbefore
  · obtain ⟨rfl, hlast⟩ := List.append_inj' hall rfl
    obtain rfl : last = entry := by simpa using hlast
    exact hnew
  · exact h earlier last hbefore

theorem Chained.eventKeys_nodup (h : Chained host sessionId entries) :
    (entries.map ExistingConditionsRepairLedgerEntry.event_key).Nodup := by
  induction entries using List.reverseRecOn with
  | nil => exact List.nodup_nil
  | append_singleton earlier last ih =>
    have hearlier : Chained host sessionId earlier := fun pre entry hpre =>
      h pre entry (hpre.trans (List.prefix_append _ _))
    have hlast := (h earlier last (List.prefix_refl _)).event_key
    rw [List.map_append, List.map_singleton]
    exact List.nodup_append.2 ⟨ih hearlier, List.nodup_singleton _, fun key hkey other hother => by
      obtain rfl := List.mem_singleton.1 hother
      rintro rfl
      exact hlast hkey⟩

theorem readLine_line {entry : ExistingConditionsRepairLedgerEntry}
    (h : Continues host sessionId entries entry) (index : Nat) :
    readLine host sessionId
        ⟨entries.map ExistingConditionsRepairLedgerEntry.line, entries.getLast?.map ExistingConditionsRepairLedgerEntry.entry_sha256,
          index⟩ (.parsed entry.line)
      = .ok ⟨(entries ++ [entry]).map ExistingConditionsRepairLedgerEntry.line, some entry.entry_sha256, index + 1⟩ := by
  have hhash := hash_reparsed entry.withoutHash_proper h.entry_sha256
  rw [← entry.withoutMember_line] at hhash
  have hchecks : (entry.line.field "schema_version").isNumber 1
      ∧ (entry.line.field "sequence").isNumber ((entries.map ExistingConditionsRepairLedgerEntry.line).length + 1)
      ∧ clean host (entry.line.field "session_id") = text.trim sessionId
      ∧ entry.line.member? "previous_entry_sha256"
        = some (orNull (entries.getLast?.map ExistingConditionsRepairLedgerEntry.entry_sha256)).toJson := by
    have hsequence : (entry.sequence : ℚ) = entries.length + 1 := by
      rw [h.sequence]
      push_cast
      rfl
    have hsession : text.trim entry.session_id = text.trim sessionId := by rw [h.session_id, text.trim_trim]
    rw [← h.previous_entry_sha256]
    refine ⟨?_, ?_, ?_, entry.line_previous⟩
    · rw [entry.line_eq]
      rfl
    · have hfield : entry.line.field "sequence" = .num entry.sequence := by
        rw [entry.line_eq]
        rfl
      rw [hfield, List.length_map]
      simpa [Json.isNumber] using hsequence
    · rw [entry.line_eq]
      exact hsession
  rw [readLine, require_of hchecks, ok_bind, hhash, ok_bind, require_of entry.line_entry_sha256, ok_bind]
  simp [pure, Except.pure]

theorem read_chained (h : Chained host sessionId entries) :
    readExistingConditionsRepairLedger host sessionId (entries.map fun entry => .parsed entry.line)
      = .ok (entries.map ExistingConditionsRepairLedgerEntry.line) := by
  have hstate : (entries.map fun entry => LedgerLine.parsed entry.line).foldlM (readLine host sessionId) .start
      = .ok ⟨entries.map ExistingConditionsRepairLedgerEntry.line,
          entries.getLast?.map ExistingConditionsRepairLedgerEntry.entry_sha256, entries.length⟩ := by
    induction entries using List.reverseRecOn with
    | nil => rfl
    | append_singleton earlier last ih =>
      have hearlier : Chained host sessionId earlier := fun pre entry hpre =>
        h pre entry (hpre.trans (List.prefix_append _ _))
      rw [List.map_append, List.foldlM_append, ih hearlier, ok_bind, List.map_singleton, List.foldlM_cons,
        readLine_line (h earlier last (List.prefix_refl _)), ok_bind, List.foldlM_nil]
      simp [pure, Except.pure]
  rw [readExistingConditionsRepairLedger, hstate, ok_bind]
  rfl

/-- What is appended continues the entries that were read, where none of them is about the
    same event. -/
theorem newEntry_continues {prepared : PreparedAppend} {ts : String}
    {entry : ExistingConditionsRepairLedgerEntry}
    (h : newEntry host sessionId prepared ts (entries.map ExistingConditionsRepairLedgerEntry.line) = .ok entry)
    (hnew : duplicate? (entries.map ExistingConditionsRepairLedgerEntry.line) prepared.eventKey = none) :
    Continues host sessionId entries entry := by
  simp only [newEntry, bind_eq_ok, pure_eq_ok] at h
  obtain ⟨hash, hhash, rfl⟩ := h
  refine ⟨by simp [draftEntry], rfl, ?_, hhash, ?_⟩
  · rw [draftEntry, List.getLast?_map]
    cases entries.getLast? with
    | none => rfl
    | some last =>
      have hlast : (last.line.field "entry_sha256").asString? = some last.entry_sha256 := by
        rw [Json.field, last.line_entry_sha256]
        rfl
      exact hlast
  · intro hmem
    obtain ⟨earlier, hearlier, hkey⟩ := List.mem_map.1 hmem
    have hnone := List.find?_eq_none.1 hnew earlier.line (List.mem_map_of_mem hearlier)
    simp only [draftEntry] at hkey
    rw [earlier.line_event_key, hkey] at hnone
    simp at hnone

theorem mem_of_duplicate? {existing : List Json} {eventKey : String} {entry : Json}
    (h : duplicate? existing eventKey = some entry) : entry ∈ existing :=
  List.mem_of_find?_eq_some h

/-- The entries are numbered from one, each cites the hash of the one before it, and no two
    are about the same event. -/
structure WellChained (entries : List Json) : Prop where
  sequence : ∀ (i : Nat) (entry : Json), entries[i]? = some entry → entry.member? "sequence" = some (.num (i + 1))
  first : ∀ entry : Json, entries[0]? = some entry → entry.member? "previous_entry_sha256" = some .null
  cites : ∀ (i : Nat) (entry next : Json), entries[i]? = some entry → entries[i + 1]? = some next →
    next.member? "previous_entry_sha256" = entry.member? "entry_sha256"
  distinct : (entries.map fun entry => entry.member? "event_key").Nodup

theorem Chained.continues (h : Chained host sessionId entries)
    {i : Nat} {entry : ExistingConditionsRepairLedgerEntry} (hentry : entries[i]? = some entry) :
    Continues host sessionId (entries.take i) entry := by
  refine h (entries.take i) entry ?_
  have hlast : entries.take i ++ [entry] = entries.take (i + 1) := by
    rw [List.take_add_one, hentry]
    rfl
  rw [hlast]
  exact List.take_prefix _ _

theorem Chained.wellChained (h : Chained host sessionId entries) :
    WellChained (entries.map ExistingConditionsRepairLedgerEntry.line) where
  sequence := by
    intro i value hvalue
    rw [List.getElem?_map, Option.map_eq_some_iff] at hvalue
    obtain ⟨entry, hentry, rfl⟩ := hvalue
    obtain ⟨hshort, -⟩ := List.getElem?_eq_some_iff.1 hentry
    have hsequence := (h.continues hentry).sequence
    rw [List.length_take, min_eq_left hshort.le] at hsequence
    have hmember : entry.line.member? "sequence" = some (.num entry.sequence) := by
      rw [entry.line_eq]
      rfl
    rw [hmember, hsequence]
    push_cast
    rfl
  first := by
    intro value hvalue
    rw [List.getElem?_map, Option.map_eq_some_iff] at hvalue
    obtain ⟨entry, hentry, rfl⟩ := hvalue
    have hprevious := (h.continues hentry).previous_entry_sha256
    rw [List.take_zero, List.getLast?_nil, Option.map_none] at hprevious
    rw [entry.line_previous, hprevious]
    rfl
  cites := by
    intro i value next hvalue hnext
    rw [List.getElem?_map, Option.map_eq_some_iff] at hvalue hnext
    obtain ⟨entry, hentry, rfl⟩ := hvalue
    obtain ⟨later, hlater, rfl⟩ := hnext
    have hprevious := (h.continues hlater).previous_entry_sha256
    have hlast : (entries.take (i + 1)).getLast? = some entry := by
      rw [List.take_add_one, hentry]
      simp
    rw [hlast, Option.map_some] at hprevious
    rw [later.line_previous, hprevious, entry.line_entry_sha256]
    rfl
  distinct := by
    have hkeys : (entries.map ExistingConditionsRepairLedgerEntry.line).map (fun entry => entry.member? "event_key")
        = (entries.map ExistingConditionsRepairLedgerEntry.event_key).map fun key => some (Json.str key) := by
      simp [Function.comp_def]
    rw [hkeys]
    refine h.eventKeys_nodup.map fun first second hsame => ?_
    simpa using hsame

private theorem members_canonical {entry : ExistingConditionsRepairLedgerEntry}
    (hpayload : ∃ text, canonicalExistingConditionsLedgerJson host entry.payload.value = .ok text) :
    ∀ member ∈ entry.members, ∃ text, canonicalExistingConditionsLedgerJson host member.2 = .ok text := by
  have hnull : ∀ value : Option String, ∃ text, canonicalExistingConditionsLedgerJson host (orNull value) = .ok text :=
    fun value => by cases value <;> exact ⟨_, rfl⟩
  have hkeys : ∃ text, canonicalExistingConditionsLedgerJson host (.arr (entry.action_keys.map JsValue.str)) = .ok text := by
    have hitems : ∀ item ∈ entry.action_keys.map JsValue.str,
        ∃ text, canonicalExistingConditionsLedgerJson host item = .ok text := List.forall_mem_map.2 fun _ _ => ⟨_, rfl⟩
    obtain ⟨texts, htexts⟩ := canonicalItems_defined hitems
    rw [canonicalExistingConditionsLedgerJson, htexts]
    exact ⟨_, rfl⟩
  simp only [ExistingConditionsRepairLedgerEntry.members, List.forall_mem_cons, hnull, hkeys, hpayload, true_and]
  exact ⟨⟨_, rfl⟩, ⟨_, rfl⟩, ⟨_, rfl⟩, ⟨_, rfl⟩, ⟨_, rfl⟩, ⟨_, rfl⟩, ⟨_, rfl⟩, ⟨_, rfl⟩, ⟨_, rfl⟩, ⟨_, rfl⟩,
    List.forall_mem_nil _⟩

theorem newEntry_defined (sessionId : String) {prepared : PreparedAppend}
    (hpayload : ∃ text, canonicalExistingConditionsLedgerJson host prepared.args.payload.value = .ok text) (ts : String)
    (existing : List Json) : ∃ entry, newEntry host sessionId prepared ts existing = .ok entry := by
  simp only [newEntry, bind_eq_ok, pure_eq_ok, hashExistingConditionsLedgerValue,
    ExistingConditionsRepairLedgerEntry.withoutHash, canonicalExistingConditionsLedgerJson]
  have hdraft : ∃ text, canonicalExistingConditionsLedgerJson host
      (draftEntry sessionId prepared ts existing).payload.value = .ok text := hpayload
  obtain ⟨texts, htexts⟩ := canonicalMembers_defined (members_canonical hdraft)
  exact ⟨_, _, ⟨_, ⟨texts, htexts, rfl⟩, rfl⟩, rfl⟩

theorem lower_plain (host : LedgerHost) {value : String}
    (h : ∀ c ∈ value.toList, c.toNat < 128 ∧ c.toLower = c) : host.toLowerCase value = value := by
  rw [host.lower_ascii value fun c hc => (h c hc).1, List.map_congr_left fun c hc => (h c hc).2, List.map_id',
    String.ofList_toList]

/-- The digest of zeros. -/
def zeroSha256 : String := "0000000000000000000000000000000000000000000000000000000000000000"

theorem zeroSha256_toList : zeroSha256.toList = List.replicate 64 '0' := by decide +kernel

theorem normalize_zeroSha256 (host : LedgerHost) (field : String) :
    normalizeExistingConditionsLedgerSha256 host zeroSha256 field = .ok zeroSha256 := by
  have htrim : text.trim zeroSha256 = zeroSha256 := by
    refine String.toList_injective ?_
    rw [text.toList_trim, zeroSha256_toList]
    decide +kernel
  have hplain : ∀ c ∈ zeroSha256.toList, c.toNat < 128 ∧ c.toLower = c := by
    intro c hc
    rw [zeroSha256_toList] at hc
    obtain rfl := List.eq_of_mem_replicate hc
    decide
  have hhex : text.isHexText 64 zeroSha256 = true := by
    rw [text.isHexText, zeroSha256_toList]
    decide +kernel
  rw [normalizeExistingConditionsLedgerSha256, htrim, lower_plain host hplain]
  simp only [require_of hhex, ok_bind]
  rfl

def plainArgs : AppendArgs :=
  { workflowFingerprintSha256 := zeroSha256
    workflowSha256 := zeroSha256
    event := .workflow_registered
    status := .provisional
    acceptedProgress := true
    stageKey := none
    actionKeys := []
    payload := .empty
    nextRepair := none }

theorem prepareAppend_plainArgs (host : LedgerHost) (hsession : text.trim sessionId ≠ "") :
    ∃ prepared, prepareAppend host sessionId plainArgs = .ok prepared ∧ prepared.args = plainArgs := by
  obtain ⟨eventKey, hkey⟩ : ∃ eventKey,
      hashExistingConditionsLedgerValue host (eventContent zeroSha256 zeroSha256 plainArgs) = .ok eventKey := ⟨_, rfl⟩
  refine ⟨⟨zeroSha256, zeroSha256, eventKey, plainArgs⟩, ?_, rfl⟩
  have hfirst : plainArgs.workflowFingerprintSha256 = zeroSha256 := rfl
  have hsecond : plainArgs.workflowSha256 = zeroSha256 := rfl
  simp only [prepareAppend, hfirst, hsecond, normalize_zeroSha256, ok_bind, hkey, require_of hsession]
  rfl

end lines

end revit_operator.existing_conditions
