import RevitOperator.Library.JsonCanonical

namespace revit_operator.contracts

def PAYLOAD_DIGEST_ALGORITHM_V2 : String := "sha256"

def PAYLOAD_CANONICALIZATION_VERSION_V2 : String := "revit-operator.canonical-json.utf8-ordinal.v2"

/-- The digest of one representation of a payload. -/
structure RepresentationDigestV2 where
  algorithm : String
  representation : String
  canonicalization_version : Option String
  digest : String
  byte_count : Nat
deriving DecidableEq

section digest

variable (numbers : Json.NumberText) (sha256 : ByteArray → String)

/-- The canonical text of a payload: its members sorted into an ordinary
    JavaScript object, which `JSON.stringify` then enumerates. -/
def canonicalPayloadJsonV2 (value : Json) : String := Json.stringify numbers value.canonicalValue

def canonicalPayloadBytesV2 (value : Json) : ByteArray := (canonicalPayloadJsonV2 numbers value).toUTF8

def payloadRepresentationDigestV2 (bytes : ByteArray) (representation : String)
    (canonicalizationVersion : Option String) : Except String RepresentationDigestV2 :=
  if representation = "" then .error "payload_digest_v2_representation_required"
  else .ok
    { algorithm := PAYLOAD_DIGEST_ALGORITHM_V2
      representation
      canonicalization_version := canonicalizationVersion
      digest := sha256 bytes
      byte_count := bytes.size }

def payloadDigestV2 (value : Json) : Except String RepresentationDigestV2 :=
  payloadRepresentationDigestV2 sha256 (canonicalPayloadBytesV2 numbers value) "canonical_json"
    (some PAYLOAD_CANONICALIZATION_VERSION_V2)

end digest

namespace completion_outbox

mutual
/-- The canonical text of the completion outbox, which joins the sorted members
    itself. -/
def canonical (numbers : Json.NumberText) : Json → String
  | .arr items => "[" ++ text.joinWith "," (canonicalItems numbers items) ++ "]"
  | .obj members => "\x7b" ++ text.joinWith "," ((Json.sortMembers (canonicalMembers numbers members)).map
      fun entry => .ofList (Json.quote entry.1) ++ ":" ++ entry.2) ++ "\x7d"
  | value => Json.stringify numbers value

def canonicalItems (numbers : Json.NumberText) : List Json → List String
  | [] => []
  | item :: rest => canonical numbers item :: canonicalItems numbers rest

def canonicalMembers (numbers : Json.NumberText) : List (String × Json) → List (String × String)
  | [] => []
  | (key, value) :: rest => (key, canonical numbers value) :: canonicalMembers numbers rest
end

end completion_outbox

section canonical

variable {numbers : Json.NumberText} {a b value : Json}

theorem canonicalPayloadJsonV2_eq (numbers : Json.NumberText) (value : Json) :
    canonicalPayloadJsonV2 numbers value = .ofList (Json.chars numbers value.normal) :=
  rfl

/-- Canonical texts agree exactly when the payloads are equal up to the order of
    members. -/
theorem canonicalPayloadJsonV2_eq_iff (ha : a.Proper) (hb : b.Proper) :
    canonicalPayloadJsonV2 numbers a = canonicalPayloadJsonV2 numbers b ↔ a.Same b := by
  rw [Json.same_iff_normal ha hb, canonicalPayloadJsonV2_eq, canonicalPayloadJsonV2_eq, String.ofList_inj,
    (Json.chars_injective numbers).eq_iff]

theorem payloadDigestV2_eq_iff {sha256 : ByteArray → String} (hsha : Function.Injective sha256) :
    payloadDigestV2 numbers sha256 a = payloadDigestV2 numbers sha256 b
      ↔ canonicalPayloadJsonV2 numbers a = canonicalPayloadJsonV2 numbers b := by
  constructor
  · intro h
    simp only [payloadDigestV2, payloadRepresentationDigestV2, String.reduceEq, if_false, Except.ok.injEq,
      RepresentationDigestV2.mk.injEq] at h
    exact String.toByteArray_inj.1 (hsha h.2.2.2.1)
  · intro h
    rw [payloadDigestV2, payloadDigestV2, canonicalPayloadBytesV2, canonicalPayloadBytesV2, h]

/-- For every two payloads the canonical texts, and with a collision-free hash
    the digests, agree exactly when the payloads are equal as JSON values whose
    objects are finite maps. -/
theorem canonical_payload_identity (numbers : Json.NumberText) {a b : Json} (ha : a.Proper) (hb : b.Proper) :
    (canonicalPayloadJsonV2 numbers a = canonicalPayloadJsonV2 numbers b ↔ a.Same b)
      ∧ ∀ sha256, Function.Injective sha256 →
        (payloadDigestV2 numbers sha256 a = payloadDigestV2 numbers sha256 b ↔ a.Same b) :=
  ⟨canonicalPayloadJsonV2_eq_iff ha hb,
    fun _ hsha => (payloadDigestV2_eq_iff hsha).trans (canonicalPayloadJsonV2_eq_iff ha hb)⟩

/-- The members of one payload in two orders, with an array index among
    them. -/
theorem canonical_payload_identity_on_reordered :
    canonicalPayloadJsonV2 Json.integerText (.obj [("b", .num 1), ("10", .arr [.null])])
      = canonicalPayloadJsonV2 Json.integerText (.obj [("10", .arr [.null]), ("b", .num 1)]) := by
  refine (canonical_payload_identity Json.integerText ?_ ?_).1.2 ?_
  · simp [Json.Proper, Json.EveryObject, Json.EveryMember, Json.EveryItem]
  · simp [Json.Proper, Json.EveryObject, Json.EveryMember, Json.EveryItem]
  · exact ⟨rfl, ⟨.num 1, by simp, rfl⟩, ⟨.arr [.null], by simp, trivial, trivial⟩, trivial⟩

end canonical

section order

variable {numbers : Json.NumberText}

private theorem joinWith_cons (separator first second : String) (rest : List String) :
    text.joinWith separator (first :: second :: rest)
      = first ++ separator ++ text.joinWith separator (second :: rest) :=
  rfl

private theorem joinWith_items (items : List Json) :
    text.joinWith "," (items.map fun item => .ofList (Json.chars numbers item))
      = .ofList (Json.itemChars numbers items) := by
  induction items with
  | nil => rfl
  | cons item rest ih =>
    cases rest with
    | nil => rfl
    | cons next rest =>
      simp only [List.map_cons] at ih ⊢
      rw [joinWith_cons, ih, Json.itemChars_cons_cons]
      simp [String.ext_iff]

private theorem joinWith_members (members : List (String × Json)) :
    text.joinWith "," (members.map fun entry =>
        .ofList (Json.quote entry.1) ++ ":" ++ .ofList (Json.chars numbers entry.2))
      = .ofList (Json.memberChars numbers members) := by
  induction members with
  | nil => rfl
  | cons entry rest ih =>
    obtain ⟨key, value⟩ := entry
    cases rest with
    | nil => simp [text.joinWith, Json.memberChars, String.ext_iff]
    | cons next rest =>
      simp only [List.map_cons] at ih ⊢
      rw [joinWith_cons, ih, Json.memberChars_cons_cons]
      simp [String.ext_iff]

private theorem outbox_canonicalItems (items : List Json) :
    completion_outbox.canonicalItems numbers items = items.map (completion_outbox.canonical numbers) := by
  induction items with
  | nil => rfl
  | cons item rest ih => simp [completion_outbox.canonicalItems, ih]

private theorem outbox_canonicalMembers (members : List (String × Json)) :
    completion_outbox.canonicalMembers numbers members
      = Json.mapValues (completion_outbox.canonical numbers) members := by
  induction members with
  | nil => rfl
  | cons entry rest ih => simpa [completion_outbox.canonicalMembers, Json.mapValues] using ih

theorem completion_outbox.canonical_eq (value : Json) :
    completion_outbox.canonical numbers value = .ofList (Json.chars numbers value.canonicalValue) := by
  induction value using Json.nestedInduction with
  | leaf value harr hobj =>
    cases value with
    | arr items => exact absurd rfl (harr items)
    | obj members => exact absurd rfl (hobj members)
    | _ => rfl
  | arr items ih =>
    have hitems : items.map (completion_outbox.canonical numbers)
        = (items.map Json.canonicalValue).map fun item => .ofList (Json.chars numbers item) := by
      rw [List.map_map]
      exact List.map_congr_left fun item hitem => ih item hitem
    rw [completion_outbox.canonical, outbox_canonicalItems, hitems, joinWith_items, Json.canonicalValue_arr,
      Json.chars]
    simp [String.ext_iff]
  | obj members ih =>
    have hmembers : Json.mapValues (completion_outbox.canonical numbers) members
        = Json.mapValues (fun value => .ofList (Json.chars numbers value))
          (Json.mapValues Json.canonicalValue members) := by
      simp only [Json.mapValues, List.map_map]
      exact List.map_congr_left fun entry hentry => by simp [ih entry hentry]
    have hentries : ∀ sorted : List (String × Json),
        (Json.mapValues (fun value => String.ofList (Json.chars numbers value)) sorted).map
            (fun entry => String.ofList (Json.quote entry.1) ++ ":" ++ entry.2)
          = sorted.map fun entry =>
            String.ofList (Json.quote entry.1) ++ ":" ++ String.ofList (Json.chars numbers entry.2) := by
      simp [Json.mapValues]
    rw [completion_outbox.canonical, outbox_canonicalMembers, hmembers, Json.sortMembers_mapValues, hentries,
      joinWith_members, Json.canonicalValue_obj, Json.chars]
    simp [String.ext_iff]

/-- A canonical text lists the members of every object in ordinal order, and
    equals the text of an implementation that sorts and writes them itself,
    exactly when no object has a key that precedes an array index of it without
    being a smaller one. -/
theorem canonical_key_order_iff (numbers : Json.NumberText) {value : Json} (hvalue : value.Proper) :
    ((∃ written : Json, canonicalPayloadJsonV2 numbers value = .ofList (written.chars numbers) ∧ written.Ordinal)
        ↔ value.EveryObject Json.IndicesLead)
      ∧ (canonicalPayloadJsonV2 numbers value = completion_outbox.canonical numbers value
        ↔ value.EveryObject Json.IndicesLead) := by
  constructor
  · rw [← Json.normal_ordinal_iff hvalue]
    constructor
    · rintro ⟨written, htext, hordinal⟩
      rw [canonicalPayloadJsonV2_eq, String.ofList_inj] at htext
      rwa [Json.chars_injective numbers htext]
    · exact fun hordinal => ⟨value.normal, canonicalPayloadJsonV2_eq numbers value, hordinal⟩
  · rw [completion_outbox.canonical_eq, canonicalPayloadJsonV2_eq, String.ofList_inj,
      (Json.chars_injective numbers).eq_iff, Json.normal_eq_canonicalValue_iff hvalue]

/-- The key "10" comes first in ordinal order, and "9" is written first. -/
theorem array_indices_out_of_order :
    (Json.obj [("10", .num 1), ("9", .num 2)]).Proper
      ∧ ¬ ∃ written : Json, canonicalPayloadJsonV2 Json.integerText (.obj [("10", .num 1), ("9", .num 2)])
        = .ofList (written.chars Json.integerText) ∧ written.Ordinal := by
  constructor
  · simp [Json.Proper, Json.EveryObject, Json.EveryMember]
  · rintro ⟨written, htext, hordinal⟩
    rw [canonicalPayloadJsonV2_eq, String.ofList_inj] at htext
    have hwritten : (Json.obj [("10", .num 1), ("9", .num 2)]).normal = .obj [("9", .num 2), ("10", .num 1)] := by
      decide
    rw [← Json.chars_injective _ htext, hwritten] at hordinal
    have hkeys := (Json.everyObject_obj.1 hordinal).1
    have hlt : Json.OrdinalLt "9" "10" := by simpa using hkeys
    have hle := hlt.1
    revert hle
    decide

theorem canonical_key_order_on_letters :
    canonicalPayloadJsonV2 Json.integerText (.obj [("b", .num 1), ("7", .num 2), ("a", .obj [("10", .null)])])
      = completion_outbox.canonical Json.integerText (.obj [("b", .num 1), ("7", .num 2), ("a", .obj [("10", .null)])]) := by
  refine (canonical_key_order_iff Json.integerText ?_).2.2 ?_
  · simp [Json.Proper, Json.EveryObject, Json.EveryMember]
  · have hindices : ∀ key ∈ ["b", "7", "a"], Json.arrayIndex? key ≠ none → key = "7" := by decide
    have hfirst : ∀ key ∈ ["b", "7", "a"], text.ordinalLe key "7" = true → key = "7" := by decide
    refine ⟨?_, trivial, trivial, ⟨?_, trivial, trivial⟩, trivial⟩
    · intro key hkey other hother index hindex hlt
      obtain rfl := hindices key hkey (by rw [hindex]; exact Option.some_ne_none index)
      exact absurd (hfirst other hother hlt.1) hlt.2
    · intro key hkey other hother index _ hlt
      obtain rfl := List.mem_singleton.1 hkey
      obtain rfl := List.mem_singleton.1 hother
      exact absurd rfl hlt.2

end order

end revit_operator.contracts
