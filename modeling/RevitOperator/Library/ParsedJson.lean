import RevitOperator.Library.JsValue

/-! Values as `JSON.parse` returns them: no object has a key twice, and the members stand in
    the order in which they are enumerated. -/

/-- A value that was parsed. -/
structure ParsedJson where
  value : Json
  proper : value.Proper
  enumerated : value.enumerated = value

namespace ParsedJson

/-- The member under a key of an object, `null` when it is missing. -/
def field (parsed : ParsedJson) (key : String) : ParsedJson where
  value := parsed.value.field key
  proper := parsed.proper.field key
  enumerated := by
    rw [← Json.field_enumerated parsed.proper.keysDistinct, parsed.enumerated]

/-- A value in memory that is written and parsed again. -/
def reparsed (value : JsValue) (h : value.Proper) : ParsedJson where
  value := value.reparsed
  proper := JsValue.reparsed_proper h
  enumerated := JsValue.enumerated_reparsed value

def ofString (value : String) : ParsedJson := ⟨.str value, trivial, rfl⟩

def ofBool (value : Bool) : ParsedJson := ⟨.bool value, trivial, rfl⟩

def ofNumber (value : ℚ) : ParsedJson := ⟨.num value, trivial, rfl⟩

/-- Keys of an object literal: none twice and none an array index. -/
def Plain (keys : List String) : Prop := keys.Nodup ∧ ∀ key ∈ keys, Json.arrayIndex? key = none

instance (keys : List String) : Decidable (Plain keys) := inferInstanceAs (Decidable (_ ∧ _))

/-- An object with parsed members under plain keys. -/
def ofMembers (members : List (String × ParsedJson)) (h : Plain (members.map Prod.fst)) : ParsedJson where
  value := .obj (Json.mapValues value members)
  proper := by
    refine Json.everyObject_obj.2 ⟨?_, ?_⟩
    · rw [Json.keys_mapValues]
      exact h.1
    · intro entry hentry
      obtain ⟨original, -, rfl⟩ := List.mem_map.1 hentry
      exact original.2.proper
  enumerated := by
    have hvalues : Json.mapValues Json.enumerated (Json.mapValues value members) = Json.mapValues value members := by
      simp [Json.mapValues, ParsedJson.enumerated]
    rw [Json.enumerated_obj, hvalues, Json.enumerationOrder_of_unindexed]
    intro entry hentry
    obtain ⟨original, horiginal, rfl⟩ := List.mem_map.1 hentry
    exact h.2 original.1 (List.mem_map_of_mem horiginal)

theorem filter_proper {members : List (String × Json)} (h : (Json.obj members).Proper) (p : String × Json → Bool) :
    (Json.obj (members.filter p)).Proper := by
  obtain ⟨hkeys, hvalues⟩ := Json.everyObject_obj.1 h
  exact Json.everyObject_obj.2 ⟨hkeys.sublist (List.filter_sublist.map _), fun entry hentry =>
    hvalues entry (List.mem_filter.1 hentry).1⟩

private theorem obj_members {value : Json} (h : value.Proper) : (Json.obj value.members).Proper := by
  cases value with
  | obj members => exact h
  | _ => exact Json.everyObject_obj.2 ⟨List.nodup_nil, List.forall_mem_nil _⟩

/-- The object without one of its members. -/
def without (parsed : ParsedJson) (key : String) : ParsedJson :=
  .reparsed (.ofJson (.obj (parsed.value.members.filter fun entry => entry.1 ≠ key)))
    (JsValue.ofJson_proper (filter_proper (obj_members parsed.proper) _))

end ParsedJson
