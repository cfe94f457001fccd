import RevitOperator.Library.JsonWire

/-! JavaScript values in memory, as far as JSON can write them: beyond the JSON
    values there is `undefined`, and there are numbers that are not finite. -/

/-- A value in memory. `undefined` stands for every value `JSON.stringify` has no
    text for. -/
inductive JsValue where
  | undefined
  | null
  | bool (value : Bool)
  | num (value : ℚ)
  | nonFinite
  | str (value : String)
  | arr (items : List JsValue)
  | obj (members : List (String × JsValue))
deriving Inhabited

namespace JsValue

section induction

variable {motive : JsValue → Prop} (leaf : ∀ value, (∀ items, value ≠ .arr items) →
    (∀ members, value ≠ .obj members) → motive value)
  (arr : ∀ items, (∀ item ∈ items, motive item) → motive (.arr items))
  (obj : ∀ members, (∀ entry ∈ members, motive entry.2) → motive (.obj members))

include leaf arr obj

set_option linter.unusedSectionVars false

mutual
theorem nestedInduction : ∀ value, motive value
  | .undefined => leaf _ (by simp) (by simp)
  | .null => leaf _ (by simp) (by simp)
  | .bool _ => leaf _ (by simp) (by simp)
  | .num _ => leaf _ (by simp) (by simp)
  | .nonFinite => leaf _ (by simp) (by simp)
  | .str _ => leaf _ (by simp) (by simp)
  | .arr items => arr items (itemsInduction items)
  | .obj members => obj members (membersInduction members)

private theorem itemsInduction : ∀ (items : List JsValue), ∀ item ∈ items, motive item
  | [] => List.forall_mem_nil _
  | item :: rest => List.forall_mem_cons.2 ⟨nestedInduction item, itemsInduction rest⟩

private theorem membersInduction : ∀ (members : List (String × JsValue)), ∀ entry ∈ members, motive entry.2
  | [] => List.forall_mem_nil _
  | (_, value) :: rest => List.forall_mem_cons.2 ⟨nestedInduction value, membersInduction rest⟩
end

end induction

def isUndefined : JsValue → Bool
  | .undefined => true
  | _ => false

/-- The property `value?.key`. -/
def field (value : JsValue) (key : String) : JsValue :=
  match value with
  | .obj members => ((members.find? fun entry => entry.1 = key).map Prod.snd).getD .undefined
  | _ => .undefined

def asString? : JsValue → Option String
  | .str value => some value
  | _ => none

mutual
/-- What `JSON.parse(JSON.stringify(value))` reads, up to the order of members:
    `null` for a number that is not finite and for `undefined` in an array, and
    nothing for a member that is `undefined`. -/
def toJson : JsValue → Json
  | .undefined => .null
  | .null => .null
  | .bool value => .bool value
  | .num value => .num value
  | .nonFinite => .null
  | .str value => .str value
  | .arr items => .arr (jsonItems items)
  | .obj members => .obj (jsonMembers members)

def jsonItems : List JsValue → List Json
  | [] => []
  | item :: rest => toJson item :: jsonItems rest

def jsonMembers : List (String × JsValue) → List (String × Json)
  | [] => []
  | (key, value) :: rest => if value.isUndefined then jsonMembers rest else (key, toJson value) :: jsonMembers rest
end

/-- The JSON value of a member, unless it is left out. -/
def toJson? (value : JsValue) : Option Json := if value.isUndefined then none else some value.toJson

/-- `JSON.parse(JSON.stringify(value))` of a value that has a text. -/
def reparsed (value : JsValue) : Json := value.toJson.enumerated

mutual
/-- A JSON value in memory. -/
def ofJson : Json → JsValue
  | .null => .null
  | .bool value => .bool value
  | .num value => .num value
  | .str value => .str value
  | .arr items => .arr (ofItems items)
  | .obj members => .obj (ofMembers members)

def ofItems : List Json → List JsValue
  | [] => []
  | item :: rest => ofJson item :: ofItems rest

def ofMembers : List (String × Json) → List (String × JsValue)
  | [] => []
  | (key, value) :: rest => (key, ofJson value) :: ofMembers rest
end

mutual
/-- The property holds of the keys of every object of the value, and no value in
    it fails the other one. -/
def Everywhere (keys : List String → Prop) (value : JsValue → Prop) : JsValue → Prop
  | .arr items => value (.arr items) ∧ EveryItem keys value items
  | .obj members => value (.obj members) ∧ keys (members.map Prod.fst) ∧ EveryMember keys value members
  | other => value other

def EveryItem (keys : List String → Prop) (value : JsValue → Prop) : List JsValue → Prop
  | [] => True
  | item :: rest => Everywhere keys value item ∧ EveryItem keys value rest

def EveryMember (keys : List String → Prop) (value : JsValue → Prop) : List (String × JsValue) → Prop
  | [] => True
  | (_, item) :: rest => Everywhere keys value item ∧ EveryMember keys value rest
end

/-- No object of the value has two members under one key. -/
def Proper (value : JsValue) : Prop := Everywhere List.Nodup (fun _ => True) value

/-- Nothing in the value is `undefined`. -/
def Defined (value : JsValue) : Prop := Everywhere (fun _ => True) (fun inner => inner ≠ .undefined) value

section properties

variable {keys : List String → Prop} {P : JsValue → Prop} {items : List JsValue} {members : List (String × JsValue)}

private theorem everyItem_iff : EveryItem keys P items ↔ ∀ item ∈ items, Everywhere keys P item := by
  induction items with
  | nil => simp [EveryItem]
  | cons item rest ih => simp [EveryItem, ih]

private theorem everyMember_iff : EveryMember keys P members ↔ ∀ entry ∈ members, Everywhere keys P entry.2 := by
  induction members with
  | nil => simp [EveryMember]
  | cons entry rest ih => simp [EveryMember, ih]

theorem proper_arr : Proper (.arr items) ↔ ∀ item ∈ items, item.Proper := by
  rw [Proper, Everywhere, everyItem_iff]
  exact and_iff_right trivial

theorem proper_obj : Proper (.obj members) ↔ (members.map Prod.fst).Nodup ∧ ∀ entry ∈ members, entry.2.Proper := by
  rw [Proper, Everywhere, everyMember_iff]
  exact and_iff_right trivial

theorem defined_arr : Defined (.arr items) ↔ ∀ item ∈ items, item.Defined := by
  rw [Defined, Everywhere, everyItem_iff]
  exact and_iff_right (by simp)

theorem defined_obj : Defined (.obj members) ↔ ∀ entry ∈ members, entry.2.Defined := by
  rw [Defined, Everywhere, everyMember_iff]
  simp only [true_and]
  exact and_iff_right (by simp)

theorem not_defined_undefined : ¬ Defined .undefined := fun h => h rfl

end properties

section json

variable {value : JsValue}

theorem isUndefined_iff : value.isUndefined = true ↔ value = .undefined := by
  cases value <;> simp [isUndefined]

theorem toJson_arr (items : List JsValue) : toJson (.arr items) = .arr (items.map toJson) := by
  have hitems : jsonItems items = items.map toJson := by
    induction items with
    | nil => rfl
    | cons item rest ih => simp [jsonItems, ih]
  rw [toJson, hitems]

/-- The members that are defined. -/
def definedMembers (members : List (String × JsValue)) : List (String × JsValue) :=
  members.filter fun entry => !entry.2.isUndefined

theorem toJson_obj (members : List (String × JsValue)) :
    toJson (.obj members) = .obj (Json.mapValues toJson (definedMembers members)) := by
  have hmembers : jsonMembers members = Json.mapValues toJson (definedMembers members) := by
    induction members with
    | nil => rfl
    | cons entry rest ih =>
      cases hundefined : entry.2.isUndefined <;>
        simp [jsonMembers, definedMembers, Json.mapValues, hundefined] at ih ⊢ <;> exact ih
  rw [toJson, hmembers]

theorem toJson_proper (h : value.Proper) : value.toJson.Proper := by
  induction value using nestedInduction with
  | leaf value harr hobj =>
    cases value with
    | arr items => exact absurd rfl (harr items)
    | obj members => exact absurd rfl (hobj members)
    | _ => exact trivial
  | arr items ih =>
    rw [toJson_arr, Json.Proper, Json.everyObject_arr, List.forall_mem_map]
    exact fun item hitem => ih item hitem (proper_arr.1 h item hitem)
  | obj members ih =>
    obtain ⟨hkeys, hvalues⟩ := proper_obj.1 h
    rw [toJson_obj, Json.Proper, Json.everyObject_obj]
    constructor
    · have hsub : ((definedMembers members).map Prod.fst).Sublist (members.map Prod.fst) :=
        List.filter_sublist.map _
      simpa [Json.mapValues, Function.comp_def] using hsub.nodup hkeys
    · intro entry hentry
      obtain ⟨original, horiginal, rfl⟩ := List.mem_map.1 hentry
      have hmem := (List.mem_filter.1 horiginal).1
      exact ih original hmem (hvalues original hmem)

theorem ofJson_arr (items : List Json) : ofJson (.arr items) = .arr (items.map ofJson) := by
  have hitems : ofItems items = items.map ofJson := by
    induction items with
    | nil => rfl
    | cons item rest ih => simp [ofItems, ih]
  rw [ofJson, hitems]

theorem ofJson_obj (members : List (String × Json)) : ofJson (.obj members) = .obj (Json.mapValues ofJson members) := by
  have hmembers : ofMembers members = Json.mapValues ofJson members := by
    induction members with
    | nil => rfl
    | cons entry rest ih => simpa [ofMembers, Json.mapValues] using ih
  rw [ofJson, hmembers]

@[simp]
theorem isUndefined_ofJson (json : Json) : (ofJson json).isUndefined = false := by
  cases json <;> rfl

@[simp]
theorem toJson_ofJson (json : Json) : (ofJson json).toJson = json := by
  induction json using Json.nestedInduction with
  | leaf json harr hobj =>
    cases json with
    | arr items => exact absurd rfl (harr items)
    | obj members => exact absurd rfl (hobj members)
    | _ => rfl
  | arr items ih =>
    rw [ofJson_arr, toJson_arr, List.map_map]
    congr 1
    exact (List.map_congr_left ih).trans (List.map_id' items)
  | obj members ih =>
    have hdefined : definedMembers (Json.mapValues ofJson members) = Json.mapValues ofJson members :=
      List.filter_eq_self.2 fun entry hentry => by
        obtain ⟨original, -, rfl⟩ := List.mem_map.1 hentry
        simp
    have hmembers : Json.mapValues toJson (Json.mapValues ofJson members) = members := by
      have hback : members.map (fun entry => (entry.1, (ofJson entry.2).toJson)) = members.map id :=
        List.map_congr_left fun entry hentry => Prod.ext rfl (ih entry hentry)
      simpa [Json.mapValues, Function.comp_def] using hback
    rw [ofJson_obj, toJson_obj, hdefined, hmembers]

theorem member?_toJson (h : value.Proper) (key : String) :
    value.toJson.member? key = (value.field key).toJson? := by
  cases value with
  | obj members =>
    obtain ⟨hkeys, -⟩ := proper_obj.1 h
    rw [toJson_obj]
    simp only [Json.member?, Json.members, field]
    induction members with
    | nil => rfl
    | cons entry rest ih =>
      obtain ⟨hnew, hrest⟩ := List.nodup_cons.1 hkeys
      have hproper : Proper (.obj rest) :=
        proper_obj.2 ⟨hrest, fun other hother => (proper_obj.1 h).2 other (List.mem_cons_of_mem _ hother)⟩
      have hothers := ih hproper hrest
      by_cases hkey : entry.1 = key
      · cases hundefined : entry.2.isUndefined with
        | false => simp [definedMembers, Json.mapValues, hundefined, hkey, toJson?]
        | true =>
          have hnone : ∀ other ∈ rest, other.1 ≠ key := fun other hother hsame =>
            hnew (List.mem_map.2 ⟨other, hother, hsame.trans hkey.symm⟩)
          have hmissing : (Json.mapValues toJson (definedMembers rest)).find? (fun entry => entry.1 = key) = none := by
            refine List.find?_eq_none.2 fun entry hentry => ?_
            obtain ⟨original, horiginal, rfl⟩ := List.mem_map.1 hentry
            simpa using hnone original (List.mem_filter.1 horiginal).1
          simp [definedMembers, hundefined, hkey, toJson?] at hmissing ⊢
          exact hmissing
      · cases hundefined : entry.2.isUndefined <;>
          simpa [definedMembers, Json.mapValues, hundefined, hkey] using hothers
  | _ => rfl

theorem field_ofJson (json : Json) (key : String) :
    (ofJson json).field key = ((json.member? key).map ofJson).getD .undefined := by
  cases json with
  | obj members =>
    rw [ofJson_obj]
    simp only [field, Json.member?, Json.members, Json.mapValues]
    induction members with
    | nil => rfl
    | cons entry rest ih =>
      by_cases hkey : entry.1 = key
      · simp [hkey]
      · simpa [hkey] using ih
  | _ => rfl

theorem field_proper (h : value.Proper) (key : String) : (value.field key).Proper := by
  cases value with
  | obj members =>
    simp only [field]
    cases hfind : members.find? fun entry => entry.1 = key with
    | none => exact trivial
    | some entry => exact (proper_obj.1 h).2 entry (List.mem_of_find?_eq_some hfind)
  | _ => exact trivial

theorem field_reparsed (h : value.Proper) (key : String) :
    (ofJson value.reparsed).field key =
      if (value.field key).isUndefined then .undefined else ofJson (value.field key).reparsed := by
  rw [field_ofJson, reparsed, Json.member?_enumerated (toJson_proper h).keysDistinct, member?_toJson h, toJson?]
  split <;> rfl

theorem reparsed_proper (h : value.Proper) : value.reparsed.Proper := (toJson_proper h).enumerated

@[simp]
theorem enumerated_reparsed (value : JsValue) : value.reparsed.enumerated = value.reparsed :=
  Json.enumerated_enumerated _

theorem reparsed_field (h : value.Proper) {key : String} (hdefined : (value.field key).isUndefined = false) :
    value.reparsed.field key = (value.field key).reparsed := by
  rw [reparsed, Json.field_enumerated (toJson_proper h).keysDistinct, Json.field, member?_toJson h, toJson?, hdefined]
  rfl

theorem ofJson_proper {json : Json} (h : json.Proper) : (ofJson json).Proper := by
  induction json using Json.nestedInduction with
  | leaf json harr hobj =>
    cases json with
    | arr items => exact absurd rfl (harr items)
    | obj members => exact absurd rfl (hobj members)
    | _ => exact trivial
  | arr items ih =>
    rw [ofJson_arr, proper_arr, List.forall_mem_map]
    exact fun item hitem => ih item hitem (Json.everyObject_arr.1 h item hitem)
  | obj members ih =>
    obtain ⟨hkeys, hvalues⟩ := Json.everyObject_obj.1 h
    rw [ofJson_obj, proper_obj, Json.keys_mapValues]
    refine ⟨hkeys, fun entry hentry => ?_⟩
    obtain ⟨original, horiginal, rfl⟩ := List.mem_map.1 hentry
    exact ih original horiginal (hvalues original horiginal)

theorem ofJson_defined (json : Json) : (ofJson json).Defined := by
  induction json using Json.nestedInduction with
  | leaf json harr hobj =>
    cases json with
    | arr items => exact absurd rfl (harr items)
    | obj members => exact absurd rfl (hobj members)
    | _ => exact JsValue.noConfusion
  | arr items ih =>
    rw [ofJson_arr, defined_arr, List.forall_mem_map]
    exact ih
  | obj members ih =>
    rw [ofJson_obj, defined_obj]
    intro entry hentry
    obtain ⟨original, horiginal, rfl⟩ := List.mem_map.1 hentry
    exact ih original horiginal

end json

end JsValue
