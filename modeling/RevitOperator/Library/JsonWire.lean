import RevitOperator.Library.JsonCanonical

/-! A value that was written as text and parsed again: it has the same members,
    in the order JavaScript enumerates them. -/

namespace Json

section order

variable {α : Type}

instance : Std.Total (@IndexLe α) := ⟨fun _ _ => Nat.le_total _ _⟩

instance : IsTrans (String × α) IndexLe := ⟨fun _ _ _ => Nat.le_trans⟩

theorem enumerationOrder_idem (members : List (String × α)) :
    enumerationOrder (enumerationOrder members) = enumerationOrder members := by
  have hindex : ∀ entry ∈ (members.filter fun entry => (arrayIndex? entry.1).isSome).insertionSort IndexLe,
      (arrayIndex? entry.1).isSome = true := by
    intro entry hentry
    exact (List.mem_filter.1 ((List.mem_insertionSort IndexLe).1 hentry)).2
  have hother : ∀ entry ∈ members.filter fun entry => (arrayIndex? entry.1).isNone,
      (arrayIndex? entry.1).isNone = true :=
    fun entry hentry => (List.mem_filter.1 hentry).2
  conv_lhs => rw [enumerationOrder]
  have hleft : (enumerationOrder members).filter (fun entry => (arrayIndex? entry.1).isSome)
      = (members.filter fun entry => (arrayIndex? entry.1).isSome).insertionSort IndexLe := by
    have hnone : (members.filter fun entry => (arrayIndex? entry.1).isNone).filter
        (fun entry => (arrayIndex? entry.1).isSome) = [] := by
      rw [List.filter_eq_nil_iff]
      intro entry hentry
      simpa using hother entry hentry
    rw [enumerationOrder, List.filter_append, List.filter_eq_self.2 hindex, hnone, List.append_nil]
  have hright : (enumerationOrder members).filter (fun entry => (arrayIndex? entry.1).isNone)
      = members.filter fun entry => (arrayIndex? entry.1).isNone := by
    have hnone : ((members.filter fun entry => (arrayIndex? entry.1).isSome).insertionSort IndexLe).filter
        (fun entry => (arrayIndex? entry.1).isNone) = [] := by
      rw [List.filter_eq_nil_iff]
      intro entry hentry
      rw [Option.isNone_iff_eq_none, ← ne_eq, ← Option.isSome_iff_ne_none]
      exact hindex entry hentry
    rw [enumerationOrder, List.filter_append, List.filter_eq_self.2 hother, hnone, List.nil_append]
  rw [hleft, hright, (List.pairwise_insertionSort IndexLe _).insertionSort_eq, enumerationOrder]

theorem enumerationOrder_of_unindexed {members : List (String × α)}
    (h : ∀ entry ∈ members, arrayIndex? entry.1 = none) : enumerationOrder members = members := by
  have hindices : members.filter (fun entry => (arrayIndex? entry.1).isSome) = [] := by
    rw [List.filter_eq_nil_iff]
    intro entry hentry
    simp [h entry hentry]
  have hothers : members.filter (fun entry => (arrayIndex? entry.1).isNone) = members := by
    rw [List.filter_eq_self]
    intro entry hentry
    simp [h entry hentry]
  rw [enumerationOrder, hindices, hothers, List.insertionSort_nil, List.nil_append]

end order

theorem enumerated_obj (members : List (String × Json)) :
    enumerated (.obj members) = .obj (enumerationOrder (mapValues enumerated members)) := by
  have hmembers : enumeratedMembers members = mapValues enumerated members := by
    induction members with
    | nil => rfl
    | cons entry rest ih => simpa [enumeratedMembers, mapValues] using ih
  rw [enumerated, hmembers]

@[simp]
theorem enumerated_enumerated (value : Json) : value.enumerated.enumerated = value.enumerated := by
  induction value using nestedInduction with
  | leaf value harr hobj =>
    cases value with
    | arr items => exact absurd rfl (harr items)
    | obj members => exact absurd rfl (hobj members)
    | _ => rfl
  | arr items ih =>
    rw [enumerated_arr, enumerated_arr, List.map_map]
    congr 1
    exact List.map_congr_left ih
  | obj members ih =>
    have htwice : mapValues enumerated (mapValues enumerated members) = mapValues enumerated members := by
      simp only [mapValues, List.map_map]
      exact List.map_congr_left fun entry hentry => by simp [ih entry hentry]
    rw [enumerated_obj, enumerated_obj, ← enumerationOrder_mapValues, htwice, enumerationOrder_idem]

/-- No key of the value is an array index. -/
def Unindexed (value : Json) : Prop := EveryObject (fun keys => ∀ key ∈ keys, arrayIndex? key = none) value

variable {value : Json}

theorem Unindexed.enumerated (h : value.Unindexed) : value.enumerated = value := by
  induction value using nestedInduction with
  | leaf value harr hobj =>
    cases value with
    | arr items => exact absurd rfl (harr items)
    | obj members => exact absurd rfl (hobj members)
    | _ => rfl
  | arr items ih =>
    rw [enumerated_arr, List.map_congr_left fun item hitem => ih item hitem (everyObject_arr.1 h item hitem),
      List.map_id']
  | obj members ih =>
    obtain ⟨hkeys, hvalues⟩ := everyObject_obj.1 h
    have hmembers : mapValues Json.enumerated members = members := by
      have hsame : members.map (fun entry => (entry.1, entry.2.enumerated)) = members.map id :=
        List.map_congr_left fun entry hentry => Prod.ext rfl (ih entry hentry (hvalues entry hentry))
      simpa [mapValues] using hsame
    rw [enumerated_obj, hmembers, enumerationOrder_of_unindexed]
    exact fun entry hentry => hkeys _ (List.mem_map_of_mem hentry)

@[simp]
theorem stringify_enumerated (numbers : NumberText) (value : Json) :
    stringify numbers value.enumerated = stringify numbers value := by
  rw [stringify_inj, enumerated_enumerated]

/-- No two members under one key. -/
def KeysDistinct (value : Json) : Prop := (value.members.map Prod.fst).Nodup

theorem members_enumerated (value : Json) : value.enumerated.members.Perm (mapValues enumerated value.members) := by
  cases value with
  | obj members =>
    rw [enumerated_obj]
    exact enumerationOrder_perm _
  | _ => exact List.Perm.refl _

theorem keys_enumerated (value : Json) :
    (value.enumerated.members.map Prod.fst).Perm (value.members.map Prod.fst) := by
  have h := (members_enumerated value).map Prod.fst
  simpa [mapValues, Function.comp_def] using h

theorem member?_eq_some_iff {member : Json} {key : String} (hkeys : value.KeysDistinct) :
    value.member? key = some member ↔ (key, member) ∈ value.members := by
  constructor
  · intro h
    obtain ⟨entry, hfind, rfl⟩ := Option.map_eq_some_iff.1 h
    obtain rfl : entry.1 = key := by simpa using List.find?_some hfind
    exact List.mem_of_find?_eq_some hfind
  · intro h
    obtain ⟨found, hfound⟩ : ∃ found, value.members.find? (fun entry => entry.1 = key) = some found := by
      rw [← Option.isSome_iff_exists, List.find?_isSome]
      exact ⟨_, h, by simp⟩
    have hkey : found.1 = key := by simpa using List.find?_some hfound
    obtain rfl := eq_of_nodup_keys hkeys (List.mem_of_find?_eq_some hfound) h hkey
    rw [member?, hfound, Option.map_some]

theorem KeysDistinct.enumerated (hkeys : value.KeysDistinct) : value.enumerated.KeysDistinct :=
  (keys_enumerated value).nodup_iff.2 hkeys

theorem member?_enumerated (hkeys : value.KeysDistinct) (key : String) :
    value.enumerated.member? key = (value.member? key).map Json.enumerated := by
  ext member
  rw [member?_eq_some_iff hkeys.enumerated, (members_enumerated value).mem_iff, Option.map_eq_some_iff]
  constructor
  · intro h
    obtain ⟨entry, hentry, heq⟩ := List.mem_map.1 h
    cases heq
    exact ⟨entry.2, (member?_eq_some_iff hkeys).2 hentry, rfl⟩
  · rintro ⟨original, horiginal, rfl⟩
    exact List.mem_map.2 ⟨_, (member?_eq_some_iff hkeys).1 horiginal, rfl⟩

theorem field_enumerated (hkeys : value.KeysDistinct) (key : String) :
    value.enumerated.field key = (value.field key).enumerated := by
  rw [field, member?_enumerated hkeys, field]
  cases value.member? key <;> rfl

theorem Proper.keysDistinct (h : value.Proper) : value.KeysDistinct := by
  cases value with
  | obj members => exact (everyObject_obj.1 h).1
  | _ => exact List.nodup_nil

@[simp]
theorem enumerated_str (value : String) : enumerated (.str value) = .str value :=
  rfl

@[simp]
theorem enumerated_num (value : ℚ) : enumerated (.num value) = .num value :=
  rfl

@[simp]
theorem enumerated_bool (value : Bool) : enumerated (.bool value) = .bool value :=
  rfl

@[simp]
theorem enumerated_null : enumerated .null = .null :=
  rfl

@[simp]
theorem isObject_enumerated (value : Json) : value.enumerated.isObject = value.isObject := by
  cases value <;> rfl

section canonical

variable {α β : Type}

theorem sortMembers_filter {members : List (String × α)} (hkeys : (members.map Prod.fst).Nodup)
    (keep : String × α → Bool) : sortMembers (members.filter keep) = (sortMembers members).filter keep := by
  have hsorted : ((sortMembers members).filter keep).Pairwise KeyLe :=
    (List.pairwise_insertionSort KeyLe members).sublist List.filter_sublist
  have hperm : (members.filter keep).Perm ((sortMembers members).filter keep) :=
    ((sortMembers_perm members).filter keep).symm
  have hnodup : ((members.filter keep).map Prod.fst).Nodup := (List.filter_sublist.map _).nodup hkeys
  rw [sortMembers_eq_of_perm hnodup hperm]
  exact List.Pairwise.insertionSort_eq hsorted

theorem keys_mapValues (f : α → β) (members : List (String × α)) :
    (mapValues f members).map Prod.fst = members.map Prod.fst := by
  simp [mapValues, Function.comp_def]

theorem Proper.enumerated (h : value.Proper) : value.enumerated.Proper := by
  induction value using nestedInduction with
  | leaf value harr hobj =>
    cases value with
    | arr items => exact absurd rfl (harr items)
    | obj members => exact absurd rfl (hobj members)
    | _ => exact trivial
  | arr items ih =>
    rw [enumerated_arr, Proper, everyObject_arr, List.forall_mem_map]
    exact fun item hitem => ih item hitem (everyObject_arr.1 h item hitem)
  | obj members ih =>
    obtain ⟨hkeys, hvalues⟩ := everyObject_obj.1 h
    have hperm := enumerationOrder_perm (mapValues Json.enumerated members)
    rw [enumerated_obj, Proper, everyObject_obj]
    refine ⟨(hperm.map Prod.fst).nodup_iff.2 (by rwa [keys_mapValues]), fun entry hentry => ?_⟩
    obtain ⟨original, horiginal, rfl⟩ := List.mem_map.1 (hperm.mem_iff.1 hentry)
    exact ih original horiginal (hvalues original horiginal)

theorem canonicalValue_enumerated (h : value.Proper) :
    value.enumerated.canonicalValue = value.canonicalValue := by
  induction value using nestedInduction with
  | leaf value harr hobj =>
    cases value with
    | arr items => exact absurd rfl (harr items)
    | obj members => exact absurd rfl (hobj members)
    | _ => rfl
  | arr items ih =>
    rw [enumerated_arr, canonicalValue_arr, canonicalValue_arr, List.map_map]
    congr 1
    exact List.map_congr_left fun item hitem => ih item hitem (everyObject_arr.1 h item hitem)
  | obj members ih =>
    obtain ⟨hkeys, hvalues⟩ := everyObject_obj.1 h
    have hmembers : mapValues canonicalValue (mapValues Json.enumerated members) = mapValues canonicalValue members := by
      simp only [mapValues, List.map_map]
      exact List.map_congr_left fun entry hentry => Prod.ext rfl (ih entry hentry (hvalues entry hentry))
    rw [enumerated_obj, canonicalValue_obj, canonicalValue_obj, ← enumerationOrder_mapValues, hmembers]
    congr 1
    exact (sortMembers_eq_of_perm (by rwa [keys_mapValues]) (enumerationOrder_perm _).symm).symm

theorem same_of_canonicalValue {a b : Json} (ha : a.Proper) (hb : b.Proper)
    (h : a.canonicalValue = b.canonicalValue) : Same a b := by
  rw [same_iff_normal ha hb, normal, normal, h]

theorem member?_canonicalValue (hkeys : value.KeysDistinct) (key : String) :
    value.canonicalValue.member? key = (value.member? key).map canonicalValue := by
  cases value with
  | obj members =>
    have hperm := sortMembers_perm (mapValues canonicalValue members)
    have hcanonical : (canonicalValue (.obj members)).KeysDistinct := by
      rw [canonicalValue_obj]
      refine (hperm.map Prod.fst).nodup_iff.2 ?_
      rwa [keys_mapValues]
    ext member
    rw [member?_eq_some_iff hcanonical, canonicalValue_obj, Option.map_eq_some_iff]
    constructor
    · intro h
      obtain ⟨entry, hentry, heq⟩ := List.mem_map.1 (hperm.mem_iff.1 h)
      cases heq
      exact ⟨entry.2, (member?_eq_some_iff hkeys).2 hentry, rfl⟩
    · rintro ⟨original, horiginal, rfl⟩
      exact hperm.mem_iff.2 (List.mem_map.2 ⟨_, (member?_eq_some_iff hkeys).1 horiginal, rfl⟩)
  | _ => rfl

theorem field_canonicalValue (hkeys : value.KeysDistinct) (key : String) :
    value.canonicalValue.field key = (value.field key).canonicalValue := by
  rw [field, member?_canonicalValue hkeys, field]
  cases value.member? key <;> rfl

theorem Proper.field (h : value.Proper) (key : String) : (value.field key).Proper := by
  cases hmember : value.member? key with
  | none =>
    rw [Json.field, hmember]
    exact trivial
  | some member =>
    rw [Json.field, hmember]
    cases value with
    | obj members => exact (everyObject_obj.1 h).2 _ ((member?_eq_some_iff h.keysDistinct).1 hmember)
    | _ => cases hmember

end canonical

end Json
