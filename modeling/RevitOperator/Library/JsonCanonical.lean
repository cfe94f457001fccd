import Mathlib.Data.List.Pairwise
import RevitOperator.Library.JsonText

/-! Canonical JSON: members in ordinal order of their keys. The canonical form
    identifies exactly the values that are equal as finite maps; the order
    JavaScript then enumerates its members in need not be the ordinal one. -/

namespace Json

/-- Keys in ordinal order. -/
def KeyLe {α : Type} (a b : String × α) : Prop := text.ordinalLe a.1 b.1 = true

instance {α : Type} : DecidableRel (@KeyLe α) := fun _ _ => instDecidableEqBool _ _

/-- Members in ordinal order of their keys. -/
def sortMembers {α : Type} (members : List (String × α)) : List (String × α) := members.insertionSort KeyLe

/-- The value in canonical order, as JavaScript then enumerates it. -/
def normal (value : Json) : Json := value.canonicalValue.enumerated

section arrange

variable {α β : Type}

/-- Members sorted and then enumerated. -/
def arrange (members : List (String × α)) : List (String × α) := enumerationOrder (sortMembers members)

def mapValues (f : α → β) (members : List (String × α)) : List (String × β) :=
  members.map fun entry => (entry.1, f entry.2)

theorem sortMembers_mapValues (f : α → β) (members : List (String × α)) :
    sortMembers (mapValues f members) = mapValues f (sortMembers members) :=
  (List.map_insertionSort KeyLe KeyLe (fun entry => (entry.1, f entry.2)) members
    fun _ _ _ _ => Iff.rfl).symm

theorem enumerationOrder_mapValues (f : α → β) (members : List (String × α)) :
    enumerationOrder (mapValues f members) = mapValues f (enumerationOrder members) := by
  unfold enumerationOrder mapValues
  rw [List.map_append, List.filter_map, List.filter_map]
  congr 1
  exact (List.map_insertionSort IndexLe IndexLe (fun entry => (entry.1, f entry.2)) _
    fun _ _ _ _ => Iff.rfl).symm

theorem enumerationOrder_perm (members : List (String × α)) : (enumerationOrder members).Perm members := by
  have hsplit := List.filter_append_perm (fun entry : String × α => (arrayIndex? entry.1).isSome) members
  have hnot : members.filter (fun entry => !(arrayIndex? entry.1).isSome)
      = members.filter fun entry => (arrayIndex? entry.1).isNone := by
    congr 1
    funext entry
    cases arrayIndex? entry.1 <;> rfl
  rw [hnot] at hsplit
  exact ((List.perm_insertionSort _ _).append_right _).trans hsplit

theorem arrange_perm (members : List (String × α)) : (arrange members).Perm members :=
  (enumerationOrder_perm _).trans (List.perm_insertionSort _ _)

end arrange

section normal

private theorem canonicalItems_eq (items : List Json) : canonicalItems items = items.map canonicalValue := by
  induction items with
  | nil => rfl
  | cons item rest ih => simp [canonicalItems, ih]

private theorem canonicalMembers_eq (members : List (String × Json)) :
    canonicalMembers members = mapValues canonicalValue members := by
  induction members with
  | nil => rfl
  | cons entry rest ih => simpa [canonicalMembers, mapValues] using ih

private theorem enumeratedItems_eq (items : List Json) : enumeratedItems items = items.map enumerated := by
  induction items with
  | nil => rfl
  | cons item rest ih => simp [enumeratedItems, ih]

private theorem enumeratedMembers_eq (members : List (String × Json)) :
    enumeratedMembers members = mapValues enumerated members := by
  induction members with
  | nil => rfl
  | cons entry rest ih => simpa [enumeratedMembers, mapValues] using ih

theorem enumerated_arr (items : List Json) : enumerated (.arr items) = .arr (items.map enumerated) := by
  rw [enumerated, enumeratedItems_eq]

theorem normal_arr (items : List Json) : normal (.arr items) = .arr (items.map normal) := by
  simp [normal, canonicalValue, canonicalItems_eq, enumerated, enumeratedItems_eq, Function.comp_def]

theorem normal_obj (members : List (String × Json)) :
    normal (.obj members) = .obj (arrange (mapValues normal members)) := by
  have hsorted : normal (.obj members)
      = .obj (enumerationOrder (enumeratedMembers (sortMembers (canonicalMembers members)))) := rfl
  have hcompose : mapValues enumerated (mapValues canonicalValue (sortMembers members))
      = mapValues normal (sortMembers members) := by
    simp [mapValues, normal]
  rw [hsorted, canonicalMembers_eq, enumeratedMembers_eq, sortMembers_mapValues, hcompose, arrange,
    sortMembers_mapValues]

end normal

section same

instance {α : Type} : Std.Total (@KeyLe α) := ⟨fun a b => text.ordinalLe_total a.1 b.1⟩

instance {α : Type} : IsTrans (String × α) KeyLe := ⟨fun _ _ _ hab hbc => text.ordinalLe_trans hab hbc⟩

variable {α : Type}

theorem eq_of_nodup_keys {members : List (String × α)} (hkeys : (members.map Prod.fst).Nodup)
    {a b : String × α} (ha : a ∈ members) (hb : b ∈ members) (hkey : a.1 = b.1) : a = b :=
  List.inj_on_of_nodup_map hkeys ha hb hkey

theorem sortMembers_perm (members : List (String × α)) : (sortMembers members).Perm members :=
  List.perm_insertionSort KeyLe members

/-- Members under distinct keys are sorted the same way in whatever order they are
    listed. -/
theorem sortMembers_eq_of_perm {left right : List (String × α)} (hkeys : (left.map Prod.fst).Nodup)
    (hperm : left.Perm right) : sortMembers left = sortMembers right := by
  refine List.Perm.eq_of_pairwise ?_ (List.pairwise_insertionSort KeyLe left)
    (List.pairwise_insertionSort KeyLe right) ((sortMembers_perm left).trans (hperm.trans (sortMembers_perm right).symm))
  intro a b ha hb hab hba
  have hmem : b ∈ left := hperm.symm.subset ((List.mem_insertionSort KeyLe).1 hb)
  exact eq_of_nodup_keys hkeys ((List.mem_insertionSort KeyLe).1 ha) hmem (text.ordinalLe_antisymm hab hba)

/-- Members under distinct keys are arranged the same way in whatever order they
    are listed. -/
theorem arrange_eq_iff {left right : List (String × α)} (hkeys : (left.map Prod.fst).Nodup) :
    arrange left = arrange right ↔ left.Perm right := by
  constructor
  · intro h
    exact (arrange_perm left).symm.trans (h ▸ arrange_perm right)
  · intro hperm
    rw [arrange, sortMembers_eq_of_perm hkeys hperm, arrange]

private theorem sameItems_iff {as bs : List Json} : SameItems as bs ↔ List.Forall₂ Same as bs := by
  induction as generalizing bs with
  | nil => cases bs <;> simp [SameItems]
  | cons a as ih => cases bs <;> simp [SameItems, ih]

private theorem sameMembers_iff {as bs : List (String × Json)} :
    SameMembers as bs ↔ ∀ entry ∈ as, ∃ other, (entry.1, other) ∈ bs ∧ Same entry.2 other := by
  induction as with
  | nil => simp [SameMembers]
  | cons entry rest ih => simp [SameMembers, ih]

private theorem map_fst_mapValues {β : Type} (f : α → β) (members : List (String × α)) :
    (mapValues f members).map Prod.fst = members.map Prod.fst := by
  simp [mapValues, Function.comp_def]

private theorem mem_mapValues {β : Type} {f : α → β} {members : List (String × α)} {key : String} {value : β} :
    (key, value) ∈ mapValues f members ↔ ∃ original, (key, original) ∈ members ∧ f original = value := by
  simp [mapValues]

private theorem sameMembers_iff_perm {as bs : List (String × Json)} (has : (as.map Prod.fst).Nodup)
    (hvalues : ∀ entry ∈ as, ∀ other ∈ bs, Same entry.2 other.2 ↔ normal entry.2 = normal other.2) :
    as.length = bs.length ∧ SameMembers as bs ↔ (mapValues normal as).Perm (mapValues normal bs) := by
  rw [sameMembers_iff]
  constructor
  · rintro ⟨hlength, hmembers⟩
    have hnodup : (mapValues normal as).Nodup := by
      refine List.Nodup.of_map Prod.fst ?_
      rwa [map_fst_mapValues]
    have hsubset : mapValues normal as ⊆ mapValues normal bs := by
      rintro ⟨key, value⟩ hentry
      obtain ⟨original, horiginal, rfl⟩ := mem_mapValues.1 hentry
      obtain ⟨other, hother, hsame⟩ := hmembers (key, original) horiginal
      exact mem_mapValues.2 ⟨other, hother, ((hvalues _ horiginal _ hother).1 hsame).symm⟩
    refine (List.subperm_of_subset hnodup hsubset).perm_of_length_le ?_
    simp [mapValues, hlength]
  · intro hperm
    refine ⟨by simpa [mapValues] using hperm.length_eq, ?_⟩
    rintro ⟨key, value⟩ hentry
    have hmem : (key, normal value) ∈ mapValues normal bs :=
      hperm.subset (mem_mapValues.2 ⟨value, hentry, rfl⟩)
    obtain ⟨other, hother, hnormal⟩ := mem_mapValues.1 hmem
    exact ⟨other, hother, (hvalues _ hentry _ hother).2 hnormal.symm⟩

private theorem forall₂_same_iff {as bs : List Json}
    (hitems : ∀ a ∈ as, ∀ b ∈ bs, Same a b ↔ normal a = normal b) :
    List.Forall₂ Same as bs ↔ as.map normal = bs.map normal := by
  induction as generalizing bs with
  | nil => cases bs <;> simp
  | cons a as ih =>
    cases bs with
    | nil => simp
    | cons b bs =>
      have hrest : List.Forall₂ Same as bs ↔ as.map normal = bs.map normal :=
        ih fun x hx y hy => hitems x (by simp [hx]) y (by simp [hy])
      simp [hitems a (by simp) b (by simp), hrest]

theorem Same.member? {a b : Json} (hb : b.Proper) (h : Same a b) {key : String} {value : Json}
    (hvalue : a.member? key = some value) : ∃ other, b.member? key = some other ∧ Same value other := by
  obtain ⟨entry, hfind, rfl⟩ := Option.map_eq_some_iff.1 hvalue
  obtain rfl : entry.1 = key := by simpa using List.find?_some hfind
  have hmem : entry ∈ a.members := List.mem_of_find?_eq_some hfind
  cases a with
  | obj as =>
    cases b with
    | obj bs =>
      obtain ⟨other, hother, hsame⟩ := sameMembers_iff.1 h.2 entry hmem
      refine ⟨other, Option.map_eq_some_iff.2 ⟨(entry.1, other), ?_, rfl⟩, hsame⟩
      obtain ⟨found, hfound⟩ : ∃ found, bs.find? (fun member => member.1 = entry.1) = some found := by
        rw [← Option.isSome_iff_exists, List.find?_isSome]
        exact ⟨_, hother, by simp⟩
      have hkey : found.1 = entry.1 := by simpa using List.find?_some hfound
      have heq := eq_of_nodup_keys (everyObject_obj.1 hb).1 (List.mem_of_find?_eq_some hfound) hother hkey
      exact heq ▸ hfound
    | _ => cases h
  | _ => cases hmem

/-- Values are equal up to the order of members exactly when their normal forms
    agree. -/
theorem same_iff_normal {a b : Json} (ha : a.Proper) (hb : b.Proper) : Same a b ↔ normal a = normal b := by
  induction a using nestedInduction generalizing b with
  | leaf a harr hobj =>
    cases a with
    | arr items => exact absurd rfl (harr items)
    | obj members => exact absurd rfl (hobj members)
    | null => cases b <;> simp [Same, normal, canonicalValue, enumerated]
    | bool flag => cases b <;> simp [Same, normal, canonicalValue, enumerated]
    | num q => cases b <;> simp [Same, normal, canonicalValue, enumerated]
    | str s => cases b <;> simp [Same, normal, canonicalValue, enumerated]
  | arr items ih =>
    cases b with
    | arr others =>
      have hitems : ∀ item ∈ items, ∀ other ∈ others, Same item other ↔ normal item = normal other :=
        fun item hitem other hother =>
          ih item hitem (everyObject_arr.1 ha item hitem) (everyObject_arr.1 hb other hother)
      rw [normal_arr, normal_arr, Json.arr.injEq, ← forall₂_same_iff hitems]
      exact sameItems_iff
    | _ => simp [Same, normal, canonicalValue, enumerated]
  | obj members ih =>
    cases b with
    | obj others =>
      obtain ⟨hkeys, hproper⟩ := everyObject_obj.1 ha
      have hotherProper := (everyObject_obj.1 hb).2
      have hvalues : ∀ entry ∈ members, ∀ other ∈ others,
          Same entry.2 other.2 ↔ normal entry.2 = normal other.2 :=
        fun entry hentry other hother => ih entry hentry (hproper entry hentry) (hotherProper other hother)
      rw [normal_obj, normal_obj, Json.obj.injEq, arrange_eq_iff (by rwa [map_fst_mapValues]),
        ← sameMembers_iff_perm hkeys hvalues]
      exact Iff.rfl
    | _ => simp [Same, normal, canonicalValue, enumerated]

end same

section order

/-- The first key comes before the second one in ordinal order. -/
def OrdinalLt (a b : String) : Prop := text.ordinalLe a b = true ∧ a ≠ b

/-- Every key that precedes an array index is a smaller array index. -/
def IndicesLead (keys : List String) : Prop :=
  ∀ key ∈ keys, ∀ other ∈ keys, ∀ index, arrayIndex? key = some index → OrdinalLt other key →
    ∃ otherIndex, arrayIndex? other = some otherIndex ∧ otherIndex < index

instance {α : Type} : Std.Total (@IndexLe α) := ⟨fun _ _ => Nat.le_total _ _⟩

instance {α : Type} : IsTrans (String × α) IndexLe := ⟨fun _ _ _ => Nat.le_trans⟩

variable {α : Type} {members : List (String × α)}

theorem OrdinalLt.asymm {a b : String} (hab : OrdinalLt a b) : ¬ OrdinalLt b a :=
  fun hba => hab.2 (text.ordinalLe_antisymm hab.1 hba.1)

theorem ordinalLt_or_of_ne {a b : String} (hne : a ≠ b) : OrdinalLt a b ∨ OrdinalLt b a := by
  obtain hab | hba := text.ordinalLe_total a b
  · exact .inl ⟨hab, hne⟩
  · exact .inr ⟨hba, hne.symm⟩

theorem toString_of_arrayIndex? {key : String} {index : Nat} (h : arrayIndex? key = some index) :
    toString index = key := by
  unfold arrayIndex? at h
  split_ifs at h with hcanonical
  obtain rfl := Option.some.inj h
  exact hcanonical.1

theorem arrayIndex?_inj {a b : String} {index : Nat} (ha : arrayIndex? a = some index)
    (hb : arrayIndex? b = some index) : a = b :=
  (toString_of_arrayIndex? ha).symm.trans (toString_of_arrayIndex? hb)

/-- Both keys are array indices, in ascending order. -/
def IndexLt (a b : String × α) : Prop :=
  ∃ i j, arrayIndex? a.1 = some i ∧ arrayIndex? b.1 = some j ∧ i < j

private theorem indexed_pairwise (members : List (String × α)) (hkeys : (members.map Prod.fst).Nodup) :
    ((members.filter fun entry => (arrayIndex? entry.1).isSome).insertionSort IndexLe).Pairwise IndexLt := by
  have hsub : ((members.filter fun entry => (arrayIndex? entry.1).isSome).insertionSort IndexLe).Nodup := by
    refine (List.perm_insertionSort IndexLe _).nodup_iff.2 (List.Nodup.filter _ ?_)
    exact List.Nodup.of_map Prod.fst hkeys
  have hboth := (List.pairwise_insertionSort IndexLe
    (members.filter fun entry => (arrayIndex? entry.1).isSome)).and hsub
  refine hboth.imp_of_mem ?_
  rintro a b ha hb ⟨hle, hne⟩
  simp only [List.mem_insertionSort, List.mem_filter, Option.isSome_iff_exists] at ha hb
  obtain ⟨hamem, i, hi⟩ := ha
  obtain ⟨hbmem, j, hj⟩ := hb
  refine ⟨i, j, hi, hj, lt_of_le_of_ne ?_ ?_⟩
  · simpa [IndexLe, hi, hj] using hle
  · rintro rfl
    exact hne (eq_of_nodup_keys hkeys hamem hbmem (arrayIndex?_inj hi hj))

private theorem sortMembers_ordered (hkeys : (members.map Prod.fst).Nodup) :
    (sortMembers members).Pairwise fun a b => OrdinalLt a.1 b.1 := by
  have hnodup : (sortMembers members).Nodup :=
    (List.perm_insertionSort KeyLe members).nodup_iff.2 (List.Nodup.of_map Prod.fst hkeys)
  refine ((List.pairwise_insertionSort KeyLe members).and hnodup).imp_of_mem ?_
  rintro a b ha hb ⟨hle, hne⟩
  refine ⟨hle, fun hkey => hne ?_⟩
  exact eq_of_nodup_keys hkeys ((List.mem_insertionSort KeyLe).1 ha) ((List.mem_insertionSort KeyLe).1 hb) hkey

/-- Among members in ordinal order an array index comes before the greater
    ones. -/
private theorem smaller_of_ordered {entries : List (String × α)} {a b : String × α} {i j : Nat}
    (hordered : entries.Pairwise fun a b => OrdinalLt a.1 b.1)
    (hindexed : entries.Pairwise IndexLt)
    (ha : a ∈ entries) (hb : b ∈ entries) (hi : arrayIndex? a.1 = some i) (hj : arrayIndex? b.1 = some j)
    (hlt : OrdinalLt b.1 a.1) : j < i := by
  have hboth : entries.Pairwise fun a b =>
      (OrdinalLt a.1 b.1 ∧ IndexLt a b) ∨ (OrdinalLt b.1 a.1 ∧ IndexLt b a) :=
    (hordered.and hindexed).imp .inl
  have hsymm : Std.Symm fun a b : String × α =>
      (OrdinalLt a.1 b.1 ∧ IndexLt a b) ∨ (OrdinalLt b.1 a.1 ∧ IndexLt b a) := ⟨fun _ _ => Or.symm⟩
  have hne : a ≠ b := by
    rintro rfl
    exact hlt.2 rfl
  obtain ⟨hab, -⟩ | ⟨-, i', j', hi', hj', hlt'⟩ := hboth.forall ha hb hne
  · exact absurd hlt hab.asymm
  · obtain rfl : j = i' := by simpa using hj.symm.trans hi'
    obtain rfl : i = j' := by simpa using hi.symm.trans hj'
    exact hlt'

/-- The arranged members are in ordinal order exactly when only smaller array
    indices precede an array index. -/
theorem arrange_ordered_iff (hkeys : (members.map Prod.fst).Nodup) :
    (arrange members).Pairwise (fun a b => OrdinalLt a.1 b.1) ↔ IndicesLead (members.map Prod.fst) := by
  have hperm : (sortMembers members).Perm members := List.perm_insertionSort KeyLe members
  have hindexed := indexed_pairwise (sortMembers members) ((hperm.map Prod.fst).nodup_iff.2 hkeys)
  rw [arrange, enumerationOrder, List.pairwise_append]
  constructor
  · rintro ⟨hleading, -, hcross⟩ key hkey other hother index hindex hlt
    obtain ⟨a, ha, rfl⟩ := List.mem_map.1 hkey
    obtain ⟨b, hb, rfl⟩ := List.mem_map.1 hother
    have hleads : a ∈ ((sortMembers members).filter fun entry => (arrayIndex? entry.1).isSome).insertionSort
        IndexLe := by
      simp [List.mem_insertionSort, hperm.mem_iff, ha, hindex]
    cases hotherIndex : arrayIndex? b.1 with
    | none =>
      have hfollows : b ∈ (sortMembers members).filter fun entry => (arrayIndex? entry.1).isNone := by
        simp [hperm.mem_iff, hb, hotherIndex]
      exact absurd hlt (hcross a hleads b hfollows).asymm
    | some otherIndex =>
      refine ⟨otherIndex, rfl, smaller_of_ordered hleading hindexed hleads ?_ hindex hotherIndex hlt⟩
      simp [List.mem_insertionSort, hperm.mem_iff, hb, hotherIndex]
  · intro hlead
    have hsmaller : ∀ a ∈ members, ∀ b ∈ members, ∀ i, arrayIndex? a.1 = some i → a.1 ≠ b.1 →
        (∀ j, arrayIndex? b.1 = some j → i ≤ j) → OrdinalLt a.1 b.1 := by
      intro a ha b hb i hi hne hle
      refine (ordinalLt_or_of_ne hne).resolve_right fun hlt => ?_
      obtain ⟨j, hj, hji⟩ := hlead a.1 (List.mem_map_of_mem ha) b.1 (List.mem_map_of_mem hb) i hi hlt
      exact absurd hji (not_lt.2 (hle j hj))
    refine ⟨hindexed.imp_of_mem ?_, ?_, ?_⟩
    · rintro a b ha hb ⟨i, j, hi, hj, hlt⟩
      simp only [List.mem_insertionSort, List.mem_filter, hperm.mem_iff] at ha hb
      refine hsmaller a ha.1 b hb.1 i hi ?_ ?_
      · intro hkey
        rw [hkey, hj] at hi
        exact hlt.ne' (Option.some.inj hi)
      · intro j' hj'
        obtain rfl : j = j' := by simpa using hj.symm.trans hj'
        exact hlt.le
    · exact (sortMembers_ordered hkeys).sublist List.filter_sublist
    · intro a ha b hb
      simp only [List.mem_insertionSort, List.mem_filter, hperm.mem_iff, Option.isSome_iff_exists,
        Option.isNone_iff_eq_none] at ha hb
      obtain ⟨ha, i, hi⟩ := ha
      refine hsmaller a ha b hb.1 i hi ?_ ?_
      · intro hkey
        simp [← hkey, hi] at hb
      · simp [hb.2]

theorem canonicalValue_arr (items : List Json) :
    canonicalValue (.arr items) = .arr (items.map canonicalValue) := by
  rw [canonicalValue, canonicalItems_eq]

theorem canonicalValue_obj (members : List (String × Json)) :
    canonicalValue (.obj members) = .obj (sortMembers (mapValues canonicalValue members)) := by
  rw [← canonicalMembers_eq]
  rfl

private theorem forall_mem_of_perm {f : Json → Json} {P : List String → Prop} {members : List (String × Json)}
    {arranged : List (String × Json)} (hperm : arranged.Perm (mapValues f members)) :
    (∀ entry ∈ arranged, EveryObject P entry.2) ↔ ∀ entry ∈ members, EveryObject P (f entry.2) := by
  simp only [hperm.mem_iff, mapValues, List.forall_mem_map]

/-- Every object is written in ordinal order. -/
def Ordinal (value : Json) : Prop := EveryObject (List.Pairwise OrdinalLt) value

theorem canonicalValue_ordinal {value : Json} (hvalue : value.Proper) : value.canonicalValue.Ordinal := by
  induction value using nestedInduction with
  | leaf value harr hobj =>
    cases value with
    | arr items => exact absurd rfl (harr items)
    | obj members => exact absurd rfl (hobj members)
    | _ => exact trivial
  | arr items ih =>
    rw [canonicalValue_arr, Ordinal, everyObject_arr, List.forall_mem_map]
    exact fun item hitem => ih item hitem (everyObject_arr.1 hvalue item hitem)
  | obj members ih =>
    obtain ⟨hkeys, hproper⟩ := everyObject_obj.1 hvalue
    rw [canonicalValue_obj, Ordinal, everyObject_obj, List.pairwise_map]
    refine ⟨sortMembers_ordered (by rwa [map_fst_mapValues]),
      (forall_mem_of_perm (List.perm_insertionSort KeyLe _)).2 ?_⟩
    exact fun entry hentry => ih entry hentry (hproper entry hentry)

/-- The canonical form stays in ordinal order as JavaScript enumerates it
    exactly when only smaller array indices precede an array index. -/
theorem normal_ordinal_iff {value : Json} (hvalue : value.Proper) :
    value.normal.Ordinal ↔ EveryObject IndicesLead value := by
  induction value using nestedInduction with
  | leaf value harr hobj =>
    cases value with
    | arr items => exact absurd rfl (harr items)
    | obj members => exact absurd rfl (hobj members)
    | _ => exact Iff.rfl
  | arr items ih =>
    rw [normal_arr, Ordinal, everyObject_arr, everyObject_arr, List.forall_mem_map]
    exact forall₂_congr fun item hitem => ih item hitem (everyObject_arr.1 hvalue item hitem)
  | obj members ih =>
    obtain ⟨hkeys, hproper⟩ := everyObject_obj.1 hvalue
    rw [normal_obj, Ordinal, everyObject_obj, everyObject_obj, List.pairwise_map,
      arrange_ordered_iff (by rwa [map_fst_mapValues]), map_fst_mapValues, forall_mem_of_perm (arrange_perm _)]
    exact and_congr_right' (forall₂_congr fun entry hentry => ih entry hentry (hproper entry hentry))

/-- Members that JavaScript enumerates in ordinal order stay where the sorting
    put them. -/
private theorem arrange_eq_sortMembers (hkeys : (members.map Prod.fst).Nodup)
    (hordered : (arrange members).Pairwise fun a b => OrdinalLt a.1 b.1) : arrange members = sortMembers members := by
  have harranged : (arrange members).Pairwise KeyLe := hordered.imp And.left
  refine List.Perm.eq_of_pairwise ?_ harranged (List.pairwise_insertionSort KeyLe _)
    ((arrange_perm _).trans (List.perm_insertionSort KeyLe _).symm)
  intro a b ha hb hab hba
  exact eq_of_nodup_keys hkeys ((arrange_perm _).subset ha) ((List.mem_insertionSort KeyLe).1 hb)
    (text.ordinalLe_antisymm hab hba)

theorem normal_eq_canonicalValue_iff {value : Json} (hvalue : value.Proper) :
    value.normal = value.canonicalValue ↔ EveryObject IndicesLead value := by
  rw [← normal_ordinal_iff hvalue]
  constructor
  · intro h
    rw [h]
    exact canonicalValue_ordinal hvalue
  · intro hordinal
    induction value using nestedInduction with
    | leaf value harr hobj =>
      cases value with
      | arr items => exact absurd rfl (harr items)
      | obj members => exact absurd rfl (hobj members)
      | _ => rfl
    | arr items ih =>
      rw [normal_arr, Ordinal, everyObject_arr, List.forall_mem_map] at hordinal
      rw [normal_arr, canonicalValue_arr]
      congr 1
      exact List.map_congr_left fun item hitem =>
        ih item hitem (everyObject_arr.1 hvalue item hitem) (hordinal item hitem)
    | obj members ih =>
      obtain ⟨hkeys, hproper⟩ := everyObject_obj.1 hvalue
      rw [normal_obj, Ordinal, everyObject_obj, List.pairwise_map, forall_mem_of_perm (arrange_perm _)] at hordinal
      have hvalues : mapValues normal members = mapValues canonicalValue members :=
        List.map_congr_left fun entry hentry => by
          rw [ih entry hentry (hproper entry hentry) (hordinal.2 entry hentry)]
      rw [normal_obj, canonicalValue_obj, ← hvalues]
      congr 1
      exact arrange_eq_sortMembers (by rwa [map_fst_mapValues]) hordinal.1

end order

end Json
