import Mathlib.Data.Finset.Dedup
import Mathlib.Data.List.AList
import Mathlib.Data.List.Induction

/-- A finite map from string identities to values. -/
abbrev Record (α : Type) : Type := AList fun _ : String => α

namespace Record

variable {α β : Type}

/-- The value retained under an identity. -/
def get? (record : Record α) (id : String) : Option α := record.lookup id

/-- Retain a value under an identity, replacing the earlier one if any. -/
def set (record : Record α) (id : String) (value : α) : Record α := record.insert id value

/-- Forget an identity. -/
def delete (record : Record α) (id : String) : Record α := record.erase id

/-- The retained values, one for each identity. -/
def values (record : Record α) : List α := record.entries.map Sigma.snd

/-- The retained identities. -/
def ids (record : Record α) : List String := record.entries.map Sigma.fst

/-- The record holding the given pairs; a later pair wins over an earlier one
    of the same identity. -/
def ofPairs (pairs : List (String × α)) : Record α :=
  pairs.foldl (fun record pair => record.set pair.1 pair.2) ∅

/-- An identity is retained. -/
def has (record : Record α) (id : String) : Bool := (record.get? id).isSome

@[simp]
theorem get?_empty (id : String) : (∅ : Record α).get? id = none :=
  AList.lookup_empty id

@[simp]
theorem get?_set_self (record : Record α) (id : String) (value : α) :
    (record.set id value).get? id = some value :=
  AList.lookup_insert record

variable {id : String} {record : Record α} {value : α}

theorem get?_set_of_ne {other : String} (h : other ≠ id) :
    (record.set id value).get? other = record.get? other :=
  AList.lookup_insert_ne h

theorem get?_set (record : Record α) (id other : String) (value : α) :
    (record.set id value).get? other = if other = id then some value else record.get? other := by
  by_cases h : other = id
  · subst h; simp
  · simp [get?_set_of_ne h, h]

theorem get?_delete (record : Record α) (id other : String) :
    (record.delete id).get? other = if other = id then none else record.get? other := by
  by_cases h : other = id
  · subst h; simp [delete, get?]
  · simp [delete, get?, h]

theorem mem_values :
    value ∈ record.values ↔ ∃ id, record.get? id = some value := by
  simp only [values, List.mem_map, get?]
  constructor
  · rintro ⟨⟨id, kept⟩, hentry, rfl⟩
    exact ⟨id, AList.mem_lookup_iff.2 hentry⟩
  · rintro ⟨id, hid⟩
    exact ⟨⟨id, value⟩, AList.mem_lookup_iff.1 hid, rfl⟩

theorem mem_ids :
    id ∈ record.ids ↔ ∃ value, record.get? id = some value := by
  simp only [ids, List.mem_map, get?]
  constructor
  · rintro ⟨⟨kept, value⟩, hentry, rfl⟩
    exact ⟨value, AList.mem_lookup_iff.2 hentry⟩
  · rintro ⟨value, hid⟩
    exact ⟨⟨id, value⟩, AList.mem_lookup_iff.1 hid, rfl⟩

theorem mem_values_of_get?
    (h : record.get? id = some value) : value ∈ record.values :=
  mem_values.2 ⟨id, h⟩

@[simp]
theorem values_empty : (∅ : Record α).values = [] :=
  rfl

/-- The identities whose values pass a test. -/
def idsWhere (record : Record α) (test : α → Bool) : Finset String :=
  (record.ids.filter fun id => (record.get? id).any test).toFinset

theorem mem_idsWhere {test : α → Bool} :
    id ∈ record.idsWhere test ↔ ∃ value, record.get? id = some value ∧ test value = true := by
  simp only [idsWhere, List.mem_toFinset, List.mem_filter, mem_ids, Option.any_eq_true]
  exact ⟨And.right, fun ⟨value, hvalue, htest⟩ => ⟨⟨value, hvalue⟩, value, hvalue, htest⟩⟩

theorem values_set (record : Record α) (id : String) (value : α) :
    (record.set id value).values = value :: (record.delete id).values := by
  simp only [values, set, delete, AList.entries_insert, List.map_cons]
  rfl

theorem values_perm (h : record.get? id = some value) :
    record.values.Perm (value :: (record.delete id).values) := by
  have hsame : record.entries.Perm (record.set id value).entries := by
    refine List.lookup_ext record.nodupKeys (record.set id value).nodupKeys fun other kept => ?_
    change record.get? other = some kept ↔ (record.set id value).get? other = some kept
    rw [get?_set]
    by_cases hother : other = id
    · rw [if_pos hother, hother, h]
    · rw [if_neg hother]
  rw [← values_set]
  exact hsame.map Sigma.snd

theorem delete_of_none (h : record.get? id = none) :
    record.delete id = record := by
  have hnew : id ∉ record.entries.keys := fun hmem => by
    obtain ⟨value, hvalue⟩ := List.dlookup_isSome.2 hmem |> Option.isSome_iff_exists.1
    rw [get?, AList.lookup, hvalue] at h
    cases h
  exact AList.ext (List.kerase_of_notMem_keys hnew)

/-- What holds of the new value and of the values under the other identities
    holds of every value after an update. -/
theorem forall_get?_set {P : String → α → Prop}
    (hnew : P id value) (hold : ∀ other kept, other ≠ id → record.get? other = some kept → P other kept) :
    ∀ other kept, (record.set id value).get? other = some kept → P other kept := by
  intro other kept hkept
  rw [get?_set] at hkept
  split at hkept
  · next h =>
    obtain rfl : value = kept := by simpa using hkept
    exact h ▸ hnew
  · next h => exact hold other kept h hkept

theorem ids_nodup (record : Record α) : record.ids.Nodup := by
  have hkeys := record.nodupKeys
  rwa [List.NodupKeys, List.keys] at hkeys

theorem map_values_eq_ids {name : α → String}
    (h : ∀ id value, record.get? id = some value → name value = id) : record.values.map name = record.ids := by
  rw [values, ids, List.map_map]
  refine List.map_congr_left fun entry hentry => ?_
  exact h entry.1 entry.2 (AList.mem_lookup_iff.2 hentry)

/-- Reading several identities fails exactly when one of them is not
    retained. -/
theorem mapM_get?_eq_none {kept : List String} :
    kept.mapM record.get? = none ↔ ∃ id ∈ kept, record.get? id = none := by
  induction kept with
  | nil => simp
  | cons id rest ih =>
    cases hid : record.get? id with
    | none => simp [List.mapM_cons, hid]
    | some value =>
      cases hrest : rest.mapM record.get? with
      | none =>
        have hmissing := ih.1 hrest
        simpa [List.mapM_cons, hid, hrest] using hmissing
      | some values =>
        have hfound : ¬ ∃ id ∈ rest, record.get? id = none := fun h => by
          rw [ih.2 h] at hrest
          cases hrest
        simpa [List.mapM_cons, hid, hrest] using hfound

theorem mem_of_mapM_get? {kept : List String} {values : List α}
    (h : kept.mapM record.get? = some values) : value ∈ values ↔ ∃ id ∈ kept, record.get? id = some value := by
  induction kept generalizing values with
  | nil =>
    obtain rfl : values = [] := by simpa using h.symm
    simp
  | cons id rest ih =>
    rw [List.mapM_cons] at h
    cases hid : record.get? id with
    | none => simp [hid] at h
    | some first =>
      cases hrest : rest.mapM record.get? with
      | none => simp [hid, hrest] at h
      | some others =>
        obtain rfl : first :: others = values := by simpa [hid, hrest] using h
        simp [ih hrest, hid, eq_comm]

theorem forall_get?_ofPairs {pairs : List (String × α)} {P : α → Prop} (h : ∀ pair ∈ pairs, P pair.2) :
    ∀ id value, (ofPairs pairs).get? id = some value → P value := by
  induction pairs using List.reverseRecOn with
  | nil => simp [ofPairs]
  | append_singleton earlier last ih =>
    rw [ofPairs, List.foldl_append]
    exact forall_get?_set (P := fun _ => P) (h last (by simp))
      fun other kept _ hkept => ih (fun pair hpair => h pair (List.mem_append_left _ hpair)) other kept hkept

theorem get?_ofPairs_of_nodup {pairs : List (String × α)} (hdistinct : (pairs.map Prod.fst).Nodup) :
    (ofPairs pairs).get? id = some value ↔ (id, value) ∈ pairs := by
  induction pairs using List.reverseRecOn with
  | nil => simp [ofPairs]
  | append_singleton earlier last ih =>
    rw [List.map_append, List.nodup_append] at hdistinct
    obtain ⟨hearlier, -, hother⟩ := hdistinct
    have hset : ofPairs (earlier ++ [last]) = (ofPairs earlier).set last.1 last.2 := by
      rw [ofPairs, List.foldl_append]
      rfl
    rw [hset, get?_set, List.mem_append, List.mem_singleton]
    by_cases hid : id = last.1
    · have hnew : (id, value) ∉ earlier := fun hmem =>
        hother id (List.mem_map_of_mem hmem) last.1 (List.mem_singleton.2 rfl) hid
      rw [if_pos hid, Option.some.injEq]
      constructor
      · rintro rfl
        exact .inr (Prod.ext hid rfl)
      · rintro (hmem | rfl)
        · exact absurd hmem hnew
        · rfl
    · rw [if_neg hid, ih hearlier]
      constructor
      · exact .inl
      · rintro (hmem | rfl)
        · exact hmem
        · exact absurd rfl hid

section decided

variable {items : List β} {name : β → String} {decided : β → Option α}

/-- Set the decided value of an item, if it has one. -/
def setDecided (name : β → String) (decided : β → Option α) (record : Record α) (item : β) : Record α :=
  match decided item with
  | some value => record.set (name item) value
  | none => record

theorem get?_setDecided_of_ne {item : β} (hne : id ≠ name item) (record : Record α) :
    (setDecided name decided record item).get? id = record.get? id := by
  unfold setDecided
  cases decided item with
  | none => rfl
  | some value => exact get?_set_of_ne hne

theorem get?_foldl_setDecided_of_notMem (hid : id ∉ items.map name) (record : Record α) :
    (items.foldl (setDecided name decided) record).get? id = record.get? id := by
  induction items generalizing record with
  | nil => rfl
  | cons first rest ih =>
    rw [List.map_cons, List.mem_cons, not_or] at hid
    rw [List.foldl_cons, ih hid.2, get?_setDecided_of_ne hid.1]

/-- Setting decided values under different names leaves under each name what
    its own item decides. -/
theorem get?_foldl_setDecided (decided : β → Option α) {item : β} (hdistinct : (items.map name).Nodup)
    (hitem : item ∈ items) (record : Record α) :
    (items.foldl (setDecided name decided) record).get? (name item)
      = (decided item).or (record.get? (name item)) := by
  induction items generalizing record with
  | nil => cases hitem
  | cons first rest ih =>
    rw [List.map_cons, List.nodup_cons] at hdistinct
    rw [List.foldl_cons]
    rcases List.mem_cons.1 hitem with rfl | hmem
    · rw [get?_foldl_setDecided_of_notMem hdistinct.1]
      unfold setDecided
      cases decided item with
      | none => rfl
      | some value => exact get?_set_self _ _ _
    · have hne : name item ≠ name first := fun heq => hdistinct.1 (heq ▸ List.mem_map_of_mem hmem)
      rw [ih hdistinct.2 hmem, get?_setDecided_of_ne hne]

end decided

theorem get?_foldl_delete (forgotten : List String) (record : Record α) (id : String) :
    (forgotten.foldl delete record).get? id = if id ∈ forgotten then none else record.get? id := by
  induction forgotten generalizing record with
  | nil => simp
  | cons first rest ih =>
    rw [List.foldl_cons, ih, get?_delete]
    by_cases hrest : id ∈ rest <;> by_cases hfirst : id = first <;> simp [hrest, hfirst]

theorem get?_foldl_set_value (kept : List String) (value : α) (record : Record α) (id : String) :
    (kept.foldl (fun record id => record.set id value) record).get? id
      = if id ∈ kept then some value else record.get? id := by
  induction kept generalizing record with
  | nil => simp
  | cons first rest ih =>
    rw [List.foldl_cons, ih, get?_set]
    by_cases hrest : id ∈ rest <;> by_cases hfirst : id = first <;> simp [hrest, hfirst]

/-- The record of those of the given identities that are retained. -/
def restrict (record : Record α) (kept : List String) : Record α :=
  .ofPairs (kept.filterMap fun id => (record.get? id).map fun value => (id, value))

theorem get?_restrict (record : Record α) (kept : List String) (id : String) :
    (record.restrict kept).get? id = if id ∈ kept then record.get? id else none := by
  induction kept using List.reverseRecOn with
  | nil => simp [restrict, ofPairs]
  | append_singleton earlier last ih =>
    cases hlast : record.get? last with
    | none =>
      have hsame : record.restrict (earlier ++ [last]) = record.restrict earlier := by simp [restrict, hlast]
      rw [hsame, ih]
      by_cases hid : id = last
      · subst hid
        simp [hlast]
      · simp [hid]
    | some value =>
      have hset : record.restrict (earlier ++ [last]) = (record.restrict earlier).set last value := by
        simp [restrict, ofPairs, hlast]
      rw [hset, get?_set, ih]
      by_cases hid : id = last
      · subst hid
        simp [hlast]
      · simp [hid]

end Record
