import Mathlib.Data.List.Basic
import Mathlib.Data.Prod.Lex
import Mathlib.Data.List.Nodup

/-! Choosing the first of the largest entries of a list, which is what
    `xs.sort((a, b) => key(b) - key(a))[0]` computes with a stable sort. -/

namespace choice

variable {α κ : Type} [LinearOrder κ]

/-- The first entry with the largest key. -/
def maxBy (key : α → κ) : List α → Option α
  | [] => none
  | x :: xs =>
    match maxBy key xs with
    | none => some x
    | some best => if key x < key best then some best else some x

theorem maxBy_eq_none {key : α → κ} {xs : List α} : maxBy key xs = none ↔ xs = [] := by
  cases xs with
  | nil => simp [maxBy]
  | cons x xs =>
    simp only [maxBy, reduceCtorEq, iff_false]
    cases maxBy key xs with
    | none => simp
    | some best => by_cases h : key x < key best <;> simp [h]

theorem maxBy_spec {key : α → κ} {xs : List α} {best : α} (h : maxBy key xs = some best) :
    best ∈ xs ∧ ∀ x ∈ xs, key x ≤ key best := by
  induction xs generalizing best with
  | nil => simp [maxBy] at h
  | cons x xs ih =>
    simp only [maxBy] at h
    cases hrest : maxBy key xs with
    | none =>
      obtain rfl : xs = [] := maxBy_eq_none.1 hrest
      simp only [hrest, Option.some.injEq] at h
      simp [h]
    | some later =>
      obtain ⟨hmem, hle⟩ := ih hrest
      simp only [hrest] at h
      by_cases hlt : key x < key later
      · obtain rfl : later = best := by simpa [hlt] using h
        exact ⟨List.mem_cons_of_mem x hmem, by simpa using ⟨hlt.le, hle⟩⟩
      · obtain rfl : x = best := by simpa [hlt] using h
        refine ⟨by simp, ?_⟩
        rintro y (_ | ⟨_, hy⟩)
        · exact le_refl _
        · exact (hle y hy).trans (not_lt.1 hlt)

theorem maxBy_mem {key : α → κ} {xs : List α} {best : α} (h : maxBy key xs = some best) :
    best ∈ xs :=
  (maxBy_spec h).1

end choice

/-! A run of updates each of which touches what is kept under its own key only. -/

namespace local_update

variable {State Entry Item : Type} {view : State → String → Entry} {key : Item → String} {advance : State → Item → State}
  {effect : Item → Entry → Entry}

/-- Every update changes what is kept under its key, and nothing else. -/
def Local (view : State → String → Entry) (key : Item → String) (advance : State → Item → State)
    (effect : Item → Entry → Entry) : Prop :=
  ∀ state item id, view (advance state item) id = if key item = id then effect item (view state id) else view state id

theorem Local.foldl_of_notMem (h : Local view key advance effect) {items : List Item} {id : String}
    (hid : ∀ item ∈ items, key item ≠ id) (state : State) : view (items.foldl advance state) id = view state id := by
  induction items generalizing state with
  | nil => rfl
  | cons item rest ih =>
    obtain ⟨hitem, hrest⟩ := List.forall_mem_cons.1 hid
    rw [List.foldl_cons, ih hrest, h, if_neg hitem]

theorem Local.foldl_of_mem (h : Local view key advance effect) {items : List Item} (hkeys : (items.map key).Nodup)
    {item : Item} (hitem : item ∈ items) (state : State) :
    view (items.foldl advance state) (key item) = effect item (view state (key item)) := by
  induction items generalizing state with
  | nil => cases hitem
  | cons first rest ih =>
    obtain ⟨hnew, hrest⟩ := List.nodup_cons.1 hkeys
    rw [List.foldl_cons]
    obtain rfl | hmem := List.mem_cons.1 hitem
    · have hothers : ∀ other ∈ rest, key other ≠ key item := fun other hother hsame =>
        hnew (List.mem_map.2 ⟨other, hother, hsame⟩)
      rw [h.foldl_of_notMem hothers, h, if_pos rfl]
    · have hfirst : key first ≠ key item := fun hsame => hnew (List.mem_map.2 ⟨item, hmem, hsame.symm⟩)
      rw [ih hrest hmem, h, if_neg hfirst]

end local_update
