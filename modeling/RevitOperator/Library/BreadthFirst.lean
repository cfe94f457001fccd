import Mathlib.Algebra.GroupWithZero.Nat
import Mathlib.Algebra.BigOperators.Group.List.Basic

/-! The walk of a forest with a queue: a place is taken from the front and its children
    are put at the back. The places come level by level. -/

namespace breadth_first

variable {α : Type} (children : α → List α)

/-- The places that a queue takes in so many turns. -/
def order : Nat → List α → List α
  | turns + 1, place :: queue => place :: order turns (queue ++ children place)
  | _, _ => []

/-- The places down to some depth, level by level. -/
def levels : Nat → List α → List α
  | 0, _ => []
  | depth + 1, places => places ++ levels depth (places.flatMap children)

/-- The size of all places of a queue. -/
def total (size : α → Nat) (places : List α) : Nat := (places.map size).sum

variable {children} {size : α → Nat}

@[simp]
theorem total_cons (place : α) (places : List α) : total size (place :: places) = size place + total size places :=
  rfl

@[simp]
theorem total_append (first second : List α) : total size (first ++ second) = total size first + total size second := by
  simp [total]

theorem total_le_of_sublist {first second : List α} (h : first.Sublist second) :
    total size first ≤ total size second := by
  induction h with
  | slnil => exact Nat.le_refl _
  | cons place _ ih =>
    rw [total_cons]
    omega
  | cons_cons place _ ih =>
    rw [total_cons, total_cons]
    omega

theorem size_le_total {place : α} {places : List α} (h : place ∈ places) : size place ≤ total size places := by
  have hle : total size [place] ≤ total size places := total_le_of_sublist (List.singleton_sublist.2 h)
  simpa [total] using hle

theorem levels_nil (depth : Nat) : levels children depth [] = [] := by
  induction depth with
  | zero => rfl
  | succ depth ih => rw [levels, List.flatMap_nil, ih, List.append_nil]

theorem order_nil (turns : Nat) : order children turns [] = [] := by
  cases turns <;> rfl

/-- What holds of the first places and of the children of a place holds of every place
    that is reached. -/
theorem forall_levels {P : α → Prop} {depth : Nat} {places : List α} (hfirst : ∀ place ∈ places, P place)
    (hstep : ∀ place, P place → ∀ child ∈ children place, P child) : ∀ place ∈ levels children depth places, P place := by
  induction depth generalizing places with
  | zero => exact fun _ hplace => absurd hplace List.not_mem_nil
  | succ depth ih =>
    intro place hplace
    rw [levels, List.mem_append] at hplace
    rcases hplace with hplace | hplace
    · exact hfirst place hplace
    · refine ih (fun child hchild => ?_) place hplace
      obtain ⟨parent, hparent, hchild⟩ := List.mem_flatMap.1 hchild
      exact hstep parent (hfirst parent hparent) child hchild

section sized

variable (hsize : ∀ place, total size (children place) < size place)

include hsize

theorem length_le_total (places : List α) : places.length + total size (places.flatMap children) ≤ total size places := by
  induction places with
  | nil => exact Nat.le_refl _
  | cons place places ih =>
    have hplace := hsize place
    rw [List.flatMap_cons, total_append, List.length_cons, total_cons]
    omega

theorem order_append {turns : Nat} {first rest : List α} (hturns : total size (first ++ rest) ≤ turns) :
    order children turns (first ++ rest)
      = first ++ order children (turns - first.length) (rest ++ first.flatMap children) := by
  induction first generalizing turns rest with
  | nil => simp
  | cons place first ih =>
    have hplace := hsize place
    rw [List.cons_append, total_cons, total_append] at hturns
    obtain ⟨turns, rfl⟩ : ∃ left, turns = left + 1 := ⟨turns - 1, by omega⟩
    have hroom : total size (first ++ (rest ++ children place)) ≤ turns := by
      rw [total_append, total_append]
      omega
    rw [List.cons_append, order, List.append_assoc, ih hroom, List.flatMap_cons, List.append_assoc, List.length_cons,
      Nat.add_sub_add_right, List.cons_append]

theorem order_eq_levels {turns depth : Nat} {places : List α} (hturns : total size places ≤ turns)
    (hdepth : total size places ≤ depth) : order children turns places = levels children depth places := by
  induction depth generalizing turns places with
  | zero =>
    have hnone : places = [] := by
      have hlength := length_le_total hsize places
      exact List.length_eq_zero_iff.1 (by omega)
    rw [hnone, order_nil, levels_nil]
  | succ depth ih =>
    have hlength := length_le_total hsize places
    have hroom : total size (places ++ []) ≤ turns := by simpa using hturns
    have hstep := order_append hsize hroom
    rw [List.append_nil, List.nil_append] at hstep
    rw [hstep, levels]
    by_cases hnone : places = []
    · simp [hnone, order_nil, levels_nil]
    · have hpos := List.length_pos_iff.2 hnone
      rw [ih (by omega) (by omega)]

end sized

end breadth_first
