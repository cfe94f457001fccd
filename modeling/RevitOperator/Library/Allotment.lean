import Mathlib.Algebra.Order.Group.MinMax

/-! A limit under a ceiling that is earned in part and allotted in part. What is
    earned after an allotment comes on top of it. -/

namespace allotment

section reserve

variable {α : Type} [LinearOrder α] {ceiling frozen limit current want other : α}

/-- The limit a new allotment grants over the current one: what is wanted, as
    far as the ceiling goes. -/
def granted (ceiling current want : α) : α := min ceiling (max current want)

theorem granted_eq (hcurrent : current ≤ ceiling) : granted ceiling current want = max current (min ceiling want) := by
  rw [granted, min_max_distrib_left, min_eq_right hcurrent]

theorem reserve_of_granted : min ceiling want ≤ granted ceiling current want :=
  min_le_min_left _ (le_max_right _ _)

theorem reserve_granted (h : min ceiling want ≤ current) : min ceiling want ≤ granted ceiling current other :=
  le_min (min_le_left _ _) (h.trans (le_max_left _ _))

theorem reserve_raised (hfrozen : frozen ≤ ceiling) (h : min ceiling want ≤ limit) :
    min (max frozen limit) want ≤ limit := by
  rw [min_max_distrib_right]
  exact max_le ((min_le_min_right _ hfrozen).trans h) (min_le_left _ _)

end reserve

section limits

variable {α : Type} [AddCommGroup α] [LinearOrder α] {ceiling frozen baseline limit earned current want : α}

/-- The limit in force: the allotted limit with what was earned since the
    baseline, never less than what was earned and never above the ceiling. -/
def inForce (ceiling baseline limit earned : α) : α :=
  min ceiling (max earned (limit + max 0 (earned - baseline)))

theorem inForce_le_ceiling : inForce ceiling baseline limit earned ≤ ceiling := min_le_left _ _

theorem earned_le_inForce (h : earned ≤ ceiling) : earned ≤ inForce ceiling baseline limit earned :=
  le_min h (le_max_left _ _)

theorem inForce_fresh : inForce ceiling earned limit earned = min ceiling (max earned limit) := by
  rw [inForce, sub_self, max_self, add_zero]

/-- A new allotment raises the limit to what is wanted, under the ceiling, and
    never lowers it. -/
theorem inForce_granted (hearned : earned ≤ current) (hcurrent : current ≤ ceiling) :
    inForce ceiling earned (granted ceiling current want) earned = max current (min ceiling want) := by
  have hle : max current (min ceiling want) ≤ ceiling := max_le hcurrent (min_le_left _ _)
  rw [inForce_fresh, granted_eq hcurrent, max_eq_right (hearned.trans (le_max_left _ _)), min_eq_right hle]

theorem inForce_kept (hearned : earned ≤ current) (hcurrent : current ≤ ceiling) :
    inForce ceiling earned current earned = current := by
  rw [inForce_fresh, max_eq_right hearned, min_eq_right hcurrent]

theorem inForce_raised (hearned : earned ≤ limit) : inForce (max frozen limit) earned limit earned = limit := by
  rw [inForce_fresh, max_eq_right hearned, min_eq_right (le_max_right _ _)]

variable [IsOrderedAddMonoid α]

theorem le_inForce {value : α} (hceiling : value ≤ ceiling) (hlimit : value ≤ limit) :
    value ≤ inForce ceiling baseline limit earned :=
  le_min hceiling (le_max_of_le_right (le_add_of_le_of_nonneg hlimit (le_max_left _ _)))

end limits

end allotment
