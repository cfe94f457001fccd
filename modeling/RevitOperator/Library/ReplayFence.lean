import Mathlib.Data.List.Basic
import Mathlib.Data.List.Count

/-! A bounded memory of admitted keys. Each admission is held for a fixed time
    and forgotten afterwards, so a key can be refused while it is held. -/

namespace replay_fence

variable {κ : Type}

/-- The entries that have not run out. -/
def live (now : Int) (entries : List (κ × Int)) : List (κ × Int) := entries.filter fun entry => now < entry.2

/-- The memory holds every admission that has not run out by the clock, and
    nothing but admissions. Admissions are keys with their time, the oldest
    first, and are held for `hold`. -/
structure Fences (hold : Int) (admitted : List (κ × Int)) (clock : Int) (entries : List (κ × Int)) : Prop where
  drawn : entries.Sublist (admitted.map fun admission => (admission.1, admission.2 + hold))
  kept : ∀ admission ∈ admitted, clock < admission.2 + hold → (admission.1, admission.2 + hold) ∈ entries

variable {hold clock now : Int} {admitted entries : List (κ × Int)} {key : κ}

theorem Fences.initial : Fences hold [] clock ([] : List (κ × Int)) :=
  ⟨List.Sublist.slnil, fun _ hmem => nomatch hmem⟩

theorem Fences.purged (h : Fences hold admitted clock entries) (hclock : clock ≤ now) :
    Fences hold admitted now (live now entries) where
  drawn := List.filter_sublist.trans h.drawn
  kept admission hmem hlive :=
    List.mem_filter.2 ⟨h.kept admission hmem (by omega), decide_eq_true hlive⟩

theorem Fences.recorded (h : Fences hold admitted now entries) :
    Fences hold (admitted ++ [(key, now)]) now (entries ++ [(key, now + hold)]) where
  drawn := by
    rw [List.map_append]
    exact h.drawn.append (List.Sublist.refl _)
  kept admission hmem hlive := by
    obtain hearlier | hlast := List.mem_append.1 hmem
    · exact List.mem_append_left _ (h.kept admission hearlier hlive)
    · obtain rfl := List.mem_singleton.1 hlast
      exact List.mem_append_right _ (List.mem_singleton.2 rfl)

theorem Fences.passed (h : Fences hold admitted now entries) (hkey : ∀ entry ∈ entries, entry.1 ≠ key)
    {admission : κ × Int} (hmem : admission ∈ admitted) (hsame : admission.1 = key) : admission.2 + hold ≤ now := by
  by_contra hlive
  exact hkey _ (h.kept admission hmem (by omega)) hsame

theorem Fences.length_le (h : Fences hold admitted clock entries) (hlive : ∀ entry ∈ entries, now < entry.2) :
    entries.length ≤ admitted.countP fun admission => now < admission.2 + hold := by
  have hcount : entries.countP (fun entry => now < entry.2) = entries.length :=
    List.countP_eq_length.2 fun entry hentry => decide_eq_true (hlive entry hentry)
  have hsub := h.drawn.countP_le (p := fun entry => now < entry.2)
  rw [hcount, List.countP_map] at hsub
  exact hsub

end replay_fence
