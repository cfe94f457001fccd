import Mathlib.MeasureTheory.Measure.Lebesgue.Basic

/-! The length of a union of half-open intervals, taken from left to right. -/

namespace interval_cover

open MeasureTheory Set

/-- The points that lie in at least one of the intervals. -/
def covered (intervals : List (ℝ × ℝ)) : Set ℝ := {t | ∃ interval ∈ intervals, interval.1 ≤ t ∧ t < interval.2}

@[simp]
theorem covered_nil : covered [] = ∅ := by simp [covered]

theorem covered_cons (start stop : ℝ) (rest : List (ℝ × ℝ)) :
    covered ((start, stop) :: rest) = Ico start stop ∪ covered rest := by
  ext t
  simp only [covered, List.mem_cons, exists_eq_or_imp, mem_union, mem_Ico]
  rfl

theorem measurableSet_covered (intervals : List (ℝ × ℝ)) : MeasurableSet (covered intervals) := by
  induction intervals with
  | nil => simp
  | cons interval rest ih =>
    rw [covered_cons]
    exact measurableSet_Ico.union ih

section sweep

variable {start stop : ℝ} {rest : List (ℝ × ℝ)}

theorem covered_subset_Ici (hstarts : ∀ interval ∈ rest, start ≤ interval.1) : covered rest ⊆ Ici start := by
  rintro t ⟨interval, hinterval, hle, _⟩
  exact (hstarts interval hinterval).trans hle

/-- What the first interval and the later ones cover from a point on: the part
    of the first, and what the later ones cover beyond it. -/
theorem volume_covered_cons (hstarts : ∀ interval ∈ rest, start ≤ interval.1) (reached : ℝ) :
    volume (covered ((start, stop) :: rest) ∩ Ici reached)
      = ENNReal.ofReal (stop - max start reached) + volume (covered rest ∩ Ici (max reached stop)) := by
  have hsplit : covered ((start, stop) :: rest) ∩ Ici reached
      = Ico (max start reached) stop ∪ covered rest ∩ Ici (max reached stop) := by
    ext t
    simp only [covered_cons, mem_inter_iff, mem_union, mem_Ico, mem_Ici, max_le_iff]
    constructor
    · rintro ⟨⟨hle, hlt⟩ | hrest, hreached⟩
      · exact .inl ⟨⟨hle, hreached⟩, hlt⟩
      · by_cases hlt : t < stop
        · exact .inl ⟨⟨covered_subset_Ici hstarts hrest, hreached⟩, hlt⟩
        · exact .inr ⟨hrest, hreached, not_lt.1 hlt⟩
    · rintro (⟨⟨hle, hreached⟩, hlt⟩ | ⟨hrest, hreached, _⟩)
      · exact ⟨.inl ⟨hle, hlt⟩, hreached⟩
      · exact ⟨.inr hrest, hreached⟩
  have hdisjoint : Disjoint (Ico (max start reached) stop) (covered rest ∩ Ici (max reached stop)) := by
    rw [Set.disjoint_left]
    rintro t ⟨_, hlt⟩ ⟨_, hle⟩
    exact not_lt.2 ((le_max_right reached stop).trans hle) hlt
  have hmeasurable : MeasurableSet (covered rest ∩ Ici (max reached stop)) :=
    (measurableSet_covered rest).inter measurableSet_Ici
  rw [hsplit, measure_union hdisjoint hmeasurable, Real.volume_Ico]

theorem volume_covered_first (hstarts : ∀ interval ∈ rest, start ≤ interval.1) :
    volume (covered ((start, stop) :: rest))
      = ENNReal.ofReal (stop - start) + volume (covered rest ∩ Ici stop) := by
  have hall : ∀ interval ∈ (start, stop) :: rest, start ≤ interval.1 := by
    intro interval hinterval
    rcases List.mem_cons.1 hinterval with rfl | hrest
    · exact le_rfl
    · exact hstarts interval hrest
  have hfrom : covered ((start, stop) :: rest) ∩ Ici start = covered ((start, stop) :: rest) :=
    inter_eq_left.2 (covered_subset_Ici hall)
  have hlater : covered rest ∩ Ici (max start stop) = covered rest ∩ Ici stop := by
    ext t
    simp only [mem_inter_iff, mem_Ici, max_le_iff]
    exact ⟨fun h => ⟨h.1, h.2.2⟩, fun h => ⟨h.1, covered_subset_Ici hstarts h.1, h.2⟩⟩
  rw [← hfrom, volume_covered_cons hstarts, max_self, hlater]

end sweep

end interval_cover
