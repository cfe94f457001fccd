import RevitOperator.AssignmentKernel.JournalBuilder
import RevitOperator.Library.IntervalCover

open interval_cover MeasureTheory

namespace revit_operator.assignment_kernel

/-- The timestamps the clock reads. -/
def clockTimestamps (snapshot : AssignmentSnapshotV2) : List String :=
  snapshot.spec.created_at
    :: (snapshot.provider_calls.values.flatMap fun call =>
        call.admitted_at :: (call.completed_at.toList ++ call.response_transport_completed_at.toList))
    ++ snapshot.operations.values.flatMap fun operation => operation.opened_at :: operation.settled_at.toList

/-- Every timestamp the clock reads parses. -/
def TimestampsParse (host : JavaScriptHost) (snapshot : AssignmentSnapshotV2) : Prop :=
  ∀ time ∈ clockTimestamps snapshot, (host.parseDate time).isSome

/-- The interval is charged for a provider call or an operation. -/
def Charged (host : JavaScriptHost) (snapshot : AssignmentSnapshotV2) (now : String) (interval : ℚ × ℚ) : Prop :=
  (∃ call ∈ snapshot.provider_calls.values, providerInterval host now call = some interval)
    ∨ ∃ operation ∈ snapshot.operations.values, operationInterval host now operation = some interval

/-- The instants between creation and now at which work is charged. -/
def activeInstants (host : JavaScriptHost) (snapshot : AssignmentSnapshotV2) (now : String) (created until_ : ℚ) :
    Set ℝ :=
  {t | (created ≤ t ∧ t < until_) ∧ ∃ interval, Charged host snapshot now interval ∧ interval.1 ≤ t ∧ t < interval.2}

section intervals

/-- An interval of rational instants on the real line. -/
def realInterval (interval : ℚ × ℚ) : ℝ × ℝ := (interval.1, interval.2)

theorem boundedInterval_iff (created until_ : ℚ) (interval : ℚ × ℚ) (t : ℝ) :
    (((boundedInterval created until_ interval).1 : ℝ) ≤ t ∧ t < (boundedInterval created until_ interval).2)
      ↔ (created ≤ t ∧ t < until_) ∧ (interval.1 ≤ t ∧ t < interval.2) := by
  simp only [boundedInterval, Rat.cast_min, Rat.cast_max]
  constructor
  · rintro ⟨hle, hlt⟩
    obtain ⟨huntil, hstop⟩ := lt_min_iff.1 hlt
    have hstart : max (created : ℝ) interval.1 ≤ t := by
      rcases min_le_iff.1 hle with hle | hle
      · exact absurd huntil (not_lt.2 hle)
      · exact hle
    refine ⟨⟨(le_max_left _ _).trans hstart, huntil⟩, (le_max_right _ _).trans hstart, ?_⟩
    rcases lt_max_iff.1 hstop with hstop | hstop
    · exact absurd hstop (not_lt.2 hstart)
    · exact hstop
  · rintro ⟨⟨hcreated, huntil⟩, hstart, hstop⟩
    exact ⟨min_le_iff.2 (.inr (max_le hcreated hstart)), lt_min huntil (lt_max_of_lt_right hstop)⟩

theorem coveredTime_none (start stop : ℚ) (rest : List (ℚ × ℚ)) :
    coveredTime none ((start, stop) :: rest) = max 0 (stop - start) + coveredTime (some stop) rest := rfl

theorem coveredTime_some (reached start stop : ℚ) (rest : List (ℚ × ℚ)) :
    coveredTime (some reached) ((start, stop) :: rest)
      = max 0 (stop - max start reached) + coveredTime (some (max stop reached)) rest := rfl

theorem coveredTime_nonneg (coveredUntil : Option ℚ) (intervals : List (ℚ × ℚ)) :
    0 ≤ coveredTime coveredUntil intervals := by
  induction intervals generalizing coveredUntil with
  | nil => exact le_rfl
  | cons interval rest ih =>
    obtain ⟨start, stop⟩ := interval
    cases coveredUntil with
    | none =>
      rw [coveredTime_none]
      exact add_nonneg (le_max_left _ _) (ih _)
    | some reached =>
      rw [coveredTime_some]
      exact add_nonneg (le_max_left _ _) (ih _)

private theorem starts_of_ordered {start stop : ℚ} {rest : List (ℚ × ℚ)}
    (hordered : ((start, stop) :: rest).Pairwise fun a b => a.1 ≤ b.1) :
    ∀ later ∈ rest.map realInterval, (start : ℝ) ≤ later.1 := by
  intro later hlater
  obtain ⟨original, horiginal, rfl⟩ := List.mem_map.1 hlater
  exact Rat.cast_le.2 (List.rel_of_pairwise_cons hordered horiginal)

/-- The length of a part, which is zero when the part is inverted, and of what
    follows. -/
private theorem ofReal_part (part later : ℚ) (hlater : 0 ≤ later) :
    ENNReal.ofReal ((max 0 part + later : ℚ) : ℝ) = ENNReal.ofReal (part : ℝ) + ENNReal.ofReal (later : ℝ) := by
  have hpart : (0 : ℝ) ≤ ((max 0 part : ℚ) : ℝ) := Rat.cast_nonneg.2 (le_max_left _ _)
  rw [Rat.cast_add, ENNReal.ofReal_add hpart (Rat.cast_nonneg.2 hlater), Rat.cast_max, Rat.cast_zero,
    ENNReal.ofReal_max, ENNReal.ofReal_zero, max_eq_right zero_le]

theorem volume_beyond (reached : ℚ) {intervals : List (ℚ × ℚ)}
    (hordered : intervals.Pairwise fun a b => a.1 ≤ b.1) :
    volume (covered (intervals.map realInterval) ∩ Set.Ici (reached : ℝ))
      = ENNReal.ofReal (coveredTime (some reached) intervals : ℚ) := by
  induction intervals generalizing reached with
  | nil => simp [coveredTime]
  | cons interval rest ih =>
    obtain ⟨start, stop⟩ := interval
    have hmap : ((start, stop) :: rest).map realInterval = ((start : ℝ), (stop : ℝ)) :: rest.map realInterval := rfl
    have hrest := ih (max stop reached) (List.Pairwise.of_cons hordered)
    rw [hmap, volume_covered_cons (starts_of_ordered hordered), max_comm (reached : ℝ), ← Rat.cast_max stop reached,
      hrest, coveredTime_some, ofReal_part _ _ (coveredTime_nonneg _ _), Rat.cast_sub, Rat.cast_max start reached]

theorem volume_covered {intervals : List (ℚ × ℚ)} (hordered : intervals.Pairwise fun a b => a.1 ≤ b.1) :
    volume (covered (intervals.map realInterval)) = ENNReal.ofReal (coveredTime none intervals : ℚ) := by
  cases intervals with
  | nil => simp [coveredTime]
  | cons interval rest =>
    obtain ⟨start, stop⟩ := interval
    have hmap : ((start, stop) :: rest).map realInterval = ((start : ℝ), (stop : ℝ)) :: rest.map realInterval := rfl
    rw [hmap, volume_covered_first (starts_of_ordered hordered), volume_beyond stop (List.Pairwise.of_cons hordered),
      coveredTime_none, ofReal_part _ _ (coveredTime_nonneg _ _), Rat.cast_sub]

end intervals

variable {later : String} {laterInstant : ℚ}

section clock

variable {host : JavaScriptHost} {snapshot : AssignmentSnapshotV2} {now : String} {created until_ : ℚ}

private theorem instant_isSome {time : String} (h : (host.parseDate time).isSome) : (host.instant time).isSome := by
  obtain ⟨parsed, hparsed⟩ := Option.isSome_iff_exists.1 h
  simp [JavaScriptHost.instant, hparsed]

private theorem mapM_isSome {α β : Type} {f : α → Option β} {entries : List α}
    (h : ∀ entry ∈ entries, (f entry).isSome) : ∃ values, entries.mapM f = some values := by
  induction entries with
  | nil => exact ⟨[], rfl⟩
  | cons entry rest ih =>
    obtain ⟨value, hvalue⟩ := Option.isSome_iff_exists.1 (h entry List.mem_cons_self)
    obtain ⟨values, hvalues⟩ := ih fun later hlater => h later (List.mem_cons_of_mem entry hlater)
    exact ⟨value :: values, by simp [List.mapM_cons, hvalue, hvalues]⟩

private theorem mem_of_mapM {α β : Type} {f : α → Option β} {entries : List α} {values : List β}
    (h : entries.mapM f = some values) (value : β) :
    value ∈ values ↔ ∃ entry ∈ entries, f entry = some value := by
  induction entries generalizing values with
  | nil =>
    cases h
    simp
  | cons entry rest ih =>
    rw [List.mapM_cons] at h
    obtain ⟨first, hfirst, h⟩ := Option.bind_eq_some_iff.1 h
    obtain ⟨later, hlater, h⟩ := Option.bind_eq_some_iff.1 h
    cases h
    rw [List.mem_cons, ih hlater, List.exists_mem_cons_iff, hfirst, Option.some.injEq, eq_comm]

theorem createdAt_mem : snapshot.spec.created_at ∈ clockTimestamps snapshot := by simp [clockTimestamps]

theorem providerInterval_isSome (hparse : TimestampsParse host snapshot) (hnow : (host.parseDate now).isSome)
    {call : ProviderCallV2} (hcall : call ∈ snapshot.provider_calls.values) :
    (providerInterval host now call).isSome := by
  have hread : ∀ time ∈ call.admitted_at :: (call.completed_at.toList ++ call.response_transport_completed_at.toList),
      (host.instant time).isSome := by
    intro time htime
    refine instant_isSome (hparse time ?_)
    simp only [clockTimestamps, List.cons_append, List.mem_cons, List.mem_append, List.mem_flatMap]
    exact .inr (.inl ⟨call, hcall, by simpa using htime⟩)
  obtain ⟨start, hstart⟩ := Option.isSome_iff_exists.1 (hread call.admitted_at List.mem_cons_self)
  have hstop : (host.instant ((call.completed_at <|> call.response_transport_completed_at).getD now)).isSome := by
    cases hcompleted : call.completed_at with
    | some completed => exact hread completed (by simp [hcompleted])
    | none =>
      cases htransport : call.response_transport_completed_at with
      | some completed => exact hread completed (by simp [htransport])
      | none => exact instant_isSome hnow
  obtain ⟨stop, hstop⟩ := Option.isSome_iff_exists.1 hstop
  rw [providerInterval, hstart]
  cases hduration : call.provider_duration_ms with
  | none =>
    rw [hstop]
    rfl
  | some duration =>
    cases duration with
    | none =>
      rw [hstop]
      rfl
    | some duration => rfl

theorem operationInterval_isSome (hparse : TimestampsParse host snapshot) (hnow : (host.parseDate now).isSome)
    {operation : OperationV2} (hoperation : operation ∈ snapshot.operations.values) :
    (operationInterval host now operation).isSome := by
  have hread : ∀ time ∈ operation.opened_at :: operation.settled_at.toList, (host.instant time).isSome := by
    intro time htime
    refine instant_isSome (hparse time ?_)
    simp only [clockTimestamps, List.cons_append, List.mem_cons, List.mem_append, List.mem_flatMap]
    exact .inr (.inr ⟨operation, hoperation, by simpa using htime⟩)
  obtain ⟨start, hstart⟩ := Option.isSome_iff_exists.1 (hread operation.opened_at List.mem_cons_self)
  have hstop : (host.instant (operation.settled_at.getD now)).isSome := by
    cases hsettled : operation.settled_at with
    | some settled => exact hread settled (by simp [hsettled])
    | none => exact instant_isSome hnow
  obtain ⟨stop, hstop⟩ := Option.isSome_iff_exists.1 hstop
  simp [operationInterval, hstart, hstop]

/-- The active time is finite when the timestamps parse, and it measures the
    instants at which work is charged. -/
theorem activeTime_measures (hparse : TimestampsParse host snapshot) (hnow : host.instant now = some until_)
    (hcreated : host.instant snapshot.spec.created_at = some created) :
    ∃ elapsed, assignmentActiveExecutionTimeMsV2 host snapshot now = some elapsed ∧ 0 ≤ elapsed
      ∧ volume (activeInstants host snapshot now created until_) = ENNReal.ofReal (elapsed : ℝ) := by
  have hparsed : (host.parseDate now).isSome := by
    by_contra hnone
    rw [Option.not_isSome_iff_eq_none] at hnone
    simp [JavaScriptHost.instant, hnone] at hnow
  obtain ⟨calls, hcalls⟩ := mapM_isSome fun call hcall => providerInterval_isSome hparse hparsed hcall
  obtain ⟨operations, hoperations⟩ :=
    mapM_isSome fun operation hoperation => operationInterval_isSome hparse hparsed hoperation
  have hordered : (((calls ++ operations).map (boundedInterval created until_)).insertionSort
      fun a b => a.1 ≤ b.1).Pairwise fun a b => a.1 ≤ b.1 := List.pairwise_insertionSort _ _
  refine ⟨coveredTime none (((calls ++ operations).map (boundedInterval created until_)).insertionSort
    fun a b => a.1 ≤ b.1), ?_, coveredTime_nonneg _ _, ?_⟩
  · simp [assignmentActiveExecutionTimeMsV2, hnow, hcreated, hcalls, hoperations]
  · rw [← volume_covered hordered]
    congr 1
    ext t
    have hcharged : ∀ interval, interval ∈ calls ++ operations ↔ Charged host snapshot now interval := fun interval => by
      rw [List.mem_append, mem_of_mapM hcalls, mem_of_mapM hoperations, Charged]
    constructor
    · rintro ⟨hwindow, interval, hinterval, hwithin⟩
      refine ⟨realInterval (boundedInterval created until_ interval), ?_,
        (boundedInterval_iff created until_ interval t).2 ⟨hwindow, hwithin⟩⟩
      rw [List.mem_map]
      refine ⟨boundedInterval created until_ interval, ?_, rfl⟩
      rw [List.mem_insertionSort]
      exact List.mem_map_of_mem ((hcharged interval).2 hinterval)
    · rintro ⟨clipped, hclipped, hwithin⟩
      obtain ⟨bounded, hbounded, rfl⟩ := List.mem_map.1 hclipped
      rw [List.mem_insertionSort] at hbounded
      obtain ⟨interval, hinterval, rfl⟩ := List.mem_map.1 hbounded
      obtain ⟨hwindow, hinside⟩ := (boundedInterval_iff created until_ interval t).1 hwithin
      exact ⟨hwindow, interval, (hcharged interval).1 hinterval, hinside⟩

theorem activeInstants_subset :
    activeInstants host snapshot now created until_ ⊆ Set.Ico (created : ℝ) until_ := fun _ h => h.1

private theorem stop_later {stop : ℚ} (hnow : host.instant now = some until_)
    (hlater : host.instant later = some laterInstant) (hle : until_ ≤ laterInstant) (recorded : Option String)
    (h : host.instant (recorded.getD now) = some stop) :
    ∃ stop', host.instant (recorded.getD later) = some stop' ∧ stop ≤ stop' := by
  cases recorded with
  | some time => exact ⟨stop, h, le_rfl⟩
  | none =>
    rw [Option.getD_none, hnow] at h
    cases h
    exact ⟨laterInstant, hlater, hle⟩

theorem charged_later {interval : ℚ × ℚ} (hnow : host.instant now = some until_)
    (hlater : host.instant later = some laterInstant) (hle : until_ ≤ laterInstant)
    (hcharged : Charged host snapshot now interval) :
    ∃ stop, Charged host snapshot later (interval.1, stop) ∧ interval.2 ≤ stop := by
  rcases hcharged with ⟨call, hcall, hinterval⟩ | ⟨operation, hoperation, hinterval⟩
  · obtain ⟨start, hstart, hinterval⟩ := Option.bind_eq_some_iff.1 hinterval
    have hlonger : ∃ stop, providerInterval host later call = some (interval.1, stop) ∧ interval.2 ≤ stop := by
      rw [providerInterval, hstart]
      split at hinterval
      · cases hinterval
        exact ⟨_, rfl, le_rfl⟩
      · obtain ⟨stop, hstop, hinterval⟩ := Option.bind_eq_some_iff.1 hinterval
        cases hinterval
        obtain ⟨stop', hstop', hlonger⟩ := stop_later hnow hlater hle _ hstop
        refine ⟨stop', ?_, hlonger⟩
        rw [hstop']
        rfl
    obtain ⟨stop, hstop, hlonger⟩ := hlonger
    exact ⟨stop, .inl ⟨call, hcall, hstop⟩, hlonger⟩
  · obtain ⟨start, hstart, hinterval⟩ := Option.bind_eq_some_iff.1 hinterval
    obtain ⟨stop, hstop, hinterval⟩ := Option.bind_eq_some_iff.1 hinterval
    cases hinterval
    obtain ⟨stop', hstop', hlonger⟩ := stop_later hnow hlater hle _ hstop
    refine ⟨stop', .inr ⟨operation, hoperation, ?_⟩, hlonger⟩
    simp [operationInterval, hstart, hstop']

theorem activeInstants_later (hnow : host.instant now = some until_)
    (hlater : host.instant later = some laterInstant) (hle : until_ ≤ laterInstant) :
    activeInstants host snapshot now created until_ ⊆ activeInstants host snapshot later created laterInstant := by
  rintro t ⟨⟨hcreated, huntil⟩, interval, hcharged, hstart, hstop⟩
  obtain ⟨stop, hlater', hlonger⟩ := charged_later hnow hlater hle hcharged
  exact ⟨⟨hcreated, huntil.trans_le (Rat.cast_le.2 hle)⟩, (interval.1, stop), hlater', hstart,
    hstop.trans_le (Rat.cast_le.2 hlonger)⟩

theorem activeInstants_records {other : AssignmentSnapshotV2}
    (hcalls : snapshot.provider_calls.values ⊆ other.provider_calls.values)
    (hoperations : snapshot.operations.values ⊆ other.operations.values) :
    activeInstants host snapshot now created until_ ⊆ activeInstants host other now created until_ := by
  rintro t ⟨hwindow, interval, hcharged, hwithin⟩
  refine ⟨hwindow, interval, ?_, hwithin⟩
  rcases hcharged with ⟨call, hcall, hinterval⟩ | ⟨operation, hoperation, hinterval⟩
  · exact .inl ⟨call, hcalls hcall, hinterval⟩
  · exact .inr ⟨operation, hoperations hoperation, hinterval⟩

theorem timestampsParse_records {other : AssignmentSnapshotV2} (hcreated : snapshot.spec.created_at = other.spec.created_at)
    (hcalls : snapshot.provider_calls.values ⊆ other.provider_calls.values)
    (hoperations : snapshot.operations.values ⊆ other.operations.values) (hparse : TimestampsParse host other) :
    TimestampsParse host snapshot := by
  intro time htime
  refine hparse time ?_
  simp only [clockTimestamps, List.cons_append, List.mem_cons, List.mem_append, List.mem_flatMap] at htime ⊢
  rcases htime with rfl | ⟨call, hcall, htime⟩ | ⟨operation, hoperation, htime⟩
  · exact .inl hcreated
  · exact .inr (.inl ⟨call, hcalls hcall, htime⟩)
  · exact .inr (.inr ⟨operation, hoperations hoperation, htime⟩)

theorem elapsed_le {active later : Set ℝ} {elapsed total : ℚ} (hsubset : active ⊆ later)
    (helapsed : volume active = ENNReal.ofReal (elapsed : ℝ)) (htotal : volume later = ENNReal.ofReal (total : ℝ))
    (hnonneg : 0 ≤ total) : elapsed ≤ total := by
  have hle : ENNReal.ofReal (elapsed : ℝ) ≤ ENNReal.ofReal (total : ℝ) := by
    rw [← helapsed, ← htotal]
    exact measure_mono hsubset
  exact Rat.cast_le.1 ((ENNReal.ofReal_le_ofReal_iff (Rat.cast_nonneg.2 hnonneg)).1 hle)

theorem elapsed_le_life {elapsed : ℚ}
    (helapsed : volume (activeInstants host snapshot now created until_) = ENNReal.ofReal (elapsed : ℝ)) :
    elapsed ≤ max 0 (until_ - created) := by
  have hlife : volume (Set.Ico (created : ℝ) until_) = ENNReal.ofReal ((max 0 (until_ - created) : ℚ) : ℝ) := by
    rw [Real.volume_Ico, Rat.cast_max, Rat.cast_zero, Rat.cast_sub, ENNReal.ofReal_max, ENNReal.ofReal_zero,
      max_eq_right zero_le]
  exact elapsed_le activeInstants_subset helapsed hlife (le_max_left _ _)

/-- The active time is the length of the union of the charged intervals, so it
    stays within the life of the task, and it depends neither on the order of
    the records nor goes back with time or with a further record. -/
theorem activeExecutionTime_union (hparse : TimestampsParse host snapshot) (hnow : host.instant now = some until_) :
    ∃ created elapsed, host.instant snapshot.spec.created_at = some created
      ∧ assignmentActiveExecutionTimeMsV2 host snapshot now = some elapsed
      ∧ volume (activeInstants host snapshot now created until_) = ENNReal.ofReal (elapsed : ℝ)
      ∧ 0 ≤ elapsed ∧ elapsed ≤ max 0 (until_ - created)
      ∧ (∀ other : AssignmentSnapshotV2, other.spec.created_at = snapshot.spec.created_at
          → other.provider_calls.values.Perm snapshot.provider_calls.values
          → other.operations.values.Perm snapshot.operations.values
          → assignmentActiveExecutionTimeMsV2 host other now = some elapsed)
      ∧ (∀ later laterInstant, host.instant later = some laterInstant → until_ ≤ laterInstant
          → ∃ total, assignmentActiveExecutionTimeMsV2 host snapshot later = some total ∧ elapsed ≤ total)
      ∧ ∀ other : AssignmentSnapshotV2, other.spec.created_at = snapshot.spec.created_at → TimestampsParse host other
          → snapshot.provider_calls.values ⊆ other.provider_calls.values
          → snapshot.operations.values ⊆ other.operations.values
          → ∃ total, assignmentActiveExecutionTimeMsV2 host other now = some total ∧ elapsed ≤ total := by
  obtain ⟨created, hcreated⟩ := Option.isSome_iff_exists.1 (instant_isSome (hparse _ createdAt_mem))
  obtain ⟨elapsed, helapsed, hnonneg, hvolume⟩ := activeTime_measures hparse hnow hcreated
  refine ⟨created, elapsed, hcreated, helapsed, hvolume, hnonneg, elapsed_le_life hvolume, ?_, ?_, ?_⟩
  · intro other hsame hcalls hoperations
    have hparse' : TimestampsParse host other := timestampsParse_records hsame hcalls.subset hoperations.subset hparse
    obtain ⟨total, htotal, hnonneg', hvolume'⟩ := activeTime_measures hparse' hnow (hsame ▸ hcreated)
    have hle : total ≤ elapsed :=
      elapsed_le (activeInstants_records hcalls.subset hoperations.subset) hvolume' hvolume hnonneg
    have hge : elapsed ≤ total :=
      elapsed_le (activeInstants_records hcalls.symm.subset hoperations.symm.subset) hvolume hvolume' hnonneg'
    rw [htotal, le_antisymm hle hge]
  · intro later laterInstant hlater hle
    obtain ⟨total, htotal, hnonneg', hvolume'⟩ := activeTime_measures hparse hlater hcreated
    exact ⟨total, htotal, elapsed_le (activeInstants_later hnow hlater hle) hvolume hvolume' hnonneg'⟩
  · intro other hsame hparse' hcalls hoperations
    obtain ⟨total, htotal, hnonneg', hvolume'⟩ := activeTime_measures hparse' hnow (hsame ▸ hcreated)
    exact ⟨total, htotal, elapsed_le (activeInstants_records hcalls hoperations) hvolume hvolume' hnonneg'⟩

end clock

section worked

/-- The sample assignment with two edits, the second of which opens ten seconds before the
    first is settled. -/
def workedSnapshot : AssignmentSnapshotV2 :=
  { createdSnapshot ⟨"event-1", "assignment-1", 1, sampleBinding, sampleTime, "assignment-kernel",
      .assignment_created sampleSpec⟩ sampleSpec with
    operations := .ofPairs [
      ("operation-1", { sampleEdit "operation-1" with settled_at := some "2026-07-20T00:00:30.000Z" }),
      ("operation-2", { sampleEdit "operation-2" with
        opened_at := "2026-07-20T00:00:20.000Z"
        settled_at := some "2026-07-20T00:00:50.000Z" })] }

/-- Of the two half minutes the ten seconds they share are charged once. -/
theorem activeExecutionTime_union_worked :
    ∃ created, asciiHost.instant workedSnapshot.spec.created_at = some created
      ∧ assignmentActiveExecutionTimeMsV2 asciiHost workedSnapshot "2026-07-20T00:01:00.000Z" = some 50000
      ∧ volume (activeInstants asciiHost workedSnapshot "2026-07-20T00:01:00.000Z" created 1784505660000)
        = ENNReal.ofReal ((50000 : ℚ) : ℝ) := by
  have hparse : TimestampsParse asciiHost workedSnapshot := by
    unfold TimestampsParse
    decide +kernel
  have hnow : asciiHost.instant "2026-07-20T00:01:00.000Z" = some 1784505660000 := by decide +kernel
  have hcharged : assignmentActiveExecutionTimeMsV2 asciiHost workedSnapshot "2026-07-20T00:01:00.000Z"
      = some 50000 := by decide +kernel
  obtain ⟨created, elapsed, hcreated, helapsed, hvolume, _⟩ := activeExecutionTime_union hparse hnow
  obtain rfl := Option.some.inj (helapsed.symm.trans hcharged)
  exact ⟨created, hcreated, hcharged, hvolume⟩

/-- Before its creation a task has no negative active time. -/
theorem activeExecutionTime_before_creation :
    ¬ ∀ (host : JavaScriptHost) (snapshot : AssignmentSnapshotV2) (now : String) (created until_ elapsed : ℚ),
      TimestampsParse host snapshot → host.instant now = some until_
        → host.instant snapshot.spec.created_at = some created
        → assignmentActiveExecutionTimeMsV2 host snapshot now = some elapsed → elapsed ≤ until_ - created := by
  intro h
  have hparse : TimestampsParse asciiHost workedSnapshot := by
    unfold TimestampsParse
    decide +kernel
  have hcreated : asciiHost.instant workedSnapshot.spec.created_at = some 1784505600000 := by decide +kernel
  have hnow : asciiHost.instant "2026-07-19T00:00:00.000Z" = some 1784419200000 := by decide +kernel
  have helapsed : assignmentActiveExecutionTimeMsV2 asciiHost workedSnapshot "2026-07-19T00:00:00.000Z" = some 0 := by
    decide +kernel
  have hle := h asciiHost workedSnapshot _ _ _ 0 hparse hnow hcreated helapsed
  norm_num at hle

end worked

end revit_operator.assignment_kernel
