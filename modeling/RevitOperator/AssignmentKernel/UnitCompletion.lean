import RevitOperator.AssignmentKernel.Coherence
import RevitOperator.AssignmentKernel.JournalBuilder
import RevitOperator.AssignmentKernel.Planning

open checked checked_run

namespace revit_operator.assignment_kernel

/-- The verdict lets a work unit be complete. -/
def CriterionEvaluationV2.Met (evaluation : CriterionEvaluationV2) : Prop :=
  evaluation.status = .pass ∨ evaluation.status = .not_applicable

/-- Every criterion of the unit is evaluated, and met. -/
def AssignmentWorkUnitSpecV2.Met (unit : AssignmentWorkUnitSpecV2) (criteria : Record CriterionEvaluationV2) : Prop :=
  ∀ id ∈ unit.criterion_ids, ∃ evaluation, criteria.get? id = some evaluation ∧ evaluation.Met

/-- What the unit has may be retained: every criterion is evaluated and one of
    them passes at least in part. -/
def AssignmentWorkUnitSpecV2.Retainable (unit : AssignmentWorkUnitSpecV2)
    (criteria : Record CriterionEvaluationV2) : Prop :=
  unit.safe_to_retain = true ∧ (∀ id ∈ unit.criterion_ids, ∃ evaluation, criteria.get? id = some evaluation)
    ∧ ∃ id ∈ unit.criterion_ids, ∃ evaluation, criteria.get? id = some evaluation
      ∧ (evaluation.status = .pass ∨ evaluation.status = .partial_)

/-- A complete work unit that lists criteria has all of them met. -/
def CompletionTracksCriteria (snapshot : AssignmentSnapshotV2) : Prop :=
  ∀ unit ∈ snapshot.spec.work_units, unit.criterion_ids ≠ [] →
    snapshot.work_unit_states.get? unit.work_unit_id = some .complete → unit.Met snapshot.criteria

/-- The event takes away what a complete work unit rests on and leaves nothing
    to retain: a verdict that differs from the one recorded for a criterion of
    the unit, or an answer that discards a criterion the unit shares with a unit
    that depends on the answer. -/
inductive ContestsCompletion (snapshot : AssignmentSnapshotV2) (event : AssignmentEventV2) : Prop
  | overruled (evaluation earlier : CriterionEvaluationV2) (unit : AssignmentWorkUnitSpecV2)
      (hbody : event.body = .criterion_evaluated evaluation)
      (hearlier : snapshot.criteria.get? evaluation.criterion_id = some earlier) (hmet : earlier.Met)
      (hdiffers : evaluation.status ≠ earlier.status) (hunit : unit ∈ snapshot.spec.work_units)
      (hlists : evaluation.criterion_id ∈ unit.criterion_ids)
      (hcomplete : snapshot.work_unit_states.get? unit.work_unit_id = some .complete)
      (hlost : unit.safe_to_retain = true → ∀ id ∈ unit.criterion_ids, id ≠ evaluation.criterion_id →
        ∀ other, snapshot.criteria.get? id = some other → other.status ≠ .pass) :
      ContestsCompletion snapshot event
  | discarded (variableId clarificationId criterionId : String) (value : Option Json)
      (dependent unit : AssignmentWorkUnitSpecV2)
      (hbody : event.body
        = .input_supplied variableId clarificationId value (some INVALIDATE_DEPENDENT_RESULTS_V1))
      (hdependent : dependent ∈ snapshot.spec.work_units)
      (hneeds : variableId ∈ workUnitInputVariableIdsV2 snapshot dependent.work_unit_id)
      (hdiscards : criterionId ∈ dependent.criterion_ids) (hunit : unit ∈ snapshot.spec.work_units)
      (hfree : variableId ∉ workUnitInputVariableIdsV2 snapshot unit.work_unit_id)
      (hlists : criterionId ∈ unit.criterion_ids)
      (hcomplete : snapshot.work_unit_states.get? unit.work_unit_id = some .complete) :
      ContestsCompletion snapshot event

/-- The units of the specification have identities of their own. -/
def AssignmentSpecV2.UnitsApart (spec : AssignmentSpecV2) : Prop :=
  (spec.work_units.map AssignmentWorkUnitSpecV2.work_unit_id).Nodup

section projection

variable {host : JavaScriptHost} {snapshot : AssignmentSnapshotV2} {unit : AssignmentWorkUnitSpecV2}

private theorem met_test {row : CriterionEvaluationV2} :
    (row.status == .pass || row.status == .not_applicable) = true ↔ row.Met := by
  simp [CriterionEvaluationV2.Met]

private theorem evaluated_of_mapM {criteria : Record CriterionEvaluationV2} {evaluations : List CriterionEvaluationV2}
    {ids : List String} (h : ids.mapM criteria.get? = some evaluations) :
    ∀ id ∈ ids, ∃ row, criteria.get? id = some row := by
  intro id hid
  rw [← Option.ne_none_iff_exists']
  intro hnone
  rw [Record.mapM_get?_eq_none.2 ⟨id, hid, hnone⟩] at h
  cases h

theorem projectedUnitState_of_open (hopen : ¬ unit.Met snapshot.criteria) :
    unit.Retainable snapshot.criteria ∧ projectedUnitState snapshot unit = some .retained
      ∨ ¬ unit.Retainable snapshot.criteria ∧ projectedUnitState snapshot unit = none := by
  unfold projectedUnitState
  cases hrows : unit.criterion_ids.mapM snapshot.criteria.get? with
  | none =>
    obtain ⟨id, hid, hnone⟩ := Record.mapM_get?_eq_none.1 hrows
    refine .inr ⟨?_, rfl⟩
    rintro ⟨-, hall, -⟩
    obtain ⟨row, hrow⟩ := hall id hid
    rw [hnone] at hrow
    cases hrow
  | some evaluations =>
    have hmem : ∀ row, row ∈ evaluations ↔ ∃ id ∈ unit.criterion_ids, snapshot.criteria.get? id = some row :=
      fun _ => Record.mem_of_mapM_get? hrows
    have hfound := evaluated_of_mapM hrows
    have hall : ¬ (evaluations.all fun row => row.status == .pass || row.status == .not_applicable) = true := by
      intro hall
      refine hopen fun id hid => ?_
      obtain ⟨row, hrow⟩ := hfound id hid
      exact ⟨row, hrow, met_test.1 (List.all_eq_true.1 hall row ((hmem row).2 ⟨id, hid, hrow⟩))⟩
    have hsome : evaluations.isEmpty = false := by
      cases evaluations with
      | nil => simp at hall
      | cons => rfl
    have hretain : (unit.safe_to_retain && evaluations.any fun row => row.status == .pass || row.status == .partial_)
        = true ↔ unit.Retainable snapshot.criteria := by
      rw [Bool.and_eq_true, List.any_eq_true]
      constructor
      · rintro ⟨hsafe, row, hrow, hpasses⟩
        obtain ⟨id, hid, hkept⟩ := (hmem row).1 hrow
        exact ⟨hsafe, hfound, id, hid, row, hkept, by simpa using hpasses⟩
      · rintro ⟨hsafe, -, id, hid, row, hkept, hpasses⟩
        exact ⟨hsafe, row, (hmem row).2 ⟨id, hid, hkept⟩, by simpa using hpasses⟩
    simp only [hsome, Bool.false_eq_true, if_false, if_neg hall]
    by_cases hretained : unit.Retainable snapshot.criteria
    · exact .inl ⟨hretained, if_pos (hretain.2 hretained)⟩
    · exact .inr ⟨hretained, if_neg fun h => hretained (hretain.1 h)⟩

theorem projectWorkUnitCriteria_get? (hapart : snapshot.spec.UnitsApart) (hunit : unit ∈ snapshot.spec.work_units) :
    (projectWorkUnitCriteria snapshot).work_unit_states.get? unit.work_unit_id
      = (projectedUnitState snapshot unit).or (snapshot.work_unit_states.get? unit.work_unit_id) := by
  have hfold : (projectWorkUnitCriteria snapshot).work_unit_states
      = snapshot.spec.work_units.foldl
        (Record.setDecided AssignmentWorkUnitSpecV2.work_unit_id (projectedUnitState snapshot))
        snapshot.work_unit_states := by
    refine congrArg (fun set => List.foldl set snapshot.work_unit_states snapshot.spec.work_units) ?_
    funext states listed
    unfold Record.setDecided
    cases projectedUnitState snapshot listed <;> rfl
  rw [hfold, Record.get?_foldl_setDecided (projectedUnitState snapshot) hapart hunit]

/-- After the projection a unit with an open criterion is complete when it was
    and nothing can be retained. -/
theorem projectWorkUnitCriteria_complete_iff (hapart : snapshot.spec.UnitsApart)
    (hunit : unit ∈ snapshot.spec.work_units) (hopen : ¬ unit.Met snapshot.criteria) :
    (projectWorkUnitCriteria snapshot).work_unit_states.get? unit.work_unit_id = some .complete
      ↔ snapshot.work_unit_states.get? unit.work_unit_id = some .complete ∧ ¬ unit.Retainable snapshot.criteria := by
  rw [projectWorkUnitCriteria_get? hapart hunit]
  rcases projectedUnitState_of_open hopen with ⟨hretained, hstate⟩ | ⟨hretained, hstate⟩
  · simp [hstate, hretained]
  · simp [hstate, hretained]

end projection

variable {states : Record AssignmentWorkUnitStateV2}

section step

variable {host : JavaScriptHost} {state : ReducerStateV2} {snapshot next : AssignmentSnapshotV2}
  {event : AssignmentEventV2} {planning : PlanningRecord}

/-- A unit counts as complete with a criterion open and nothing to retain. -/
def Overclaims (units : List AssignmentWorkUnitSpecV2) (criteria : Record CriterionEvaluationV2)
    (states : Record AssignmentWorkUnitStateV2) : Prop :=
  ∃ unit ∈ units, states.get? unit.work_unit_id = some .complete ∧ ¬ unit.Met criteria ∧ ¬ unit.Retainable criteria

theorem projectWorkUnitCriteria_overclaims_iff (snapshot : AssignmentSnapshotV2)
    (hapart : snapshot.spec.UnitsApart) :
    Overclaims snapshot.spec.work_units snapshot.criteria (projectWorkUnitCriteria snapshot).work_unit_states
      ↔ Overclaims snapshot.spec.work_units snapshot.criteria snapshot.work_unit_states := by
  constructor
  · rintro ⟨unit, hunit, hcomplete, hopen, hlost⟩
    exact ⟨unit, hunit, ((projectWorkUnitCriteria_complete_iff hapart hunit hopen).1 hcomplete).1, hopen, hlost⟩
  · rintro ⟨unit, hunit, hcomplete, hopen, hlost⟩
    exact ⟨unit, hunit, (projectWorkUnitCriteria_complete_iff hapart hunit hopen).2 ⟨hcomplete, hlost⟩, hopen, hlost⟩

/-- The derived state tracks the criteria unless the event left an
    overclaim. -/
theorem withDerivedState_tracks_iff (host : JavaScriptHost) (next : AssignmentSnapshotV2)
    (hapart : next.spec.UnitsApart) :
    CompletionTracksCriteria (withDerivedState host next)
      ↔ ¬ Overclaims next.spec.work_units next.criteria next.work_unit_states := by
  have hproject : ∀ unit ∈ next.spec.work_units, ¬ unit.Met next.criteria →
      ((withDerivedState host next).work_unit_states.get? unit.work_unit_id = some .complete
        ↔ next.work_unit_states.get? unit.work_unit_id = some .complete ∧ ¬ unit.Retainable next.criteria) := by
    intro unit hunit hopen
    have hindexed : ¬ unit.Met (withLedgerIndex next).criteria := hopen
    exact projectWorkUnitCriteria_complete_iff hapart hunit hindexed
  constructor
  · rintro htracks ⟨unit, hunit, hcomplete, hopen, hlost⟩
    have hlists : unit.criterion_ids ≠ [] := fun hnil => hopen (by simp [AssignmentWorkUnitSpecV2.Met, hnil])
    exact hopen (htracks unit hunit hlists ((hproject unit hunit hopen).2 ⟨hcomplete, hlost⟩))
  · intro hnone unit hunit hlists hcomplete
    by_contra hopen
    obtain ⟨hbefore, hlost⟩ := (hproject unit hunit hopen).1 hcomplete
    exact hnone ⟨unit, hunit, hbefore, hopen, hlost⟩

/-- Where completion tracks the criteria, states that add no completion
    overclaim nothing. -/
theorem CompletionTracksCriteria.not_overclaims (htracks : CompletionTracksCriteria snapshot)
    (hstates : ∀ id, states.get? id = some .complete → snapshot.work_unit_states.get? id = some .complete) :
    ¬ Overclaims snapshot.spec.work_units snapshot.criteria states := by
  rintro ⟨unit, hunit, hcomplete, hopen, -⟩
  have hlists : unit.criterion_ids ≠ [] := fun hnil => hopen (by simp [AssignmentWorkUnitSpecV2.Met, hnil])
  exact hopen (htracks unit hunit hlists (hstates _ hcomplete))

/-- The event gives a verdict or an answer. -/
def AssignmentEventBodyV2.judges : AssignmentEventBodyV2 → Bool
  | .criterion_evaluated .. | .input_supplied .. => true
  | _ => false

theorem ContestsCompletion.judges (h : ContestsCompletion snapshot event) : event.body.judges = true := by
  cases h with
  | overruled evaluation earlier unit hbody => rw [hbody]; rfl
  | discarded variableId clarificationId criterionId value dependent unit hbody => rw [hbody]; rfl

/-- An event that judges nothing and completes nothing neither overclaims nor
    contests. -/
private theorem idle_overclaims_iff (htracks : CompletionTracksCriteria snapshot)
    {body : AssignmentEventBodyV2} (hbody : event.body = body) (hidle : body.judges = false)
    (hstates : ∀ id, states.get? id = some .complete → snapshot.work_unit_states.get? id = some .complete) :
    Overclaims snapshot.spec.work_units snapshot.criteria states ↔ ContestsCompletion snapshot event := by
  refine iff_of_false (htracks.not_overclaims hstates) fun hcontests => ?_
  rw [← hbody, hcontests.judges] at hidle
  cases hidle

private theorem set_completes_nothing {unitId id : String}
    {unitState : AssignmentWorkUnitStateV2} (hother : unitState ≠ .complete)
    (h : (states.set unitId unitState).get? id = some .complete) : states.get? id = some .complete := by
  rw [Record.get?_set] at h
  split_ifs at h
  · exact absurd (Option.some.inj h) hother
  · exact h

theorem mergeEvaluation_status_of_met {earlier : CriterionEvaluationV2} (hmet : earlier.Met)
    (evaluation : CriterionEvaluationV2) :
    (mergeEvaluation (some earlier) evaluation).status
      = if evaluation.status = earlier.status then earlier.status else .uncertain := by
  have hsettled : earlier.status ≠ .needs_input ∧ earlier.status ≠ .needs_review ∧ earlier.status ≠ .partial_
      ∧ earlier.status ≠ .uncertain := by
    rcases hmet with hpass | hskip
    · simp [hpass]
    · simp [hskip]
  unfold mergeEvaluation
  by_cases hsame : evaluation.status = earlier.status
  · simp [hsame]
  · simp [hsettled, hsame, Ne.symm hsame]

theorem overclaims_of_overruled (htracks : CompletionTracksCriteria snapshot)
    {evaluation earlier : CriterionEvaluationV2} {unit : AssignmentWorkUnitSpecV2}
    (hearlier : snapshot.criteria.get? evaluation.criterion_id = some earlier) (hmet : earlier.Met)
    (hdiffers : evaluation.status ≠ earlier.status) (hunit : unit ∈ snapshot.spec.work_units)
    (hlists : evaluation.criterion_id ∈ unit.criterion_ids)
    (hcomplete : snapshot.work_unit_states.get? unit.work_unit_id = some .complete)
    (hlost : unit.safe_to_retain = true → ∀ id ∈ unit.criterion_ids, id ≠ evaluation.criterion_id →
      ∀ other, snapshot.criteria.get? id = some other → other.status ≠ .pass) :
    Overclaims snapshot.spec.work_units (snapshot.criteria.set evaluation.criterion_id
      (mergeEvaluation (snapshot.criteria.get? evaluation.criterion_id) evaluation)) snapshot.work_unit_states := by
  have hstatus := mergeEvaluation_status_of_met hmet evaluation
  rw [if_neg hdiffers] at hstatus
  have hbefore := htracks unit hunit (List.ne_nil_of_mem hlists) hcomplete
  rw [hearlier]
  refine ⟨unit, hunit, hcomplete, ?_, ?_⟩
  · intro hafter
    obtain ⟨row, hrow, hrowMet⟩ := hafter _ hlists
    rw [Record.get?_set_self] at hrow
    cases hrow
    simp [CriterionEvaluationV2.Met, hstatus] at hrowMet
  · rintro ⟨hsafe, -, id, hid, row, hrow, hpasses⟩
    by_cases hsame : id = evaluation.criterion_id
    · rw [hsame, Record.get?_set_self] at hrow
      cases hrow
      simp [hstatus] at hpasses
    · rw [Record.get?_set_of_ne hsame] at hrow
      obtain ⟨kept, hkept, hkeptMet⟩ := hbefore id hid
      obtain rfl : row = kept := by simpa [hrow] using hkept
      have hpass : row.status = .pass := by
        rcases hkeptMet with hpass | hskip
        · exact hpass
        · simp [hskip] at hpasses
      exact hlost hsafe id hid hsame row hrow hpass

theorem evaluated_overclaims_iff (htracks : CompletionTracksCriteria snapshot) {evaluation : CriterionEvaluationV2}
    (hbody : event.body = .criterion_evaluated evaluation) :
    Overclaims snapshot.spec.work_units (snapshot.criteria.set evaluation.criterion_id
        (mergeEvaluation (snapshot.criteria.get? evaluation.criterion_id) evaluation)) snapshot.work_unit_states
      ↔ ContestsCompletion snapshot event := by
  constructor
  · rintro ⟨unit, hunit, hcomplete, hopen, hlost⟩
    have hbefore : unit.Met snapshot.criteria := by
      refine htracks unit hunit (fun hnil => hopen ?_) hcomplete
      simp [AssignmentWorkUnitSpecV2.Met, hnil]
    have hother : ∀ id ∈ unit.criterion_ids, id ≠ evaluation.criterion_id → ∃ row,
        (snapshot.criteria.set evaluation.criterion_id
          (mergeEvaluation (snapshot.criteria.get? evaluation.criterion_id) evaluation)).get? id = some row
          ∧ row.Met := by
      intro id hid hne
      rw [Record.get?_set_of_ne hne]
      exact hbefore id hid
    have hlists : evaluation.criterion_id ∈ unit.criterion_ids := by
      by_contra habsent
      exact hopen fun id hid => hother id hid fun heq => habsent (heq ▸ hid)
    obtain ⟨earlier, hearlier, hmet⟩ := hbefore _ hlists
    rw [hearlier] at hopen hlost hother
    have hstatus := mergeEvaluation_status_of_met hmet evaluation
    refine .overruled evaluation earlier unit hbody hearlier hmet ?_ hunit hlists hcomplete ?_
    · intro hsame
      rw [if_pos hsame] at hstatus
      refine hopen fun id hid => ?_
      by_cases hid' : id = evaluation.criterion_id
      · refine ⟨_, by rw [hid', Record.get?_set_self], ?_⟩
        rw [CriterionEvaluationV2.Met, hstatus]
        exact hmet
      · exact hother id hid hid'
    · intro hsafe id hid hne other hkept hpass
      refine hlost ⟨hsafe, ?_, id, hid, other, by rw [Record.get?_set_of_ne hne]; exact hkept, .inl hpass⟩
      intro listed hlisted
      by_cases hsame : listed = evaluation.criterion_id
      · exact ⟨_, by rw [hsame, Record.get?_set_self]⟩
      · obtain ⟨row, hrow, -⟩ := hother listed hlisted hsame
        exact ⟨row, hrow⟩
  · intro hcontests
    cases hcontests with
    | overruled evaluation' earlier unit hbody' hearlier hmet hdiffers hunit hlists hcomplete hlost =>
      rw [hbody] at hbody'
      cases hbody'
      exact overclaims_of_overruled htracks hearlier hmet hdiffers hunit hlists hcomplete hlost
    | discarded variableId clarificationId criterionId value dependent unit hbody' =>
      rw [hbody] at hbody'
      cases hbody'

/-- A unit of the specification depends on the variable. -/
def DependsOn (snapshot : AssignmentSnapshotV2) (variableId : String) (unit : AssignmentWorkUnitSpecV2) : Prop :=
  unit ∈ snapshot.spec.work_units ∧ variableId ∈ workUnitInputVariableIdsV2 snapshot unit.work_unit_id

private theorem mem_dependents {variableId : String} {unit : AssignmentWorkUnitSpecV2} :
    unit ∈ (snapshot.spec.work_units.filter fun unit =>
        (workUnitInputVariableIdsV2 snapshot unit.work_unit_id).contains variableId)
      ↔ DependsOn snapshot variableId unit := by
  rw [List.mem_filter, List.contains_iff_mem]
  exact Iff.rfl

/-- A new answer discards the criteria of the units that depend on it and no
    others. -/
theorem invalidate_criteria (snapshot : AssignmentSnapshotV2) (variableId id : String) :
    (∃ unit, DependsOn snapshot variableId unit ∧ id ∈ unit.criterion_ids)
        ∧ (invalidateDependentInputResultsV2 snapshot variableId).criteria.get? id = none
      ∨ (∀ unit, DependsOn snapshot variableId unit → id ∉ unit.criterion_ids)
        ∧ (invalidateDependentInputResultsV2 snapshot variableId).criteria.get? id = snapshot.criteria.get? id := by
  unfold invalidateDependentInputResultsV2
  dsimp only
  split
  · next hnone =>
    refine .inr ⟨fun unit hunit => ?_, rfl⟩
    rw [List.isEmpty_iff] at hnone
    rw [← mem_dependents, hnone] at hunit
    cases hunit
  · dsimp only
    rw [Record.get?_foldl_delete]
    split_ifs with hid
    · obtain ⟨unit, hunit, hlists⟩ := List.mem_flatMap.1 hid
      exact .inl ⟨⟨unit, mem_dependents.1 hunit, hlists⟩, rfl⟩
    · exact .inr ⟨fun unit hunit hlists => hid (List.mem_flatMap.2 ⟨unit, mem_dependents.2 hunit, hlists⟩), rfl⟩

theorem invalidate_work_unit_states (snapshot : AssignmentSnapshotV2) (variableId id : String) :
    (∃ unit, DependsOn snapshot variableId unit ∧ unit.work_unit_id = id)
        ∧ (invalidateDependentInputResultsV2 snapshot variableId).work_unit_states.get? id = some .pending
      ∨ (∀ unit, DependsOn snapshot variableId unit → unit.work_unit_id ≠ id)
        ∧ (invalidateDependentInputResultsV2 snapshot variableId).work_unit_states.get? id
          = snapshot.work_unit_states.get? id := by
  unfold invalidateDependentInputResultsV2
  dsimp only
  split
  · next hnone =>
    refine .inr ⟨fun unit hunit => ?_, rfl⟩
    rw [List.isEmpty_iff] at hnone
    rw [← mem_dependents, hnone] at hunit
    cases hunit
  · dsimp only
    rw [Record.get?_foldl_set_value]
    split_ifs with hid
    · obtain ⟨unit, hunit, rfl⟩ := List.mem_map.1 hid
      exact .inl ⟨⟨unit, mem_dependents.1 hunit, rfl⟩, rfl⟩
    · exact .inr ⟨fun unit hunit hsame => hid (List.mem_map.2 ⟨unit, mem_dependents.2 hunit, hsame⟩), rfl⟩

/-- Discarding the criteria of the dependent units overclaims exactly for a
    complete unit that keeps out of the answer and shares one of them. -/
theorem discarded_overclaims_iff (htracks : CompletionTracksCriteria snapshot) (variableId : String) :
    Overclaims snapshot.spec.work_units (invalidateDependentInputResultsV2 snapshot variableId).criteria
        (invalidateDependentInputResultsV2 snapshot variableId).work_unit_states
      ↔ ∃ dependent unit criterionId, DependsOn snapshot variableId dependent
        ∧ criterionId ∈ dependent.criterion_ids ∧ unit ∈ snapshot.spec.work_units
        ∧ variableId ∉ workUnitInputVariableIdsV2 snapshot unit.work_unit_id ∧ criterionId ∈ unit.criterion_ids
        ∧ snapshot.work_unit_states.get? unit.work_unit_id = some .complete := by
  constructor
  · rintro ⟨unit, hunit, hcomplete, hopen, -⟩
    rcases invalidate_work_unit_states snapshot variableId unit.work_unit_id with ⟨-, hstate⟩ | ⟨hfree, hstate⟩
    · rw [hstate] at hcomplete
      cases hcomplete
    · rw [hstate] at hcomplete
      have hbefore : unit.Met snapshot.criteria := by
        refine htracks unit hunit (fun hnil => hopen ?_) hcomplete
        simp [AssignmentWorkUnitSpecV2.Met, hnil]
      simp only [AssignmentWorkUnitSpecV2.Met, not_forall] at hopen
      obtain ⟨id, hid, hlost⟩ := hopen
      rcases invalidate_criteria snapshot variableId id with ⟨⟨dependent, hdependent, hshared⟩, -⟩ | ⟨-, hkept⟩
      · exact ⟨dependent, unit, id, hdependent, hshared, hunit, fun hneeds => hfree unit ⟨hunit, hneeds⟩ rfl, hid,
          hcomplete⟩
      · rw [hkept] at hlost
        exact absurd (hbefore id hid) hlost
  · rintro ⟨dependent, unit, id, hdependent, hshared, hunit, hfree, hid, hcomplete⟩
    have hgone : (invalidateDependentInputResultsV2 snapshot variableId).criteria.get? id = none := by
      rcases invalidate_criteria snapshot variableId id with ⟨-, hnone⟩ | ⟨hkept, -⟩
      · exact hnone
      · exact absurd hshared (hkept dependent hdependent)
    refine ⟨unit, hunit, ?_, ?_, ?_⟩
    · rcases invalidate_work_unit_states snapshot variableId unit.work_unit_id with ⟨⟨other, hother, hsame⟩, -⟩ | ⟨-, hstate⟩
      · exact absurd (hsame ▸ hother.2) hfree
      · rw [hstate]
        exact hcomplete
    · intro hmet
      obtain ⟨row, hrow, -⟩ := hmet id hid
      rw [hgone] at hrow
      cases hrow
    · rintro ⟨-, hall, -⟩
      obtain ⟨row, hrow⟩ := hall id hid
      rw [hgone] at hrow
      cases hrow

/-- An answer contests a completion exactly when it discards a criterion of a
    complete unit that keeps out of it. -/
theorem supplied_contests_iff {variableId clarificationId : String} {value : Option Json} {freshness : Option String}
    (hbody : event.body = .input_supplied variableId clarificationId value freshness) :
    ContestsCompletion snapshot event ↔ freshness = some INVALIDATE_DEPENDENT_RESULTS_V1
      ∧ ∃ dependent unit criterionId, DependsOn snapshot variableId dependent
        ∧ criterionId ∈ dependent.criterion_ids ∧ unit ∈ snapshot.spec.work_units
        ∧ variableId ∉ workUnitInputVariableIdsV2 snapshot unit.work_unit_id ∧ criterionId ∈ unit.criterion_ids
        ∧ snapshot.work_unit_states.get? unit.work_unit_id = some .complete := by
  constructor
  · intro hcontests
    cases hcontests with
    | overruled evaluation earlier unit hbody' =>
      rw [hbody] at hbody'
      cases hbody'
    | discarded variableId' clarificationId' criterionId value' dependent unit hbody' hdependent hneeds hdiscards hunit
        hfree hlists hcomplete =>
      rw [hbody] at hbody'
      cases hbody'
      exact ⟨rfl, dependent, unit, criterionId, ⟨hdependent, hneeds⟩, hdiscards, hunit, hfree, hlists, hcomplete⟩
  · rintro ⟨rfl, dependent, unit, criterionId, ⟨hdependent, hneeds⟩, hdiscards, hunit, hfree, hlists, hcomplete⟩
    exact .discarded variableId clarificationId criterionId value dependent unit hbody hdependent hneeds hdiscards hunit
      hfree hlists hcomplete

/-- After an event of the current run, before the projection, a unit is
    overclaimed exactly when the event contests a completion. -/
theorem PlanningEffect.overclaims_iff (h : PlanningEffect host state snapshot event planning)
    (hapart : snapshot.spec.UnitsApart) (htracks : CompletionTracksCriteria snapshot)
    (hexplicit : ∀ id unitState, event.body ≠ .work_unit_state_changed id unitState) :
    Overclaims snapshot.spec.work_units planning.criteria planning.work_unit_states
      ↔ ContestsCompletion snapshot event := by
  cases h with
  | quiet hbody =>
    refine iff_of_false (htracks.not_overclaims fun _ => id) fun hcontests => ?_
    have hjudges := hcontests.judges
    cases hkind : event.body <;> simp_all [AssignmentEventBodyV2.judges, AssignmentEventBodyV2.plans]
  | unit_changed id unitState hbody => exact absurd hbody (hexplicit id unitState)
  | requested variableId clarificationId question declaration hbody =>
    exact idle_overclaims_iff htracks hbody rfl fun _ => id
  | supplied variableId clarificationId value freshness hbody =>
    rw [supplied_contests_iff hbody]
    have hanswered : CompletionTracksCriteria
        (answeredSnapshot snapshot event.occurred_at variableId clarificationId value) := htracks
    by_cases hfresh : freshness = some INVALIDATE_DEPENDENT_RESULTS_V1
    · simp only [hfresh, true_and]
      exact discarded_overclaims_iff hanswered variableId
    · simp only [hfresh, false_and, iff_false]
      exact hanswered.not_overclaims fun _ => id
  | admitted operation hbody =>
    exact idle_overclaims_iff htracks hbody rfl fun _ => set_completes_nothing (by decide)
  | retained observation unitId useful hbody =>
    refine idle_overclaims_iff htracks hbody rfl fun id hcomplete => ?_
    cases useful with
    | false => exact hcomplete
    | true => exact set_completes_nothing (by decide) hcomplete
  | evaluated evaluation hbody =>
    have hproject := projectWorkUnitCriteria_overclaims_iff { snapshot with
      criteria := snapshot.criteria.set evaluation.criterion_id
        (mergeEvaluation (snapshot.criteria.get? evaluation.criterion_id) evaluation)
      criterion_evaluation_versions := snapshot.criterion_evaluation_versions.set evaluation.criterion_id
        snapshot.assignment_version } hapart
    exact hproject.trans (evaluated_overclaims_iff htracks hbody)
  | planned plan hplan =>
    refine iff_of_false (htracks.not_overclaims fun _ => id) fun hcontests => ?_
    have hjudges := hcontests.judges
    cases hkind : event.body <;> simp_all [AssignmentEventBodyV2.judges, plannedBy]
  | disposed disposition followups hbody => exact idle_overclaims_iff htracks hbody rfl fun _ => id
  | reviewed reviewId workUnitIds hbody => exact idle_overclaims_iff htracks hbody rfl fun _ => id
  | proposed reviewId workUnitIds proposal hbody => exact idle_overclaims_iff htracks hbody rfl fun _ => id
  | released reviewId decision continuation hbody => exact idle_overclaims_iff htracks hbody rfl fun _ => id
  | allocated reviewId decision continuation policy candidate hbody =>
    exact idle_overclaims_iff htracks hbody rfl fun _ => id
  | ended outcome reason hbody =>
    have hproject := projectWorkUnitCriteria_overclaims_iff (withLedgerIndex snapshot) hapart
    exact hproject.trans (idle_overclaims_iff htracks hbody rfl fun _ => id)

theorem ContestsCompletion.atVersion (h : ContestsCompletion snapshot event) (version : Nat) :
    ContestsCompletion (snapshot.atVersion version) event := by
  cases h with
  | overruled evaluation earlier unit hbody hearlier hmet hdiffers hunit hlists hcomplete hlost =>
    exact .overruled evaluation earlier unit hbody hearlier hmet hdiffers hunit hlists hcomplete hlost
  | discarded variableId clarificationId criterionId value dependent unit hbody hdependent hneeds hdiscards hunit
      hfree hlists hcomplete =>
    exact .discarded variableId clarificationId criterionId value dependent unit hbody hdependent hneeds hdiscards
      hunit hfree hlists hcomplete

/-- The version a snapshot is at does not matter to what contests its
    completions. -/
theorem contestsCompletion_atVersion {version : Nat} :
    ContestsCompletion (snapshot.atVersion version) event ↔ ContestsCompletion snapshot event :=
  ⟨fun h => h.atVersion snapshot.assignment_version, fun h => h.atVersion version⟩

end step

section runs

variable {host : JavaScriptHost} {state next final : ReducerStateV2} {event : AssignmentEventV2}
  {events : List AssignmentEventV2} {snapshot : AssignmentSnapshotV2}

/-- The event names no state of a work unit, and a specification it creates has
    units apart. -/
def LeavesUnitsToCriteria (event : AssignmentEventV2) : Prop :=
  (∀ id unitState, event.body ≠ .work_unit_state_changed id unitState)
    ∧ ∀ spec, event.body = .assignment_created spec → spec.UnitsApart

/-- No completion of the state is contested by the event. -/
def Uncontested (state : ReducerStateV2) (event : AssignmentEventV2) : Prop :=
  ∀ snapshot, state.snapshot = some snapshot → ¬ ContestsCompletion snapshot event

theorem unitsApart_step (hevent : LeavesUnitsToCriteria event)
    (hstate : state.Satisfies fun snapshot => snapshot.spec.UnitsApart)
    (hnext : applyEvent host state event = .ok next) : next.Satisfies fun snapshot => snapshot.spec.UnitsApart := by
  cases applyEvent_effect hnext with
  | created spec hbody => exact ReducerStateV2.satisfies_of_some rfl (hevent.2 spec hbody)
  | restarted snapshot hsome => exact ReducerStateV2.satisfies_of_some rfl (hstate snapshot hsome)
  | recorded snapshot after hsome hopen hversion hlive hbinding hbody hrecord =>
    have hspec : after.spec = snapshot.spec := (recordEvent_effect hrecord).spec
    have hapart : after.spec.UnitsApart := by
      rw [hspec]
      exact hstate snapshot hsome
    exact ReducerStateV2.satisfies_of_some rfl hapart

theorem createdSnapshot_tracks (host : JavaScriptHost) (event : AssignmentEventV2) {spec : AssignmentSpecV2}
    (hapart : spec.UnitsApart) : CompletionTracksCriteria (withDerivedState host (createdSnapshot event spec)) := by
  rw [withDerivedState_tracks_iff host (createdSnapshot event spec) hapart]
  rintro ⟨unit, -, hcomplete, -⟩
  have hpending : ∀ id unitState, (createdSnapshot event spec).work_unit_states.get? id = some unitState →
      unitState = .pending :=
    Record.forall_get?_ofPairs (P := fun unitState => unitState = AssignmentWorkUnitStateV2.pending) (by simp)
  have hstate := hpending _ _ hcomplete
  cases hstate

/-- An accepted step keeps completion on the criteria exactly when it contests
    none. -/
theorem completion_step_iff (hevent : LeavesUnitsToCriteria event)
    (hapart : state.Satisfies fun snapshot => snapshot.spec.UnitsApart)
    (htracks : state.Satisfies CompletionTracksCriteria) (hnext : applyEvent host state event = .ok next) :
    next.Satisfies CompletionTracksCriteria ↔ Uncontested state event := by
  cases applyEvent_effect hnext with
  | created spec hbody hnone =>
    refine iff_of_true (ReducerStateV2.satisfies_of_some rfl (createdSnapshot_tracks host event (hevent.2 spec hbody))) ?_
    intro snapshot hsome
    rw [hnone] at hsome
    cases hsome
  | restarted snapshot hsome hopen hversion hbody =>
    have hkept : CompletionTracksCriteria
        (withDerivedState host (snapshot.inRun event.binding event.assignment_version)) :=
      (withDerivedState_tracks_iff host _ (hapart snapshot hsome)).2
        ((htracks snapshot hsome).not_overclaims fun _ => id)
    refine iff_of_true (ReducerStateV2.satisfies_of_some rfl hkept) ?_
    intro kept _ hcontests
    have hjudges := hcontests.judges
    rw [hbody] at hjudges
    cases hjudges
  | recorded snapshot after hsome hopen hversion hlive hbinding hbody hrecord =>
    have hspec : after.spec = snapshot.spec := (recordEvent_effect hrecord).spec
    have hafter : after.spec.UnitsApart := by
      rw [hspec]
      exact hapart snapshot hsome
    have hplanning := (recordEvent_planning hrecord).overclaims_iff (hapart snapshot hsome) (htracks snapshot hsome)
      hevent.1
    rw [contestsCompletion_atVersion] at hplanning
    have hderived := withDerivedState_tracks_iff host after hafter
    rw [hspec] at hderived
    have hsatisfies : ReducerStateV2.Satisfies
        { remember state event with snapshot := some (withDerivedState host after) } CompletionTracksCriteria
        ↔ CompletionTracksCriteria (withDerivedState host after) :=
      ⟨fun h => h _ rfl, fun h => ReducerStateV2.satisfies_of_some rfl h⟩
    rw [hsatisfies, hderived]
    refine (not_congr hplanning).trans ⟨?_, fun h => h snapshot hsome⟩
    rintro hfree kept hkept
    rw [hsome] at hkept
    cases hkept
    exact hfree

/-- Through a whole journal completion tracks the criteria. -/
def CompletionTracksThroughout (host : JavaScriptHost) (events : List AssignmentEventV2) : Prop :=
  ∀ pre snapshot, pre <+: events → reduceAssignmentEventsV2 host pre = .ok snapshot →
    CompletionTracksCriteria snapshot

/-- No step of a journal contests a completion. -/
def UncontestedThroughout (host : JavaScriptHost) (events : List AssignmentEventV2) : Prop :=
  StepsMeet (applyEvent host) .initial events Uncontested

theorem completionTracksThroughout_iff_alongRun : CompletionTracksThroughout host events
    ↔ AlongRun (applyEvent host) .initial events fun state => state.Satisfies CompletionTracksCriteria := by
  constructor
  · intro h pre hpre state hstate snapshot hsome
    exact h pre snapshot hpre (reduceAssignmentEventsV2_eq_ok.2 ⟨state, hstate, hsome⟩)
  · intro h pre snapshot hpre hsnapshot
    obtain ⟨state, hstate, hsome⟩ := reduceAssignmentEventsV2_eq_ok.1 hsnapshot
    exact h pre hpre state hstate snapshot hsome

/-- Where no event names a unit's state and the units are apart, an accepted
    journal keeps completion on the criteria exactly when none of its steps
    contests one. -/
theorem completion_tracks_criteria_iff (h : reduceAssignmentEventsV2 host events = .ok snapshot)
    (hexplicit : ∀ event ∈ events, ∀ id unitState, event.body ≠ .work_unit_state_changed id unitState)
    (hapart : ∀ event ∈ events, ∀ spec, event.body = .assignment_created spec → spec.UnitsApart) :
    CompletionTracksThroughout host events ↔ UncontestedThroughout host events := by
  obtain ⟨final, hrun, -⟩ := reduceAssignmentEventsV2_eq_ok.1 h
  rw [completionTracksThroughout_iff_alongRun]
  exact alongRun_iff_stepsMeet_of_inputs
    (I := fun state => state.Satisfies fun snapshot => snapshot.spec.UnitsApart) (A := LeavesUnitsToCriteria)
    (fun state event next hevent hstate hnext => unitsApart_step hevent hstate hnext)
    (fun state event next hevent hstate htracks hnext => completion_step_iff hevent hstate htracks hnext)
    (fun event hevent => ⟨hexplicit event hevent, hapart event hevent⟩) (ReducerStateV2.satisfies_initial _)
    (ReducerStateV2.satisfies_initial _) hrun

end runs

section sample

/-- A verdict of the policy on the sample criterion. -/
def policyVerdict (status : CriterionStatusV2) : CriterionEvaluationV2 where
  criterion_id := "criterion-1"
  status
  basis := .policy
  evaluator_authority := "criterion-evaluator"
  supporting_operation_ids := []
  supporting_facts := []
  reason := "Reviewed by policy."
  evaluated_at := sampleTime

/-- A criterion that passes and then fails. -/
def overruledJournal : List AssignmentEventV2 :=
  journalFrom sampleBinding sampleTime 1
    [("assignment-kernel", .assignment_created
        { sampleSpec with criteria := [{ sampleCriterion with semantic_fact_requirements := [] }] }),
      ("criterion-evaluator", .criterion_evaluated (policyVerdict .pass)),
      ("criterion-evaluator", .criterion_evaluated (policyVerdict .failed))]

theorem completion_tracks_criteria_iff_overruled :
    ∃ snapshot, reduceAssignmentEventsV2 asciiHost overruledJournal = .ok snapshot
      ∧ (CompletionTracksThroughout asciiHost overruledJournal ↔ UncontestedThroughout asciiHost overruledJournal) := by
  have haccepted : (reduceAssignmentEventsV2 asciiHost overruledJournal).isOk = true := by decide +kernel
  obtain ⟨snapshot, hsnapshot⟩ := exists_of_isOk haccepted
  refine ⟨snapshot, hsnapshot, completion_tracks_criteria_iff hsnapshot ?_ ?_⟩
  · intro event hevent
    simp only [overruledJournal, journalFrom, List.mem_cons, List.not_mem_nil, or_false] at hevent
    rcases hevent with rfl | rfl | rfl <;> simp
  · intro event hevent spec hbody
    simp only [overruledJournal, journalFrom, List.mem_cons, List.not_mem_nil, or_false] at hevent
    rcases hevent with rfl | rfl | rfl
    · obtain rfl := AssignmentEventBodyV2.assignment_created.inj hbody
      simp [AssignmentSpecV2.UnitsApart, sampleSpec, sampleUnit]
    · cases hbody
    · cases hbody

/-- The unit stays complete although its criterion has become uncertain. -/
theorem overruled_unit_stays_complete :
    ¬ ∀ (host : JavaScriptHost) (events : List AssignmentEventV2) (snapshot : AssignmentSnapshotV2),
      (∀ event ∈ events, ∀ id unitState, event.body ≠ .work_unit_state_changed id unitState) →
      reduceAssignmentEventsV2 host events = .ok snapshot → CompletionTracksCriteria snapshot := by
  intro h
  have hreached : (reduceAssignmentEventsV2 asciiHost overruledJournal).toOption.map (fun snapshot =>
      (snapshot.spec.work_units.contains (sampleUnit "work-inspect" .read),
        snapshot.work_unit_states.get? "work-inspect",
        (snapshot.criteria.get? "criterion-1").map CriterionEvaluationV2.status))
      = some (true, some .complete, some .uncertain) := by decide +kernel
  simp only [Option.map_eq_some_iff, toOption_eq_some, Prod.mk.injEq, List.contains_iff_mem] at hreached
  obtain ⟨snapshot, hsnapshot, hunit, hcomplete, row, hrow, huncertain⟩ := hreached
  have hexplicit : ∀ event ∈ overruledJournal, ∀ id unitState, event.body ≠ .work_unit_state_changed id unitState := by
    intro event hevent
    simp only [overruledJournal, journalFrom, List.mem_cons, List.not_mem_nil, or_false] at hevent
    rcases hevent with rfl | rfl | rfl <;> simp
  obtain ⟨kept, hkept, hmet⟩ := h asciiHost overruledJournal snapshot hexplicit hsnapshot _ hunit (by simp [sampleUnit])
    hcomplete "criterion-1" (by simp [sampleUnit])
  obtain rfl : row = kept := by simpa [hrow] using hkept
  simp [CriterionEvaluationV2.Met, huncertain] at hmet

/-- A second unit under the identity of the inspection, with a criterion of its own. -/
def twinJournal : List AssignmentEventV2 :=
  journalFrom sampleBinding sampleTime 1
    [("assignment-kernel", .assignment_created
        { sampleSpec with
          criteria := [{ sampleCriterion with semantic_fact_requirements := [] },
            { sampleCriterion with criterion_id := "criterion-2" }]
          work_units := [sampleUnit "work-inspect" .read,
            { sampleUnit "work-inspect" .read with criterion_ids := ["criterion-2"] }] }),
      ("criterion-evaluator", .criterion_evaluated (policyVerdict .pass))]

/-- The verdict on one unit completes the other one of its identity. -/
theorem repeated_unit_id_overclaims :
    ∃ snapshot, reduceAssignmentEventsV2 asciiHost twinJournal = .ok snapshot ∧ ¬ CompletionTracksCriteria snapshot := by
  have hreached : (reduceAssignmentEventsV2 asciiHost twinJournal).toOption.map (fun snapshot =>
      (snapshot.spec.work_units.contains { sampleUnit "work-inspect" .read with criterion_ids := ["criterion-2"] },
        snapshot.work_unit_states.get? "work-inspect", (snapshot.criteria.get? "criterion-2").isNone))
      = some (true, some .complete, true) := by decide +kernel
  simp only [Option.map_eq_some_iff, toOption_eq_some, Prod.mk.injEq, List.contains_iff_mem, Option.isNone_iff_eq_none]
    at hreached
  obtain ⟨snapshot, hsnapshot, hunit, hcomplete, hnone⟩ := hreached
  refine ⟨snapshot, hsnapshot, fun htracks => ?_⟩
  obtain ⟨row, hrow, _⟩ := htracks _ hunit (by simp) hcomplete "criterion-2" (by simp)
  rw [hnone] at hrow
  cases hrow

end sample

end revit_operator.assignment_kernel
