import RevitOperator.AssignmentKernel.JournalBuilder

open checked

namespace revit_operator.assignment_kernel

/-- One of the observations is admitted and supports the criterion by the
    fact. -/
def SupportedBy (host : JavaScriptHost) (snapshot : AssignmentSnapshotV2) (criterion : AssignmentCriterionSpecV2)
    (evaluatedAt : String) (basis : CriterionBasisV2) (observationIds : List String) (fact : SemanticFactV2) : Prop :=
  ∃ id ∈ observationIds, ∃ observation admission, snapshot.observations.get? id = some observation
    ∧ observationAdmissibilityForCriterionV2 host snapshot criterion observation (some evaluatedAt) (some basis)
      = .ok admission
    ∧ fact ∈ admission.supporting_facts

/-- Two of the facts share an identity and have different values. -/
def Disputed (supported : SemanticFactV2 → Prop) : Prop :=
  ∃ first second, supported first ∧ supported second
    ∧ semanticFactIdentityV2 first = semanticFactIdentityV2 second ∧ first.value ≠ second.value

/-- No comparison of the criterion reads an input whose value is undefined. -/
def ComparesDefinedInputs (snapshot : AssignmentSnapshotV2) (criterion : AssignmentCriterionSpecV2) : Prop :=
  ∀ comparison ∈ criterion.desired_state_comparisons.getD [],
    snapshot.input_values.get? comparison.input_variable_id ≠ some none

section facts

variable {facts other : List SemanticFactV2}

theorem FactValues.get?_cons (identity key : SemanticFactIdentity) (value : SemanticFactValueV2) (values : FactValues) :
    FactValues.get? ((key, value) :: values) identity
      = if key = identity then some value else FactValues.get? values identity := by
  unfold FactValues.get?
  rw [List.find?_cons]
  by_cases hkey : key = identity
  · simp [hkey]
  · rw [beq_eq_false_iff_ne.2 hkey, if_neg hkey]

theorem collectFactValues_snoc (facts : List SemanticFactV2) (fact : SemanticFactV2) :
    collectFactValues (facts ++ [fact])
      = ((semanticFactIdentityV2 fact, fact.value) :: (collectFactValues facts).1,
        (collectFactValues facts).2
          || (FactValues.get? (collectFactValues facts).1 (semanticFactIdentityV2 fact)).any (· != fact.value)) := by
  simp [collectFactValues, List.foldl_append]

theorem mem_of_collected {identity : SemanticFactIdentity} {value : SemanticFactValueV2}
    (h : FactValues.get? (collectFactValues facts).1 identity = some value) :
    ∃ fact ∈ facts, semanticFactIdentityV2 fact = identity ∧ fact.value = value := by
  induction facts using List.reverseRecOn with
  | nil => simp [collectFactValues, FactValues.get?] at h
  | append_singleton earlier last ih =>
    rw [collectFactValues_snoc, FactValues.get?_cons] at h
    split_ifs at h with hidentity
    · exact ⟨last, by simp, hidentity, Option.some.inj h⟩
    · obtain ⟨fact, hfact, hrest⟩ := ih h
      exact ⟨fact, List.mem_append_left _ hfact, hrest⟩

theorem collected_of_mem {fact : SemanticFactV2} (hfact : fact ∈ facts) :
    ∃ value, FactValues.get? (collectFactValues facts).1 (semanticFactIdentityV2 fact) = some value := by
  induction facts using List.reverseRecOn with
  | nil => cases hfact
  | append_singleton earlier last ih =>
    rw [collectFactValues_snoc, FactValues.get?_cons]
    split_ifs with hidentity
    · exact ⟨last.value, rfl⟩
    · rcases List.mem_append.1 hfact with hearlier | hlast
      · exact ih hearlier
      · exact absurd (congrArg semanticFactIdentityV2 (List.mem_singleton.1 hlast)).symm hidentity

theorem collectFactValues_contradiction :
    (collectFactValues facts).2 = true ↔ Disputed (· ∈ facts) := by
  induction facts using List.reverseRecOn with
  | nil => simp [collectFactValues, Disputed]
  | append_singleton earlier last ih =>
    rw [collectFactValues_snoc, Bool.or_eq_true, ih, Option.any_eq_true]
    constructor
    · rintro (⟨first, second, hfirst, hsecond, hsame⟩ | ⟨value, hvalue, hdiffers⟩)
      · exact ⟨first, second, List.mem_append_left _ hfirst, List.mem_append_left _ hsecond, hsame⟩
      · obtain ⟨fact, hfact, hidentity, rfl⟩ := mem_of_collected hvalue
        exact ⟨fact, last, List.mem_append_left _ hfact, by simp, hidentity, by simpa using hdiffers⟩
    · -- without an earlier dispute the recorded value is the earlier fact's
      have hagainst : ∀ fact ∈ earlier, semanticFactIdentityV2 fact = semanticFactIdentityV2 last →
          fact.value ≠ last.value → Disputed (· ∈ earlier) ∨ ∃ value,
            FactValues.get? (collectFactValues earlier).1 (semanticFactIdentityV2 last) = some value
              ∧ (value != last.value) = true := by
        intro fact hfact hidentity hdiffers
        obtain ⟨value, hvalue⟩ := collected_of_mem hfact
        obtain ⟨recorded, hrecorded, hsame, rfl⟩ := mem_of_collected hvalue
        by_cases hagrees : recorded.value = fact.value
        · exact .inr ⟨_, hidentity ▸ hvalue, by simpa [hagrees] using hdiffers⟩
        · exact .inl ⟨recorded, fact, hrecorded, hfact, hsame, hagrees⟩
      rintro ⟨first, second, hfirst, hsecond, hidentity, hdiffers⟩
      simp only [List.mem_append, List.mem_singleton] at hfirst hsecond
      rcases hfirst with hfirst | rfl
      · rcases hsecond with hsecond | rfl
        · exact .inl ⟨first, second, hfirst, hsecond, hidentity, hdiffers⟩
        · exact hagainst first hfirst hidentity hdiffers
      · rcases hsecond with hsecond | rfl
        · exact hagainst second hsecond hidentity.symm hdiffers.symm
        · exact absurd rfl hdiffers

theorem collected_iff (hagree : ¬ Disputed (· ∈ facts)) {identity : SemanticFactIdentity}
    {value : SemanticFactValueV2} :
    FactValues.get? (collectFactValues facts).1 identity = some value
      ↔ ∃ fact ∈ facts, semanticFactIdentityV2 fact = identity ∧ fact.value = value := by
  constructor
  · exact mem_of_collected
  · rintro ⟨fact, hfact, rfl, rfl⟩
    obtain ⟨value, hvalue⟩ := collected_of_mem hfact
    obtain ⟨recorded, hrecorded, hsame, rfl⟩ := mem_of_collected hvalue
    have hagrees : recorded.value = fact.value := by
      by_contra hdiffers
      exact hagree ⟨recorded, fact, hrecorded, hfact, hsame, hdiffers⟩
    rw [hvalue, hagrees]

theorem disputed_congr (hsame : ∀ fact, fact ∈ facts ↔ fact ∈ other) :
    Disputed (· ∈ facts) ↔ Disputed (· ∈ other) := by
  simp only [Disputed, hsame]

theorem collected_congr (hsame : ∀ fact, fact ∈ facts ↔ fact ∈ other) (hagree : ¬ Disputed (· ∈ facts))
    (identity : SemanticFactIdentity) :
    FactValues.get? (collectFactValues facts).1 identity = FactValues.get? (collectFactValues other).1 identity := by
  have hother : ¬ Disputed (· ∈ other) := fun h => hagree ((disputed_congr hsame).2 h)
  refine Option.ext fun value => ?_
  rw [collected_iff hagree, collected_iff hother]
  simp only [hsame]

end facts

section verdict

variable {host : JavaScriptHost} {snapshot : AssignmentSnapshotV2} {criterion : AssignmentCriterionSpecV2}
  {basis : CriterionBasisV2} {facts other : List SemanticFactV2}

/-- The observations proposed under some identities, which all have to be
    known. -/
def proposedObservations (snapshot : AssignmentSnapshotV2) (observationIds : List String) :
    Except KernelFault (List ObservationV2) :=
  observationIds.mapM fun id =>
    match snapshot.observations.get? id with
    | some observation => (.ok observation : Except KernelFault ObservationV2)
    | none => .error (.assertion "criterion_observation_unknown" "Criterion evaluator received an unknown observation.")

/-- Whether the facts contain every required one. -/
def presentFacts (criterion : AssignmentCriterionSpecV2) (facts : List SemanticFactV2) : Bool :=
  criterion.semantic_fact_requirements.all fun required => facts.any fun fact => fact.fact_id == required

/-- Whether the values establish the desired state, where the basis asks for
    it. -/
def matchedState (snapshot : AssignmentSnapshotV2) (criterion : AssignmentCriterionSpecV2) (basis : CriterionBasisV2)
    (values : FactValues) : Except KernelFault Bool :=
  if basis = .desired_state_equivalence then
    desiredStateMatches snapshot values (criterion.desired_state_comparisons.getD [])
  else .ok true

/-- The verdict the admitted facts give. -/
def verdictOf (host : JavaScriptHost) (snapshot : AssignmentSnapshotV2) (criterion : AssignmentCriterionSpecV2)
    (basis : CriterionBasisV2) (facts : List SemanticFactV2) : Except KernelFault CriterionStatusV2 :=
  (matchedState snapshot criterion basis (collectFactValues facts).1).map fun matched =>
    let contradiction := (collectFactValues facts).2
    evaluationStatus contradiction (!contradiction && presentFacts criterion facts && matched && basis == .observation
      && criterion.required && asksOnlyForResult criterion && verifiedSavedPartialV2 host snapshot)
      (presentFacts criterion facts) matched

/-- The facts of the admitted ones among some observations. -/
def admittedFacts (host : JavaScriptHost) (snapshot : AssignmentSnapshotV2) (criterion : AssignmentCriterionSpecV2)
    (evaluatedAt : String) (basis : CriterionBasisV2) (observations : List ObservationV2) : List SemanticFactV2 :=
  (observations.filterMap (admittedSupport host snapshot criterion (some evaluatedAt) (some basis))).flatMap Prod.snd

/-- The verdict on a criterion from the observations proposed for it. -/
def criterionVerdict (host : JavaScriptHost) (snapshot : AssignmentSnapshotV2) (criterion : AssignmentCriterionSpecV2)
    (observationIds : List String) (authority evaluatedAt : String) (basis : CriterionBasisV2) :
    Except KernelFault CriterionStatusV2 := do
  kernelAssertV2 (authority ∈ criterion.accepted_evaluator_authority_ids) "criterion_evaluator_untrusted"
    "Criterion evaluator authority is not admitted by AssignmentSpecV2."
  let proposed ← proposedObservations snapshot observationIds
  onlyIf (basis = .desired_state_equivalence)
    (kernelAssertV2 (criterion.comparesDesiredState) "criterion_desired_state_contract_missing"
      "Desired-state evaluation requires semantic comparisons in AssignmentSpecV2.")
  verdictOf host snapshot criterion basis (admittedFacts host snapshot criterion evaluatedAt basis proposed)

private theorem map_bind {α β γ : Type} {fault : Type} (step : Except fault α) (next : α → Except fault β) (f : β → γ) :
    (step >>= next).map f = step >>= fun value => (next value).map f := by
  cases step <;> rfl

theorem evaluateCriterionV2_status {criterionId : String} (observationIds : List String) (authority evaluatedAt : String)
    (basis : CriterionBasisV2) (hcriterion : findCriterion snapshot.spec criterionId = some criterion) :
    (evaluateCriterionV2 host snapshot criterionId observationIds authority evaluatedAt basis).map
        CriterionEvaluationV2.status
      = criterionVerdict host snapshot criterion observationIds authority evaluatedAt basis := by
  simp only [evaluateCriterionV2, hcriterion, criterionVerdict, map_bind]
  congr 1
  funext _
  congr 1
  funext proposed
  congr 1
  funext _
  have hfacts : ((proposed.filterMap (admittedSupport host snapshot criterion (some evaluatedAt) (some basis))).flatMap
      fun x => x.2.map fun fact => (x.1, fact)).map Prod.snd
      = admittedFacts host snapshot criterion evaluatedAt basis proposed := by
    simp [admittedFacts, List.map_flatMap, Function.comp_def]
  have hpresent : (criterion.semantic_fact_requirements.all fun required =>
      ((proposed.filterMap (admittedSupport host snapshot criterion (some evaluatedAt) (some basis))).flatMap
        fun x => x.2.map fun fact => (x.1, fact)).any fun x => x.2.fact_id == required)
      = presentFacts criterion (admittedFacts host snapshot criterion evaluatedAt basis proposed) := by
    rw [presentFacts, ← hfacts]
    simp only [List.any_map, Function.comp_def]
  rw [hfacts, hpresent, verdictOf, matchedState]
  by_cases hbasis : basis = .desired_state_equivalence
  · rw [if_pos hbasis, if_pos hbasis]
    cases desiredStateMatches snapshot
      (collectFactValues (admittedFacts host snapshot criterion evaluatedAt basis proposed)).1
      (criterion.desired_state_comparisons.getD []) <;> rfl
  · rw [if_neg hbasis, if_neg hbasis]
    rfl

/-- The proposed observations are those known under the identities, unless one
    of them is unknown. -/
theorem proposedObservations_eq (snapshot : AssignmentSnapshotV2) (observationIds : List String) :
    (∃ id ∈ observationIds, snapshot.observations.get? id = none)
        ∧ proposedObservations snapshot observationIds = .error (.assertion "criterion_observation_unknown"
          "Criterion evaluator received an unknown observation.")
      ∨ (∀ id ∈ observationIds, snapshot.observations.get? id ≠ none)
        ∧ ∃ proposed, proposedObservations snapshot observationIds = .ok proposed
          ∧ ∀ observation, observation ∈ proposed
            ↔ ∃ id ∈ observationIds, snapshot.observations.get? id = some observation := by
  unfold proposedObservations
  induction observationIds with
  | nil => exact .inr ⟨by simp, [], rfl, by simp⟩
  | cons first rest ih =>
    rw [List.mapM_cons]
    cases hfirst : snapshot.observations.get? first with
    | none => exact .inl ⟨⟨first, List.mem_cons_self, hfirst⟩, rfl⟩
    | some observation =>
      rcases ih with ⟨⟨id, hid, hunknown⟩, herror⟩ | ⟨hknown, proposed, hproposed, hmem⟩
      · refine .inl ⟨⟨id, List.mem_cons_of_mem first hid, hunknown⟩, ?_⟩
        rw [herror]
        rfl
      · refine .inr ⟨by simpa [hfirst] using hknown, observation :: proposed, ?_, ?_⟩
        · rw [hproposed]
          rfl
        · intro candidate
          rw [List.mem_cons, hmem, List.exists_mem_cons_iff, hfirst, Option.some.injEq, eq_comm]

theorem mem_admittedFacts {evaluatedAt : String} {observations : List ObservationV2} {fact : SemanticFactV2} :
    fact ∈ admittedFacts host snapshot criterion evaluatedAt basis observations
      ↔ ∃ observation ∈ observations, ∃ admission,
        observationAdmissibilityForCriterionV2 host snapshot criterion observation (some evaluatedAt) (some basis)
          = .ok admission ∧ fact ∈ admission.supporting_facts := by
  simp only [admittedFacts, List.mem_flatMap, List.mem_filterMap]
  constructor
  · rintro ⟨support, ⟨observation, hobservation, hsupport⟩, hfact⟩
    unfold admittedSupport at hsupport
    split at hsupport
    · next admission hadmitted =>
      cases hsupport
      exact ⟨observation, hobservation, admission, hadmitted, hfact⟩
    · cases hsupport
  · rintro ⟨observation, hobservation, admission, hadmitted, hfact⟩
    refine ⟨(observation, admission.supporting_facts), ⟨observation, hobservation, ?_⟩, hfact⟩
    simp [admittedSupport, hadmitted]

theorem mem_admittedFacts_iff_supported {evaluatedAt : String} {observationIds : List String}
    {proposed : List ObservationV2}
    (hproposed : ∀ observation, observation ∈ proposed
      ↔ ∃ id ∈ observationIds, snapshot.observations.get? id = some observation) (fact : SemanticFactV2) :
    fact ∈ admittedFacts host snapshot criterion evaluatedAt basis proposed
      ↔ SupportedBy host snapshot criterion evaluatedAt basis observationIds fact := by
  rw [mem_admittedFacts]
  constructor
  · rintro ⟨observation, hobservation, admission, hadmitted, hfact⟩
    obtain ⟨id, hid, hget⟩ := (hproposed observation).1 hobservation
    exact ⟨id, hid, observation, admission, hget, hadmitted, hfact⟩
  · rintro ⟨id, hid, observation, admission, hget, hadmitted, hfact⟩
    exact ⟨observation, (hproposed observation).2 ⟨id, hid, hget⟩, admission, hadmitted, hfact⟩

theorem desiredStateMatches_congr {values earlier : FactValues}
    (hsame : ∀ identity, values.get? identity = earlier.get? identity) (comparisons : List DesiredStateComparisonV2) :
    desiredStateMatches snapshot values comparisons = desiredStateMatches snapshot earlier comparisons := by
  induction comparisons with
  | nil => rfl
  | cons comparison rest ih => simp only [desiredStateMatches, hsame, ih]

theorem desiredStateMatches_defined {values : FactValues} {comparisons : List DesiredStateComparisonV2}
    (hdefined : ∀ comparison ∈ comparisons, snapshot.input_values.get? comparison.input_variable_id ≠ some none) :
    ∃ answer, desiredStateMatches snapshot values comparisons = .ok answer := by
  induction comparisons with
  | nil => exact ⟨true, rfl⟩
  | cons comparison rest ih =>
    obtain ⟨answer, hanswer⟩ := ih fun later hlater => hdefined later (List.mem_cons_of_mem comparison hlater)
    unfold desiredStateMatches
    split
    · exact ⟨false, rfl⟩
    · next hundefined => exact absurd hundefined (hdefined comparison List.mem_cons_self)
    · split
      · exact ⟨false, rfl⟩
      · split_ifs
        · exact ⟨answer, hanswer⟩
        · exact ⟨false, rfl⟩

theorem compared_of_matches {values : FactValues} {comparisons : List DesiredStateComparisonV2}
    (h : desiredStateMatches snapshot values comparisons = .ok true) :
    ∀ comparison ∈ comparisons, ∃ expected value,
      snapshot.input_values.get? comparison.input_variable_id = some (some expected)
        ∧ values.get? (comparisonIdentity comparison) = some value ∧ sameJson value.toJson expected = true := by
  induction comparisons with
  | nil => simp
  | cons comparison rest ih =>
    unfold desiredStateMatches at h
    split at h
    · cases h
    · cases h
    · next expected hexpected =>
      split at h
      · cases h
      · next value hvalue =>
        by_cases hsame : sameJson value.toJson expected = true
        · rw [if_pos hsame] at h
          intro compared hcompared
          rcases List.mem_cons.1 hcompared with rfl | hrest
          · exact ⟨expected, value, hexpected, hvalue, hsame⟩
          · exact ih h compared hrest
        · rw [if_neg hsame] at h
          cases h

theorem presentFacts_iff : presentFacts criterion facts = true ↔
    ∀ required ∈ criterion.semantic_fact_requirements, ∃ fact ∈ facts, fact.fact_id = required := by
  simp [presentFacts]

theorem presentFacts_congr (hsame : ∀ fact, fact ∈ facts ↔ fact ∈ other) :
    presentFacts criterion facts = presentFacts criterion other := by
  rw [Bool.eq_iff_iff, presentFacts_iff, presentFacts_iff]
  simp only [hsame]

theorem verdictOf_congr (hsame : ∀ fact, fact ∈ facts ↔ fact ∈ other) (hagree : ¬ Disputed (· ∈ facts)) :
    verdictOf host snapshot criterion basis facts = verdictOf host snapshot criterion basis other := by
  have hcontradiction : (collectFactValues facts).2 = (collectFactValues other).2 := by
    rw [Bool.eq_iff_iff, collectFactValues_contradiction, collectFactValues_contradiction, disputed_congr hsame]
  have hmatched : matchedState snapshot criterion basis (collectFactValues facts).1
      = matchedState snapshot criterion basis (collectFactValues other).1 := by
    unfold matchedState
    rw [desiredStateMatches_congr (collected_congr hsame hagree)]
  simp only [verdictOf, hcontradiction, hmatched, presentFacts_congr hsame]

theorem verdictOf_disputed (hdisputed : Disputed (· ∈ facts)) {status : CriterionStatusV2}
    (h : verdictOf host snapshot criterion basis facts = .ok status) : status = .uncertain := by
  have hflag := collectFactValues_contradiction.2 hdisputed
  unfold verdictOf at h
  cases hmatched : matchedState snapshot criterion basis (collectFactValues facts).1 with
  | error fault =>
    rw [hmatched] at h
    cases h
  | ok matched =>
    rw [hmatched] at h
    obtain rfl := Except.ok.inj h
    simp [evaluationStatus, hflag]

theorem verdictOf_disputed_defined (hdisputed : Disputed (· ∈ facts))
    (hdefined : basis = .desired_state_equivalence → ComparesDefinedInputs snapshot criterion) :
    verdictOf host snapshot criterion basis facts = .ok .uncertain := by
  have hanswered : ∃ answer, matchedState snapshot criterion basis (collectFactValues facts).1 = .ok answer := by
    unfold matchedState
    by_cases hbasis : basis = .desired_state_equivalence
    · rw [if_pos hbasis]
      exact desiredStateMatches_defined (hdefined hbasis)
    · rw [if_neg hbasis]
      exact ⟨true, rfl⟩
  obtain ⟨answer, hanswer⟩ := hanswered
  simp [verdictOf, hanswer, Except.map, evaluationStatus, collectFactValues_contradiction.2 hdisputed]

theorem evaluationStatus_pass {contradiction partial_ present matched : Bool}
    (h : evaluationStatus contradiction partial_ present matched = .pass) : present = true ∧ matched = true := by
  cases contradiction <;> cases partial_ <;> cases present <;> cases matched <;> simp_all [evaluationStatus]

/-- A pass rests on undisputed facts, on every required one and, where the basis
    asks for it, on the desired state. -/
theorem passed_of_verdict (h : verdictOf host snapshot criterion basis facts = .ok .pass) :
    ¬ Disputed (· ∈ facts) ∧ presentFacts criterion facts = true
      ∧ matchedState snapshot criterion basis (collectFactValues facts).1 = .ok true := by
  have hagree : ¬ Disputed (· ∈ facts) := fun hdisputed => by cases verdictOf_disputed hdisputed h
  refine ⟨hagree, ?_⟩
  unfold verdictOf at h
  cases hmatched : matchedState snapshot criterion basis (collectFactValues facts).1 with
  | error fault =>
    rw [hmatched] at h
    cases h
  | ok matched =>
    rw [hmatched] at h
    obtain ⟨hpresent, hmatches⟩ := evaluationStatus_pass (Except.ok.inj h)
    exact ⟨hpresent, by rw [hmatches]⟩

end verdict

section claims

variable {host : JavaScriptHost} {snapshot : AssignmentSnapshotV2} {criterion : AssignmentCriterionSpecV2}
  {basis : CriterionBasisV2} {criterionId authority evaluatedAt : String} {observationIds other : List String}

theorem evaluated_facts (hcriterion : findCriterion snapshot.spec criterionId = some criterion)
    {evaluation : CriterionEvaluationV2}
    (h : evaluateCriterionV2 host snapshot criterionId observationIds authority evaluatedAt basis = .ok evaluation) :
    ∃ facts, (∀ fact, fact ∈ facts ↔ SupportedBy host snapshot criterion evaluatedAt basis observationIds fact)
      ∧ verdictOf host snapshot criterion basis facts = .ok evaluation.status := by
  have hok : criterionVerdict host snapshot criterion observationIds authority evaluatedAt basis
      = .ok evaluation.status := by
    rw [← evaluateCriterionV2_status observationIds authority evaluatedAt basis hcriterion, h]
    rfl
  simp only [criterionVerdict, check_bind_eq_ok] at hok
  obtain ⟨-, hok⟩ := hok
  obtain ⟨proposed, hproposed, hok⟩ := bind_eq_ok.1 hok
  obtain ⟨-, hok⟩ := check_bind_eq_ok.1 hok
  rcases proposedObservations_eq snapshot observationIds with ⟨-, herror⟩ | ⟨-, known, hknown, hmem⟩
  · rw [hproposed] at herror
    cases herror
  · rw [hproposed] at hknown
    cases hknown
    exact ⟨_, mem_admittedFacts_iff_supported hmem, hok⟩

theorem supportedBy_congr (hsame : ∀ id, id ∈ observationIds ↔ id ∈ other) (fact : SemanticFactV2) :
    SupportedBy host snapshot criterion evaluatedAt basis observationIds fact
      ↔ SupportedBy host snapshot criterion evaluatedAt basis other fact := by
  simp only [SupportedBy, hsame]

/-- Proposing the same observations in another order or more than once gives the
    same verdict or refusal, unless a dispute meets an undefined input. -/
theorem criterionVerdict_congr (hsame : ∀ id, id ∈ observationIds ↔ id ∈ other)
    (hdefined : basis = .desired_state_equivalence →
      Disputed (SupportedBy host snapshot criterion evaluatedAt basis observationIds) →
      ComparesDefinedInputs snapshot criterion) :
    criterionVerdict host snapshot criterion observationIds authority evaluatedAt basis
      = criterionVerdict host snapshot criterion other authority evaluatedAt basis := by
  unfold criterionVerdict
  rcases proposedObservations_eq snapshot observationIds with ⟨⟨id, hid, hunknown⟩, herror⟩ | ⟨hknown, proposed, hok, hmem⟩
  · rcases proposedObservations_eq snapshot other with ⟨-, herror'⟩ | ⟨hknown', -⟩
    · rw [herror, herror']
    · exact absurd hunknown (hknown' id ((hsame id).1 hid))
  · rcases proposedObservations_eq snapshot other with ⟨⟨id, hid, hunknown⟩, -⟩ | ⟨-, proposed', hok', hmem'⟩
    · exact absurd hunknown (hknown id ((hsame id).2 hid))
    · have hsupported : ∀ fact, fact ∈ admittedFacts host snapshot criterion evaluatedAt basis proposed
          ↔ SupportedBy host snapshot criterion evaluatedAt basis observationIds fact :=
        mem_admittedFacts_iff_supported hmem
      have hfacts : ∀ fact, fact ∈ admittedFacts host snapshot criterion evaluatedAt basis proposed
          ↔ fact ∈ admittedFacts host snapshot criterion evaluatedAt basis proposed' := by
        intro fact
        rw [hsupported, mem_admittedFacts_iff_supported hmem', supportedBy_congr hsame]
      have hverdict : verdictOf host snapshot criterion basis
            (admittedFacts host snapshot criterion evaluatedAt basis proposed)
          = verdictOf host snapshot criterion basis
            (admittedFacts host snapshot criterion evaluatedAt basis proposed') := by
        by_cases hdisputed : Disputed (· ∈ admittedFacts host snapshot criterion evaluatedAt basis proposed)
        · have hinputs : basis = .desired_state_equivalence → ComparesDefinedInputs snapshot criterion := by
            intro hbasis
            refine hdefined hbasis ?_
            obtain ⟨first, second, hfirst, hsecond, hrest⟩ := hdisputed
            exact ⟨first, second, (hsupported first).1 hfirst, (hsupported second).1 hsecond, hrest⟩
          rw [verdictOf_disputed_defined hdisputed hinputs,
            verdictOf_disputed_defined ((disputed_congr hfacts).1 hdisputed) hinputs]
        · exact verdictOf_congr hfacts hdisputed
      have hlast : ∀ (check : Except KernelFault Unit),
          (check >>= fun _ => verdictOf host snapshot criterion basis
              (admittedFacts host snapshot criterion evaluatedAt basis proposed))
            = check >>= fun _ => verdictOf host snapshot criterion basis
              (admittedFacts host snapshot criterion evaluatedAt basis proposed') :=
        fun check => by rw [hverdict]
      rw [hok, hok']
      congr 1
      funext _
      exact hlast _

/-- The verdict on a criterion does not depend on the order or repetition of the
    observations, is neither a pass nor partial over a dispute, and passes only
    with every required fact and, where the basis asks for it, the desired
    state. Only a dispute over an undefined input can turn uncertainty into a
    refusal. -/
theorem criterion_verdict_sound (hcriterion : findCriterion snapshot.spec criterionId = some criterion) :
    (∀ observationIds other, (∀ id, id ∈ observationIds ↔ id ∈ other) →
      (∀ evaluation again,
        evaluateCriterionV2 host snapshot criterionId observationIds authority evaluatedAt basis = .ok evaluation →
        evaluateCriterionV2 host snapshot criterionId other authority evaluatedAt basis = .ok again →
        evaluation.status = again.status)
      ∧ ((basis = .desired_state_equivalence →
            Disputed (SupportedBy host snapshot criterion evaluatedAt basis observationIds) →
            ComparesDefinedInputs snapshot criterion) →
          (evaluateCriterionV2 host snapshot criterionId observationIds authority evaluatedAt basis).map
              CriterionEvaluationV2.status
            = (evaluateCriterionV2 host snapshot criterionId other authority evaluatedAt basis).map
              CriterionEvaluationV2.status))
    ∧ ∀ observationIds evaluation,
      evaluateCriterionV2 host snapshot criterionId observationIds authority evaluatedAt basis = .ok evaluation →
      (Disputed (SupportedBy host snapshot criterion evaluatedAt basis observationIds) →
        evaluation.status ≠ .pass ∧ evaluation.status ≠ .partial_)
      ∧ (evaluation.status = .pass → ∀ required ∈ criterion.semantic_fact_requirements,
        ∃ fact, SupportedBy host snapshot criterion evaluatedAt basis observationIds fact ∧ fact.fact_id = required)
      ∧ (evaluation.status = .pass → basis = .desired_state_equivalence →
        ∀ comparison ∈ criterion.desired_state_comparisons.getD [], ∃ expected,
          snapshot.input_values.get? comparison.input_variable_id = some (some expected)
          ∧ (∃ fact, SupportedBy host snapshot criterion evaluatedAt basis observationIds fact
            ∧ semanticFactIdentityV2 fact = comparisonIdentity comparison)
          ∧ ∀ fact, SupportedBy host snapshot criterion evaluatedAt basis observationIds fact →
            semanticFactIdentityV2 fact = comparisonIdentity comparison →
            sameJson fact.value.toJson expected = true) := by
  refine ⟨fun observationIds other hsame => ⟨?_, fun hdefined => ?_⟩, fun observationIds evaluation h => ?_⟩
  · intro evaluation again h hagain
    obtain ⟨facts, hfacts, hverdict⟩ := evaluated_facts hcriterion h
    obtain ⟨facts', hfacts', hverdict'⟩ := evaluated_facts hcriterion hagain
    have hsameFacts : ∀ fact, fact ∈ facts ↔ fact ∈ facts' := fun fact => by
      rw [hfacts, hfacts', supportedBy_congr hsame]
    by_cases hdisputed : Disputed (· ∈ facts)
    · rw [verdictOf_disputed hdisputed hverdict,
        verdictOf_disputed ((disputed_congr hsameFacts).1 hdisputed) hverdict']
    · rw [verdictOf_congr hsameFacts hdisputed, hverdict'] at hverdict
      exact (Except.ok.inj hverdict).symm
  · rw [evaluateCriterionV2_status observationIds authority evaluatedAt basis hcriterion,
      evaluateCriterionV2_status other authority evaluatedAt basis hcriterion, criterionVerdict_congr hsame hdefined]
  · obtain ⟨facts, hfacts, hverdict⟩ := evaluated_facts hcriterion h
    have hsupported : (· ∈ facts) = SupportedBy host snapshot criterion evaluatedAt basis observationIds :=
      funext fun fact => propext (hfacts fact)
    rw [← hsupported]
    refine ⟨fun hdisputed => ?_, fun hpass => ?_, fun hpass hbasis => ?_⟩
    · rw [verdictOf_disputed hdisputed hverdict]
      exact ⟨by decide, by decide⟩
    · rw [hpass] at hverdict
      exact presentFacts_iff.1 (passed_of_verdict hverdict).2.1
    · rw [hpass] at hverdict
      obtain ⟨hagree, -, hmatched⟩ := passed_of_verdict hverdict
      rw [matchedState, if_pos hbasis] at hmatched
      intro comparison hcomparison
      obtain ⟨expected, value, hexpected, hvalue, hsame⟩ := compared_of_matches hmatched comparison hcomparison
      obtain ⟨fact, hfact, hidentity, -⟩ := mem_of_collected hvalue
      refine ⟨expected, hexpected, ⟨fact, hfact, hidentity⟩, fun other hother hsameIdentity => ?_⟩
      have hrecorded := (collected_iff hagree).2 ⟨other, hother, hsameIdentity, rfl⟩
      obtain rfl : value = other.value := by simpa [hvalue] using hrecorded
      exact hsame

end claims

section sample

/-- A criterion over the level of a wall and its phase. -/
def comparingCriterion : AssignmentCriterionSpecV2 :=
  { sampleCriterion with
    semantic_fact_requirements := ["wall.level"]
    evidence_policy := some {
      schema := ""
      allowed_evidence_classes := [.verification]
      allowed_fulfillment_roles := [.verification]
      allowed_fact_classes := [.verification]
      allowed_capability_ids := []
      allowed_result_schema_ids := []
      required_fact_ids := ["wall.level"]
      require_native_dispatch := true
      require_current_generation := true }
    desired_state_comparisons := some [⟨"wall.level", "level", none, none⟩, ⟨"wall.phase", "phase", none, none⟩] }

/-- The level is known, and the phase is declared known without a value. -/
def comparingSpec : AssignmentSpecV2 :=
  { sampleSpec with
    semantic_evidence_contract := some SEMANTIC_EVIDENCE_CONTRACT_V2
    criteria := [comparingCriterion]
    input_variables := [⟨"level", .known, some (.str "Level 1"), true, false⟩, ⟨"phase", .known, none, true, false⟩] }

def settledRead (id : String) : OperationV2 :=
  { sampleRead id with
    fulfillment_role := some .verification
    eligible_criterion_ids := some ["criterion-1"]
    settlement_state := .settled
    result := some
      (submittedResult (sampleRead id) .succeeded .dispatched .none .not_applicable "native-host" true sampleTime) }

/-- What a read saw of the level of the wall. -/
def levelSeen (id level : String) : ObservationV2 :=
  submittedObservation (settledRead id)
    (submittedResult (sampleRead id) .succeeded .dispatched .none .not_applicable "native-host" true sampleTime)
    [{ sampleFact "wall.level" .verification with value := .scalar (.str level) }]

/-- Two reads that disagree about the level. -/
def disputedSnapshot : AssignmentSnapshotV2 :=
  { createdSnapshot ⟨"event-1", "assignment-1", 1, sampleBinding, sampleTime, "assignment-kernel",
      .assignment_created comparingSpec⟩ comparingSpec with
    operations := .ofPairs [("read-1", settledRead "read-1"), ("read-2", settledRead "read-2")]
    observations := .ofPairs [("observation:read-1", levelSeen "read-1" "Level 1"),
      ("observation:read-2", levelSeen "read-2" "Level 2")] }

/-- The evaluation of the desired state from the two reads in some order. -/
def disputedEvaluation (observationIds : List String) : Except KernelFault CriterionEvaluationV2 :=
  evaluateCriterionV2 asciiHost disputedSnapshot "criterion-1" observationIds "criterion-evaluator" sampleTime
    .desired_state_equivalence

theorem criterion_verdict_sound_disputed :
    ∃ evaluation, disputedEvaluation ["observation:read-1", "observation:read-2"] = .ok evaluation
      ∧ ∀ again, disputedEvaluation ["observation:read-2", "observation:read-1", "observation:read-2"] = .ok again →
        evaluation.status = again.status := by
  have hcriterion : findCriterion disputedSnapshot.spec "criterion-1" = some comparingCriterion := rfl
  have hevaluated : (disputedEvaluation ["observation:read-1", "observation:read-2"]).isOk = true := by decide +kernel
  obtain ⟨evaluation, hevaluation⟩ := exists_of_isOk hevaluated
  refine ⟨evaluation, hevaluation, fun again hagain => ?_⟩
  have hsame : ∀ id, id ∈ ["observation:read-1", "observation:read-2"]
      ↔ id ∈ ["observation:read-2", "observation:read-1", "observation:read-2"] := by
    intro id
    simp only [List.mem_cons, List.not_mem_nil, or_false]
    tauto
  exact ((criterion_verdict_sound hcriterion).1 _ _ hsame).1 evaluation again hevaluation hagain

/-- In one order the disputed level decides before the undefined phase is
    reached, in the other it does not. -/
theorem disputed_evaluation_refused :
    ¬ ∀ (host : JavaScriptHost) (snapshot : AssignmentSnapshotV2) (criterionId authority evaluatedAt : String)
        (basis : CriterionBasisV2) (observationIds other : List String), observationIds.Perm other →
      (evaluateCriterionV2 host snapshot criterionId observationIds authority evaluatedAt basis).map
          CriterionEvaluationV2.status
        = (evaluateCriterionV2 host snapshot criterionId other authority evaluatedAt basis).map
          CriterionEvaluationV2.status := by
  intro h
  have hsame := h asciiHost disputedSnapshot "criterion-1" "criterion-evaluator" sampleTime .desired_state_equivalence
    ["observation:read-1", "observation:read-2"] ["observation:read-2", "observation:read-1"] (List.Perm.swap _ _ _)
  have hfirst : (disputedEvaluation ["observation:read-1", "observation:read-2"]).toOption.map
      CriterionEvaluationV2.status = some .uncertain := by decide +kernel
  have hsecond : (disputedEvaluation ["observation:read-2", "observation:read-1"]).isOk = false := by decide +kernel
  unfold disputedEvaluation at hfirst hsecond
  generalize evaluateCriterionV2 asciiHost disputedSnapshot "criterion-1" ["observation:read-1", "observation:read-2"]
    "criterion-evaluator" sampleTime .desired_state_equivalence = first at hsame hfirst
  generalize evaluateCriterionV2 asciiHost disputedSnapshot "criterion-1" ["observation:read-2", "observation:read-1"]
    "criterion-evaluator" sampleTime .desired_state_equivalence = second at hsame hsecond
  cases first with
  | error fault => cases hfirst
  | ok evaluation =>
    cases second with
    | error fault => cases hsame
    | ok again => cases hsecond

end sample

end revit_operator.assignment_kernel
