import RevitOperator.AssignmentKernel.Outcome
import RevitOperator.AssignmentKernel.SemanticAdmissibility

namespace revit_operator.assignment_kernel

/-- The identity under which a desired-state comparison looks up its fact. -/
def comparisonIdentity (comparison : DesiredStateComparisonV2) : SemanticFactIdentity :=
  semanticFactIdentityV2
    { fact_id := comparison.fact_id
      fact_class := none
      value := .scalar .null
      cardinality := none
      dimensions := comparison.dimensions
      identity_dimensions := none
      target_id := comparison.target_id }

/-- The last value recorded for each fact identity. -/
abbrev FactValues : Type := List (SemanticFactIdentity × SemanticFactValueV2)

def FactValues.get? (values : FactValues) (identity : SemanticFactIdentity) :
    Option SemanticFactValueV2 :=
  (values.find? fun entry => entry.1 == identity).map Prod.snd

/-- Record the values of the facts in order and note whether two facts of one
    identity disagree. -/
def collectFactValues (facts : List SemanticFactV2) : FactValues × Bool :=
  facts.foldl (fun (values, contradiction) fact =>
      let identity := semanticFactIdentityV2 fact
      let disagrees := (FactValues.get? values identity).any (· != fact.value)
      ((identity, fact.value) :: values, contradiction || disagrees))
    ([], false)

/-- The recorded fact of every comparison equals its authenticated input, up to
    the first comparison that fails. -/
def desiredStateMatches (snapshot : AssignmentSnapshotV2) (values : FactValues) :
    List DesiredStateComparisonV2 → Except KernelFault Bool
  | [] => .ok true
  | comparison :: rest =>
    match snapshot.input_values.get? comparison.input_variable_id with
    | none => .ok false
    | some none => .error (.error "payload_digest_v2_unsupported_value:undefined")
    | some (some expected) =>
      match values.get? (comparisonIdentity comparison) with
      | none => .ok false
      | some value =>
        if sameJson value.toJson expected then desiredStateMatches snapshot values rest else .ok false

/-- An observation with the facts it is admitted to support a criterion by. -/
def admittedSupport (host : JavaScriptHost) (snapshot : AssignmentSnapshotV2)
    (criterion : AssignmentCriterionSpecV2) (evaluatedAt : Option String) (basis : Option CriterionBasisV2)
    (observation : ObservationV2) : Option (ObservationV2 × List SemanticFactV2) :=
  match observationAdmissibilityForCriterionV2 host snapshot criterion observation evaluatedAt basis with
  | .ok admission => some (observation, admission.supporting_facts)
  | .error _ => none

/-- The verdict over a criterion from what its admitted facts establish. -/
def evaluationStatus (contradiction partial_ requiredFactsPresent matches_ : Bool) : CriterionStatusV2 :=
  if contradiction then .uncertain
  else if partial_ then .partial_
  else if requiredFactsPresent && matches_ then .pass
  else .uncertain

def evaluationReason (contradiction noObservation requiredFactsPresent matches_ partial_ : Bool) : String :=
  if contradiction then "Authoritative observations disagree for the same semantic fact identity."
  else if noObservation then
    "No Observation satisfies the criterion's typed evidence-admissibility policy."
  else if !requiredFactsPresent then "One or more required semantic facts are absent."
  else if !matches_ then "Observed state does not establish the authenticated desired state."
  else if partial_ then
    "The completed subset has native verification, current inspection and a verified saved artifact. Explicitly deferred scope remains unfinished; this is partial delivery, not completion of that scope."
  else "All required semantic facts are authoritatively supported."

/-- Evaluate a criterion from the observations proposed for it. -/
def evaluateCriterionV2 (host : JavaScriptHost) (snapshot : AssignmentSnapshotV2) (criterionId : String)
    (observationIds : List String) (evaluatorAuthority evaluatedAt : String) (basis : CriterionBasisV2) :
    Except KernelFault CriterionEvaluationV2 :=
  match findCriterion snapshot.spec criterionId with
  | none => .error (.assertion "criterion_unknown" "Criterion is not in AssignmentSpecV2.")
  | some criterion => do
    kernelAssertV2 (evaluatorAuthority ∈ criterion.accepted_evaluator_authority_ids)
      "criterion_evaluator_untrusted" "Criterion evaluator authority is not admitted by AssignmentSpecV2."
    let proposed ← observationIds.mapM fun id =>
      match snapshot.observations.get? id with
      | some observation => (.ok observation : Except KernelFault ObservationV2)
      | none => .error (.assertion "criterion_observation_unknown"
          "Criterion evaluator received an unknown observation.")
    let admitted := proposed.filterMap
      (admittedSupport host snapshot criterion (some evaluatedAt) (some basis))
    let facts := admitted.flatMap fun (observation, supporting) =>
      supporting.map fun fact => (observation, fact)
    let (values, contradiction) := collectFactValues (facts.map Prod.snd)
    let requiredFactsPresent := criterion.semantic_fact_requirements.all
      fun required => facts.any fun (_, fact) => fact.fact_id == required
    checked.onlyIf (basis = .desired_state_equivalence)
      (kernelAssertV2 (criterion.comparesDesiredState) "criterion_desired_state_contract_missing"
        "Desired-state evaluation requires semantic comparisons in AssignmentSpecV2.")
    let matches_ ← if basis = .desired_state_equivalence then
        desiredStateMatches snapshot values (criterion.desired_state_comparisons.getD [])
      else .ok true
    let partial_ := !contradiction && requiredFactsPresent && matches_ && basis == .observation
      && criterion.required && asksOnlyForResult criterion && verifiedSavedPartialV2 host snapshot
    return {
      criterion_id := criterion.criterion_id
      status := evaluationStatus contradiction partial_ requiredFactsPresent matches_
      basis
      supporting_operation_ids := text.sortedUnique (admitted.map fun entry => entry.1.operation_id)
      supporting_facts :=
        (facts.filter fun (_, fact) => criterion.semantic_fact_requirements.contains fact.fact_id).map
          fun (observation, fact) => ⟨observation.observation_id, fact.fact_id⟩
      evaluator_authority := evaluatorAuthority
      reason := evaluationReason contradiction admitted.isEmpty requiredFactsPresent matches_ partial_
      evaluated_at := evaluatedAt }

end revit_operator.assignment_kernel

open checked

namespace revit_operator.assignment_kernel

/-- A pass of the overall result criterion has to wait for the declared
    work. -/
def passesAheadOfPlan (host : JavaScriptHost) (snapshot : AssignmentSnapshotV2)
    (criterion : AssignmentCriterionSpecV2) (evaluation : CriterionEvaluationV2) : Bool :=
  evaluation.status == .pass && snapshot.spec.requested_effect == .apply
    && workPlanPendingV2 host snapshot && asksOnlyForResult criterion

/-- A cited fact comes from a trusted observation of a cited operation. -/
def checkSupportingFact (snapshot : AssignmentSnapshotV2) (criterion : AssignmentCriterionSpecV2)
    (evaluation : CriterionEvaluationV2) (fact : CriterionFactRefV2) : Except KernelFault Unit :=
  match snapshot.observations.get? fact.observation_id with
  | none => .error (.assertion "criterion_observation_untrusted"
      "Criterion cites an unknown or untrusted observation.")
  | some observation => do
    kernelAssertV2 (observation.authority ∈ criterion.accepted_observation_authority_ids)
      "criterion_observation_untrusted" "Criterion cites an unknown or untrusted observation."
    kernelAssertV2 (observation.operation_id ∈ evaluation.supporting_operation_ids)
      "criterion_fact_operation_unbound" "Criterion fact must bind to a cited operation."
    kernelAssertV2 (observation.facts.any fun candidate => candidate.fact_id == fact.fact_id)
      "criterion_fact_unknown" "Criterion cites an unknown semantic fact."

/-- A cited observation is admissible for the criterion. -/
def checkCitedObservation (host : JavaScriptHost) (snapshot : AssignmentSnapshotV2)
    (criterion : AssignmentCriterionSpecV2) (evaluation : CriterionEvaluationV2) (observationId : String) :
    Except KernelFault Unit :=
  match snapshot.observations.get? observationId with
  | none => .ok ()
  | some observation =>
    match observationAdmissibilityForCriterionV2 host snapshot criterion observation
        (some evaluation.evaluated_at) (some evaluation.basis) with
    | .ok _ => .ok ()
    | .error reason => .error (.assertion "criterion_evidence_not_admissible"
        ("Criterion cites inadmissible evidence: " ++ reason ++ "."))

/-- A pass cites every required fact and rests on something. -/
def checkPass (criterion : AssignmentCriterionSpecV2) (evaluation : CriterionEvaluationV2) :
    Except KernelFault Unit := do
  forEach criterion.semantic_fact_requirements fun requirement =>
    kernelAssertV2 (requirement ∈ evaluation.supporting_facts.map CriterionFactRefV2.fact_id)
      "criterion_required_fact_missing" "Passing criterion omits a required semantic fact."
  kernelAssertV2 (evaluation.supporting_facts ≠ [] ∨ evaluation.basis = .user_input
      ∨ evaluation.basis = .policy) "criterion_pass_unsupported"
    "Passing criterion requires semantic fact support."

/-- An equivalence with the desired state needs every desired input. -/
def checkDesiredState (snapshot : AssignmentSnapshotV2) : Except KernelFault Unit := do
  kernelAssertV2 (snapshot.spec.requested_effect = .apply) "criterion_noop_not_apply"
    "Desired-state equivalence is only meaningful for an apply Assignment."
  forEach (snapshot.spec.work_units.flatMap fun unit =>
      workUnitInputVariableIdsV2 snapshot unit.work_unit_id) fun variableId =>
    kernelAssertV2 (snapshot.input_values.has variableId) "criterion_noop_desired_state_missing"
      "Desired-state equivalence requires every admitted desired-state input."

def validateCriterionEvaluation (host : JavaScriptHost) (snapshot : AssignmentSnapshotV2)
    (evaluation : CriterionEvaluationV2) : Except KernelFault Unit :=
  match findCriterion snapshot.spec evaluation.criterion_id with
  | none => .error (.assertion "criterion_unknown" "Criterion is not in AssignmentSpecV2.")
  | some criterion => do
    kernelAssertV2 (¬ passesAheadOfPlan host snapshot criterion evaluation) "criterion_work_plan_pending"
      "Complete and verify declared work before passing the overall result criterion."
    kernelAssertV2 (evaluation.evaluator_authority ∈ criterion.accepted_evaluator_authority_ids)
      "criterion_evaluator_untrusted" "Criterion evaluator authority is not admitted by AssignmentSpecV2."
    forEach evaluation.supporting_operation_ids fun operationId =>
      kernelAssertV2 (((snapshot.operations.get? operationId).map OperationV2.settlement_state)
          = some .settled) "criterion_operation_unsettled"
        "Criterion cites an unknown or unsettled operation."
    forEach evaluation.supporting_facts (checkSupportingFact snapshot criterion evaluation)
    onlyIf snapshot.spec.semanticEvidence
      (forEach (evaluation.supporting_facts.map CriterionFactRefV2.observation_id).dedup
        (checkCitedObservation host snapshot criterion evaluation))
    onlyIf (evaluation.status = .pass) (checkPass criterion evaluation)
    onlyIf (evaluation.basis = .desired_state_equivalence) (checkDesiredState snapshot)

/-- Record an evaluation, merged with the earlier one of its criterion. -/
def recordEvaluation (host : JavaScriptHost) (snapshot : AssignmentSnapshotV2)
    (evaluation : CriterionEvaluationV2) : Except KernelFault AssignmentSnapshotV2 := do
  validateCriterionEvaluation host snapshot evaluation
  return projectWorkUnitCriteria { snapshot with
    criteria := snapshot.criteria.set evaluation.criterion_id
      (mergeEvaluation (snapshot.criteria.get? evaluation.criterion_id) evaluation)
    criterion_evaluation_versions :=
      snapshot.criterion_evaluation_versions.set evaluation.criterion_id snapshot.assignment_version }

end revit_operator.assignment_kernel
