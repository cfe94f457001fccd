import RevitOperator.AssignmentKernel.AssignmentSpec

namespace revit_operator.assignment_kernel

def SemanticFactScalarV2.toJson : SemanticFactScalarV2 → Json
  | .null => .null
  | .bool value => .bool value
  | .num value => .num value
  | .str value => .str value

/-- The value of a fact: one scalar, or a list of them. -/
inductive SemanticFactValueV2 where
  | scalar (value : SemanticFactScalarV2)
  | list (values : List SemanticFactScalarV2)
deriving DecidableEq

def SemanticFactValueV2.toJson : SemanticFactValueV2 → Json
  | .scalar value => value.toJson
  | .list values => .arr (values.map SemanticFactScalarV2.toJson)

/-- The fact carries the Boolean `true`. -/
def SemanticFactValueV2.isTrue (value : SemanticFactValueV2) : Bool :=
  value == .scalar (.bool true)

/-- The fact carries this string. -/
def SemanticFactValueV2.isText (value : SemanticFactValueV2) (expected : String) : Bool :=
  value == .scalar (.str expected)

inductive SemanticFactCardinalityV2 where
  | one
  | many
deriving DecidableEq, Repr

structure SemanticFactV2 where
  fact_id : String
  fact_class : Option SemanticFactClassV2
  value : SemanticFactValueV2
  cardinality : Option SemanticFactCardinalityV2
  dimensions : Option (Record SemanticFactScalarV2)
  identity_dimensions : Option (List String)
  target_id : Option String

/-- The identity of a semantic fact. Its canonical text is injective, so two
    identities have equal texts exactly when they are equal. -/
structure SemanticFactIdentity where
  fact_id : String
  cardinality : SemanticFactCardinalityV2
  dimensions : List (String × SemanticFactScalarV2)
  target_id : Option String
  member_value : Option SemanticFactValueV2
deriving DecidableEq

def semanticFactIdentityV2 (fact : SemanticFactV2) : SemanticFactIdentity :=
  let cardinality := fact.cardinality.getD .one
  let dimensions := fact.dimensions.getD ∅
  let identityDimensions :=
    if cardinality = .many then text.sortedUnique (fact.identity_dimensions.getD dimensions.ids)
    else text.sortedUnique dimensions.ids
  { fact_id := fact.fact_id
    cardinality
    dimensions := identityDimensions.map fun key => (key, (dimensions.get? key).getD .null)
    target_id := fact.target_id
    member_value :=
      if cardinality = .many ∧ identityDimensions.length = 0 then some fact.value else none }

structure ObservationV2 where
  observation_id : String
  operation_id : String
  fulfillment_role : Option OperationFulfillmentRoleV2
  evidence_class : Option ObservationEvidenceClassV2
  capability_id : Option String
  eligible_criterion_ids : Option (List String)
  binding : AssignmentBindingV2
  authority : String
  result_schema_id : String
  raw_payload_ref : String
  raw_payload_hash : String
  facts : List SemanticFactV2
  freshness_deadline : Option String

inductive CriterionStatusV2 where
  | pass
  | partial_
  | needs_input
  | needs_review
  | failed
  | not_applicable
  | uncertain
deriving DecidableEq, Repr

def CriterionStatusV2.toText : CriterionStatusV2 → String
  | .pass => "pass"
  | .partial_ => "partial"
  | .needs_input => "needs_input"
  | .needs_review => "needs_review"
  | .failed => "failed"
  | .not_applicable => "not_applicable"
  | .uncertain => "uncertain"

inductive AssignmentOutcomeV2 where
  | active
  | awaiting_user_input
  | awaiting_user_review
  | complete
  | complete_with_issues
  | verified_noop
  | blocked
  | failed
deriving DecidableEq, Repr

inductive CriterionBasisV2 where
  | observation
  | execution
  | desired_state_equivalence
  | user_input
  | policy
deriving DecidableEq, Repr

structure CriterionFactRefV2 where
  observation_id : String
  fact_id : String
deriving DecidableEq

structure CriterionEvaluationV2 where
  criterion_id : String
  status : CriterionStatusV2
  basis : CriterionBasisV2
  supporting_operation_ids : List String
  supporting_facts : List CriterionFactRefV2
  evaluator_authority : String
  reason : String
  evaluated_at : String
deriving DecidableEq

end revit_operator.assignment_kernel
