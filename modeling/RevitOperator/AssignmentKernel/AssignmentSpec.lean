import RevitOperator.Library.Checked
import RevitOperator.Library.Record
import RevitOperator.Library.Json

namespace revit_operator.assignment_kernel

/-- A fault of the kernel: a rejected assertion with its code and message, or
    an ordinary `Error` with a message. -/
inductive KernelFault where
  | assertion (code message : String)
  | error (message : String)
deriving DecidableEq, Repr

/-- Continue when the condition holds and throw `AssignmentKernelErrorV2`
    otherwise. -/
abbrev kernelAssertV2 (condition : Prop) [Decidable condition] (code message : String) :
    Except KernelFault Unit :=
  checked.require condition (.assertion code message)

/-- Continue when the condition holds and throw an ordinary `Error` otherwise. -/
abbrev throwUnless (condition : Prop) [Decidable condition] (message : String) :
    Except KernelFault Unit :=
  checked.require condition (.error message)

/-- A required optional text is present and not empty. -/
def truthy : Option String → Bool
  | some text => text != ""
  | none => false

/-- The trusted scope of a run. -/
structure AssignmentBindingV2 where
  assignment_id : String
  run_id : String
  generation : Int
  session_id : String
  principal_id : String
  document_fingerprint : Option String
deriving DecidableEq, Repr

def sameAssignmentBindingV2 (left right : AssignmentBindingV2) : Bool :=
  left.assignment_id == right.assignment_id && left.run_id == right.run_id
    && left.generation == right.generation && left.session_id == right.session_id
    && left.principal_id == right.principal_id
    && left.document_fingerprint == right.document_fingerprint

@[simp]
theorem sameAssignmentBindingV2_iff {left right : AssignmentBindingV2} :
    sameAssignmentBindingV2 left right = true ↔ left = right := by
  cases left
  cases right
  simp [sameAssignmentBindingV2, and_assoc]

theorem sameAssignmentBindingV2_self (binding : AssignmentBindingV2) :
    sameAssignmentBindingV2 binding binding = true :=
  sameAssignmentBindingV2_iff.2 rfl

/-- An integer that JavaScript represents exactly. -/
def isSafeInteger (n : Int) : Bool := n.natAbs ≤ 9007199254740991

/-- A positive integer within a ceiling. -/
def boundedInteger (value max : Int) : Bool := isSafeInteger value && 0 < value && value ≤ max

def ASSIGNMENT_VERIFICATION_WORK_UNIT_ID_V2 : String := "work-verification"

inductive RequestedEffectV2 where
  | read
  | preview
  | apply
deriving DecidableEq, Repr

/-- The order of requested effects. -/
def EFFECT_RANK : RequestedEffectV2 → Nat
  | .read => 0
  | .preview => 1
  | .apply => 2

inductive OperationFulfillmentRoleV2 where
  | supporting_control
  | prerequisite
  | delegated_task_execution
  | verification
  | reconciliation
  | telemetry
deriving DecidableEq, Repr

inductive ObservationEvidenceClassV2 where
  | control
  | prerequisite
  | task_result
  | verification
  | reconciliation
  | telemetry
deriving DecidableEq, Repr

inductive SemanticFactClassV2 where
  | control
  | domain
  | verification
  | reconciliation
  | telemetry
deriving DecidableEq, Repr

def CRITERION_EVIDENCE_POLICY_V2_SCHEMA : String := "revit-operator.criterion-evidence-policy/v2"
def SEMANTIC_EVIDENCE_CONTRACT_V2 : String := "revit-operator.semantic-evidence-contract/v2"

structure CriterionEvidencePolicyV2 where
  schema : String
  allowed_evidence_classes : List ObservationEvidenceClassV2
  allowed_fulfillment_roles : List OperationFulfillmentRoleV2
  allowed_fact_classes : List SemanticFactClassV2
  allowed_capability_ids : List String
  allowed_result_schema_ids : List String
  required_fact_ids : List String
  require_native_dispatch : Bool
  require_current_generation : Bool
deriving DecidableEq

inductive InputValueState where
  | known
  | needs_input
  | needs_review
deriving DecidableEq, Repr

/-- `value` is absent when the variable carries none. -/
structure AssignmentInputVariableV2 where
  variable_id : String
  value_state : InputValueState
  value : Option Json
  required : Bool
  sensitive : Bool
deriving DecidableEq

/-- A scalar of a semantic fact. -/
inductive SemanticFactScalarV2 where
  | null
  | bool (value : Bool)
  | num (value : ℚ)
  | str (value : String)
deriving DecidableEq

structure DesiredStateComparisonV2 where
  fact_id : String
  input_variable_id : String
  dimensions : Option (Record SemanticFactScalarV2)
  target_id : Option String

structure AssignmentCriterionSpecV2 where
  criterion_id : String
  required : Bool
  semantic_fact_requirements : List String
  accepted_evaluator_authority_ids : List String
  accepted_observation_authority_ids : List String
  evidence_policy : Option CriterionEvidencePolicyV2
  desired_state_comparisons : Option (List DesiredStateComparisonV2)

structure AssignmentWorkUnitSpecV2 where
  work_unit_id : String
  requested_effect : RequestedEffectV2
  dependency_ids : List String
  criterion_ids : List String
  input_variable_ids : List String
  independently_useful : Bool
  safe_to_retain : Bool
deriving DecidableEq

inductive AssignmentWorkUnitStateV2 where
  | pending
  | active
  | complete
  | retained
  | blocked
  | failed
deriving DecidableEq, Repr

inductive PrerequisiteKind where
  | information
  | approval
deriving DecidableEq, Repr

structure InterpretedPrerequisiteV1 where
  variable_id : String
  kind : PrerequisiteKind
  question : String
  source_quote : String
deriving DecidableEq

structure InterpretedOperationScopeV1 where
  schema : String
  requested_effect : RequestedEffectV2
  model_effect : RequestedEffectV2
  protected_clauses : List String
  prerequisites : List InterpretedPrerequisiteV1
deriving DecidableEq

structure BoundInterpretedScopeV1 where
  source_message_id : String
  source_request_sha256 : String
  scope : InterpretedOperationScopeV1
deriving DecidableEq

structure PdfSheetAllowanceV1 where
  page : Int
  comments : Int
  units : Int
deriving DecidableEq

structure PdfSourceAllowanceV1 where
  sha256 : String
  page_count : Int
  sheets : List PdfSheetAllowanceV1
deriving DecidableEq

structure PdfWorkAllowanceV1 where
  mode : String
  units : Int
  sources : List PdfSourceAllowanceV1
deriving DecidableEq

structure NativeScopePlanningV1 where
  mode : String
  scope_kind : String
  source_request_sha256 : String
  items_per_unit : Int
  max_units : Int
deriving DecidableEq

inductive ProgressAllowanceMode where
  | verified_native_changes_v1
  | observed_native_work_v1
deriving DecidableEq, Repr

inductive ProgressCreditUnit where
  | distinct_verified_targets_v1
  | distinct_observed_physical_targets_v1
deriving DecidableEq, Repr

structure ProgressAllowanceV1 where
  mode : ProgressAllowanceMode
  max_provider_calls : Int
  max_operations : Int
  max_total_tokens : Int
  max_wall_clock_ms : Option Int
  credit_unit : Option ProgressCreditUnit
deriving DecidableEq

inductive ExecutionPolicyMode where
  | local_advisory_v1
  | single_actor_review_v1
deriving DecidableEq, Repr

/-- The two execution policies, told apart by `mode`. Only the single-actor
    review names a principal. -/
structure AssignmentExecutionPolicyV1 where
  mode : ExecutionPolicyMode
  selected_by : String
  principal_id : Option String
  session_id : String
  document_fingerprint : String
  max_turns : Int
  max_provider_calls : Int
  max_operations : Int
  max_total_tokens : Int
  max_wall_clock_ms : Int
  ready_work_handoff : Option String
  source_work_allowance : Option PdfWorkAllowanceV1
  native_scope_planning : Option NativeScopePlanningV1
  progress_allowance : Option ProgressAllowanceV1
deriving DecidableEq

structure AssignmentSpecV2 where
  binding : AssignmentBindingV2
  source_user_request : String
  requested_effect : RequestedEffectV2
  semantic_evidence_contract : Option String
  interpreted_scope : Option BoundInterpretedScopeV1
  result_delivery_required : Bool
  result_assessment_required : Bool
  work_plan_required : Bool
  work_plan_min_items : Option Nat
  execution_policy : Option AssignmentExecutionPolicyV1
  criteria : List AssignmentCriterionSpecV2
  input_variables : List AssignmentInputVariableV2
  work_units : List AssignmentWorkUnitSpecV2
  created_at : String

/-- The specification binds criteria to typed semantic evidence. -/
def AssignmentSpecV2.semanticEvidence (spec : AssignmentSpecV2) : Bool :=
  spec.semantic_evidence_contract == some SEMANTIC_EVIDENCE_CONTRACT_V2

end revit_operator.assignment_kernel
