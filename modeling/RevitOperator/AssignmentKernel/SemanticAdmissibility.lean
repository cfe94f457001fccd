import RevitOperator.AssignmentKernel.InputRegistry
import RevitOperator.Contracts.NativeArtifact

open checked
open revit_operator.contracts

namespace revit_operator.assignment_kernel

def fulfillmentRoleCanCarryTaskCriteriaV2 : OperationFulfillmentRoleV2 → Bool
  | .delegated_task_execution | .verification => true
  | _ => false

/-- The criterion is defined by an equivalence with a desired state. -/
def AssignmentCriterionSpecV2.comparesDesiredState (criterion : AssignmentCriterionSpecV2) : Bool :=
  !(criterion.desired_state_comparisons.getD []).isEmpty

/-- Task work performs the effect of the assignment. Only a read that
    establishes an already reached desired state may do less. -/
def operationEffectAdmissibleForCriterionV2 (assignmentEffect operationEffect : RequestedEffectV2)
    (criterion : AssignmentCriterionSpecV2) (basis : Option CriterionBasisV2) : Bool :=
  operationEffect == assignmentEffect
    || (basis == some .desired_state_equivalence && assignmentEffect == .apply
      && operationEffect == .read && criterion.comparesDesiredState)

def evidenceClassForFulfillmentRoleV2 : OperationFulfillmentRoleV2 → ObservationEvidenceClassV2
  | .supporting_control => .control
  | .prerequisite => .prerequisite
  | .delegated_task_execution => .task_result
  | .verification => .verification
  | .reconciliation => .reconciliation
  | .telemetry => .telemetry

/-- The operation and the facts of an admitted observation. -/
structure ObservationAdmissionV2 where
  operation : OperationV2
  supporting_facts : List SemanticFactV2

/-- An observation is denied with a reason when the condition holds. -/
abbrev denyIf (condition : Prop) [Decidable condition] (reason : String) : Except String Unit :=
  require (¬ condition) reason

/-- The effect of task work is the one its criterion needs. -/
def taskEffectAdmissible (host : JavaScriptHost) (spec : AssignmentSpecV2) (operation : OperationV2)
    (result : OperationResultV2) (criterion : AssignmentCriterionSpecV2)
    (basis : Option CriterionBasisV2) : Except String Unit := do
  denyIf (¬ operationEffectAdmissibleForCriterionV2 spec.requested_effect operation.requested_effect
    criterion basis) "task_operation_effect_mismatch"
  denyIf (operation.requested_effect ≠ spec.requested_effect ∧ (operation.persistent_effect ≠ .none
    ∨ result.native_transaction_state ≠ .not_applicable)) "desired_state_read_effect_invalid"
  denyIf (operation.requested_effect = spec.requested_effect ∧ spec.requested_effect = .apply
    ∧ (operation.persistent_effect ≠ .applied ∨ (result.native_transaction_state ≠ .committed
      ∧ nativeArtifactResultEffectV2 host result ≠ some .applied))) "apply_task_effect_not_committed"
  denyIf (operation.requested_effect = spec.requested_effect ∧ spec.requested_effect = .preview
    ∧ (operation.persistent_effect ≠ .none ∨ (result.native_transaction_state ≠ .rolled_back
      ∧ nativeArtifactResultEffectV2 host result ≠ some .none))) "preview_task_effect_not_rolled_back"

/-- The evaluation happens after the observation stopped being fresh. -/
def staleAt (host : JavaScriptHost) (observation : ObservationV2) (evaluatedAt : Option String) : Bool :=
  truthy observation.freshness_deadline && truthy evaluatedAt
    && host.before (observation.freshness_deadline.getD "") (evaluatedAt.getD "")

/-- The single semantic-admission predicate. Discovery of pending criteria,
    evaluation and the reducer all use it. -/
def observationAdmissibilityForCriterionV2 (host : JavaScriptHost) (snapshot : AssignmentSnapshotV2)
    (criterion : AssignmentCriterionSpecV2) (observation : ObservationV2) (evaluatedAt : Option String)
    (basis : Option CriterionBasisV2) : Except String ObservationAdmissionV2 :=
  match criterion.evidence_policy with
  | none => .error "criterion_evidence_policy_missing"
  | some policy => do
    denyIf (¬ snapshot.spec.semanticEvidence) "criterion_evidence_policy_missing"
    denyIf (¬ sameAssignmentBindingV2 snapshot.current_binding observation.binding)
      "observation_binding_not_current"
    match snapshot.operations.get? observation.operation_id with
    | none => .error "observation_operation_missing"
    | some operation =>
      denyIf (¬ operationUsesCurrentInputsV2 snapshot operation) "operation_predates_authenticated_input"
      match operation.result with
      | none => .error "operation_not_successfully_settled"
      | some result =>
        denyIf (operation.settlement_state ≠ .settled ∨ result.status ≠ .succeeded)
          "operation_not_successfully_settled"
        match operation.fulfillment_role, operation.eligible_criterion_ids with
        | some role, some eligible =>
          denyIf (criterion.criterion_id ∉ eligible) "operation_not_eligible_for_criterion"
          onlyIf (role = .delegated_task_execution)
            (taskEffectAdmissible host snapshot.spec operation result criterion basis)
          denyIf (observation.fulfillment_role ≠ some role) "observation_fulfillment_role_mismatch"
          denyIf (observation.capability_id ≠ some operation.capability_id)
            "observation_capability_mismatch"
          denyIf (criterion.criterion_id ∉ observation.eligible_criterion_ids.getD [])
            "observation_not_eligible_for_criterion"
          denyIf (role ∉ policy.allowed_fulfillment_roles) "fulfillment_role_not_allowed"
          denyIf (¬ observation.evidence_class.any policy.allowed_evidence_classes.contains)
            "evidence_class_not_allowed"
          denyIf (policy.allowed_capability_ids ≠ []
            ∧ operation.capability_id ∉ policy.allowed_capability_ids) "capability_not_allowed"
          denyIf (policy.allowed_result_schema_ids ≠ []
            ∧ observation.result_schema_id ∉ policy.allowed_result_schema_ids) "result_schema_not_allowed"
          denyIf (policy.require_native_dispatch ∧ result.dispatch_state ≠ .dispatched)
            "required_task_execution_not_dispatched"
          denyIf (policy.require_current_generation
            ∧ observation.binding.generation ≠ snapshot.current_binding.generation)
            "observation_generation_not_current"
          denyIf (staleAt host observation evaluatedAt) "observation_not_fresh"
          let supportingFacts := observation.facts.filter
            fun fact => policy.required_fact_ids.contains fact.fact_id
          denyIf (supportingFacts.any fun fact => !fact.fact_class.any policy.allowed_fact_classes.contains)
            "semantic_fact_class_not_allowed"
          return { operation, supporting_facts := supportingFacts }
        | _, _ => .error "operation_fulfillment_contract_missing"

/-- The observation is admitted as evidence for the criterion. -/
def observationAdmitted (host : JavaScriptHost) (snapshot : AssignmentSnapshotV2)
    (criterion : AssignmentCriterionSpecV2) (observation : ObservationV2) (evaluatedAt : Option String)
    (basis : Option CriterionBasisV2) : Bool :=
  (observationAdmissibilityForCriterionV2 host snapshot criterion observation evaluatedAt basis).isOk

end revit_operator.assignment_kernel
