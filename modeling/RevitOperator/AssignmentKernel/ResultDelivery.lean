import RevitOperator.AssignmentKernel.Verification
import RevitOperator.AssignmentKernel.SemanticAdmissibility

open checked
open revit_operator.contracts

namespace revit_operator.assignment_kernel

/-- A non-blank text within a length. -/
def boundedText (value : String) (max : Nat) : Bool := text.nonBlank value && text.length value ≤ max

def isScalar : Json → Bool
  | .null | .bool _ | .num _ | .str _ => true
  | .arr _ | .obj _ => false

/-- One finding of an assessment cites delivered items. -/
def findingValid (itemCount : Nat) (finding : AssessmentFinding) : Bool :=
  boundedText finding.title 160 && boundedText finding.text 1200 && !finding.evidence_indices.isEmpty
    && finding.evidence_indices.length ≤ 8 && decide finding.evidence_indices.Nodup
    && finding.evidence_indices.all fun index => isSafeInteger index && 1 ≤ index && index ≤ itemCount

/-- An assessed item is a scalar or a small list of scalars. -/
def conciseValue (host : JavaScriptHost) (value : Json) : Bool :=
  text.length (host.stringify value) ≤ 800
    && (isScalar value || (match value with
      | .arr items => items.length ≤ 12 && items.all isScalar
      | _ => false))

def validateAssignmentAssessmentV2 (host : JavaScriptHost) (items : List AssignmentResultItemV2)
    (assessment : AssignmentAssessmentV2) : Except KernelFault Unit := do
  throwUnless (boundedText assessment.overview 1200 ∧ assessment.findings ≠ []
      ∧ assessment.findings.length ≤ 12 ∧ assessment.limitations.length ≤ 8
      ∧ assessment.limitations.all (boundedText · 800) ∧ assessment.questions.length ≤ 3
      ∧ assessment.questions.all (boundedText · 600)) "assignment_assessment_invalid"
  throwUnless (assessment.findings.all (findingValid items.length)) "assignment_assessment_finding_invalid"
  throwUnless (items.all fun item => conciseValue host item.value)
    "assignment_assessment_select_concise_values: select scalar resultItems or small scalar arrays instead of whole reports or inventories"

inductive ResultEligibility where
  | result
  | diagnostic
  | ineligible
deriving DecidableEq, Repr

/-- The applied operation a delivered observation reports on. -/
def appliedSubject (snapshot : AssignmentSnapshotV2) (operation : OperationV2) : Option OperationV2 :=
  if operation.requested_effect = .apply then some operation
  else if truthy operation.verification_of_operation_id then
    operation.verification_of_operation_id.bind snapshot.operations.get?
  else none

/-- The observation belongs to a verified native file of an apply assignment. -/
def artifactResult (host : JavaScriptHost) (snapshot : AssignmentSnapshotV2) (observation : ObservationV2)
    (operation : OperationV2) (applied : Option OperationV2) : Bool :=
  let verified := match applied with
    | none => false
    | some subject => (match subject.result with
        | some result => nativeArtifactResultEffectV2 host result == some .applied
        | none => false)
        && appliedOperationHasVerifiedPostconditionV2 snapshot subject.operation_id
  snapshot.spec.requested_effect == .apply && snapshot.spec.result_delivery_required && verified
    && observation.authority == "native-host"
    && ((operation.requested_effect == .apply && observation.evidence_class == some .task_result)
      || (operation.requested_effect == .read && operation.purpose == .verification
        && observation.evidence_class == some .verification))

/-- Whether an observation may be presented as a result or as a diagnostic. -/
def resultObservationEligibilityV2 (host : JavaScriptHost) (snapshot : AssignmentSnapshotV2)
    (observationId : String) : ResultEligibility :=
  match snapshot.observations.get? observationId with
  | none => .ineligible
  | some observation =>
    match snapshot.operations.get? observation.operation_id with
    | none => .ineligible
    | some operation =>
      let applied := appliedSubject snapshot operation
      let status := operation.result.map OperationResultV2.status
      if !sameAssignmentBindingV2 snapshot.current_binding observation.binding
          || !(observation.authority == "native-host" || observation.authority == "dynamic-runtime")
          || operation.settlement_state != .settled || !operationUsesCurrentInputsV2 snapshot operation
          || applied.any (fun subject => !operationUsesCurrentInputsV2 snapshot subject)
          || (!artifactResult host snapshot observation operation applied
            && (operation.requested_effect != .read || observation.evidence_class != some .task_result)) then
        .ineligible
      else if status = some .succeeded then .result
      else if observation.authority == "dynamic-runtime" && status == some .failed_after_dispatch
          && (operation.result.map OperationResultV2.persistent_effect) == some .none then .diagnostic
      else .ineligible

/-- The first step of a path as text. -/
def pathRoot (item : AssignmentResultItemV2) : String :=
  match item.path with
  | .key name :: _ => name
  | .index position :: _ => toString position
  | [] => "undefined"

/-- The item presents diagnostics of a failed read. -/
def presentsDiagnostic (item : AssignmentResultItemV2) (eligibility : ResultEligibility) : Bool :=
  item.presentation_kind == some .diagnostic && eligibility == .diagnostic
    && item.value_source != some .deterministic_projection
    && ["execution_status", "diagnostics", "logs"].contains (pathRoot item)

def resultItemShaped (item : AssignmentResultItemV2) (diagnostic : Bool) : Bool :=
  (item.value_source != some .deterministic_projection
      || (item.path.length == 2 && ["key_counts", "key_facts"].contains (pathRoot item)
        && isScalar item.value))
    && (item.presentation_kind != some .diagnostic || diagnostic)
    && text.nonBlank item.label && text.length item.label ≤ 160
    && !item.path.isEmpty && item.path.length ≤ 24

/-- One delivered item is well formed and points at eligible evidence. -/
def checkResultItem (host : JavaScriptHost) (snapshot : AssignmentSnapshotV2)
    (item : AssignmentResultItemV2) : Except KernelFault Unit := do
  let eligibility := resultObservationEligibilityV2 host snapshot item.observation_id
  let diagnostic := presentsDiagnostic item eligibility
  throwUnless (resultItemShaped item diagnostic) "assignment_result_item_invalid"
  match snapshot.observations.get? item.observation_id with
  | none => .error (.error "assignment_result_observation_ineligible")
  | some observation =>
    throwUnless ((diagnostic ∨ eligibility = .result) ∧ item.evidence_ref = observation.raw_payload_ref
      ∧ item.payload_hash = observation.raw_payload_hash) "assignment_result_observation_ineligible"

def ResultPathStep.toJson : ResultPathStep → Json
  | .key name => .str name
  | .index position => .num position

def AssignmentResultItemV2.toJson (item : AssignmentResultItemV2) : Json :=
  .obj ([("label", .str item.label), ("observation_id", .str item.observation_id),
      ("path", .arr (item.path.map ResultPathStep.toJson)), ("value", item.value)]
    ++ (item.value_source.toList.map fun source => ("value_source", .str (match source with
      | .raw_payload => "raw_payload" | .deterministic_projection => "deterministic_projection")))
    ++ [("evidence_ref", .str item.evidence_ref), ("payload_hash", .str item.payload_hash)]
    ++ (item.presentation_kind.toList.map fun kind => ("presentation_kind", .str (match kind with
      | .result => "result" | .diagnostic => "diagnostic"))))

def FindingPriority.toText : FindingPriority → String
  | .high => "high"
  | .medium => "medium"
  | .low => "low"

def AssignmentAssessmentV2.toJson (assessment : AssignmentAssessmentV2) : Json :=
  .obj [("overview", .str assessment.overview),
    ("findings", .arr (assessment.findings.map fun finding => .obj
      [("priority", .str finding.priority.toText), ("title", .str finding.title), ("text", .str finding.text),
        ("evidence_indices", .arr (finding.evidence_indices.map fun index => .num index))])),
    ("limitations", .arr (assessment.limitations.map .str)),
    ("questions", .arr (assessment.questions.map .str))]

def AssignmentResultDeliveryV2.toJson (delivery : AssignmentResultDeliveryV2) : Json :=
  .obj ([("items", .arr (delivery.items.map AssignmentResultItemV2.toJson))]
    ++ (delivery.assessment.toList.map fun assessment => ("assessment", assessment.toJson)))

/-- Presentation never manufactures facts: a delivery only repeats retained
    evidence. -/
def validateResultDeliveryV2 (host : JavaScriptHost) (snapshot : AssignmentSnapshotV2)
    (delivery : AssignmentResultDeliveryV2) : Except KernelFault Unit := do
  throwUnless (snapshot.spec.result_delivery_required ∧ snapshot.spec.requested_effect ≠ .preview)
    "assignment_result_delivery_not_required"
  throwUnless (delivery.items ≠ [] ∧ delivery.items.length ≤ 32
    ∧ text.length (host.stringify delivery.toJson) ≤ 32000) "assignment_result_delivery_invalid"
  forEach delivery.items (checkResultItem host snapshot)
  throwUnless (¬ snapshot.spec.result_assessment_required ∨ delivery.assessment.isSome)
    "assignment_result_assessment_required"
  forEach delivery.assessment.toList (validateAssignmentAssessmentV2 host delivery.items)

end revit_operator.assignment_kernel
