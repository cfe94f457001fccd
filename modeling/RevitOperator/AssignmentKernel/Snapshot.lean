import RevitOperator.AssignmentKernel.Operation
import RevitOperator.AssignmentKernel.Progress.Contracts

namespace revit_operator.assignment_kernel

inductive WorkPlanItemKind where
  | edit
  | inspection
deriving DecidableEq, Repr

structure WorkPlanInspectionV2 where
  observation_ids : List String
  target_ids : List String
deriving DecidableEq

inductive LocationStatus where
  | unresolved
  | ambiguous
  | candidate
deriving DecidableEq, Repr

structure LocationRegion where
  min_u : ℚ
  min_v : ℚ
  max_u : ℚ
  max_v : ℚ
deriving DecidableEq

structure LocationSource where
  attachment_id : String
  filename : String
  sha256 : String
  page : Int
  page_count : Int
  sheet_label : Option String
  view_label : Option String
  region : Option LocationRegion
deriving DecidableEq

structure LocationNative where
  document_fingerprint : String
  view_id : Int
  view_name : String
  sheet_number : Option String
deriving DecidableEq

inductive DraftingPass where
  | geometry
  | sizes_properties
  | connections
  | elevation
  | annotations
  | coverage
deriving DecidableEq, Repr

inductive DraftingStage where
  | attempted
  | drafted
  | checked
  | blocked
deriving DecidableEq, Repr

structure DraftingProgressV1 where
  pass : DraftingPass
  stage : DraftingStage
  element_ids : List Int
  read_operation_ids : List String
  source_image_sha256 : Option String
  model_image_sha256 : Option String
  next_action : String
  remaining : String
  boundary_context : Option String
deriving DecidableEq

structure WorkPlanLocationHintV2 where
  status : LocationStatus
  reason : String
  source : Option LocationSource
  native : Option LocationNative
  drafting : Option DraftingProgressV1
deriving DecidableEq

structure WorkPlanLocationRecordV2 where
  hint : WorkPlanLocationHintV2
  recorded_at : String
  binding : AssignmentBindingV2
deriving DecidableEq

structure WorkPlanDeferral where
  reason : String
  deferred_at : String
  prior_claim_count : Option Nat
  resumed_at : Option String
  resume_reason : Option String
deriving DecidableEq

structure AssignmentWorkPlanItemV2 where
  item_id : String
  description : String
  source_basis : String
  declared_at : String
  kind : Option WorkPlanItemKind
  depends_on : Option (List String)
  inspection : Option WorkPlanInspectionV2
  operation_ids : List String
  completed_at : Option String
  location_history : Option (List WorkPlanLocationRecordV2)
  deferrals : Option (List WorkPlanDeferral)
deriving DecidableEq

structure AssignmentWorkPlanV2 where
  items : List AssignmentWorkPlanItemV2
  assumptions : List String
deriving DecidableEq

structure WorkPlanItemDeclarationV2 where
  item_id : String
  description : String
  source_basis : String
  kind : Option WorkPlanItemKind
  depends_on : Option (List String)
deriving DecidableEq

structure WorkPlanDeclarationV2 where
  items : List WorkPlanItemDeclarationV2
  assumptions : List String
deriving DecidableEq

structure WorkPlanClaim where
  item_id : String
  operation_ids : List String
  claimed_at : String
deriving DecidableEq

/-- The scope of a retained check stays the JSON selector it arrived as. -/
structure WorkPlanScopeRequestV1 where
  item_id : String
  scope : Json
  operation_ids : List String
  requested_at : String
  read_selection : Option String
deriving DecidableEq

structure DiscoveredAssignmentInputV2 where
  variable_ : AssignmentInputVariableV2
  dependent_work_unit_ids : List String
deriving DecidableEq

inductive ExecutionControlState where
  | paused
  | running
deriving DecidableEq, Repr

structure ExecutionControl where
  state : ExecutionControlState
  command_id : String
  changed_at : String
deriving DecidableEq

structure Clarification where
  clarification_id : String
  variable_id : String
  question : String
  requested_at : String
  resolved_at : Option String
deriving DecidableEq

structure AdvisoryCompletionProposalV1 where
  claimed_completed : List String
  remaining_work : List String
  uncertainties : List String
  user_facing_text : Option String
deriving DecidableEq

structure CompletionProposal where
  proposal : AdvisoryCompletionProposalV1
  review_id : String
  proposed_at : String
deriving DecidableEq

structure ProgressBlocker where
  code : String
  gap_ids : List String
  recorded_at : String
deriving DecidableEq

inductive AdvisoryFollowupKind where
  | remaining_work
  | uncertainties
deriving DecidableEq, Repr

def AdvisoryFollowupKind.toText : AdvisoryFollowupKind → String
  | .remaining_work => "remaining_work"
  | .uncertainties => "uncertainties"

inductive AdvisoryFollowupState where
  | open_
  | resolved
  | deferred
  | superseded
deriving DecidableEq, Repr

structure AdvisoryFollowupV2 where
  item_id : String
  kind : AdvisoryFollowupKind
  text : String
  source_version : Nat
  source_field : String
  source_index : Nat
  parent_item_id : Option String
  last_mentioned_version : Nat
  version : Nat
  state : AdvisoryFollowupState
  disposition_reason : Option String
deriving DecidableEq

structure AdvisoryReplacement where
  kind : AdvisoryFollowupKind
  text : String
deriving DecidableEq

/-- The dispositions a user can give a follow-up. -/
inductive AdvisoryDisposition where
  | resolved
  | deferred
  | superseded
deriving DecidableEq, Repr

structure AdvisoryFollowupDispositionV2 where
  command_id : String
  item_id : String
  expected_version : Int
  disposition : AdvisoryDisposition
  reason : String
  replacements : Option (List AdvisoryReplacement)
deriving DecidableEq

inductive ResultValueSource where
  | raw_payload
  | deterministic_projection
deriving DecidableEq, Repr

inductive ResultPresentationKind where
  | result
  | diagnostic
deriving DecidableEq, Repr

/-- A path step is an object key or an array index. -/
inductive ResultPathStep where
  | key (name : String)
  | index (position : Nat)
deriving DecidableEq, Repr

structure AssignmentResultItemV2 where
  label : String
  observation_id : String
  path : List ResultPathStep
  value : Json
  value_source : Option ResultValueSource
  evidence_ref : String
  payload_hash : String
  presentation_kind : Option ResultPresentationKind
deriving DecidableEq

inductive FindingPriority where
  | high
  | medium
  | low
deriving DecidableEq, Repr

structure AssessmentFinding where
  priority : FindingPriority
  title : String
  text : String
  evidence_indices : List Int
deriving DecidableEq

structure AssignmentAssessmentV2 where
  overview : String
  findings : List AssessmentFinding
  limitations : List String
  questions : List String
deriving DecidableEq

structure AssignmentResultDeliveryV2 where
  items : List AssignmentResultItemV2
  assessment : Option AssignmentAssessmentV2
deriving DecidableEq

/-- The projection the reducer derives from the journal of an assignment. -/
structure AssignmentSnapshotV2 where
  assignment_version : Nat
  spec : AssignmentSpecV2
  current_binding : AssignmentBindingV2
  user_followup_allocation : Option UserFollowupAllocationV1
  work_plan_scope_requests : List WorkPlanScopeRequestV1
  execution_control : Option ExecutionControl
  provider_usage_hold : Option ProviderUsageHoldV1
  discovered_inputs : Record DiscoveredAssignmentInputV2
  input_values : Record (Option Json)
  input_invalidated_operation_ids : List String
  pending_input_variable_ids : List String
  clarifications : Record Clarification
  work_unit_states : Record AssignmentWorkUnitStateV2
  pending_review_ids : List String
  completion_proposal : Option CompletionProposal
  provider_call_ids : List String
  provider_calls : Record ProviderCallV2
  in_flight_provider_call_ids : List String
  provider_budget_exhausted : Bool
  execution_failure_ids : List String
  execution_failures : Record ExecutionFailureV2
  progress_epochs : List ProgressEpochV2
  progress_blocker : Option ProgressBlocker
  operations : Record OperationV2
  operation_children : Record (List String)
  blocking_child_operation_ids : List String
  observations : Record ObservationV2
  observation_versions : Record Nat
  criteria : Record CriterionEvaluationV2
  criterion_evaluation_versions : Record Nat
  outcome : AssignmentOutcomeV2
  terminal : Bool
  result_delivery : Option AssignmentResultDeliveryV2
  advisory_followups : List AdvisoryFollowupV2
  work_plan_claims : List WorkPlanClaim
  work_plan : Option AssignmentWorkPlanV2
  terminal_reason : Option String
  in_flight_operation_ids : List String
  unresolved_unknown_operation_ids : List String
  quiescent : Bool
  finished_at : Option String

/-- A host-selected advisory policy verifies nothing by itself. -/
def advisoryVerificationV2 (spec : AssignmentSpecV2) : Bool :=
  match spec.execution_policy with
  | some policy => policy.mode == .local_advisory_v1 || policy.mode == .single_actor_review_v1
  | none => false

/-- The assignment is paused by the user. -/
def AssignmentSnapshotV2.paused (snapshot : AssignmentSnapshotV2) : Bool :=
  (snapshot.execution_control.map ExecutionControl.state) == some .paused

end revit_operator.assignment_kernel
