import RevitOperator.AssignmentKernel.ProviderUsageHold

namespace revit_operator.assignment_kernel

structure AdvisoryCheckpointContinuationV1 where
  command_id : String
  expected_control_command_id : Option String
  document_fingerprint : String
  direction_variable_id : String
  direction_text : String
  resource_renewal : Option UserResourceRenewalRequestV1
deriving DecidableEq

/-- One state of a provider call with the telemetry that came with it. -/
structure ProviderCallStateEvent where
  call_id : String
  state : ProviderCallStateV2
  provider : Option String
  model : Option String
  reasoning_effort : Option String
  gap_ids : List String
  criterion_ids : List String
  expected_information : List String
  usage : Option ProviderUsageV2
  upstream_receipt : Option UpstreamProviderReceiptV2
  success : Option Bool
  error_class : Option ProviderErrorClassV2
deriving DecidableEq

/-- The effects a reconciliation can establish. -/
inductive ResolvedEffectV2 where
  | none
  | applied
deriving DecidableEq, Repr

def ResolvedEffectV2.effect : ResolvedEffectV2 → PersistentEffectV2
  | .none => .none
  | .applied => .applied

/-- The parties other than the native host that can record a dispatch. -/
inductive RecordedDispatchAuthorityV2 where
  | mcp
  | backend
  | dynamic_runtime
  | courier
deriving DecidableEq, Repr

def RecordedDispatchAuthorityV2.authority : RecordedDispatchAuthorityV2 → DispatchAuthorityV2
  | .mcp => .mcp
  | .backend => .backend
  | .dynamic_runtime => .dynamic_runtime
  | .courier => .courier

/-- The outcomes an assignment can end with. -/
inductive TerminalOutcomeV2 where
  | complete
  | complete_with_issues
  | verified_noop
  | blocked
  | failed
deriving DecidableEq, Repr

def TerminalOutcomeV2.outcome : TerminalOutcomeV2 → AssignmentOutcomeV2
  | .complete => .complete
  | .complete_with_issues => .complete_with_issues
  | .verified_noop => .verified_noop
  | .blocked => .blocked
  | .failed => .failed

/-- What an event says, kind by kind. -/
inductive AssignmentEventBodyV2 where
  | assignment_created (spec : AssignmentSpecV2)
  | run_started
  | execution_control_requested (request : ExecutionControlRequest)
  | provider_usage_hold_recorded (hold : ProviderUsageHoldV1)
  | run_superseded (superseded_by_generation : Int)
  | work_unit_state_changed (work_unit_id : String) (state : AssignmentWorkUnitStateV2)
  | input_requested (variable_id clarification_id question : String)
      (declaration : Option DiscoveredAssignmentInputV2)
  | input_supplied (variable_id clarification_id : String) (value : Option Json)
      (result_freshness : Option String)
  | provider_call_recorded (call_id provider model : String) (reasoning_effort : Option String)
      (success : Bool)
  | provider_call_state_recorded (call : ProviderCallStateEvent)
  | provider_call_receipt_recorded (call : ProviderCallV2)
  | execution_failure_recorded (failure : ExecutionFailureV2)
  | provider_budget_exhausted (limit : Int)
  | progress_epoch_recorded (epoch : ProgressEpochV2)
  | progress_blocked (code : String) (gap_ids : List String)
  | operation_admitted (operation : OperationV2)
  | operation_dispatch_started (operation_id : String)
  | operation_dispatch_recorded (operation_id : String) (authority : RecordedDispatchAuthorityV2)
  | native_dispatch_recorded (operation_id : String)
  | operation_result_recorded (result : OperationResultV2)
      (observation_commit : Option ObservationCommitInputV2)
  | observation_retained (observation : ObservationV2)
  | observation_commit_retry_recorded (operation_id result_id : String) (attempt : Int) (error_code : String)
  | observation_commit_failed (operation_id result_id : String) (attempt : Int) (error_code : String)
  | observation_retention_failed (operation_id error_code : String)
  | criterion_evaluated (evaluation : CriterionEvaluationV2)
  | result_delivered (delivery : AssignmentResultDeliveryV2)
  | work_plan_declared (declaration : WorkPlanDeclarationV2)
  | work_plan_location_recorded (item_id : String) (location_hint : WorkPlanLocationHintV2)
  | advisory_followup_disposition_recorded (disposition : AdvisoryFollowupDispositionV2)
  | work_plan_item_claimed (item_id : String) (operation_ids : List String)
  | work_plan_scope_requested (item_id : String) (scope : Json) (operation_ids : List String)
      (read_selection : Option String)
  | work_plan_item_deferred (item_id : String) (action : DeferralAction) (reason : String)
  | work_plan_item_completed (item_id : String) (operation_ids : List String)
      (inspection : Option WorkPlanInspectionV2)
  | review_requested (review_id : String) (work_unit_ids : List String)
      (completion_proposal : Option AdvisoryCompletionProposalV1)
  | review_resolved (review_id decision : String) (continuation : Option AdvisoryCheckpointContinuationV1)
  | reconciliation_recorded (operation_id : String) (resolved_effect : ResolvedEffectV2)
      (observation_ids : List String)
  | native_completion_reconciled (operation_id : String) (completion : Json)
  | outcome_derived (outcome : AssignmentOutcomeV2)
  | assignment_terminal (outcome : TerminalOutcomeV2) (reason : String)

/-- An event of the journal of an assignment. -/
structure AssignmentEventV2 where
  event_id : String
  assignment_id : String
  assignment_version : Nat
  binding : AssignmentBindingV2
  occurred_at : String
  actor : String
  body : AssignmentEventBodyV2

end revit_operator.assignment_kernel
