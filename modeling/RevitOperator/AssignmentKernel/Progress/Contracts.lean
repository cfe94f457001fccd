import RevitOperator.AssignmentKernel.Observation

namespace revit_operator.assignment_kernel

inductive ProviderCallStateV2 where
  | admitted
  | dispatched
  | response_started
  | usage_received
  | completed
  | response_transport_completed
deriving DecidableEq, Repr

/-- The position of a provider-call state in its lifecycle. -/
def PROVIDER_STATE_RANK : ProviderCallStateV2 → Nat
  | .admitted => 0
  | .dispatched => 1
  | .response_started => 2
  | .usage_received => 3
  | .completed => 4
  | .response_transport_completed => 5

/-- Token counts; a count the provider did not report is `none`. The inner
    option of a cached count is the reported `null`. -/
structure ProviderUsageV2 where
  input_tokens : Option ℚ
  cached_input_tokens : Option (Option ℚ)
  cache_write_input_tokens : Option (Option ℚ)
  output_tokens : Option ℚ
  reasoning_tokens : Option ℚ
  total_tokens : Option ℚ
  estimated_cost_usd : Option ℚ
deriving DecidableEq

structure UpstreamProviderReceiptV2 where
  call_id : String
  route : String
  requested_model : String
  model : String
  started_at_utc : String
  duration_ms : Option ℚ
deriving DecidableEq

inductive ProviderErrorClassV2 where
  | provider
  | transport
  | canceled
  | resource_exhausted
deriving DecidableEq, Repr

structure ProviderCallV2 where
  call_id : String
  controller_turn_id : Option String
  upstream_receipt : Option UpstreamProviderReceiptV2
  binding : AssignmentBindingV2
  state : ProviderCallStateV2
  provider : String
  model : String
  reasoning_effort : Option String
  gap_ids : List String
  criterion_ids : List String
  expected_information : List String
  admitted_at : String
  dispatched_at : Option String
  response_started_at : Option String
  usage_received_at : Option String
  completed_at : Option String
  provider_duration_ms : Option (Option ℚ)
  response_transport_completed_at : Option String
  usage : Option ProviderUsageV2
  success : Option Bool
  error_class : Option ProviderErrorClassV2
deriving DecidableEq

/-- The call is admitted and has no completion time. -/
def ProviderCallV2.inFlight (call : ProviderCallV2) : Bool := !truthy call.completed_at

/-- The tokens a call has consumed as far as its usage is known. -/
def ProviderCallV2.totalTokens (call : ProviderCallV2) : ℚ :=
  ((call.usage.bind ProviderUsageV2.total_tokens).getD 0)

inductive ExecutionFailureClassV2 where
  | provider
  | transport
  | runtime
  | canceled
  | resource_exhausted
deriving DecidableEq, Repr

inductive ExecutionFailurePhaseV2 where
  | request_validation
  | runtime_setup
  | provider_start
  | provider_turn
  | response_handoff
deriving DecidableEq, Repr

def ASSIGNMENT_EXECUTION_FAILURE_V2_SCHEMA : String :=
  "revit-operator.assignment-execution-failure/v2"

structure ExecutionFailureV2 where
  schema : String
  failure_id : String
  binding : AssignmentBindingV2
  error_class : ExecutionFailureClassV2
  phase : ExecutionFailurePhaseV2
  code : String
deriving DecidableEq

def executionFailureCodeV2 : ExecutionFailureClassV2 → String
  | .transport => "provider_transport_failed"
  | .canceled => "execution_canceled"
  | .resource_exhausted => "provider_resource_exhausted"
  | .runtime => "assignment_runtime_failed"
  | .provider => "provider_execution_failed"

def executionFailureOutcomeV2 : ExecutionFailureClassV2 → AssignmentOutcomeV2
  | .provider | .runtime => .failed
  | .transport | .canceled | .resource_exhausted => .blocked

inductive ProgressGapKindV2 where
  | criterion_fact_missing
  | criterion_uncertain
  | result_delivery_required
  | work_plan_required
  | operation_input_schema_invalid
  | operation_result_semantic_invalid
  | input_missing
  | effect_unknown
  | verification_required
deriving DecidableEq, Repr

structure ProgressGapV2 where
  gap_id : String
  kind : ProgressGapKindV2
  criterion_ids : List String
  work_unit_ids : List String
  current_observation_ids : List String
deriving DecidableEq

structure AssignmentProgressBudgetV2 where
  max_reasoning_turns : Int
  max_provider_calls : Int
  max_operations : Int
  max_equivalent_operations : Int
  max_no_progress_epochs : Int
  max_reconciliation_attempts : Int
  max_wall_clock_ms : Int
  max_total_tokens : Int
deriving DecidableEq

def DEFAULT_ASSIGNMENT_PROGRESS_BUDGET_V2 : AssignmentProgressBudgetV2 where
  max_reasoning_turns := 32
  max_provider_calls := 32
  max_operations := 128
  max_equivalent_operations := 1
  max_no_progress_epochs := 4
  max_reconciliation_attempts := 2
  max_wall_clock_ms := 30 * 60000
  max_total_tokens := 4000000

structure ProgressEpochV2 where
  epoch_id : String
  binding : AssignmentBindingV2
  before_assignment_version : Int
  after_assignment_version : Int
  unresolved_gap_ids : List String
  genuine_progress : Bool
deriving DecidableEq

structure ProviderUsageWorkerIdentityV1 where
  provider : String
  configured_billing_mode : String
  requested_model : Option String
  requested_reasoning_effort : Option String
  reported_model : Option String
  reported_model_source : Option String
deriving DecidableEq

def PROVIDER_USAGE_HOLD_V1_SCHEMA : String := "revit-operator.provider-usage-hold/v1"

structure ProviderUsageHoldV1 where
  schema : String
  hold_id : String
  binding : AssignmentBindingV2
  attempt_id : String
  provider_thread_id : String
  provider_turn_id : String
  code : String
  recorded_at : String
  resume_budget : AssignmentProgressBudgetV2
  worker_identity : Option ProviderUsageWorkerIdentityV1
deriving DecidableEq

/-- The four limits a user follow-up allocation can raise. -/
structure WorkLimits where
  max_provider_calls : Int
  max_operations : Int
  max_total_tokens : Int
  max_wall_clock_ms : Int
deriving DecidableEq

structure UserResourceRenewalRequestV1 where
  provider_calls : Int
  total_tokens : Int
deriving DecidableEq

structure RenewalCeilings where
  max_provider_calls : Int
  max_total_tokens : Int
deriving DecidableEq

structure RenewalAuthorization where
  command_id : String
  authorized_at : String
  request : UserResourceRenewalRequestV1
  ceilings : RenewalCeilings
deriving DecidableEq

structure UserFollowupAllocationV1 where
  command_id : String
  allocated_at : String
  earned_baseline : WorkLimits
  limits : WorkLimits
  resource_renewal : Option RenewalAuthorization
deriving DecidableEq

end revit_operator.assignment_kernel
