import RevitOperator.AssignmentKernel.EffectiveWorkBudget
import RevitOperator.AssignmentKernel.Progress.Controller

open checked
open revit_operator.contracts

namespace revit_operator.assignment_kernel

/-- A trimmed, non-empty and bounded identity without control characters. -/
def boundedIdentity (value : String) : Bool := isDisplayId 240 value

/-- Every limit of a held budget is a positive 31-bit integer. -/
def budgetBounded (budget : AssignmentProgressBudgetV2) : Bool :=
  [budget.max_reasoning_turns, budget.max_provider_calls, budget.max_operations,
    budget.max_equivalent_operations, budget.max_no_progress_epochs, budget.max_reconciliation_attempts,
    budget.max_wall_clock_ms, budget.max_total_tokens].all (boundedInteger · 2147483647)

def validateProviderUsageHoldV1 (host : JavaScriptHost) (snapshot : AssignmentSnapshotV2)
    (actor occurredAt : String) (hold : ProviderUsageHoldV1) : Except KernelFault Unit := do
  kernelAssertV2 (actor = "assignment-execution-controller") "provider_usage_hold_authority_invalid"
    "A provider usage hold requires the execution controller."
  kernelAssertV2 (hold.schema = PROVIDER_USAGE_HOLD_V1_SCHEMA ∧ hold.code = "usageLimitExceeded")
    "provider_usage_hold_invalid" "A hold requires the exact typed provider usage contract."
  kernelAssertV2 (boundedIdentity hold.hold_id ∧ boundedIdentity hold.attempt_id
      ∧ boundedIdentity hold.provider_thread_id ∧ boundedIdentity hold.provider_turn_id)
    "provider_usage_hold_identity_invalid"
    "A hold requires bounded exact attempt and provider identities."
  kernelAssertV2 (sameAssignmentBindingV2 snapshot.current_binding hold.binding)
    "provider_usage_hold_binding_mismatch"
    "A hold must retain the current assignment, run, owner and document binding."
  kernelAssertV2 (hold.recorded_at = occurredAt ∧ host.finiteDate hold.recorded_at)
    "provider_usage_hold_time_invalid" "A hold must retain its journal observation time."
  kernelAssertV2 (budgetBounded hold.resume_budget) "provider_usage_hold_budget_invalid"
    "A hold requires the bounded host-captured allowance."
  kernelAssertV2 (hold.worker_identity.all validProviderUsageWorkerIdentityV1)
    "provider_usage_hold_worker_identity_invalid"
    "Worker identity must contain only bounded non-secret display metadata."
  kernelAssertV2 (snapshot.provider_usage_hold = none) "provider_usage_hold_already_active"
    "An active hold cannot be silently replaced."

/-- While usage is held only a read that reconciles an unknown effect of the
    current binding, or the child of admitted work, may be admitted. -/
def reconcilesUnknownEffect (snapshot : AssignmentSnapshotV2) (operation : OperationV2) : Bool :=
  operation.requested_effect == .read && operation.purpose == .reconciliation
    && truthy operation.reconciliation_of_operation_id
    && (match operation.reconciliation_of_operation_id.bind snapshot.operations.get? with
      | none => false
      | some prior => prior.persistent_effect == .unknown
          && sameAssignmentBindingV2 prior.binding snapshot.current_binding)

def assertProviderUsageOperationAdmissionV1 (snapshot : AssignmentSnapshotV2) (operation : OperationV2) :
    Except KernelFault Unit :=
  onlyIf (snapshot.provider_usage_hold.isSome ∧ ¬ truthy operation.parent_operation_id)
    (kernelAssertV2 (reconcilesUnknownEffect snapshot operation) "assignment_provider_usage_held"
      "A usage hold admits only exact read-only reconciliation or already-authorized children.")

/-- The reviewed state a resume names. An `expected_hold_id` of `null` is
    `none`, as an absent one is. -/
structure ExecutionControlRequest where
  command_id : String
  resumes : Bool
  expected_command_id : Option String
  expected_hold_id : Option String
  expected_assignment_version : Option Int
deriving DecidableEq, Repr

/-- The two budgets a resume is held against: the captured one, and for an
    advisory assignment its frozen policy. -/
def resumeWithinPolicy (host : JavaScriptHost) (snapshot : AssignmentSnapshotV2)
    (hold : ProviderUsageHoldV1) (occurredAt : String) (policy : AssignmentExecutionPolicyV1) : Bool :=
  let original := { hold.resume_budget with
    max_provider_calls := policy.max_provider_calls
    max_reasoning_turns := policy.max_provider_calls
    max_operations := policy.max_operations
    max_total_tokens := policy.max_total_tokens
    max_wall_clock_ms := policy.max_wall_clock_ms }
  let frozen := if (policy.progress_allowance.bind ProgressAllowanceV1.max_wall_clock_ms).isNone then original
    else defaultAssignmentWorkBudgetV2 host snapshot original
  (assignmentProgressBudgetBlockerV2 host snapshot frozen occurredAt).isNone

/-- The outcomes under which a held assignment cannot resume. -/
def stopsResume : AssignmentOutcomeV2 → Bool
  | .awaiting_user_input | .awaiting_user_review | .blocked | .failed => true
  | _ => false

def assertProviderUsageResumeV1 (host : JavaScriptHost) (snapshot : AssignmentSnapshotV2)
    (version : Nat) (occurredAt : String) (request : ExecutionControlRequest) : Except KernelFault Unit :=
  match snapshot.provider_usage_hold with
  | none => kernelAssertV2 (request.expected_hold_id = none) "provider_usage_resume_hold_stale"
      "The expected usage hold is no longer active."
  | some hold => do
    kernelAssertV2 (request.expected_hold_id = some hold.hold_id) "provider_usage_resume_hold_stale"
      "Resume must name the exact current usage hold."
    kernelAssertV2 (request.expected_assignment_version = some ((version : Int) - 1))
      "provider_usage_resume_version_stale" "Resume must match the exact reviewed assignment version."
    kernelAssertV2 (sameAssignmentBindingV2 hold.binding snapshot.current_binding)
      "provider_usage_resume_binding_stale" "A hold cannot resume another run or document."
    kernelAssertV2 (snapshot.quiescent ∧ snapshot.in_flight_operation_ids = []
        ∧ snapshot.in_flight_provider_call_ids = []) "assignment_resume_not_quiescent"
      "Admitted work must settle before resuming."
    kernelAssertV2 (snapshot.unresolved_unknown_operation_ids = [])
      "assignment_resume_reconciliation_required" "Unknown effects must be reconciled before resuming."
    kernelAssertV2 (snapshot.pending_input_variable_ids = [] ∧ snapshot.pending_review_ids = []
        ∧ snapshot.completion_proposal = none) "provider_usage_resume_input_or_review_pending"
      "Required input and review must be resolved first."
    kernelAssertV2 (snapshot.progress_blocker = none ∧ ¬ snapshot.provider_budget_exhausted
        ∧ snapshot.execution_failure_ids = []) "provider_usage_resume_execution_blocked"
      "Resume cannot clear a separate failure or budget stop."
    kernelAssertV2 (¬ stopsResume (deriveAssignmentOutcomeV2 host { snapshot with provider_usage_hold := none }))
      "provider_usage_resume_execution_blocked" "The retained task still has execution prerequisites."
    kernelAssertV2 ((assignmentProgressBudgetBlockerV2 host snapshot hold.resume_budget occurredAt).isNone)
      "provider_usage_resume_budget_exhausted" "Resume retains the frozen cumulative task allowance."
    match snapshot.spec.execution_policy with
    | none => return
    | some policy =>
      kernelAssertV2 (validLocalAdvisoryPolicyV1 host snapshot.spec) "provider_usage_resume_policy_invalid"
        "Resume requires the unchanged creation-time policy."
      kernelAssertV2 (resumeWithinPolicy host snapshot hold occurredAt policy)
        "provider_usage_resume_budget_exhausted" "Resume cannot exceed the original advisory policy."

/-- Pause or resume the assignment on behalf of its user. -/
def applyAssignmentExecutionControlV2 (host : JavaScriptHost) (snapshot : AssignmentSnapshotV2)
    (actor : String) (version : Nat) (occurredAt : String) (request : ExecutionControlRequest) :
    Except KernelFault AssignmentSnapshotV2 := do
  kernelAssertV2 (actor = "authenticated-user") "assignment_control_authority_invalid"
    "Execution controls require an authenticated user."
  kernelAssertV2 (text.isStableIdentity 159 request.command_id) "assignment_control_identity_invalid"
    "Execution controls require a bounded command identity."
  kernelAssertV2 (request.expected_command_id = snapshot.execution_control.map ExecutionControl.command_id)
    "assignment_control_stale" "Execution control changed since this command was prepared."
  onlyIf request.resumes do
    kernelAssertV2 snapshot.quiescent "assignment_resume_not_quiescent"
      "Admitted work must settle before resuming."
    kernelAssertV2 (snapshot.unresolved_unknown_operation_ids = [])
      "assignment_resume_reconciliation_required"
      "Unknown effects must be reconciled before resuming ordinary work."
    assertProviderUsageResumeV1 host snapshot version occurredAt request
  return { snapshot with
    provider_usage_hold := if request.resumes then none else snapshot.provider_usage_hold
    execution_control := some
      ⟨if request.resumes then .running else .paused, request.command_id, occurredAt⟩ }

end revit_operator.assignment_kernel
