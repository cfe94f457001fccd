import RevitOperator.AssignmentKernel.Progress.ExecutionTime

open checked

namespace revit_operator.assignment_kernel

def USER_FOLLOWUP_ALLOCATION_V1 : String := "continue_advisory_checkpoint_with_work_allowance_v1"

/-- The limits a follow-up allocation ranges over. -/
inductive LimitKey where
  | max_provider_calls
  | max_operations
  | max_total_tokens
  | max_wall_clock_ms
deriving DecidableEq, Repr

def WorkLimits.get (limits : WorkLimits) : LimitKey → Int
  | .max_provider_calls => limits.max_provider_calls
  | .max_operations => limits.max_operations
  | .max_total_tokens => limits.max_total_tokens
  | .max_wall_clock_ms => limits.max_wall_clock_ms

def AssignmentProgressBudgetV2.limits (budget : AssignmentProgressBudgetV2) : WorkLimits where
  max_provider_calls := budget.max_provider_calls
  max_operations := budget.max_operations
  max_total_tokens := budget.max_total_tokens
  max_wall_clock_ms := budget.max_wall_clock_ms

def AssignmentExecutionPolicyV1.limits (policy : AssignmentExecutionPolicyV1) : WorkLimits where
  max_provider_calls := policy.max_provider_calls
  max_operations := policy.max_operations
  max_total_tokens := policy.max_total_tokens
  max_wall_clock_ms := policy.max_wall_clock_ms

def ProgressAllowanceV1.limit (allowance : ProgressAllowanceV1) : LimitKey → Option Int
  | .max_provider_calls => some allowance.max_provider_calls
  | .max_operations => some allowance.max_operations
  | .max_total_tokens => some allowance.max_total_tokens
  | .max_wall_clock_ms => allowance.max_wall_clock_ms

/-- Only provider calls and tokens can be renewed. -/
def RenewalCeilings.limit (ceilings : RenewalCeilings) : LimitKey → Option Int
  | .max_provider_calls => some ceilings.max_provider_calls
  | .max_total_tokens => some ceilings.max_total_tokens
  | .max_operations | .max_wall_clock_ms => none

/-- The renewed ceiling of a limit in an allocation. -/
def renewedCeiling (allocation : Option UserFollowupAllocationV1) (key : LimitKey) : Option Int :=
  (allocation.bind UserFollowupAllocationV1.resource_renewal).bind fun renewal =>
    renewal.ceilings.limit key

def progressAllowance (snapshot : AssignmentSnapshotV2) : Option ProgressAllowanceV1 :=
  snapshot.spec.execution_policy.bind AssignmentExecutionPolicyV1.progress_allowance

/-- A limit after an allocation: what was earned since the allocation comes on
    top of it, under the hard ceiling. -/
def userFollowupLimitV1 (snapshot : AssignmentSnapshotV2) (key : LimitKey) (earned : Int) : Int :=
  let hard := (renewedCeiling snapshot.user_followup_allocation key).or
    ((progressAllowance snapshot).bind fun allowance => allowance.limit key)
  match snapshot.user_followup_allocation, hard with
  | some allocation, some ceiling => min ceiling (max earned
      (allocation.limits.get key + max 0 (earned - allocation.earned_baseline.get key)))
  | _, _ => earned

def applyUserFollowupAllocationV1 (snapshot : AssignmentSnapshotV2) (earned : AssignmentProgressBudgetV2) :
    AssignmentProgressBudgetV2 :=
  let calls := userFollowupLimitV1 snapshot .max_provider_calls earned.max_provider_calls
  { earned with
    max_provider_calls := calls
    max_reasoning_turns := calls
    max_operations := userFollowupLimitV1 snapshot .max_operations earned.max_operations
    max_total_tokens := userFollowupLimitV1 snapshot .max_total_tokens earned.max_total_tokens
    max_wall_clock_ms := userFollowupLimitV1 snapshot .max_wall_clock_ms earned.max_wall_clock_ms }

/-- A non-negative integer that JavaScript represents exactly. -/
def asUsage (value : ℚ) : Option Int :=
  if value.den = 1 ∧ 0 ≤ value.num ∧ isSafeInteger value.num then some value.num else none

/-- The resources the assignment has consumed, when all of them are known. -/
def consumedLimits (host : JavaScriptHost) (snapshot : AssignmentSnapshotV2) (now : String) :
    Option WorkLimits := do
  let tokens ← snapshot.provider_calls.values.mapM fun call =>
    (call.usage.bind ProviderUsageV2.total_tokens).bind asUsage
  let elapsed ← (assignmentActiveExecutionTimeMsV2 host snapshot now).bind asUsage
  if isSafeInteger tokens.sum then
    return { max_provider_calls := snapshot.provider_calls.ids.length
             max_operations := snapshot.operations.ids.length
             max_total_tokens := tokens.sum
             max_wall_clock_ms := elapsed }
  else none

/-- Every retained provider call has a known token count. -/
def usageConfirmed (snapshot : AssignmentSnapshotV2) : Bool :=
  snapshot.provider_calls.values.all fun call =>
    ((call.usage.bind ProviderUsageV2.total_tokens).bind asUsage).isSome

/-- One limit of a new allocation. A renewal keeps the current limits. -/
def allocatedLimit (snapshot : AssignmentSnapshotV2) (policy : AssignmentExecutionPolicyV1)
    (ceiling : ProgressAllowanceV1) (current consumed : WorkLimits) (renewing : Bool) (key : LimitKey) : Int :=
  let authorized := (renewedCeiling snapshot.user_followup_allocation key).or (ceiling.limit key)
  match renewing, authorized with
  | false, some most => min most (max (current.get key) (consumed.get key + policy.limits.get key))
  | _, _ => current.get key

/-- What an explicit renewal raises the allocation to. -/
def renewedAllocation (commandId now : String) (ceiling : ProgressAllowanceV1)
    (current consumed : WorkLimits) (request : UserResourceRenewalRequestV1)
    (allocation : UserFollowupAllocationV1) : Except KernelFault UserFollowupAllocationV1 := do
  let calls := consumed.max_provider_calls + request.provider_calls
  let tokens := consumed.max_total_tokens + request.total_tokens
  kernelAssertV2 (calls ≤ 2048 ∧ tokens ≤ 256000000) "advisory_resource_renewal_ceiling"
    "Renewal exceeds the bounded cumulative advisory resource ceiling."
  let limits := { allocation.limits with
    max_provider_calls := max current.max_provider_calls calls
    max_total_tokens := max current.max_total_tokens tokens }
  let ceilings : RenewalCeilings :=
    { max_provider_calls := max ceiling.max_provider_calls limits.max_provider_calls
      max_total_tokens := max ceiling.max_total_tokens limits.max_total_tokens }
  return { allocation with
    limits
    resource_renewal := some { command_id := commandId, authorized_at := now, request, ceilings } }

/-- An explicit renewal is bounded and asked for at an open checkpoint. -/
def checkRenewal (snapshot : AssignmentSnapshotV2) (request : UserResourceRenewalRequestV1) :
    Except KernelFault Unit := do
  kernelAssertV2 (boundedInteger request.provider_calls 64 ∧ boundedInteger request.total_tokens 16000000)
    "advisory_resource_renewal_invalid"
    "Explicit renewal is bounded to64 additional provider calls and16M total tokens."
  kernelAssertV2 ((snapshot.spec.execution_policy.map AssignmentExecutionPolicyV1.mode)
      = some .local_advisory_v1 ∧ (progressAllowance snapshot).isSome
      ∧ snapshot.spec.requested_effect = .apply ∧ ¬ snapshot.paused)
    "advisory_resource_renewal_not_enabled"
    "Only an open, unpaused advisory apply checkpoint accepts explicit resource renewal."

/-- The allocation a follow-up is granted from what has been consumed. -/
def grantedAllocation (snapshot : AssignmentSnapshotV2) (policy : AssignmentExecutionPolicyV1)
    (ceiling : ProgressAllowanceV1) (commandId now : String) (earned current : AssignmentProgressBudgetV2)
    (consumed : WorkLimits) (renewal : Option UserResourceRenewalRequestV1) :
    Except KernelFault UserFollowupAllocationV1 :=
  let limit := allocatedLimit snapshot policy ceiling current.limits consumed renewal.isSome
  let allocation : UserFollowupAllocationV1 :=
    { command_id := commandId
      allocated_at := now
      earned_baseline := earned.limits
      limits :=
        { max_provider_calls := limit .max_provider_calls
          max_operations := limit .max_operations
          max_total_tokens := limit .max_total_tokens
          max_wall_clock_ms := limit .max_wall_clock_ms }
      resource_renewal := snapshot.user_followup_allocation.bind
        UserFollowupAllocationV1.resource_renewal }
  match renewal with
  | none => .ok allocation
  | some request => renewedAllocation commandId now ceiling current.limits consumed request allocation

/-- Grant an authenticated follow-up its work allowance under the frozen
    ceilings. -/
def allocateUserFollowupV1 (host : JavaScriptHost) (snapshot : AssignmentSnapshotV2)
    (commandId now : String) (earned current : AssignmentProgressBudgetV2)
    (renewal : Option UserResourceRenewalRequestV1) : Except KernelFault AssignmentSnapshotV2 := do
  checked.forEach renewal.toList (checkRenewal snapshot)
  match snapshot.spec.execution_policy, progressAllowance snapshot with
  | some policy, some ceiling =>
    if snapshot.spec.requested_effect ≠ .apply ∨ snapshot.paused then .ok snapshot
    else
      kernelAssertV2 (usageConfirmed snapshot) "advisory_continuation_usage_unconfirmed"
        "Settled provider usage must be known before allocating follow-up work."
      match consumedLimits host snapshot now with
      | none => .error (.assertion "advisory_continuation_usage_unconfirmed"
          "Cumulative resource usage must be known.")
      | some consumed =>
        let granted ← grantedAllocation snapshot policy ceiling commandId now earned current consumed
          renewal
        return { snapshot with user_followup_allocation := some granted }
  | _, _ => .ok snapshot

end revit_operator.assignment_kernel
