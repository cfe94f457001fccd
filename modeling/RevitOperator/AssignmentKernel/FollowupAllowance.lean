import Mathlib.Algebra.Order.Group.Int
import RevitOperator.Library.Allotment
import RevitOperator.AssignmentKernel.StateHistory

open checked checked_run

namespace revit_operator.assignment_kernel

/-- The snapshot with another allocation. -/
def AssignmentSnapshotV2.withAllocation (snapshot : AssignmentSnapshotV2)
    (allocation : Option UserFollowupAllocationV1) : AssignmentSnapshotV2 :=
  { snapshot with user_followup_allocation := allocation }

section limits

variable (host : JavaScriptHost) (policy : AssignmentExecutionPolicyV1) (snapshot : AssignmentSnapshotV2)

/-- The limit in force. -/
def limitInForce (key : LimitKey) : Int := (advisoryWorkBudget host snapshot policy).limits.get key

/-- The limit without any allocation. -/
def earnedLimit (key : LimitKey) : Int :=
  (advisoryWorkBudget host (snapshot.withAllocation none) policy).limits.get key

@[simp]
theorem earnedLimit_withAllocation (allocation : Option UserFollowupAllocationV1) (key : LimitKey) :
    earnedLimit host policy (snapshot.withAllocation allocation) key = earnedLimit host policy snapshot key :=
  rfl

end limits

/-- The ceiling a limit stands under: the renewed one, or the frozen one. -/
def ceilingInForce (ceiling : ProgressAllowanceV1) (allocation : Option UserFollowupAllocationV1) (key : LimitKey) :
    Option Int :=
  (renewedCeiling allocation key).or (ceiling.limit key)

variable {host : JavaScriptHost} {snapshot next : AssignmentSnapshotV2} {policy : AssignmentExecutionPolicyV1}
  {ceiling : ProgressAllowanceV1} {allocation : Option UserFollowupAllocationV1} {key : LimitKey}

variable {version : Nat}

section frames

theorem earnedAssignmentWorkAllowanceV2_derived (host : JavaScriptHost) (snapshot : AssignmentSnapshotV2) :
    earnedAssignmentWorkAllowanceV2 host (withDerivedState host snapshot)
      = earnedAssignmentWorkAllowanceV2 host snapshot := by
  have hframe : ∀ inFlight inFlightCalls children blocking unknown quiescent units outcome,
      earnedAssignmentWorkAllowanceV2 host { snapshot with
        in_flight_operation_ids := inFlight
        in_flight_provider_call_ids := inFlightCalls
        operation_children := children
        blocking_child_operation_ids := blocking
        unresolved_unknown_operation_ids := unknown
        quiescent
        work_unit_states := units
        outcome } = earnedAssignmentWorkAllowanceV2 host snapshot := by
    intros
    rfl
  exact hframe _ _ _ _ _ _ _ _

theorem versionsOrdered_atVersion {operation : OperationV2}
    (hdated : operation.Dated snapshot.assignment_version) (hversion : snapshot.assignment_version ≤ version) :
    versionsOrdered (snapshot.atVersion version) operation = versionsOrdered snapshot operation := by
  obtain ⟨admitted, hadmitted, -, hsettled⟩ := hdated
  unfold versionsOrdered
  rw [hadmitted]
  cases hsettledAt : operation.settled_assignment_version with
  | none => rfl
  | some settled =>
    rw [hsettledAt] at hsettled
    have hnow : settled ≤ snapshot.assignment_version := hsettled.2.2
    have hlater : settled ≤ (snapshot.atVersion version).assignment_version := hnow.trans hversion
    simp [hnow, hlater]

theorem nativeInventoryPlanningV1_atVersion (host : JavaScriptHost)
    (hdated : ∀ operation ∈ snapshot.operations.values, operation.Dated snapshot.assignment_version)
    (hversion : snapshot.assignment_version ≤ version) :
    nativeInventoryPlanningV1 host (snapshot.atVersion version) = nativeInventoryPlanningV1 host snapshot := by
  have hcredits : snapshot.operations.values.filterMap (creditedInventory host (snapshot.atVersion version))
      = snapshot.operations.values.filterMap (creditedInventory host snapshot) := by
    refine List.filterMap_congr fun operation hoperation => ?_
    have hordered := versionsOrdered_atVersion (hdated operation hoperation) hversion
    unfold creditedInventory
    rw [hordered]
    rfl
  unfold nativeInventoryPlanningV1
  have hoperations : (snapshot.atVersion version).operations = snapshot.operations := rfl
  rw [hoperations, hcredits]
  rfl

theorem earnedAssignmentWorkAllowanceV2_atVersion
    (hdated : ∀ operation ∈ snapshot.operations.values, operation.Dated snapshot.assignment_version)
    (hversion : snapshot.assignment_version ≤ version) :
    earnedAssignmentWorkAllowanceV2 host (snapshot.atVersion version)
      = earnedAssignmentWorkAllowanceV2 host snapshot := by
  have hplanning := nativeInventoryPlanningV1_atVersion host hdated hversion
  unfold earnedAssignmentWorkAllowanceV2 earnedAssignmentWorkAllowanceV2.allowanceOver
  rw [hplanning]
  rfl

theorem limitInForce_congr {a b : AssignmentSnapshotV2} (policy : AssignmentExecutionPolicyV1) (key : LimitKey)
    (hearned : earnedAssignmentWorkAllowanceV2 host a = earnedAssignmentWorkAllowanceV2 host b)
    (hspec : a.spec = b.spec) (hallocation : a.user_followup_allocation = b.user_followup_allocation) :
    limitInForce host policy a key = limitInForce host policy b key := by
  have hlimits : ∀ key earned, userFollowupLimitV1 a key earned = userFollowupLimitV1 b key earned := by
    intro key earned
    simp only [userFollowupLimitV1, progressAllowance, hspec, hallocation]
  simp only [limitInForce, advisoryWorkBudget, defaultAssignmentWorkBudgetV2, applyUserFollowupAllocationV1, hearned,
    hspec, hlimits]

theorem limitInForce_atVersion
    (hdated : ∀ operation ∈ snapshot.operations.values, operation.Dated snapshot.assignment_version)
    (hversion : snapshot.assignment_version ≤ version) (key : LimitKey) :
    limitInForce host policy (snapshot.atVersion version) key = limitInForce host policy snapshot key :=
  limitInForce_congr policy key (earnedAssignmentWorkAllowanceV2_atVersion hdated hversion) rfl rfl

end frames

/-- A snapshot of an advisory edit whose policy allows progress. -/
structure AllowsProgress (snapshot : AssignmentSnapshotV2) (policy : AssignmentExecutionPolicyV1)
    (ceiling : ProgressAllowanceV1) : Prop where
  selected : snapshot.spec.execution_policy = some policy
  allowance : policy.progress_allowance = some ceiling
  applies : snapshot.spec.requested_effect = .apply

namespace AllowsProgress

variable (h : AllowsProgress snapshot policy ceiling)

include h

theorem progressAllowance_eq : progressAllowance snapshot = some ceiling := by
  rw [progressAllowance, h.selected, Option.bind_some, h.allowance]

theorem limitInForce_eq (host : JavaScriptHost) (key : LimitKey) :
    limitInForce host policy snapshot key
      = match snapshot.user_followup_allocation,
          ceilingInForce ceiling snapshot.user_followup_allocation key with
        | some allocation, some most =>
          allotment.inForce most (allocation.earned_baseline.get key) (allocation.limits.get key)
            (earnedLimit host policy snapshot key)
        | _, _ => earnedLimit host policy snapshot key := by
  have hlimit : limitInForce host policy snapshot key
      = userFollowupLimitV1 snapshot key (earnedLimit host policy snapshot key) := by
    unfold limitInForce earnedLimit advisoryWorkBudget defaultAssignmentWorkBudgetV2
      AssignmentSnapshotV2.withAllocation
    rw [h.selected]
    cases key <;> rfl
  rw [hlimit, userFollowupLimitV1, h.progressAllowance_eq]
  rfl

theorem earnedLimit_le (host : JavaScriptHost) {key : LimitKey} {most : Int} (hmost : ceiling.limit key = some most) :
    earnedLimit host policy snapshot key ≤ most := by
  unfold earnedLimit advisoryWorkBudget defaultAssignmentWorkBudgetV2 AssignmentSnapshotV2.withAllocation
  rw [h.selected]
  cases key with
  | max_provider_calls =>
    obtain rfl : ceiling.max_provider_calls = most := Option.some.inj hmost
    have hallowance : progressAllowance { snapshot with user_followup_allocation := none } = some ceiling :=
      h.progressAllowance_eq
    have hearned : (earnedAssignmentWorkAllowanceV2 host
        { snapshot with user_followup_allocation := none }).provider_calls ≤ ceiling.max_provider_calls := by
      simp only [earnedAssignmentWorkAllowanceV2, earnedAssignmentWorkAllowanceV2.allowanceOver, h.selected, hallowance,
        h.applies]
      exact min_le_left _ _
    exact hearned
  | max_operations =>
    obtain rfl : ceiling.max_operations = most := Option.some.inj hmost
    simp only [h.allowance]
    exact min_le_left _ _
  | max_total_tokens =>
    obtain rfl : ceiling.max_total_tokens = most := Option.some.inj hmost
    simp only [h.allowance]
    exact min_le_left _ _
  | max_wall_clock_ms =>
    have hclock : ceiling.max_wall_clock_ms = some most := hmost
    simp only [h.allowance, Option.bind_some, hclock]
    exact min_le_left _ _

end AllowsProgress

/-- The renewed ceilings of an allocation are no less than the frozen ones and
    stay within the absolute ceilings of a renewal. -/
def RenewalBounded (ceiling : ProgressAllowanceV1) (allocation : Option UserFollowupAllocationV1) : Prop :=
  ∀ granted renewal, allocation = some granted → granted.resource_renewal = some renewal →
    ceiling.max_provider_calls ≤ renewal.ceilings.max_provider_calls
      ∧ renewal.ceilings.max_provider_calls ≤ 2048
      ∧ ceiling.max_total_tokens ≤ renewal.ceilings.max_total_tokens
      ∧ renewal.ceilings.max_total_tokens ≤ 256000000

theorem ceilingInForce_of_unrenewed (ceiling : ProgressAllowanceV1) (allocation : Option UserFollowupAllocationV1)
    (hkey : key = .max_operations ∨ key = .max_wall_clock_ms) :
    ceilingInForce ceiling allocation key = ceiling.limit key := by
  have hnone : renewedCeiling allocation key = none := by
    rw [renewedCeiling, Option.bind_eq_none_iff]
    intro renewal _
    rcases hkey with rfl | rfl <;> rfl
  rw [ceilingInForce, hnone, Option.none_or]

theorem renewalBounded_none : RenewalBounded ceiling none := fun _ _ hnone => nomatch hnone

theorem renewedCeiling_eq_some {most : Int} (h : renewedCeiling allocation key = some most) :
    ∃ granted renewal, allocation = some granted ∧ granted.resource_renewal = some renewal
      ∧ renewal.ceilings.limit key = some most := by
  simp only [renewedCeiling, Option.bind_eq_some_iff] at h
  obtain ⟨renewal, ⟨granted, hgranted, hrenewal⟩, hlimit⟩ := h
  exact ⟨granted, renewal, hgranted, hrenewal, hlimit⟩

theorem RenewalBounded.frozen_le (h : RenewalBounded ceiling allocation) {most : Int}
    (hmost : ceilingInForce ceiling allocation key = some most) :
    ∃ frozen, ceiling.limit key = some frozen ∧ frozen ≤ most := by
  unfold ceilingInForce at hmost
  cases hrenewed : renewedCeiling allocation key with
  | none =>
    rw [hrenewed, Option.none_or] at hmost
    exact ⟨most, hmost, le_refl most⟩
  | some renewed =>
    rw [hrenewed, Option.some_or, Option.some.injEq] at hmost
    subst hmost
    obtain ⟨granted, renewal, hgranted, hrenewal, hlimit⟩ := renewedCeiling_eq_some hrenewed
    obtain ⟨hcalls, -, htokens, -⟩ := h granted renewal hgranted hrenewal
    cases key with
    | max_provider_calls =>
      obtain rfl : renewal.ceilings.max_provider_calls = renewed := Option.some.inj hlimit
      exact ⟨_, rfl, hcalls⟩
    | max_operations => cases hlimit
    | max_total_tokens =>
      obtain rfl : renewal.ceilings.max_total_tokens = renewed := Option.some.inj hlimit
      exact ⟨_, rfl, htokens⟩
    | max_wall_clock_ms => cases hlimit

namespace AllowsProgress

variable (h : AllowsProgress snapshot policy ceiling)

include h

theorem withAllocation (allocation : Option UserFollowupAllocationV1) :
    AllowsProgress (snapshot.withAllocation allocation) policy ceiling :=
  ⟨h.selected, h.allowance, h.applies⟩

theorem limitInForce_of_some (host : JavaScriptHost) {granted : UserFollowupAllocationV1} {most : Int}
    (hgranted : snapshot.user_followup_allocation = some granted)
    (hmost : ceilingInForce ceiling (some granted) key = some most) :
    limitInForce host policy snapshot key = allotment.inForce most (granted.earned_baseline.get key)
      (granted.limits.get key) (earnedLimit host policy snapshot key) := by
  rw [h.limitInForce_eq, hgranted, hmost]

theorem limitInForce_of_no_ceiling (host : JavaScriptHost)
    (hnone : ceilingInForce ceiling snapshot.user_followup_allocation key = none) :
    limitInForce host policy snapshot key = earnedLimit host policy snapshot key := by
  rw [h.limitInForce_eq, hnone]
  cases snapshot.user_followup_allocation <;> rfl

theorem limitInForce_uncapped (host : JavaScriptHost)
    (hnone : ceilingInForce ceiling snapshot.user_followup_allocation key = none) :
    limitInForce host policy snapshot key = policy.limits.get key := by
  have hfrozen : ceiling.limit key = none := (Option.or_eq_none_iff.1 hnone).2
  rw [h.limitInForce_of_no_ceiling host hnone]
  cases key with
  | max_provider_calls => cases hfrozen
  | max_operations => cases hfrozen
  | max_total_tokens => cases hfrozen
  | max_wall_clock_ms =>
    have hclock : ceiling.max_wall_clock_ms = none := hfrozen
    unfold earnedLimit advisoryWorkBudget defaultAssignmentWorkBudgetV2 AssignmentSnapshotV2.withAllocation
    rw [h.selected]
    simp only [h.allowance, Option.bind_some, hclock]
    rfl

theorem limitInForce_le (host : JavaScriptHost) (hbounded : RenewalBounded ceiling snapshot.user_followup_allocation)
    {most : Int} (hmost : ceilingInForce ceiling snapshot.user_followup_allocation key = some most) :
    limitInForce host policy snapshot key ≤ most := by
  obtain ⟨frozen, hfrozen, hle⟩ := hbounded.frozen_le hmost
  rw [h.limitInForce_eq, hmost]
  cases snapshot.user_followup_allocation with
  | none => exact (h.earnedLimit_le host hfrozen).trans hle
  | some allocation => exact allotment.inForce_le_ceiling

theorem earnedLimit_le_limitInForce (host : JavaScriptHost)
    (hbounded : RenewalBounded ceiling snapshot.user_followup_allocation) (key : LimitKey) :
    earnedLimit host policy snapshot key ≤ limitInForce host policy snapshot key := by
  rw [h.limitInForce_eq]
  cases hmost : ceilingInForce ceiling snapshot.user_followup_allocation key with
  | none => cases snapshot.user_followup_allocation <;> exact le_refl _
  | some most =>
    obtain ⟨frozen, hfrozen, hle⟩ := hbounded.frozen_le hmost
    cases snapshot.user_followup_allocation with
    | none => exact le_refl _
    | some allocation => exact allotment.earned_le_inForce ((h.earnedLimit_le host hfrozen).trans hle)

end AllowsProgress

variable {request : UserResourceRenewalRequestV1}

section grants

variable {commandId now : String} {earned current : AssignmentProgressBudgetV2} {consumed : WorkLimits}
  {granted : UserFollowupAllocationV1}

/-- An allocation without renewal. -/
structure PlainGrant (snapshot : AssignmentSnapshotV2) (policy : AssignmentExecutionPolicyV1)
    (ceiling : ProgressAllowanceV1) (earned current : AssignmentProgressBudgetV2) (consumed : WorkLimits)
    (granted : UserFollowupAllocationV1) : Prop where
  baseline : granted.earned_baseline = earned.limits
  renewal : granted.resource_renewal
    = snapshot.user_followup_allocation.bind UserFollowupAllocationV1.resource_renewal
  ceilings : ∀ key, ceilingInForce ceiling (some granted) key
    = ceilingInForce ceiling snapshot.user_followup_allocation key
  capped : ∀ key most, ceilingInForce ceiling snapshot.user_followup_allocation key = some most →
    granted.limits.get key
      = allotment.granted most (current.limits.get key) (consumed.get key + policy.limits.get key)

theorem plainGrant_of_ok
    (h : grantedAllocation snapshot policy ceiling commandId now earned current consumed none = .ok granted) :
    PlainGrant snapshot policy ceiling earned current consumed granted := by
  obtain rfl := Except.ok.inj h
  refine ⟨rfl, rfl, fun key => ?_, fun key most hmost => ?_⟩
  · unfold ceilingInForce renewedCeiling
    cases snapshot.user_followup_allocation <;> rfl
  · have hlimit : allocatedLimit snapshot policy ceiling current.limits consumed false key
        = allotment.granted most (current.limits.get key) (consumed.get key + policy.limits.get key) := by
      unfold ceilingInForce at hmost
      simp only [allocatedLimit, hmost]
      rfl
    rw [← hlimit]
    cases key <;> rfl

/-- An allocation with an explicit renewal. -/
structure RenewedGrant (ceiling : ProgressAllowanceV1) (earned current : AssignmentProgressBudgetV2)
    (consumed : WorkLimits) (request : UserResourceRenewalRequestV1) (granted : UserFollowupAllocationV1) :
    Prop where
  baseline : granted.earned_baseline = earned.limits
  calls : granted.limits.max_provider_calls
    = max current.max_provider_calls (consumed.max_provider_calls + request.provider_calls)
  tokens : granted.limits.max_total_tokens
    = max current.max_total_tokens (consumed.max_total_tokens + request.total_tokens)
  operations : granted.limits.max_operations = current.max_operations
  clock : granted.limits.max_wall_clock_ms = current.max_wall_clock_ms
  within : consumed.max_provider_calls + request.provider_calls ≤ 2048
    ∧ consumed.max_total_tokens + request.total_tokens ≤ 256000000
  renewed : ∃ renewal, granted.resource_renewal = some renewal
    ∧ renewal.ceilings.max_provider_calls = max ceiling.max_provider_calls granted.limits.max_provider_calls
    ∧ renewal.ceilings.max_total_tokens = max ceiling.max_total_tokens granted.limits.max_total_tokens

theorem renewedGrant_of_ok
    (h : grantedAllocation snapshot policy ceiling commandId now earned current consumed (some request)
      = .ok granted) : RenewedGrant ceiling earned current consumed request granted := by
  simp only [grantedAllocation, renewedAllocation, check_bind_eq_ok, require_eq_ok, pure_eq_ok] at h
  obtain ⟨hwithin, rfl⟩ := h
  exact ⟨rfl, rfl, rfl, rfl, rfl, hwithin, _, rfl, rfl, rfl⟩

/-- What an allocation is granted from. -/
def earnedBudget (host : JavaScriptHost) (snapshot : AssignmentSnapshotV2)
    (policy : AssignmentExecutionPolicyV1) : AssignmentProgressBudgetV2 :=
  advisoryWorkBudget host (snapshot.withAllocation none) policy

/-- A plain allocation raises a limit to what was consumed and the policy on top
    of it, under the ceiling, and lowers none. -/
theorem limitInForce_plain (h : AllowsProgress snapshot policy ceiling)
    (hbounded : RenewalBounded ceiling snapshot.user_followup_allocation)
    (hgrant : PlainGrant snapshot policy ceiling (earnedBudget host snapshot policy)
      (advisoryWorkBudget host snapshot policy) consumed granted) (key : LimitKey) :
    limitInForce host policy (snapshot.withAllocation (some granted)) key
      = match ceilingInForce ceiling snapshot.user_followup_allocation key with
        | some most =>
          max (limitInForce host policy snapshot key) (min most (consumed.get key + policy.limits.get key))
        | none => limitInForce host policy snapshot key := by
  have hafter := h.withAllocation (some granted)
  have hearned := h.earnedLimit_le_limitInForce host hbounded key
  cases hmost : ceilingInForce ceiling snapshot.user_followup_allocation key with
  | none =>
    have hnone : ceilingInForce ceiling (some granted) key = none := (hgrant.ceilings key).trans hmost
    rw [hafter.limitInForce_of_no_ceiling host hnone, h.limitInForce_of_no_ceiling host hmost]
    rfl
  | some most =>
    have hceiling : ceilingInForce ceiling (some granted) key = some most := (hgrant.ceilings key).trans hmost
    have hcurrent := h.limitInForce_le host hbounded hmost
    have hlimit : granted.limits.get key = allotment.granted most (limitInForce host policy snapshot key)
        (consumed.get key + policy.limits.get key) := hgrant.capped key most hmost
    have hbaseline : granted.earned_baseline.get key = earnedLimit host policy snapshot key :=
      congrArg (fun limits => limits.get key) hgrant.baseline
    rw [hafter.limitInForce_of_some host rfl hceiling, hbaseline, hlimit, earnedLimit_withAllocation]
    exact allotment.inForce_granted hearned hcurrent

theorem limitInForce_kept (h : AllowsProgress snapshot policy ceiling)
    (hbounded : RenewalBounded ceiling snapshot.user_followup_allocation) {key : LimitKey}
    (hbaseline : granted.earned_baseline.get key = earnedLimit host policy snapshot key)
    (hlimit : granted.limits.get key = limitInForce host policy snapshot key)
    (hceiling : ceilingInForce ceiling (some granted) key
      = ceilingInForce ceiling snapshot.user_followup_allocation key) :
    limitInForce host policy (snapshot.withAllocation (some granted)) key
      = limitInForce host policy snapshot key := by
  have hafter := h.withAllocation (some granted)
  cases hmost : ceilingInForce ceiling snapshot.user_followup_allocation key with
  | none =>
    rw [hafter.limitInForce_of_no_ceiling host (hceiling.trans hmost), h.limitInForce_of_no_ceiling host hmost]
    rfl
  | some most =>
    rw [hafter.limitInForce_of_some host rfl (hceiling.trans hmost), hbaseline, hlimit, earnedLimit_withAllocation]
    exact allotment.inForce_kept (h.earnedLimit_le_limitInForce host hbounded key)
      (h.limitInForce_le host hbounded hmost)

theorem RenewedGrant.ceilings
    (hgrant : RenewedGrant ceiling earned current consumed request granted) :
    ceilingInForce ceiling (some granted) .max_provider_calls
        = some (max ceiling.max_provider_calls granted.limits.max_provider_calls)
      ∧ ceilingInForce ceiling (some granted) .max_total_tokens
        = some (max ceiling.max_total_tokens granted.limits.max_total_tokens)
      ∧ ceilingInForce ceiling (some granted) .max_operations = some ceiling.max_operations
      ∧ ceilingInForce ceiling (some granted) .max_wall_clock_ms = ceiling.max_wall_clock_ms := by
  obtain ⟨renewal, hrenewal, hcalls, htokens⟩ := hgrant.renewed
  have hlimit : ∀ key, ceilingInForce ceiling (some granted) key
      = (renewal.ceilings.limit key).or (ceiling.limit key) := by
    intro key
    simp only [ceilingInForce, renewedCeiling, Option.bind_some, hrenewal]
  refine ⟨(hlimit _).trans ?_, (hlimit _).trans ?_, hlimit _, hlimit _⟩
  · simp only [RenewalCeilings.limit, Option.some_or, hcalls]
  · simp only [RenewalCeilings.limit, Option.some_or, htokens]

/-- A renewal grants what is asked for beyond what was consumed, and keeps the
    other limits. -/
theorem limitInForce_renewed (h : AllowsProgress snapshot policy ceiling)
    (hbounded : RenewalBounded ceiling snapshot.user_followup_allocation)
    (hgrant : RenewedGrant ceiling (earnedBudget host snapshot policy) (advisoryWorkBudget host snapshot policy)
      consumed request granted) (key : LimitKey) :
    limitInForce host policy (snapshot.withAllocation (some granted)) key
      = match key with
        | .max_provider_calls => max (limitInForce host policy snapshot .max_provider_calls)
          (consumed.max_provider_calls + request.provider_calls)
        | .max_total_tokens => max (limitInForce host policy snapshot .max_total_tokens)
          (consumed.max_total_tokens + request.total_tokens)
        | other => limitInForce host policy snapshot other := by
  have hafter := h.withAllocation (some granted)
  have hearned := h.earnedLimit_le_limitInForce host hbounded key
  obtain ⟨hcalls, htokens, hoperations, hclock⟩ := hgrant.ceilings
  have hbaseline : granted.earned_baseline.get key = earnedLimit host policy snapshot key :=
    congrArg (fun limits => limits.get key) hgrant.baseline
  cases key with
  | max_provider_calls =>
    have hlimit : granted.limits.get .max_provider_calls
        = max (limitInForce host policy snapshot .max_provider_calls)
          (consumed.max_provider_calls + request.provider_calls) := hgrant.calls
    have hle := hearned.trans (le_max_left _ (consumed.max_provider_calls + request.provider_calls))
    rw [hafter.limitInForce_of_some host rfl hcalls, hbaseline, earnedLimit_withAllocation]
    dsimp only
    rw [← hlimit] at hle ⊢
    exact allotment.inForce_raised hle
  | max_total_tokens =>
    have hlimit : granted.limits.get .max_total_tokens
        = max (limitInForce host policy snapshot .max_total_tokens)
          (consumed.max_total_tokens + request.total_tokens) := hgrant.tokens
    have hle := hearned.trans (le_max_left _ (consumed.max_total_tokens + request.total_tokens))
    rw [hafter.limitInForce_of_some host rfl htokens, hbaseline, earnedLimit_withAllocation]
    dsimp only
    rw [← hlimit] at hle ⊢
    exact allotment.inForce_raised hle
  | max_operations =>
    refine limitInForce_kept h hbounded hbaseline hgrant.operations ?_
    rw [ceilingInForce_of_unrenewed _ _ (.inl rfl), ceilingInForce_of_unrenewed _ _ (.inl rfl)]
  | max_wall_clock_ms =>
    refine limitInForce_kept h hbounded hbaseline hgrant.clock ?_
    rw [ceilingInForce_of_unrenewed _ _ (.inr rfl), ceilingInForce_of_unrenewed _ _ (.inr rfl)]

theorem PlainGrant.renewalBounded
    (hgrant : PlainGrant snapshot policy ceiling earned current consumed granted)
    (hbounded : RenewalBounded ceiling snapshot.user_followup_allocation) : RenewalBounded ceiling (some granted) := by
  intro allocation renewal hallocation hrenewal
  obtain rfl := Option.some.inj hallocation
  rw [hgrant.renewal, Option.bind_eq_some_iff] at hrenewal
  obtain ⟨earlier, hearlier, hrenewed⟩ := hrenewal
  exact hbounded earlier renewal hearlier hrenewed

/-- The absolute ceilings of a renewal bound the frozen ones. -/
structure FrozenBounded (ceiling : ProgressAllowanceV1) : Prop where
  calls : ceiling.max_provider_calls ≤ 2048
  tokens : ceiling.max_total_tokens ≤ 256000000

theorem ceilingInForce_le {bound most : Int} (hmost : ceilingInForce ceiling allocation key = some most)
    (hfrozen : ∀ frozen, ceiling.limit key = some frozen → frozen ≤ bound)
    (hrenewed : ∀ granted renewal renewed, allocation = some granted → granted.resource_renewal = some renewal →
      renewal.ceilings.limit key = some renewed → renewed ≤ bound) : most ≤ bound := by
  rcases Option.or_eq_some_iff.1 hmost with hrenew | ⟨-, hlimit⟩
  · obtain ⟨granted, renewal, hgranted, hrenewal, hlimit⟩ := renewedCeiling_eq_some hrenew
    exact hrenewed granted renewal most hgranted hrenewal hlimit
  · exact hfrozen most hlimit

theorem RenewalBounded.calls_le (hbounded : RenewalBounded ceiling allocation) (hfrozen : FrozenBounded ceiling)
    {most : Int} (hmost : ceilingInForce ceiling allocation .max_provider_calls = some most) : most ≤ 2048 := by
  refine ceilingInForce_le hmost (fun frozen hlimit => ?_) fun granted renewal renewed hgranted hrenewal hlimit => ?_
  · exact Option.some.inj hlimit ▸ hfrozen.calls
  · exact Option.some.inj hlimit ▸ (hbounded granted renewal hgranted hrenewal).2.1

theorem RenewalBounded.tokens_le (hbounded : RenewalBounded ceiling allocation) (hfrozen : FrozenBounded ceiling)
    {most : Int} (hmost : ceilingInForce ceiling allocation .max_total_tokens = some most) : most ≤ 256000000 := by
  refine ceilingInForce_le hmost (fun frozen hlimit => ?_) fun granted renewal renewed hgranted hrenewal hlimit => ?_
  · exact Option.some.inj hlimit ▸ hfrozen.tokens
  · exact Option.some.inj hlimit ▸ (hbounded granted renewal hgranted hrenewal).2.2.2

theorem RenewedGrant.renewalBounded (h : AllowsProgress snapshot policy ceiling) (hfrozen : FrozenBounded ceiling)
    (hbounded : RenewalBounded ceiling snapshot.user_followup_allocation)
    (hgrant : RenewedGrant ceiling (earnedBudget host snapshot policy) (advisoryWorkBudget host snapshot policy)
      consumed request granted) : RenewalBounded ceiling (some granted) := by
  intro allocation renewal hallocation hrenewal
  obtain rfl := Option.some.inj hallocation
  obtain ⟨own, hown, hcalls, htokens⟩ := hgrant.renewed
  obtain rfl : own = renewal := Option.some.inj (hown.symm.trans hrenewal)
  obtain ⟨hcallsWithin, htokensWithin⟩ := hgrant.within
  have hcurrentCalls : limitInForce host policy snapshot .max_provider_calls ≤ 2048 := by
    cases hmost : ceilingInForce ceiling snapshot.user_followup_allocation .max_provider_calls with
    | none => simp [ceilingInForce, ProgressAllowanceV1.limit] at hmost
    | some most => exact (h.limitInForce_le host hbounded hmost).trans (hbounded.calls_le hfrozen hmost)
  have hcurrentTokens : limitInForce host policy snapshot .max_total_tokens ≤ 256000000 := by
    cases hmost : ceilingInForce ceiling snapshot.user_followup_allocation .max_total_tokens with
    | none => simp [ceilingInForce, ProgressAllowanceV1.limit] at hmost
    | some most => exact (h.limitInForce_le host hbounded hmost).trans (hbounded.tokens_le hfrozen hmost)
  refine ⟨hcalls ▸ le_max_left _ _, ?_, htokens ▸ le_max_left _ _, ?_⟩
  · rw [hcalls, hgrant.calls]
    exact max_le hfrozen.calls (max_le hcurrentCalls hcallsWithin)
  · rw [htokens, hgrant.tokens]
    exact max_le hfrozen.tokens (max_le hcurrentTokens htokensWithin)

/-- The allocation covers a want as far as its ceilings go. -/
def Reserved (ceiling : ProgressAllowanceV1) (want : LimitKey → Int) (granted : UserFollowupAllocationV1) : Prop :=
  ∀ key most, ceilingInForce ceiling (some granted) key = some most → min most (want key) ≤ granted.limits.get key

theorem PlainGrant.reserved (hgrant : PlainGrant snapshot policy ceiling earned current consumed granted) :
    Reserved ceiling (fun key => consumed.get key + policy.limits.get key) granted := by
  intro key most hmost
  rw [hgrant.ceilings] at hmost
  rw [hgrant.capped key most hmost]
  exact allotment.reserve_of_granted

section reserves

variable {earlier : UserFollowupAllocationV1} {want : LimitKey → Int}
  (h : AllowsProgress snapshot policy ceiling) (hearlier : snapshot.user_followup_allocation = some earlier)
  (hreserved : Reserved ceiling want earlier)

include h hearlier hreserved

theorem Reserved.le_limitInForce (host : JavaScriptHost) {key : LimitKey} {most : Int}
    (hmost : ceilingInForce ceiling (some earlier) key = some most) :
    min most (want key) ≤ limitInForce host policy snapshot key := by
  rw [h.limitInForce_of_some host hearlier hmost]
  exact allotment.le_inForce (min_le_left _ _) (hreserved key most hmost)

theorem Reserved.plain (hgrant : PlainGrant snapshot policy ceiling earned (advisoryWorkBudget host snapshot policy)
    consumed granted) : Reserved ceiling want granted := by
  intro key most hmost
  rw [hgrant.ceilings] at hmost
  rw [hgrant.capped key most hmost]
  exact allotment.reserve_granted (Reserved.le_limitInForce h hearlier hreserved host (hearlier ▸ hmost))

/-- A renewal still covers it, for the raised ceilings come with raised
    limits. -/
theorem Reserved.renewed (hbounded : RenewalBounded ceiling (some earlier))
    (hgrant : RenewedGrant ceiling earned (advisoryWorkBudget host snapshot policy) consumed request granted) :
    Reserved ceiling want granted := by
  have hraised : ∀ key frozen limit, ceiling.limit key = some frozen →
      limitInForce host policy snapshot key ≤ limit → min (max frozen limit) (want key) ≤ limit := by
    intro key frozen limit hfrozen hlimit
    obtain ⟨most, hmost⟩ : ∃ most, ceilingInForce ceiling (some earlier) key = some most := by
      rw [ceilingInForce, hfrozen]
      cases renewedCeiling (some earlier) key <;> exact ⟨_, rfl⟩
    obtain ⟨own, hown, hle⟩ := hbounded.frozen_le hmost
    obtain rfl : own = frozen := Option.some.inj (hown.symm.trans hfrozen)
    exact allotment.reserve_raised hle ((Reserved.le_limitInForce h hearlier hreserved host hmost).trans hlimit)
  have hkept : ∀ key most, key = .max_operations ∨ key = .max_wall_clock_ms →
      ceilingInForce ceiling (some granted) key = some most →
      min most (want key) ≤ limitInForce host policy snapshot key := by
    intro key most hkey hmost
    rw [ceilingInForce_of_unrenewed _ _ hkey, ← ceilingInForce_of_unrenewed _ (some earlier) hkey] at hmost
    exact Reserved.le_limitInForce h hearlier hreserved host hmost
  obtain ⟨hcalls, htokens, -, -⟩ := hgrant.ceilings
  intro key most hmost
  cases key with
  | max_provider_calls =>
    obtain rfl := Option.some.inj (hcalls.symm.trans hmost)
    exact hraised .max_provider_calls _ _ rfl (hgrant.calls ▸ le_max_left _ _)
  | max_total_tokens =>
    obtain rfl := Option.some.inj (htokens.symm.trans hmost)
    exact hraised .max_total_tokens _ _ rfl (hgrant.tokens ▸ le_max_left _ _)
  | max_operations =>
    have hlimit : granted.limits.get .max_operations = limitInForce host policy snapshot .max_operations :=
      hgrant.operations
    rw [hlimit]
    exact hkept .max_operations most (.inl rfl) hmost
  | max_wall_clock_ms =>
    have hlimit : granted.limits.get .max_wall_clock_ms = limitInForce host policy snapshot .max_wall_clock_ms :=
      hgrant.clock
    rw [hlimit]
    exact hkept .max_wall_clock_ms most (.inr rfl) hmost

theorem limitInForce_covered (hbounded : RenewalBounded ceiling (some earlier))
    (hgrant : PlainGrant snapshot policy ceiling (earnedBudget host snapshot policy)
      (advisoryWorkBudget host snapshot policy) consumed granted)
    (hwant : ∀ key, want key = consumed.get key + policy.limits.get key) (key : LimitKey) :
    limitInForce host policy (snapshot.withAllocation (some granted)) key = limitInForce host policy snapshot key := by
  rw [limitInForce_plain h (hearlier ▸ hbounded) hgrant, hearlier]
  cases hmost : ceilingInForce ceiling (some earlier) key with
  | none => rfl
  | some most =>
    have hcovered := Reserved.le_limitInForce h hearlier hreserved host hmost
    rw [hwant] at hcovered
    exact max_eq_left hcovered

end reserves

end grants

section allocations

/-- What an authenticated follow-up does to the allocation: none is granted to a
    paused assignment or without a progress allowance. -/
inductive Allocates (host : JavaScriptHost) (snapshot : AssignmentSnapshotV2)
    (policy : AssignmentExecutionPolicyV1) (now : String) :
    Option UserResourceRenewalRequestV1 → AssignmentSnapshotV2 → Prop
  | skipped (hskipped : progressAllowance snapshot = none ∨ snapshot.spec.requested_effect ≠ .apply
      ∨ snapshot.paused = true) : Allocates host snapshot policy now none snapshot
  | plain {ceiling : ProgressAllowanceV1} {consumed : WorkLimits} {granted : UserFollowupAllocationV1}
      (hallowance : progressAllowance snapshot = some ceiling)
      (hconsumed : consumedLimits host snapshot now = some consumed)
      (hgrant : PlainGrant snapshot policy ceiling (earnedBudget host snapshot policy)
        (advisoryWorkBudget host snapshot policy) consumed granted) :
      Allocates host snapshot policy now none (snapshot.withAllocation (some granted))
  | renewed {ceiling : ProgressAllowanceV1} {consumed : WorkLimits} {granted : UserFollowupAllocationV1}
      {request : UserResourceRenewalRequestV1} (hallowance : progressAllowance snapshot = some ceiling)
      (hconsumed : consumedLimits host snapshot now = some consumed)
      (hgrant : RenewedGrant ceiling (earnedBudget host snapshot policy)
        (advisoryWorkBudget host snapshot policy) consumed request granted) :
      Allocates host snapshot policy now (some request) (snapshot.withAllocation (some granted))

theorem Allocates.spec {now : String} {renewal : Option UserResourceRenewalRequestV1}
    (h : Allocates host snapshot policy now renewal next) : next.spec = snapshot.spec := by
  cases h <;> rfl

theorem allocateAuthenticatedFollowupV1_allocates {commandId now : String}
    {renewal : Option UserResourceRenewalRequestV1} (hpolicy : snapshot.spec.execution_policy = some policy)
    (h : allocateAuthenticatedFollowupV1 host snapshot policy commandId now renewal = .ok next) :
    Allocates host snapshot policy now renewal next := by
  simp only [allocateAuthenticatedFollowupV1, allocateUserFollowupV1, check_bind_eq_ok, hpolicy] at h
  obtain ⟨hrenewal, h⟩ := h
  have hchecked : ∀ request, renewal = some request → (progressAllowance snapshot).isSome = true
      ∧ snapshot.spec.requested_effect = .apply ∧ ¬ snapshot.paused = true := by
    rintro request rfl
    have hcheck := forEach_eq_ok.1 hrenewal request (by simp)
    simp only [checkRenewal, check_bind_eq_ok, require_eq_ok] at hcheck
    exact hcheck.2.2
  cases hallowance : progressAllowance snapshot with
  | none =>
    rw [hallowance] at h
    obtain rfl := Except.ok.inj h
    cases renewal with
    | none => exact .skipped (.inl hallowance)
    | some request =>
      have hsome := (hchecked request rfl).1
      rw [hallowance] at hsome
      cases hsome
  | some ceiling =>
    rw [hallowance] at h
    dsimp only at h
    split at h
    · next hskipped =>
      obtain rfl := Except.ok.inj h
      cases renewal with
      | none => exact .skipped (.inr hskipped)
      | some request =>
        obtain ⟨-, happlies, hrunning⟩ := hchecked request rfl
        exact absurd hskipped (by simp [happlies, hrunning])
    · rw [check_bind_eq_ok] at h
      obtain ⟨-, h⟩ := h
      split at h
      · cases h
      · next consumed hconsumed =>
        simp only [bind_eq_ok, pure_eq_ok] at h
        obtain ⟨granted, hgranted, rfl⟩ := h
        cases renewal with
        | none => exact .plain hallowance hconsumed (plainGrant_of_ok hgranted)
        | some request => exact .renewed hallowance hconsumed (renewedGrant_of_ok hgranted)

theorem resolveReview_allocates {actor occurredAt reviewId : String}
    {continuation : AdvisoryCheckpointContinuationV1}
    (h : resolveReview host snapshot actor occurredAt reviewId USER_FOLLOWUP_ALLOCATION_V1 (some continuation)
      = .ok next) :
    ∃ policy candidate, snapshot.spec.execution_policy = some policy
      ∧ Allocates host snapshot policy occurredAt continuation.resource_renewal candidate
      ∧ next = { candidate with
        completion_proposal := none
        pending_review_ids := candidate.pending_review_ids.filter (· != reviewId) } := by
  simp only [resolveReview, bind_eq_ok, pure_eq_ok] at h
  obtain ⟨-, -, released, hreleased, rfl⟩ := h
  rw [releaseCheckpoint, if_pos (.inr rfl), check_bind_eq_ok, bind_eq_ok] at hreleased
  obtain ⟨-, candidate, hchecked, hreleased⟩ := hreleased
  rw [pure_eq_ok] at hreleased
  subst hreleased
  simp only [assertAdvisoryCheckpointContinuationV1, check_bind_eq_ok] at hchecked
  obtain ⟨-, hchecked⟩ := hchecked
  split at hchecked
  · next given policy hgiven hpolicy =>
    obtain rfl := Option.some.inj hgiven
    simp only [bind_eq_ok, pure_eq_ok] at hchecked
    obtain ⟨-, -, -, -, allocated, hallocated, -, -, -, -, rfl⟩ := hchecked
    simp only [continuationCandidate, beq_self_eq_true, if_true] at hallocated
    exact ⟨policy, allocated, hpolicy, allocateAuthenticatedFollowupV1_allocates hpolicy hallocated, rfl⟩
  · cases hchecked

end allocations

end revit_operator.assignment_kernel
