import RevitOperator.AssignmentKernel.FollowupAllowance
import RevitOperator.AssignmentKernel.JournalBuilder
import RevitOperator.AssignmentKernel.Planning

open checked checked_run

namespace revit_operator.assignment_kernel

variable {host : JavaScriptHost} {snapshot : AssignmentSnapshotV2} {policy : AssignmentExecutionPolicyV1}
  {ceiling : ProgressAllowanceV1}

variable {candidate : AssignmentSnapshotV2} {now : String}

variable {renewal : Option UserResourceRenewalRequestV1}

section states

variable {state nextState : ReducerStateV2} {event : AssignmentEventV2}

theorem allocation_recorded (h : applyEvent host state event = .ok nextState) {reviewId : String}
    {continuation : AdvisoryCheckpointContinuationV1}
    (hbody : event.body = .review_resolved reviewId USER_FOLLOWUP_ALLOCATION_V1 (some continuation)) :
    ∃ snapshot policy candidate, state.snapshot = some snapshot
      ∧ event.assignment_version = snapshot.assignment_version + 1
      ∧ snapshot.spec.execution_policy = some policy
      ∧ Allocates host (snapshot.atVersion event.assignment_version) policy event.occurred_at
        continuation.resource_renewal candidate
      ∧ nextState.snapshot = some (withDerivedState host { candidate with
        completion_proposal := none
        pending_review_ids := candidate.pending_review_ids.filter (· != reviewId) }) := by
  cases applyEvent_effect h with
  | created spec hcreated =>
    rw [hbody] at hcreated
    cases hcreated
  | restarted snapshot hsome hopen hversion hstarted =>
    rw [hbody] at hstarted
    cases hstarted
  | recorded snapshot next hsome hopen hversion hlive hbinding hnotStart hrecord =>
    simp only [recordEvent, hbody] at hrecord
    obtain ⟨policy, candidate, hpolicy, hallocates, rfl⟩ := resolveReview_allocates hrecord
    exact ⟨snapshot, policy, candidate, hsome, hversion, hpolicy, hallocates, rfl⟩

theorem PlanningEffect.allocates {next : PlanningRecord} (h : PlanningEffect host state snapshot event next) :
    next.user_followup_allocation = snapshot.user_followup_allocation
      ∨ ∃ policy renewal candidate, snapshot.spec.execution_policy = some policy
        ∧ Allocates host snapshot policy event.occurred_at renewal candidate
        ∧ next.user_followup_allocation = candidate.user_followup_allocation := by
  cases h with
  | supplied variableId clarificationId value freshness hbody =>
    have hsame : ∀ answered : AssignmentSnapshotV2,
        (invalidateDependentInputResultsV2 answered variableId).user_followup_allocation
          = answered.user_followup_allocation := by
      intro answered
      unfold invalidateDependentInputResultsV2
      dsimp only
      split <;> rfl
    dsimp only
    split
    · rw [AssignmentSnapshotV2.planning, hsame]
      exact .inl rfl
    · exact .inl rfl
  | allocated reviewId decision continuation policy candidate hbody hpolicy hallocated =>
    exact .inr ⟨policy, continuation.resource_renewal, candidate, hpolicy,
      allocateAuthenticatedFollowupV1_allocates hpolicy hallocated, rfl⟩
  | _ => exact .inl rfl

/-- A frozen policy allows progress for edits only, within the absolute
    ceilings. -/
theorem allowsProgress_of_valid (hvalid : validLocalAdvisoryPolicyV1 host snapshot.spec = true)
    (hpolicy : snapshot.spec.execution_policy = some policy) (hceiling : policy.progress_allowance = some ceiling) :
    AllowsProgress snapshot policy ceiling ∧ FrozenBounded ceiling := by
  simp only [validLocalAdvisoryPolicyV1, hpolicy, hceiling, Option.all_some, Bool.and_eq_true] at hvalid
  have hallowance := hvalid.2
  simp only [progressAllowanceValid, Bool.and_eq_true, beq_iff_eq, boundedInteger, decide_eq_true_eq] at hallowance
  obtain ⟨⟨⟨⟨⟨⟨⟨⟨-, happlies⟩, hcalls⟩, -⟩, -⟩, -⟩, htokens⟩, -⟩, -⟩ := hallowance
  have hcallsLe : (policyCeilings policy).calls ≤ 2048 := by
    unfold policyCeilings
    split <;> decide
  have htokensLe : (policyCeilings policy).tokens ≤ 256000000 := by
    unfold policyCeilings
    split <;> decide
  exact ⟨⟨hpolicy, hceiling, happlies⟩, hcalls.2.trans hcallsLe, htokens.2.trans htokensLe⟩

theorem creation_policy_valid (h : applyEvent host state event = .ok nextState) {spec : AssignmentSpecV2}
    (hbody : event.body = .assignment_created spec) : validLocalAdvisoryPolicyV1 host spec = true := by
  simp only [applyEvent, hbody, checkCreation, check_bind_eq_ok, require_eq_ok] at h
  exact h.2.1.2.1

/-- What holds of the policy and the allocation after every run. -/
def ReducerStateV2.AllowanceSound (host : JavaScriptHost) (state : ReducerStateV2) : Prop :=
  ∀ snapshot, state.snapshot = some snapshot → validLocalAdvisoryPolicyV1 host snapshot.spec = true
    ∧ ∀ policy ceiling, snapshot.spec.execution_policy = some policy → policy.progress_allowance = some ceiling →
      RenewalBounded ceiling snapshot.user_followup_allocation

theorem Allocates.renewalBounded
    (h : AllowsProgress snapshot policy ceiling) (hfrozen : FrozenBounded ceiling)
    (hbounded : RenewalBounded ceiling snapshot.user_followup_allocation)
    (hallocates : Allocates host snapshot policy now renewal candidate) :
    RenewalBounded ceiling candidate.user_followup_allocation := by
  cases hallocates with
  | skipped => exact hbounded
  | plain hallowance hconsumed hgrant =>
    obtain rfl := Option.some.inj (h.progressAllowance_eq.symm.trans hallowance)
    exact hgrant.renewalBounded hbounded
  | renewed hallowance hconsumed hgrant =>
    obtain rfl := Option.some.inj (h.progressAllowance_eq.symm.trans hallowance)
    exact hgrant.renewalBounded h hfrozen hbounded

theorem allowanceSound_step (hstate : state.AllowanceSound host) (h : applyEvent host state event = .ok nextState) :
    nextState.AllowanceSound host := by
  intro after hafter
  cases applyEvent_effect h with
  | created spec hbody hnone =>
    obtain rfl := Option.some.inj hafter
    exact ⟨creation_policy_valid h hbody, fun _ _ _ _ => renewalBounded_none⟩
  | restarted snapshot hsome =>
    obtain rfl := Option.some.inj hafter
    exact hstate snapshot hsome
  | recorded snapshot next hsome hopen hversion hlive hbinding hnotStart hrecord =>
    obtain rfl := Option.some.inj hafter
    obtain ⟨hvalid, hbounded⟩ := hstate snapshot hsome
    have hspec : (withDerivedState host next).spec = snapshot.spec := (recordEvent_effect hrecord).spec
    refine ⟨hspec ▸ hvalid, fun policy ceiling hpolicy hceiling => ?_⟩
    rw [hspec] at hpolicy
    have hallows : AllowsProgress (snapshot.atVersion event.assignment_version) policy ceiling
        ∧ FrozenBounded ceiling := allowsProgress_of_valid hvalid hpolicy hceiling
    have hsaved : (withDerivedState host next).user_followup_allocation = next.planning.user_followup_allocation := rfl
    rw [hsaved]
    obtain hkept | ⟨selected, renewal, candidate, hselected, hallocates, hallocated⟩ :=
      (recordEvent_planning hrecord).allocates
    · rw [hkept]
      exact hbounded policy ceiling hpolicy hceiling
    · obtain rfl := Option.some.inj (hpolicy.symm.trans hselected)
      rw [hallocated]
      exact hallocates.renewalBounded hallows.1 hallows.2 (hbounded policy ceiling hpolicy hceiling)

theorem feed_allowanceSound {events : List AssignmentEventV2} {final : ReducerStateV2}
    (h : feed (applyEvent host) .initial events = .ok final) : final.AllowanceSound host := by
  refine feed_invariant (fun _ _ _ hstate hstep => allowanceSound_step hstate hstep) ?_ h
  intro snapshot hnone
  cases hnone

/-- The allocation of the snapshot covers a want. -/
def ReducerStateV2.Reserves (policy : AssignmentExecutionPolicyV1) (ceiling : ProgressAllowanceV1)
    (want : LimitKey → Int) (state : ReducerStateV2) : Prop :=
  ∃ snapshot granted, state.snapshot = some snapshot ∧ snapshot.spec.execution_policy = some policy
    ∧ policy.progress_allowance = some ceiling ∧ snapshot.user_followup_allocation = some granted
    ∧ Reserved ceiling want granted

theorem reserves_step {want : LimitKey → Int} (hsound : state.AllowanceSound host)
    (hstate : state.Reserves policy ceiling want) (h : applyEvent host state event = .ok nextState) :
    nextState.Reserves policy ceiling want := by
  obtain ⟨snapshot, granted, hsome, hpolicy, hceiling, hgranted, hreserved⟩ := hstate
  cases applyEvent_effect h with
  | created spec hbody hnone =>
    rw [hnone] at hsome
    cases hsome
  | restarted kept hkept =>
    obtain rfl := Option.some.inj (hkept.symm.trans hsome)
    exact ⟨_, granted, rfl, hpolicy, hceiling, hgranted, hreserved⟩
  | recorded kept next hkept hopen hversion hlive hbinding hnotStart hrecord =>
    obtain rfl := Option.some.inj (hkept.symm.trans hsome)
    obtain ⟨hvalid, hbounded⟩ := hsound kept hkept
    obtain ⟨hallows, -⟩ : AllowsProgress (kept.atVersion event.assignment_version) policy ceiling
        ∧ FrozenBounded ceiling := allowsProgress_of_valid hvalid hpolicy hceiling
    have hspec : (withDerivedState host next).spec = kept.spec := (recordEvent_effect hrecord).spec
    have hearlier : RenewalBounded ceiling (some granted) := hgranted ▸ hbounded policy ceiling hpolicy hceiling
    have hcovered : ∃ later, next.planning.user_followup_allocation = some later ∧ Reserved ceiling want later := by
      obtain hsame | ⟨selected, renewal, candidate, hselected, hallocates, hallocated⟩ :=
        (recordEvent_planning hrecord).allocates
      · exact ⟨granted, hsame.trans hgranted, hreserved⟩
      · obtain rfl := Option.some.inj (hpolicy.symm.trans hselected)
        rw [hallocated]
        cases hallocates with
        | skipped => exact ⟨granted, hgranted, hreserved⟩
        | plain hallowance hconsumed hgrant =>
          obtain rfl := Option.some.inj (hallows.progressAllowance_eq.symm.trans hallowance)
          exact ⟨_, rfl, Reserved.plain hallows hgranted hreserved hgrant⟩
        | renewed hallowance hconsumed hgrant =>
          obtain rfl := Option.some.inj (hallows.progressAllowance_eq.symm.trans hallowance)
          exact ⟨_, rfl, Reserved.renewed hallows hgranted hreserved hearlier hgrant⟩
    obtain ⟨later, hlater, hstill⟩ := hcovered
    exact ⟨_, later, rfl, hspec ▸ hpolicy, hceiling, hlater, hstill⟩

theorem feed_reserves {want : LimitKey → Int} {events : List AssignmentEventV2} {final : ReducerStateV2}
    (hsound : state.AllowanceSound host) (hstate : state.Reserves policy ceiling want)
    (h : feed (applyEvent host) state events = .ok final) : final.Reserves policy ceiling want := by
  have hstep : ∀ (state : ReducerStateV2) (event : AssignmentEventV2) (next : ReducerStateV2),
      state.AllowanceSound host ∧ state.Reserves policy ceiling want → applyEvent host state event = .ok next →
      next.AllowanceSound host ∧ next.Reserves policy ceiling want := by
    intro state event next hboth hnext
    exact ⟨allowanceSound_step hboth.1 hnext, reserves_step hboth.1 hboth.2 hnext⟩
  exact (feed_invariant hstep ⟨hsound, hstate⟩ h).2

theorem operations_dated (hstate : state.Sound) (hsome : state.snapshot = some snapshot) :
    ∀ operation ∈ snapshot.operations.values, operation.Dated snapshot.assignment_version := by
  intro operation hoperation
  obtain ⟨id, hget⟩ := Record.mem_values.1 hoperation
  exact (hstate snapshot hsome).1.dated id operation hget

/-- What one accepted allocation does to the limits in force. -/
structure AllocationOutcome (host : JavaScriptHost) (policy : AssignmentExecutionPolicyV1)
    (ceiling : ProgressAllowanceV1) (before after : AssignmentSnapshotV2) (now : String)
    (renewal : Option UserResourceRenewalRequestV1) : Prop where
  raised : ∀ key, limitInForce host policy before key ≤ limitInForce host policy after key
  capped : ∀ key most, ceilingInForce ceiling after.user_followup_allocation key = some most →
    limitInForce host policy after key ≤ most
  uncapped : ∀ key, ceilingInForce ceiling after.user_followup_allocation key = none →
    limitInForce host policy after key = policy.limits.get key
  bounded : RenewalBounded ceiling after.user_followup_allocation
  renewed : ∀ request, renewal = some request → ∃ consumed, consumedLimits host before now = some consumed
    ∧ consumed.max_provider_calls + request.provider_calls ≤ limitInForce host policy after .max_provider_calls
    ∧ consumed.max_total_tokens + request.total_tokens ≤ limitInForce host policy after .max_total_tokens

theorem Allocates.outcome
    (h : AllowsProgress snapshot policy ceiling) (hfrozen : FrozenBounded ceiling)
    (hbounded : RenewalBounded ceiling snapshot.user_followup_allocation)
    (hallocates : Allocates host snapshot policy now renewal candidate) :
    AllocationOutcome host policy ceiling snapshot candidate now renewal := by
  have hafter := hallocates.renewalBounded h hfrozen hbounded
  have hallows : AllowsProgress candidate policy ceiling := by
    cases hallocates <;> exact ⟨h.selected, h.allowance, h.applies⟩
  refine ⟨?_, fun key most hmost => hallows.limitInForce_le host hafter hmost,
    fun key hnone => hallows.limitInForce_uncapped host hnone, hafter, ?_⟩
  · intro key
    cases hallocates with
    | skipped => exact le_refl _
    | plain hallowance hconsumed hgrant =>
      obtain rfl := Option.some.inj (h.progressAllowance_eq.symm.trans hallowance)
      rw [limitInForce_plain h hbounded hgrant]
      split
      · exact le_max_left _ _
      · exact le_refl _
    | renewed hallowance hconsumed hgrant =>
      obtain rfl := Option.some.inj (h.progressAllowance_eq.symm.trans hallowance)
      rw [limitInForce_renewed h hbounded hgrant]
      cases key with
      | max_provider_calls => exact le_max_left _ _
      | max_operations => exact le_refl _
      | max_total_tokens => exact le_max_left _ _
      | max_wall_clock_ms => exact le_refl _
  · rintro request rfl
    cases hallocates with
    | renewed hallowance hconsumed hgrant =>
      obtain rfl := Option.some.inj (h.progressAllowance_eq.symm.trans hallowance)
      have hlimits := limitInForce_renewed h hbounded hgrant
      refine ⟨_, hconsumed, ?_, ?_⟩
      · rw [hlimits]
        exact le_max_right _ _
      · rw [hlimits]
        exact le_max_right _ _

end states

section runs

variable {events : List AssignmentEventV2} {event : AssignmentEventV2} {before after : AssignmentSnapshotV2}

private theorem states_of_journal (hbefore : reduceAssignmentEventsV2 host events = .ok before)
    (hafter : reduceAssignmentEventsV2 host (events ++ [event]) = .ok after) :
    ∃ start final, feed (applyEvent host) .initial events = .ok start ∧ start.snapshot = some before
      ∧ applyEvent host start event = .ok final ∧ final.snapshot = some after := by
  obtain ⟨start, hstart, hsome⟩ := reduceAssignmentEventsV2_eq_ok.1 hbefore
  obtain ⟨final, hfinal, hfinalSome⟩ := reduceAssignmentEventsV2_eq_ok.1 hafter
  obtain ⟨mid, hmid, hstep⟩ := feed_snoc_eq_ok.1 hfinal
  obtain rfl : start = mid := Except.ok.inj (hstart.symm.trans hmid)
  exact ⟨start, final, hstart, hsome, hstep, hfinalSome⟩

theorem limitInForce_withDerivedState (candidate : AssignmentSnapshotV2)
    (proposal : Option CompletionProposal) (reviews : List String) (key : LimitKey) :
    limitInForce host policy (withDerivedState host { candidate with
      completion_proposal := proposal
      pending_review_ids := reviews }) key = limitInForce host policy candidate key :=
  limitInForce_congr policy key (earnedAssignmentWorkAllowanceV2_derived host _) rfl rfl

theorem followup_allocates (hbefore : reduceAssignmentEventsV2 host events = .ok before)
    (hafter : reduceAssignmentEventsV2 host (events ++ [event]) = .ok after)
    (hpolicy : before.spec.execution_policy = some policy) (hceiling : policy.progress_allowance = some ceiling)
    {reviewId : String} {continuation : AdvisoryCheckpointContinuationV1}
    (hbody : event.body = .review_resolved reviewId USER_FOLLOWUP_ALLOCATION_V1 (some continuation)) :
    ∃ candidate, Allocates host (before.atVersion event.assignment_version) policy event.occurred_at
        continuation.resource_renewal candidate
      ∧ AllowsProgress (before.atVersion event.assignment_version) policy ceiling ∧ FrozenBounded ceiling
      ∧ RenewalBounded ceiling before.user_followup_allocation
      ∧ after.user_followup_allocation = candidate.user_followup_allocation
      ∧ after.spec = before.spec
      ∧ (∀ key, limitInForce host policy (before.atVersion event.assignment_version) key
        = limitInForce host policy before key)
      ∧ ∀ key, limitInForce host policy after key = limitInForce host policy candidate key := by
  obtain ⟨start, final, hstart, hsome, hstep, hfinal⟩ := states_of_journal hbefore hafter
  obtain ⟨own, selected, candidate, hown, hversion, hselected, hallocates, hnext⟩ :=
    allocation_recorded hstep hbody
  obtain rfl : own = before := Option.some.inj (hown.symm.trans hsome)
  obtain rfl : policy = selected := Option.some.inj (hpolicy.symm.trans hselected)
  obtain rfl := Option.some.inj (hfinal.symm.trans hnext)
  obtain ⟨hvalid, hbounded⟩ := feed_allowanceSound hstart own hsome
  have hallows : AllowsProgress (own.atVersion event.assignment_version) policy ceiling ∧ FrozenBounded ceiling :=
    allowsProgress_of_valid hvalid hpolicy hceiling
  have hdated := operations_dated (feed_sound hstart) hsome
  have hlater : own.assignment_version ≤ event.assignment_version := by omega
  have hsaved : (withDerivedState host { candidate with
      completion_proposal := none
      pending_review_ids := candidate.pending_review_ids.filter (· != reviewId) }).user_followup_allocation
        = candidate.user_followup_allocation := rfl
  have hspec : (withDerivedState host { candidate with
      completion_proposal := none
      pending_review_ids := candidate.pending_review_ids.filter (· != reviewId) }).spec = own.spec :=
    hallocates.spec
  exact ⟨candidate, hallocates, hallows.1, hallows.2, hbounded policy ceiling hpolicy hceiling, hsaved, hspec,
    fun key => limitInForce_atVersion hdated hlater key, fun key => limitInForce_withDerivedState candidate _ _ key⟩

theorem AllocationOutcome.transfer {dated : AssignmentSnapshotV2}
    (h : AllocationOutcome host policy ceiling dated candidate now renewal)
    (hconsumed : consumedLimits host dated now = consumedLimits host before now)
    (hstart : ∀ key, limitInForce host policy dated key = limitInForce host policy before key)
    (hend : ∀ key, limitInForce host policy after key = limitInForce host policy candidate key)
    (hallocation : after.user_followup_allocation = candidate.user_followup_allocation) :
    AllocationOutcome host policy ceiling before after now renewal where
  raised key := by
    rw [← hstart, hend]
    exact h.raised key
  capped key most hmost := by
    rw [hallocation] at hmost
    rw [hend]
    exact h.capped key most hmost
  uncapped key hnone := by
    rw [hallocation] at hnone
    rw [hend]
    exact h.uncapped key hnone
  bounded := by
    rw [hallocation]
    exact h.bounded
  renewed request hrequest := by
    rw [← hconsumed, hend, hend]
    exact h.renewed request hrequest

theorem Allocates.reserves
    (h : AllowsProgress snapshot policy ceiling) (hrunning : snapshot.paused = false)
    (hallocates : Allocates host snapshot policy now none candidate) :
    ∃ consumed granted, consumedLimits host snapshot now = some consumed
      ∧ candidate.user_followup_allocation = some granted
      ∧ Reserved ceiling (fun key => consumed.get key + policy.limits.get key) granted := by
  cases hallocates with
  | skipped hskipped =>
    rcases hskipped with hnone | heffect | hpaused
    · rw [h.progressAllowance_eq] at hnone
      cases hnone
    · exact absurd h.applies heffect
    · rw [hrunning] at hpaused
      cases hpaused
  | plain hallowance hconsumed hgrant =>
    obtain rfl := Option.some.inj (h.progressAllowance_eq.symm.trans hallowance)
    exact ⟨_, _, hconsumed, rfl, hgrant.reserved⟩

/-- Over a consumption whose want is reserved a plain follow-up grants
    nothing. -/
theorem Allocates.covered {consumed : WorkLimits}
    {earlier : UserFollowupAllocationV1} (h : AllowsProgress snapshot policy ceiling)
    (hbounded : RenewalBounded ceiling snapshot.user_followup_allocation)
    (hearlier : snapshot.user_followup_allocation = some earlier)
    (hreserved : Reserved ceiling (fun key => consumed.get key + policy.limits.get key) earlier)
    (hconsumed : consumedLimits host snapshot now = some consumed)
    (hallocates : Allocates host snapshot policy now none candidate) (key : LimitKey) :
    limitInForce host policy candidate key = limitInForce host policy snapshot key := by
  cases hallocates with
  | skipped => rfl
  | plain hallowance hconsumedNow hgrant =>
    obtain rfl := Option.some.inj (h.progressAllowance_eq.symm.trans hallowance)
    obtain rfl := Option.some.inj (hconsumed.symm.trans hconsumedNow)
    rw [hearlier] at hbounded
    exact limitInForce_covered h hearlier hreserved hbounded hgrant (fun _ => rfl) key

/-- After the journal a follow-up without renewal over that consumption raises
    no limit. -/
def GrantedOnce (host : JavaScriptHost) (policy : AssignmentExecutionPolicyV1) (journal : List AssignmentEventV2)
    (consumed : Option WorkLimits) : Prop :=
  ∀ later second mid last reviewId continuation, reduceAssignmentEventsV2 host (journal ++ later) = .ok mid →
    reduceAssignmentEventsV2 host (journal ++ later ++ [second]) = .ok last →
    second.body = .review_resolved reviewId USER_FOLLOWUP_ALLOCATION_V1 (some continuation) →
    continuation.resource_renewal = none → consumedLimits host mid second.occurred_at = consumed →
    ∀ key, limitInForce host policy last key ≤ limitInForce host policy mid key

/-- An authenticated follow-up lowers no limit and raises none above its
    ceiling, a renewal grants what it asks for on top of what was consumed, and
    after a plain follow-up of a running assignment another one over the same
    consumption raises nothing. -/
theorem followup_allowance (hbefore : reduceAssignmentEventsV2 host events = .ok before)
    (hafter : reduceAssignmentEventsV2 host (events ++ [event]) = .ok after)
    (hpolicy : before.spec.execution_policy = some policy) (hceiling : policy.progress_allowance = some ceiling)
    {reviewId : String} {continuation : AdvisoryCheckpointContinuationV1}
    (hbody : event.body = .review_resolved reviewId USER_FOLLOWUP_ALLOCATION_V1 (some continuation)) :
    AllocationOutcome host policy ceiling before after event.occurred_at continuation.resource_renewal
      ∧ (continuation.resource_renewal = none → before.paused = false →
        GrantedOnce host policy (events ++ [event]) (consumedLimits host before event.occurred_at)) := by
  obtain ⟨candidate, hallocates, hallows, hfrozen, hbounded, hallocation, hspec, hstart, hend⟩ :=
    followup_allocates hbefore hafter hpolicy hceiling hbody
  refine ⟨(hallocates.outcome hallows hfrozen hbounded).transfer rfl hstart hend hallocation, ?_⟩
  intro hplain hrunning later second mid last secondReview again hmid hlast hsecond hagain hconsumed key
  rw [hplain] at hallocates
  obtain ⟨consumed, granted, hspent, hgranted, hreserved⟩ := hallocates.reserves hallows hrunning
  -- the first follow-up leaves a reserve, and every later event keeps it
  obtain ⟨state, hfed, hafterSome⟩ := reduceAssignmentEventsV2_eq_ok.1 hafter
  obtain ⟨midState, hmidFed, hmidSome⟩ := reduceAssignmentEventsV2_eq_ok.1 hmid
  have hreserves : state.Reserves policy ceiling fun key => consumed.get key + policy.limits.get key :=
    ⟨after, granted, hafterSome, hspec ▸ hpolicy, hceiling, hallocation.trans hgranted, hreserved⟩
  rw [feed_append, hfed] at hmidFed
  obtain ⟨snapshot, earlier, hsnapshot, hmidPolicy, -, hearlier, hstill⟩ :=
    feed_reserves (feed_allowanceSound hfed) hreserves hmidFed
  obtain rfl : snapshot = mid := Option.some.inj (hsnapshot.symm.trans hmidSome)
  obtain ⟨granting, hsecondly, hmidAllows, -, hmidBounded, -, -, hmidStart, hmidEnd⟩ :=
    followup_allocates hmid hlast hmidPolicy hceiling hsecond
  rw [hagain] at hsecondly
  have hcovered := hsecondly.covered hmidAllows hmidBounded hearlier hstill (hconsumed.trans hspent) key
  rw [hmidEnd, hcovered, hmidStart]

end runs

section sample

/-- A policy that allows progress. -/
def allowancePolicy : AssignmentExecutionPolicyV1 :=
  { samplePolicy with
    progress_allowance := some ⟨.verified_native_changes_v1, 64, 256, 8000000, none, none⟩ }

def allowanceSpec : AssignmentSpecV2 := { sampleSpec with execution_policy := some allowancePolicy }

/-- A completed provider call that used ten tokens. -/
def sampleReceipt : ProviderCallV2 where
  call_id := "call-1"
  controller_turn_id := none
  upstream_receipt := none
  binding := sampleBinding
  state := .completed
  provider := "provider-1"
  model := "model-1"
  reasoning_effort := none
  gap_ids := []
  criterion_ids := []
  expected_information := ["wall position"]
  admitted_at := sampleTime
  dispatched_at := none
  response_started_at := none
  usage_received_at := none
  completed_at := some sampleTime
  provider_duration_ms := none
  response_transport_completed_at := none
  usage := some ⟨none, none, none, none, none, some 10, none⟩
  success := some true
  error_class := none

/-- A checkpoint and the follow-up of the user that releases it. -/
def followupCheckpoint (reviewId commandId direction : String) (renewal : Option UserResourceRenewalRequestV1) :
    List (String × AssignmentEventBodyV2) :=
  [("operator-work-plan", .review_requested reviewId [] (some ⟨[], ["Check the door."], [], none⟩)),
    ("operator-work-plan", .input_requested direction commandId "What next?"
      (some ⟨⟨direction, .needs_input, none, true, false⟩, ["work-edit", "work-inspect", "work-preview"]⟩)),
    ("authenticated-user", .input_supplied direction commandId (some (.str "Go on.")) none),
    ("authenticated-user", .review_resolved reviewId USER_FOLLOWUP_ALLOCATION_V1
      (some ⟨commandId, none, "document-1", direction, "Go on.", renewal⟩))]

def secondDirection : String := "user_direction_abcdef0123456789abcdef0123456789"

/-- A follow-up after one provider call, and a later one without renewal over
    the same consumption. -/
def followupJournal (renewal : Option UserResourceRenewalRequestV1) : List AssignmentEventV2 :=
  journalFrom sampleBinding sampleTime 1
    ([("assignment-kernel", .assignment_created allowanceSpec),
        ("assignment-kernel", .provider_call_receipt_recorded sampleReceipt)]
      ++ followupCheckpoint "review-1" "command-1" sampleDirection renewal
      ++ followupCheckpoint "review-2" "command-2" secondDirection none)

/-- The release of a checkpoint by the events of a follow-up journal. -/
def followupRelease (version : Nat) (reviewId commandId direction : String)
    (renewal : Option UserResourceRenewalRequestV1) : AssignmentEventV2 :=
  ⟨"event-" ++ toString version, "assignment-1", version, sampleBinding, sampleTime, "authenticated-user",
    .review_resolved reviewId USER_FOLLOWUP_ALLOCATION_V1
      (some ⟨commandId, none, "document-1", direction, "Go on.", renewal⟩)⟩

theorem followup_allowance_granted :
    ∃ before after, reduceAssignmentEventsV2 asciiHost ((followupJournal none).take 5) = .ok before
      ∧ reduceAssignmentEventsV2 asciiHost ((followupJournal none).take 6) = .ok after
      ∧ (∀ key, limitInForce asciiHost allowancePolicy before key ≤ limitInForce asciiHost allowancePolicy after key)
      ∧ GrantedOnce asciiHost allowancePolicy ((followupJournal none).take 6)
        (consumedLimits asciiHost before sampleTime) := by
  have hstart : (reduceAssignmentEventsV2 asciiHost ((followupJournal none).take 5)).toOption.map (fun snapshot =>
      (snapshot.spec.execution_policy, snapshot.paused)) = some (some allowancePolicy, false) := by decide +kernel
  have haccepted : (reduceAssignmentEventsV2 asciiHost ((followupJournal none).take 5
      ++ [followupRelease 6 "review-1" "command-1" sampleDirection none])).isOk = true := by decide +kernel
  simp only [Option.map_eq_some_iff, toOption_eq_some, Prod.mk.injEq] at hstart
  obtain ⟨before, hbefore, hpolicy, hrunning⟩ := hstart
  obtain ⟨after, hafter⟩ := exists_of_isOk haccepted
  obtain ⟨houtcome, honce⟩ := followup_allowance hbefore hafter hpolicy rfl rfl
  exact ⟨before, after, hbefore, hafter, houtcome.raised, honce rfl hrunning⟩

/-- After a renewal a follow-up without renewal over the same consumption
    raises the provider calls. -/
theorem followup_after_renewal_raises :
    ¬ ∀ (host : JavaScriptHost) (events : List AssignmentEventV2) (event : AssignmentEventV2)
      (before after : AssignmentSnapshotV2) (policy : AssignmentExecutionPolicyV1) (ceiling : ProgressAllowanceV1)
      (reviewId : String) (continuation : AdvisoryCheckpointContinuationV1),
      reduceAssignmentEventsV2 host events = .ok before → reduceAssignmentEventsV2 host (events ++ [event]) = .ok after →
      before.spec.execution_policy = some policy → policy.progress_allowance = some ceiling →
      event.body = .review_resolved reviewId USER_FOLLOWUP_ALLOCATION_V1 (some continuation) →
      GrantedOnce host policy (events ++ [event]) (consumedLimits host before event.occurred_at) := by
  intro h
  have hstart : (reduceAssignmentEventsV2 asciiHost ((followupJournal (some ⟨1, 1⟩)).take 5)).toOption.map
      (fun snapshot => (snapshot.spec.execution_policy, consumedLimits asciiHost snapshot sampleTime))
        = some (some allowancePolicy, some ⟨1, 0, 10, 0⟩) := by decide +kernel
  have haccepted : (reduceAssignmentEventsV2 asciiHost ((followupJournal (some ⟨1, 1⟩)).take 5
      ++ [followupRelease 6 "review-1" "command-1" sampleDirection (some ⟨1, 1⟩)])).isOk = true := by decide +kernel
  have hmiddle : (reduceAssignmentEventsV2 asciiHost ((followupJournal (some ⟨1, 1⟩)).take 9)).toOption.map
      (fun snapshot => (limitInForce asciiHost allowancePolicy snapshot .max_provider_calls,
        consumedLimits asciiHost snapshot sampleTime)) = some (32, some ⟨1, 0, 10, 0⟩) := by decide +kernel
  have hend : (reduceAssignmentEventsV2 asciiHost (followupJournal (some ⟨1, 1⟩))).toOption.map
      (fun snapshot => limitInForce asciiHost allowancePolicy snapshot .max_provider_calls) = some 33 := by
    decide +kernel
  simp only [Option.map_eq_some_iff, toOption_eq_some, Prod.mk.injEq] at hstart hmiddle hend
  obtain ⟨before, hbefore, hpolicy, hconsumed⟩ := hstart
  obtain ⟨after, hafter⟩ := exists_of_isOk haccepted
  obtain ⟨mid, hmid, hlimit, hsame⟩ := hmiddle
  obtain ⟨last, hlast, hraised⟩ := hend
  have hle := h asciiHost _ _ before after allowancePolicy _ _ _ hbefore hafter hpolicy rfl rfl
    (((followupJournal (some ⟨1, 1⟩)).take 9).drop 6) (followupRelease 10 "review-2" "command-2" secondDirection none)
    mid last "review-2" _ hmid hlast rfl rfl (hsame.trans hconsumed.symm) .max_provider_calls
  omega

end sample

end revit_operator.assignment_kernel
