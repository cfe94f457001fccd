import RevitOperator.ControlPlane.AttemptSteps

open checked checked_run

namespace revit_operator.assignment_control_plane

open AssignmentControlPlaneProjection

/-- The order in which the effect of an attempt may change. -/
structure EffectKept (before after : AssignmentAttemptRecord) : Prop where
  rank : effectAuthorityRank before.effect.authority ≤ effectAuthorityRank after.effect.authority
  applied : before.effect.state = .applied → after.effect.state = .applied
  unknown : before.effect.state = .unknown → after.effect.state ≠ .unknown →
    4 ≤ effectAuthorityRank after.effect.authority

/-- An applied effect was requested, and an authority that can prove it did. -/
def AppliedProved (projection : AssignmentControlPlaneProjection) : Prop :=
  ∀ attempt ∈ projection.attempts, attempt.effect.state = .applied →
    attempt.requested_effect = .apply ∧ provesApplied attempt.effect.authority

/-- The attempt resolves the reconciliation of another one. -/
def ResolvesAnother (projection : AssignmentControlPlaneProjection) (event : AssignmentAttemptEvent)
    (attempt : AssignmentAttemptRecord) : Prop :=
  event.kind = .reconciliation_resolved ∧ projection.attemptFor event = some attempt
    ∧ attempt.reconciliation_of_attempt_id ≠ some attempt.attempt_id

/-- The truth about the effects from one accepted event to the next. -/
structure EffectTruth (before : AssignmentControlPlaneProjection) (event : AssignmentAttemptEvent)
    (after : AssignmentControlPlaneProjection) : Prop where
  unique : UniqueIds after
  kept : ∀ attempt ∈ before.attempts, ∃ now ∈ after.attempts,
    now.attempt_id = attempt.attempt_id ∧ EffectKept attempt now
  proved : AppliedProved after
  reconciling : ∀ attempt, ResolvesAnother before event attempt → attempt.effect.state ≠ .none →
    ∃ now ∈ after.attempts, now.attempt_id = attempt.attempt_id ∧ now.effect.state = attempt.effect.state

/-- The attempt that resolves the reconciliation of another one has no effect of
    its own to lose. -/
def NothingToErase (projection : AssignmentControlPlaneProjection) (event : AssignmentAttemptEvent) : Prop :=
  ∀ attempt, ResolvesAnother projection event attempt →
    attempt.effect.state = .none ∧ attempt.effect.authority ≠ .independent_verifier

theorem EffectKept.refl (attempt : AssignmentAttemptRecord) : EffectKept attempt attempt :=
  ⟨le_rfl, id, fun hunknown hresolved => absurd hunknown hresolved⟩

theorem effectAuthorityRank_le_five {source : AssignmentEffectAuthority} :
    effectAuthorityRank source ≤ 5 ↔ source ≠ .independent_verifier := by
  cases source <;> simp [effectAuthorityRank]

section steps

variable {host : ControlPlaneHost} {projection next : AssignmentControlPlaneProjection} {event : AssignmentAttemptEvent}
  {before after : AssignmentAttemptRecord}

theorem EffectStep.kept_of_nothingToErase (hunique : UniqueIds projection)
    (hnothing : NothingToErase projection event) (h : EffectStep projection event before after) :
    EffectKept before after := by
  cases h with
  | kept heffect =>
    refine ⟨by rw [heffect], fun happlied => by rw [heffect, happlied], fun hunknown hresolved => ?_⟩
    rw [heffect] at hresolved
    exact absurd hunknown hresolved
  | recorded data state source haccepted hstate hsource =>
    refine ⟨hsource ▸ haccepted.rank, fun happlied => hstate.trans (haccepted.applied happlied), ?_⟩
    rw [hstate, hsource]
    exact haccepted.resolves
  | overwritten original hkind hnamed horiginal _ hunknown hrank hstate hsource =>
    rw [reconciledAttempt] at horiginal
    obtain ⟨id, hid, hfind⟩ := Option.bind_eq_some_iff.1 horiginal
    obtain ⟨hmem, rfl⟩ := find_eq_some_imp hfind
    by_cases hself : original.attempt_id = before.attempt_id
    · -- An attempt that reconciles itself was unknown, at a rank that may be overruled.
      obtain rfl := eq_of_attempt_id hunique hmem (attemptFor_eq_some_imp hnamed).1 hself
      refine ⟨hsource ▸ hrank, fun happlied => ?_, fun _ _ => ?_⟩
      · rw [hunknown] at happlied
        cases happlied
      · rw [hsource]
        decide
    · obtain ⟨hnone, hauthority⟩ := hnothing before ⟨hkind, hnamed, by simpa [hid] using hself⟩
      refine ⟨?_, fun happlied => ?_, fun hbefore => ?_⟩
      · rw [hsource]
        exact effectAuthorityRank_le_five.2 hauthority
      · rw [hnone] at happlied
        cases happlied
      · rw [hnone] at hbefore
        cases hbefore

theorem EffectStep.proved (h : EffectStep projection event before after)
    (hsubject : after.requested_effect = before.requested_effect)
    (hproved : before.effect.state = .applied → before.requested_effect = .apply ∧ provesApplied before.effect.authority)
    (happlied : after.effect.state = .applied) :
    after.requested_effect = .apply ∧ provesApplied after.effect.authority := by
  cases h with
  | kept heffect =>
    rw [heffect] at happlied ⊢
    rw [hsubject]
    exact hproved happlied
  | recorded data state source haccepted hstate hsource =>
    rw [hstate] at happlied
    rw [hsubject, hsource]
    refine ⟨?_, haccepted.proved happlied⟩
    by_contra hother
    exact haccepted.allowed hother happlied
  | overwritten _ _ _ _ _ _ _ hnone =>
    rw [hnone] at happlied
    cases happlied

theorem AppliedProved.of_accept (hunique : UniqueIds projection) (hproved : AppliedProved projection)
    (h : accept host projection event = .ok next) : AppliedProved next := by
  intro now hnow happlied
  obtain ⟨opened, hattempts, hopened⟩ | ⟨step, hattempts, hstep⟩ := applyAcceptedEvent_attempts hunique (accept_eq_ok.1 h).2
  · rw [hattempts, List.mem_append, List.mem_singleton] at hnow
    obtain hbefore | rfl := hnow
    · exact hproved now hbefore happlied
    · rw [hopened.state] at happlied
      cases happlied
  · rw [hattempts, List.mem_map] at hnow
    obtain ⟨attempt, hmem, rfl⟩ := hnow
    have hattempt := hstep attempt hmem
    exact hattempt.effect.proved hattempt.subject.requested_effect (hproved attempt hmem) happlied

/-- An accepted event keeps the truth about the effects exactly when it erases
    none. -/
theorem effectTruth_iff_nothingToErase (hunique : UniqueIds projection) (hproved : AppliedProved projection)
    (h : accept host projection event = .ok next) :
    EffectTruth projection event next ↔ NothingToErase projection event := by
  have huniqueNext : UniqueIds next := hunique.of_accept h
  constructor
  · intro htruth attempt hresolves
    have ⟨hkind, hnamed, _⟩ := hresolves
    have hmem := (attemptFor_eq_some_imp hnamed).1
    have hevent := (accept_eq_ok.1 h).2
    simp only [applyAcceptedEvent, hkind, hnamed, applyAttemptEvent] at hevent
    obtain ⟨erased, herased, hid, hstate, hsource⟩ := reconciliation_resolved_erases hmem hunique hevent
    constructor
    · by_contra heffect
      obtain ⟨now, hnow, hnowId, hkept⟩ := htruth.reconciling attempt hresolves heffect
      obtain rfl := eq_of_attempt_id huniqueNext hnow herased (hnowId.trans hid.symm)
      exact heffect (hkept.symm.trans hstate)
    · obtain ⟨now, hnow, hnowId, hkept⟩ := htruth.kept attempt hmem
      obtain rfl := eq_of_attempt_id huniqueNext hnow herased (hnowId.trans hid.symm)
      have hrank := hkept.rank
      rw [hsource] at hrank
      exact effectAuthorityRank_le_five.1 hrank
  · intro hnothing
    refine ⟨huniqueNext, fun attempt hmem => ?_, hproved.of_accept hunique h, ?_⟩
    · obtain ⟨opened, hattempts, _⟩ | ⟨step, hattempts, hstep⟩ :=
        applyAcceptedEvent_attempts hunique (accept_eq_ok.1 h).2
      · rw [hattempts]
        exact ⟨attempt, List.mem_append_left _ hmem, rfl, .refl attempt⟩
      · rw [hattempts]
        have hattempt := hstep attempt hmem
        exact ⟨step attempt, List.mem_map_of_mem hmem, hattempt.subject.attempt_id,
          hattempt.effect.kept_of_nothingToErase hunique hnothing⟩
    · intro attempt hresolves heffect
      exact absurd (hnothing attempt hresolves).1 heffect

end steps

/-- From one accepted event to the next the effects obey the order of the
    authorities, in every run, exactly when no accepted event resolves a
    reconciliation by an attempt with an effect of its own. -/
theorem effect_truth_monotone_iff (host : ControlPlaneHost) (assignment_id : String)
    (events : List AssignmentAttemptEvent) :
    AlongSteps (reduceEvent host) (.initial assignment_id) events (fun before event after =>
        Accepted host before event → EffectTruth before.projection event after.projection)
      ↔ AlongSteps (reduceEvent host) (.initial assignment_id) events (fun before event _ =>
        Accepted host before event → NothingToErase before.projection event) := by
  refine alongSteps_congr (I := fun result => UniqueIds result.projection ∧ AppliedProved result.projection) ?_ ?_ ?_
  · intro result event after hinv hstep
    exact reduceEvent_preserves (I := fun projection => UniqueIds projection ∧ AppliedProved projection)
      (fun _ _ _ hinv hnext => ⟨hinv.1.of_accept hnext, hinv.2.of_accept hinv.1 hnext⟩) hinv hstep
  · intro result event after hinv hstep
    obtain ⟨_, hnext⟩ | ⟨hrefused, _⟩ := reduceEvent_ok hstep
    · rw [effectTruth_iff_nothingToErase hinv.1 hinv.2 hnext]
    · exact ⟨fun _ haccepted => absurd haccepted hrefused, fun _ haccepted => absurd haccepted hrefused⟩
  · exact ⟨uniqueIds_initial assignment_id, fun attempt hmem => absurd hmem List.not_mem_nil⟩

/-- A reconciling attempt with an applied effect. -/
def reconcilingApply : List AssignmentAttemptEvent := [
  sampleEvent "1" none .run_started [],
  sampleEvent "2" (some "original") .attempt_opened
    [("requested_effect", "apply"), ("action_signature", "move"), ("target_fingerprint", "wall")],
  sampleEvent "3" (some "original") .dispatch_recorded [("dispatch_state", "dispatched")],
  sampleEvent "4" (some "reconciling") .attempt_opened
    [("requested_effect", "apply"), ("purpose", "reconciliation"), ("action_signature", "inspect"),
      ("target_fingerprint", "wall"), ("reconciliation_of_attempt_id", "original")],
  sampleEvent "5" (some "reconciling") .effect_recorded
    [("effect_state", "applied"), ("effect_authority", "native_transaction")]]

def resolvedNone : AssignmentAttemptEvent :=
  sampleEvent "6" (some "reconciling") .reconciliation_resolved [("effect_state", "none")]

/-- The proven apply of the reconciling attempt is gone once it resolves the
    other one. -/
theorem applied_effect_erased :
    ¬ AlongSteps (reduceEvent epochHost) (.initial "assignment") (reconcilingApply ++ [resolvedNone])
      (fun before event after => Accepted epochHost before event →
        EffectTruth before.projection event after.projection) := by
  intro h
  have hrun : ((feed (reduceEvent epochHost) (.initial "assignment") reconcilingApply).toOption.any fun before =>
      decide (resolvedNone.event_id ∉ before.seen) && (accept epochHost before.projection resolvedNone).isOk
        && before.projection.attempts.any (fun attempt => decide (attempt.effect.state = .applied))
        && (reduceEvent epochHost before resolvedNone).toOption.any fun after =>
          after.projection.attempts.all fun attempt => decide (attempt.effect.state = .none)) = true := by
    decide +kernel
  simp only [Option.any_eq_true, toOption_eq_some, Bool.and_eq_true, decide_eq_true_eq, List.any_eq_true,
    List.all_eq_true] at hrun
  obtain ⟨before, hbefore, ⟨⟨hnew, hok⟩, attempt, hmem, happlied⟩, after, hafter, hnone⟩ := hrun
  have htruth := h reconcilingApply resolvedNone (List.prefix_refl _) before after hbefore hafter
    ⟨hnew, exists_of_isOk hok⟩
  obtain ⟨now, hnow, _, hkept⟩ := htruth.kept attempt hmem
  have hstate := hkept.applied happlied
  rw [hnone now hnow] at hstate
  cases hstate

end revit_operator.assignment_control_plane
