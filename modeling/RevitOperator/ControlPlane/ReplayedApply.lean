import RevitOperator.ControlPlane.AttemptSteps

open checked checked_run

namespace revit_operator.assignment_control_plane

open AssignmentControlPlaneProjection

/-- An apply of one action on one target. -/
def AssignmentAttemptRecord.isApplyOf (attempt : AssignmentAttemptRecord) (signature target : String) : Bool :=
  attempt.requested_effect = .apply && attempt.action_signature = signature && attempt.target_fingerprint = target

/-- The applies of one action on one target that took place, or may have. -/
def AssignmentControlPlaneProjection.effective (projection : AssignmentControlPlaneProjection)
    (signature target : String) : List AssignmentAttemptRecord :=
  projection.attempts.filter fun attempt => attempt.isApplyOf signature target && attempt.effect.state ≠ .none

/-- No apply was replayed. -/
def NoReplayedApply (projection : AssignmentControlPlaneProjection) : Prop :=
  ∀ signature target, (projection.effective signature target).length ≤ 1

/-- When the event reports the effect of an apply, all other applies of the
    action on the target are known to have had none. -/
def ReportsFirst (projection : AssignmentControlPlaneProjection) (event : AssignmentAttemptEvent) : Prop :=
  ∀ attempt, projection.attemptFor event = some attempt → event.reportsEffect attempt →
    attempt.requested_effect = .apply → attempt.effect.state = .none →
      projection.effective attempt.action_signature attempt.target_fingerprint = []

theorem length_le_one_of_nodup {α : Type} {entries : List α} (hnodup : entries.Nodup) :
    entries.length ≤ 1 ↔ ∀ first ∈ entries, ∀ second ∈ entries, first = second := by
  match entries with
  | [] => simp
  | [entry] => simp
  | first :: second :: rest =>
    have hne : first ≠ second := fun hsame => (List.nodup_cons.1 hnodup).1 (hsame ▸ List.mem_cons_self)
    constructor
    · intro hlength
      simp at hlength
    · intro hall
      exact absurd (hall first List.mem_cons_self second (List.mem_cons_of_mem _ List.mem_cons_self)) hne

section steps

variable {host : ControlPlaneHost} {projection next : AssignmentControlPlaneProjection} {event : AssignmentAttemptEvent}
  {attempt before after : AssignmentAttemptRecord} {signature target : String}

theorem UniqueIds.nodup (hunique : UniqueIds projection) : projection.attempts.Nodup :=
  List.Nodup.of_map _ hunique

theorem mem_effective : attempt ∈ projection.effective signature target ↔
    attempt ∈ projection.attempts ∧ attempt.isApplyOf signature target ∧ attempt.effect.state ≠ .none := by
  simp [effective]

theorem effective_le_one_iff (hunique : UniqueIds projection) :
    (projection.effective signature target).length ≤ 1 ↔
      ∀ first ∈ projection.effective signature target, ∀ second ∈ projection.effective signature target, first = second :=
  length_le_one_of_nodup (hunique.nodup.filter _)

theorem SameSubject.isApplyOf (h : SameSubject before after) :
    after.isApplyOf signature target = before.isApplyOf signature target := by
  rw [AssignmentAttemptRecord.isApplyOf, h.requested_effect, h.action_signature, h.target_fingerprint,
    AssignmentAttemptRecord.isApplyOf]

theorem EffectStep.reports (h : EffectStep projection event before after) (hbefore : before.effect.state = .none)
    (hafter : after.effect.state ≠ .none) : projection.attemptFor event = some before ∧ event.reportsEffect before := by
  cases h with
  | kept heffect =>
    rw [heffect] at hafter
    exact absurd hbefore hafter
  | recorded _ _ _ _ hstate _ hreports => exact hreports hbefore (hstate ▸ hafter)
  | overwritten _ _ _ _ _ _ _ hstate => exact absurd hstate hafter

theorem effect_recorded_reports {data : Json} (hreports : (effectState (data.field "effect_state")).any (· ≠ .none))
    (h : effect_recorded projection attempt data = .ok next) :
    ∃ updated, next.attempts = (projection.put updated).attempts ∧ SameSubject attempt updated
      ∧ updated.effect.state ≠ .none := by
  obtain ⟨updated, hupdated, h⟩ := bind_eq_ok.1 h
  obtain rfl := Except.ok.inj h
  rw [applied_eq_ok] at hupdated
  obtain ⟨state, source, _, _, _, _, _, _, hstate, _, hfinal⟩ := applyEffect_ok hupdated
  obtain ⟨hsubject, heffect, _, _⟩ := settledBy_step updated data
  refine ⟨_, rfl, (applyEffect_subject hupdated).1.trans hsubject, ?_⟩
  rw [heffect, hfinal]
  rintro rfl
  obtain ⟨given, hgiven, heffective⟩ := Option.map_eq_some_iff.1 hstate
  have hgivenState : effectState (data.field "effect_state") = some given := hgiven
  rw [effectiveState] at heffective
  split at heffective
  · cases heffective
  · simp [hgivenState, heffective] at hreports

theorem dispatch_recorded_reports {data : Json}
    (hreports : (dispatchState (data.field "dispatch_state")).any fun state =>
      (dispatchEffect attempt data state).any fun effect => effect.effect_state = some .unknown)
    (h : dispatch_recorded projection attempt data = .ok next) :
    ∃ updated, next.attempts = (projection.put updated).attempts ∧ SameSubject attempt updated
      ∧ updated.effect.state ≠ .none := by
  rw [dispatch_recorded] at h
  split at h
  · cases h
  · next state hstate =>
    obtain ⟨_, h⟩ := check_bind_eq_ok.1 h
    obtain ⟨_, h⟩ := check_bind_eq_ok.1 h
    obtain ⟨_, h⟩ := check_bind_eq_ok.1 h
    split at h
    · next hnone => simp [hstate, hnone] at hreports
    · next effect heffect =>
      have hunknown : effect.effect_state = some .unknown := by simpa [hstate, heffect] using hreports
      obtain ⟨updated, hupdated, h⟩ := bind_eq_ok.1 h
      obtain rfl := Except.ok.inj h
      rw [applied_eq_ok] at hupdated
      obtain ⟨reached, source, _, _, _, _, _, _, hreached, _, hfinal⟩ := applyEffect_ok hupdated
      obtain ⟨hsubject, hsame, _, _⟩ := dispatchedAs_step updated data state
      refine ⟨_, rfl, (applyEffect_subject hupdated).1.trans hsubject, ?_⟩
      rw [hsame, hfinal]
      rw [hunknown, Option.map_some, effectiveState, if_neg (by simp)] at hreached
      rw [← Option.some.inj hreached]
      simp

/-- An accepted report changes its attempt alone, and leaves it with an
    effect. -/
theorem reportsEffect_accepted (hnamed : projection.attemptFor event = some attempt) (hreports : event.reportsEffect attempt)
    (h : accept host projection event = .ok next) :
    ∃ updated, next.attempts = (projection.put updated).attempts ∧ SameSubject attempt updated
      ∧ updated.effect.state ≠ .none := by
  have hevent := (accept_eq_ok.1 h).2
  rw [AssignmentAttemptEvent.reportsEffect] at hreports
  split at hreports
  · next hkind =>
    simp only [applyAcceptedEvent, hkind, hnamed, applyAttemptEvent] at hevent
    exact effect_recorded_reports hreports hevent
  · next hkind =>
    simp only [applyAcceptedEvent, hkind, hnamed, applyAttemptEvent] at hevent
    exact dispatch_recorded_reports hreports hevent
  · cases hreports

/-- Both of two applies of one action on one target took effect, and one of them
    only now: then the event reported it before the other was known to have had
    no effect. -/
theorem eq_of_reportsFirst (hunique : UniqueIds projection) (hbefore : NoReplayedApply projection)
    (hfirst : ReportsFirst projection event) {one other : AssignmentAttemptRecord} (hone : one ∈ projection.attempts)
    (hother : other ∈ projection.attempts) (hsameOne : one.isApplyOf signature target)
    (hsameOther : other.isApplyOf signature target)
    (hnewOne : one.effect.state = .none → projection.attemptFor event = some one ∧ event.reportsEffect one)
    (hnewOther : other.effect.state = .none → projection.attemptFor event = some other ∧ event.reportsEffect other) :
    one = other := by
  have hkey : ∀ {attempt : AssignmentAttemptRecord}, attempt.isApplyOf signature target →
      projection.attemptFor event = some attempt ∧ event.reportsEffect attempt → attempt.effect.state = .none →
      projection.effective signature target = [] := by
    intro attempt hsame hnamed hnone
    simp only [AssignmentAttemptRecord.isApplyOf, Bool.and_eq_true, decide_eq_true_eq] at hsame
    obtain ⟨⟨happly, rfl⟩, rfl⟩ := hsame
    exact hfirst attempt hnamed.1 hnamed.2 happly hnone
  by_cases hnoneOne : one.effect.state = .none
  · have hnone := hkey hsameOne (hnewOne hnoneOne) hnoneOne
    by_cases hnoneOther : other.effect.state = .none
    · exact Option.some.inj ((hnewOne hnoneOne).1.symm.trans (hnewOther hnoneOther).1)
    · have hmem : other ∈ projection.effective signature target := mem_effective.2 ⟨hother, hsameOther, hnoneOther⟩
      rw [hnone] at hmem
      cases hmem
  · have hmem : one ∈ projection.effective signature target := mem_effective.2 ⟨hone, hsameOne, hnoneOne⟩
    by_cases hnoneOther : other.effect.state = .none
    · rw [hkey hsameOther (hnewOther hnoneOther) hnoneOther] at hmem
      cases hmem
    · exact (effective_le_one_iff hunique).1 (hbefore signature target) one hmem other
        (mem_effective.2 ⟨hother, hsameOther, hnoneOther⟩)

theorem NoReplayedApply.of_reportsFirst (hunique : UniqueIds projection) (hbefore : NoReplayedApply projection)
    (hfirst : ReportsFirst projection event) (h : accept host projection event = .ok next) : NoReplayedApply next := by
  intro signature target
  rw [effective_le_one_iff (hunique.of_accept h)]
  intro one hone other hother
  rw [mem_effective] at hone hother
  obtain ⟨hone, hsameOne, heffectOne⟩ := hone
  obtain ⟨hother, hsameOther, heffectOther⟩ := hother
  obtain ⟨opened, hattempts, hopened⟩ | ⟨step, hattempts, hstep⟩ := applyAcceptedEvent_attempts hunique (accept_eq_ok.1 h).2
  · have hold : ∀ attempt ∈ next.attempts, attempt.effect.state ≠ .none → attempt ∈ projection.attempts := by
      intro attempt hmem heffect
      rw [hattempts, List.mem_append, List.mem_singleton] at hmem
      refine hmem.resolve_right fun hnew => heffect ?_
      rw [hnew, hopened.state]
    exact (effective_le_one_iff hunique).1 (hbefore signature target)
      one (mem_effective.2 ⟨hold one hone heffectOne, hsameOne, heffectOne⟩)
      other (mem_effective.2 ⟨hold other hother heffectOther, hsameOther, heffectOther⟩)
  · rw [hattempts] at hone hother
    obtain ⟨first, hfirstMem, rfl⟩ := List.mem_map.1 hone
    obtain ⟨second, hsecondMem, rfl⟩ := List.mem_map.1 hother
    rw [(hstep first hfirstMem).subject.isApplyOf] at hsameOne
    rw [(hstep second hsecondMem).subject.isApplyOf] at hsameOther
    rw [eq_of_reportsFirst hunique hbefore hfirst hfirstMem hsecondMem hsameOne hsameOther
      (fun hnone => (hstep first hfirstMem).effect.reports hnone heffectOne)
      (fun hnone => (hstep second hsecondMem).effect.reports hnone heffectOther)]

theorem ReportsFirst.of_noReplayedApply (hunique : UniqueIds projection) (h : accept host projection event = .ok next)
    (hafter : NoReplayedApply next) : ReportsFirst projection event := by
  intro attempt hnamed hreports happly hnone
  obtain ⟨updated, hattempts, hsubject, heffect⟩ := reportsEffect_accepted hnamed hreports h
  have hmem := (attemptFor_eq_some_imp hnamed).1
  rw [List.eq_nil_iff_forall_not_mem]
  intro other hother
  obtain ⟨hotherMem, hsame, hotherEffect⟩ := mem_effective.1 hother
  have hne : other.attempt_id ≠ attempt.attempt_id := by
    intro hid
    rw [eq_of_attempt_id hunique hotherMem hmem hid] at hotherEffect
    exact hotherEffect hnone
  have hupdatedMem : updated ∈ next.attempts := by
    rw [hattempts]
    refine List.mem_map.2 ⟨attempt, hmem, ?_⟩
    rw [if_pos hsubject.attempt_id.symm]
  have hotherNext : other ∈ next.attempts := by
    rw [hattempts]
    refine List.mem_map.2 ⟨other, hotherMem, ?_⟩
    rw [if_neg (hsubject.attempt_id ▸ hne)]
  have hupdatedSame : updated.isApplyOf attempt.action_signature attempt.target_fingerprint := by
    rw [hsubject.isApplyOf]
    simp [AssignmentAttemptRecord.isApplyOf, happly]
  have heq := (effective_le_one_iff (hunique.of_accept h)).1 (hafter _ _) other
    (mem_effective.2 ⟨hotherNext, hsame, hotherEffect⟩) updated (mem_effective.2 ⟨hupdatedMem, hupdatedSame, heffect⟩)
  exact hne (heq ▸ hsubject.attempt_id)

end steps

/-- In every projection of a run at most one apply of an action on a target took
    place or may have, exactly when every accepted event that reports the effect
    of an apply finds all others of its action and target without one. -/
theorem no_replayed_apply_iff (host : ControlPlaneHost) (assignment_id : String) (events : List AssignmentAttemptEvent) :
    AlongRun (reduceEvent host) (.initial assignment_id) events (fun result => NoReplayedApply result.projection)
      ↔ AlongSteps (reduceEvent host) (.initial assignment_id) events (fun before event _ =>
        Accepted host before event → ReportsFirst before.projection event) := by
  refine alongRun_iff_alongSteps (I := fun result => UniqueIds result.projection) ?_ ?_ ?_ ?_
  · exact fun result event after hunique hstep => hunique.of_reduceEvent hstep
  · intro result event after hunique hbefore hstep
    obtain ⟨hnew, hnext⟩ | ⟨hrefused, hsame⟩ := reduceEvent_ok hstep
    · exact ⟨fun hafter _ => .of_noReplayedApply hunique hnext hafter,
        fun hfirst => hbefore.of_reportsFirst hunique (hfirst ⟨hnew, _, hnext⟩) hnext⟩
    · rw [hsame]
      exact ⟨fun _ haccepted => absurd haccepted hrefused, fun _ => hbefore⟩
  · exact uniqueIds_initial assignment_id
  · intro signature target
    exact Nat.zero_le 1

/-- An apply that was admitted, and its retry, opened before the first one was
    settled. -/
def retriedApply : List AssignmentAttemptEvent := [
  sampleEvent "1" none .run_started [],
  sampleEvent "2" (some "first") .attempt_opened
    [("requested_effect", "apply"), ("action_signature", "move"), ("target_fingerprint", "wall")],
  sampleEvent "3" (some "first") .admission_recorded [("admission_state", "admitted")],
  sampleEvent "4" (some "second") .attempt_opened
    [("requested_effect", "apply"), ("action_signature", "move"), ("target_fingerprint", "wall"),
      ("retry_of_attempt_id", "first"), ("retry_delta", "changed_plan")],
  sampleEvent "5" (some "first") .dispatch_recorded [("dispatch_state", "dispatched")],
  sampleEvent "6" (some "second") .dispatch_recorded [("dispatch_state", "dispatched")]]

/-- Both attempts are dispatched. -/
theorem retried_apply_replayed :
    ¬ AlongRun (reduceEvent epochHost) (.initial "assignment") retriedApply
      (fun result => NoReplayedApply result.projection) := by
  intro h
  have hrun : ((feed (reduceEvent epochHost) (.initial "assignment") retriedApply).toOption.any fun result =>
      decide ((result.projection.effective "move" "wall").length = 2)) = true := by
    decide +kernel
  simp only [Option.any_eq_true, toOption_eq_some, decide_eq_true_eq] at hrun
  obtain ⟨result, hresult, htwo⟩ := hrun
  have hone := h retriedApply (List.prefix_refl _) result hresult "move" "wall"
  omega

end revit_operator.assignment_control_plane
