import RevitOperator.ControlPlane.Reducer

open checked

namespace revit_operator.assignment_control_plane

/-- What an attempt was opened for; no event changes it. -/
structure SameSubject (before after : AssignmentAttemptRecord) : Prop where
  attempt_id : after.attempt_id = before.attempt_id
  generation : after.generation = before.generation
  purpose : after.purpose = before.purpose
  requested_effect : after.requested_effect = before.requested_effect
  action_signature : after.action_signature = before.action_signature
  target_fingerprint : after.target_fingerprint = before.target_fingerprint
  reconciliation_of : after.reconciliation_of_attempt_id = before.reconciliation_of_attempt_id

theorem SameSubject.refl (attempt : AssignmentAttemptRecord) : SameSubject attempt attempt :=
  ⟨rfl, rfl, rfl, rfl, rfl, rfl, rfl⟩

theorem SameSubject.trans {first second third : AssignmentAttemptRecord} (hfirst : SameSubject first second)
    (hsecond : SameSubject second third) : SameSubject first third :=
  ⟨hsecond.attempt_id.trans hfirst.attempt_id, hsecond.generation.trans hfirst.generation,
    hsecond.purpose.trans hfirst.purpose, hsecond.requested_effect.trans hfirst.requested_effect,
    hsecond.action_signature.trans hfirst.action_signature,
    hsecond.target_fingerprint.trans hfirst.target_fingerprint,
    hsecond.reconciliation_of.trans hfirst.reconciliation_of⟩

/-- An event that reports that the effect of its attempt took place, or may have
    taken place. -/
def AssignmentAttemptEvent.reportsEffect (event : AssignmentAttemptEvent) (attempt : AssignmentAttemptRecord) : Bool :=
  let data := event.data.row
  match event.kind with
  | .effect_recorded => (effectState (data.field "effect_state")).any (· ≠ .none)
  | .dispatch_recorded => (dispatchState (data.field "dispatch_state")).any fun state =>
      (dispatchEffect attempt data state).any fun effect => effect.effect_state = some .unknown
  | _ => false

/-- What an accepted event can do to the effect of an attempt: leave it, record
    an effect under the order of the authorities, or overwrite it with that of
    an attempt which reconciled another. -/
inductive EffectStep (projection : AssignmentControlPlaneProjection) (event : AssignmentAttemptEvent)
    (before after : AssignmentAttemptRecord) : Prop where
  | kept (heffect : after.effect = before.effect)
  | recorded (data : EffectData) (state : AssignmentEffectState) (source : AssignmentEffectAuthority)
      (haccepted : EffectAccepted before data state source)
      (hstate : after.effect.state = state) (hsource : after.effect.authority = source)
      (hreports : before.effect.state = .none → state ≠ .none →
        projection.attemptFor event = some before ∧ event.reportsEffect before)
  | overwritten (original : AssignmentAttemptRecord)
      (hkind : event.kind = .reconciliation_resolved) (hnamed : projection.attemptFor event = some before)
      (horiginal : reconciledAttempt projection before = some original)
      (hpurpose : before.purpose = .reconciliation)
      (hunknown : original.effect.state = .unknown)
      (hrank : effectAuthorityRank original.effect.authority ≤ 5)
      (hstate : after.effect.state = .none) (hsource : after.effect.authority = .target_readback)

/-- What an accepted event can do to an attempt. -/
structure AttemptStep (projection : AssignmentControlPlaneProjection) (event : AssignmentAttemptEvent)
    (before after : AssignmentAttemptRecord) : Prop where
  subject : SameSubject before after
  effect : EffectStep projection event before after
  verification : after.verification = before.verification ∨
    event.kind = .verification_recorded ∧ projection.attemptFor event = some before
  active : after.terminal_state = .active → before.terminal_state = .active

theorem AttemptStep.refl {projection : AssignmentControlPlaneProjection} {event : AssignmentAttemptEvent}
    (attempt : AssignmentAttemptRecord) : AttemptStep projection event attempt attempt :=
  ⟨.refl attempt, .kept rfl, .inl rfl, id⟩

/-- Every attempt of the projection takes a step, and none is added. -/
def AttemptsStep (projection : AssignmentControlPlaneProjection) (event : AssignmentAttemptEvent)
    (attempts : List AssignmentAttemptRecord) : Prop :=
  ∃ step : AssignmentAttemptRecord → AssignmentAttemptRecord,
    attempts = projection.attempts.map step ∧
      ∀ attempt ∈ projection.attempts, AttemptStep projection event attempt (step attempt)

/-- An attempt as it is opened. -/
structure Opened (projection : AssignmentControlPlaneProjection) (event : AssignmentAttemptEvent)
    (opened : AssignmentAttemptRecord) : Prop where
  kind : event.kind = .attempt_opened
  attempt_id : event.attempt_id = some opened.attempt_id
  fresh : projection.find opened.attempt_id = none
  named : opened.attempt_id ≠ ""
  reconciliation_of : opened.reconciliation_of_attempt_id ≠ some ""
  state : opened.effect.state = .none
  verification : opened.verification ≠ .passed

/-- No two attempts have the same identity. -/
def UniqueIds (projection : AssignmentControlPlaneProjection) : Prop :=
  (projection.attempts.map AssignmentAttemptRecord.attempt_id).Nodup

namespace AssignmentControlPlaneProjection

variable {projection : AssignmentControlPlaneProjection}

theorem find_eq_none {id : String} : projection.find id = none ↔ ∀ attempt ∈ projection.attempts, attempt.attempt_id ≠ id := by
  simp [find, List.find?_eq_none]

theorem find_eq_some_imp {id : String} {attempt : AssignmentAttemptRecord} (h : projection.find id = some attempt) :
    attempt ∈ projection.attempts ∧ attempt.attempt_id = id := by
  refine ⟨List.mem_of_find?_eq_some h, ?_⟩
  simpa using List.find?_some h

theorem eq_of_attempt_id (hunique : UniqueIds projection) {first second : AssignmentAttemptRecord}
    (hfirst : first ∈ projection.attempts) (hsecond : second ∈ projection.attempts)
    (hid : first.attempt_id = second.attempt_id) : first = second :=
  List.inj_on_of_nodup_map hunique hfirst hsecond hid

theorem find_of_mem (hunique : UniqueIds projection) {attempt : AssignmentAttemptRecord}
    (hmem : attempt ∈ projection.attempts) : projection.find attempt.attempt_id = some attempt := by
  cases hfind : projection.find attempt.attempt_id with
  | none => exact absurd rfl (find_eq_none.1 hfind attempt hmem)
  | some found =>
    obtain ⟨hfound, hid⟩ := find_eq_some_imp hfind
    rw [eq_of_attempt_id hunique hfound hmem hid]

theorem attemptFor_eq_some_imp {event : AssignmentAttemptEvent} {attempt : AssignmentAttemptRecord}
    (h : projection.attemptFor event = some attempt) :
    attempt ∈ projection.attempts ∧ event.attempt_id = some attempt.attempt_id := by
  rw [attemptFor, Option.bind_eq_some_iff] at h
  obtain ⟨id, hid, hfind⟩ := h
  obtain ⟨hmem, rfl⟩ := find_eq_some_imp hfind
  exact ⟨hmem, Option.eq_some_of_filter_eq_some hid⟩

end AssignmentControlPlaneProjection

open AssignmentControlPlaneProjection

section steps

variable {projection : AssignmentControlPlaneProjection} {event : AssignmentAttemptEvent}

theorem AttemptsStep.same : AttemptsStep projection event projection.attempts :=
  ⟨id, (List.map_id _).symm, fun attempt _ => .refl attempt⟩

theorem AttemptsStep.put (hunique : UniqueIds projection) {attempt updated : AssignmentAttemptRecord}
    (hmem : attempt ∈ projection.attempts) (hstep : AttemptStep projection event attempt updated) :
    AttemptsStep projection event (projection.put updated).attempts := by
  refine ⟨_, rfl, fun other hother => ?_⟩
  split
  · next hid =>
    rw [hstep.subject.attempt_id] at hid
    rw [eq_of_attempt_id hunique hother hmem hid]
    exact hstep
  · exact .refl other

theorem AttemptsStep.supersedeActive : AttemptsStep projection event projection.supersedeActive.attempts := by
  refine ⟨_, rfl, fun attempt _ => ?_⟩
  split
  · exact ⟨⟨rfl, rfl, rfl, rfl, rfl, rfl, rfl⟩, .kept rfl, .inl rfl, fun hactive => by cases hactive⟩
  · exact .refl attempt

end steps

variable {given : EffectData} {original : AssignmentAttemptRecord}

section handlers

variable {projection next : AssignmentControlPlaneProjection} {event : AssignmentAttemptEvent}
  {attempt updated : AssignmentAttemptRecord} {data : Json}

@[simp]
theorem applied_eq_ok :
    applied attempt given = .ok updated ↔ applyEffect attempt given = .ok updated := by
  unfold applied
  split <;> simp_all [refuse]

/-- An attempt whose effect was accepted, up to its admission, dispatch, lease
    and terminal state. -/
theorem AttemptStep.of_applyEffect {final : AssignmentAttemptRecord}
    (happlied : applyEffect attempt given = .ok updated) (hsubject : SameSubject updated final)
    (heffect : final.effect = updated.effect) (hverification : final.verification = updated.verification)
    (hactive : final.terminal_state = .active → updated.terminal_state = .active)
    (hreports : attempt.effect.state = .none → given.effect_state ≠ some .none →
      projection.attemptFor event = some attempt ∧ event.reportsEffect attempt) :
    AttemptStep projection event attempt final := by
  obtain ⟨state, source, reason, id, targets, receipts, evidence, hsource, hstate, haccepted, rfl⟩ :=
    applyEffect_ok happlied
  refine ⟨⟨hsubject.attempt_id, hsubject.generation, hsubject.purpose, hsubject.requested_effect,
    hsubject.action_signature, hsubject.target_fingerprint, hsubject.reconciliation_of⟩, ?_, .inl hverification, hactive⟩
  refine .recorded given state source haccepted (by rw [heffect]) (by rw [heffect]) fun hnone hmoved => ?_
  refine hreports hnone fun hgiven => hmoved ?_
  rw [hgiven, Option.map_some, effectiveState, if_neg (by simp)] at hstate
  exact (Option.some.inj hstate).symm

theorem admission_recorded_attempts (hunique : UniqueIds projection) (hmem : attempt ∈ projection.attempts)
    (h : admission_recorded projection attempt data = .ok next) : AttemptsStep projection event next.attempts := by
  rw [admission_recorded] at h
  split at h
  · cases h
  · next state _ =>
    obtain ⟨_, h⟩ := check_bind_eq_ok.1 h
    split at h
    · obtain ⟨_, h⟩ := check_bind_eq_ok.1 h
      obtain rfl := Except.ok.inj h
      exact .same
    · split at h
      · obtain ⟨updated, hupdated, h⟩ := bind_eq_ok.1 h
        obtain rfl := Except.ok.inj h
        refine .put hunique hmem (.of_applyEffect (applied_eq_ok.1 hupdated) ⟨rfl, rfl, rfl, rfl, rfl, rfl, rfl⟩ rfl rfl
          (fun hactive => by cases hactive) ?_)
        exact fun _ hstate => absurd rfl hstate
      · obtain rfl := Except.ok.inj h
        exact .put hunique hmem ⟨⟨rfl, rfl, rfl, rfl, rfl, rfl, rfl⟩, .kept rfl, .inl rfl, id⟩

theorem dispatchedAs_step (attempt : AssignmentAttemptRecord) (data : Json) (state : DispatchState) :
    SameSubject attempt (dispatchedAs attempt data state)
    ∧ (dispatchedAs attempt data state).effect = attempt.effect
    ∧ (dispatchedAs attempt data state).verification = attempt.verification
    ∧ ((dispatchedAs attempt data state).terminal_state = .active → attempt.terminal_state = .active) := by
  rw [dispatchedAs]
  split
  · exact ⟨⟨rfl, rfl, rfl, rfl, rfl, rfl, rfl⟩, rfl, rfl, id⟩
  · split
    · exact ⟨⟨rfl, rfl, rfl, rfl, rfl, rfl, rfl⟩, rfl, rfl, fun hactive => by cases hactive⟩
    · exact ⟨⟨rfl, rfl, rfl, rfl, rfl, rfl, rfl⟩, rfl, rfl, id⟩

theorem dispatchEffect_state {state : DispatchState} {effect : EffectData}
    (h : dispatchEffect attempt data state = some effect) :
    effect.effect_state = some .unknown ∨ effect.effect_state = some .none := by
  rw [dispatchEffect] at h
  split at h
  · exact .inl (Option.some.inj h ▸ rfl)
  · split at h
    · exact .inl (Option.some.inj h ▸ rfl)
    · split at h
      · exact .inr (Option.some.inj h ▸ rfl)
      · cases h

theorem dispatch_recorded_attempts (hunique : UniqueIds projection) (hnamed : projection.attemptFor event = some attempt)
    (hkind : event.kind = .dispatch_recorded) (h : dispatch_recorded projection attempt event.data.row = .ok next) :
    AttemptsStep projection event next.attempts := by
  have hmem := (attemptFor_eq_some_imp hnamed).1
  rw [dispatch_recorded] at h
  split at h
  · cases h
  · next state hstate =>
    obtain ⟨_, h⟩ := check_bind_eq_ok.1 h
    obtain ⟨_, h⟩ := check_bind_eq_ok.1 h
    obtain ⟨_, h⟩ := check_bind_eq_ok.1 h
    split at h
    · obtain rfl := Except.ok.inj h
      obtain ⟨hsubject, heffect, hverification, hactive⟩ :=
        dispatchedAs_step attempt event.data.row state
      exact .put hunique hmem ⟨hsubject, .kept heffect, .inl hverification, hactive⟩
    · next effect heffect =>
      obtain ⟨updated, hupdated, h⟩ := bind_eq_ok.1 h
      obtain rfl := Except.ok.inj h
      obtain ⟨hsubject, hsame, hverification, hactive⟩ :=
        dispatchedAs_step updated event.data.row state
      refine .put hunique hmem (.of_applyEffect (applied_eq_ok.1 hupdated) hsubject hsame hverification hactive ?_)
      intro _ hmoves
      have hunknown := (dispatchEffect_state heffect).resolve_right hmoves
      refine ⟨hnamed, ?_⟩
      rw [AssignmentAttemptEvent.reportsEffect]
      simp [hkind, hstate, heffect, hunknown]

theorem lease_recorded_attempts (hunique : UniqueIds projection) (hmem : attempt ∈ projection.attempts)
    (h : lease_recorded projection attempt data = .ok next) : AttemptsStep projection event next.attempts := by
  rw [lease_recorded] at h
  split at h
  · cases h
  · obtain rfl := Except.ok.inj h
    refine .put hunique hmem ⟨⟨rfl, rfl, rfl, rfl, rfl, rfl, rfl⟩, .kept rfl, .inl rfl, fun hactive => ?_⟩
    dsimp only at hactive
    split at hactive
    · cases hactive
    · exact hactive

theorem settledBy_step (attempt : AssignmentAttemptRecord) (data : Json) : SameSubject attempt (settledBy attempt data)
    ∧ (settledBy attempt data).effect = attempt.effect
    ∧ (settledBy attempt data).verification = attempt.verification
    ∧ ((settledBy attempt data).terminal_state = .active → attempt.terminal_state = .active) := by
  rw [settledBy]
  split
  · split
    · exact ⟨⟨rfl, rfl, rfl, rfl, rfl, rfl, rfl⟩, rfl, rfl, fun hactive => by cases hactive⟩
    · exact ⟨⟨rfl, rfl, rfl, rfl, rfl, rfl, rfl⟩, rfl, rfl, fun hactive => by cases hactive⟩
  · split
    · exact ⟨⟨rfl, rfl, rfl, rfl, rfl, rfl, rfl⟩, rfl, rfl, id⟩
    · exact ⟨⟨rfl, rfl, rfl, rfl, rfl, rfl, rfl⟩, rfl, rfl, id⟩

theorem effect_recorded_attempts (hunique : UniqueIds projection) (hnamed : projection.attemptFor event = some attempt)
    (hkind : event.kind = .effect_recorded) (h : effect_recorded projection attempt event.data.row = .ok next) :
    AttemptsStep projection event next.attempts := by
  have hmem := (attemptFor_eq_some_imp hnamed).1
  obtain ⟨updated, hupdated, h⟩ := bind_eq_ok.1 h
  obtain rfl := Except.ok.inj h
  obtain ⟨hsubject, hsame, hverification, hactive⟩ := settledBy_step updated event.data.row
  refine .put hunique hmem (.of_applyEffect (applied_eq_ok.1 hupdated) hsubject hsame hverification hactive ?_)
  intro _ hmoves
  refine ⟨hnamed, ?_⟩
  obtain ⟨state, source, _, _, _, _, _, _, hstate, _⟩ := applyEffect_ok (applied_eq_ok.1 hupdated)
  rw [AssignmentAttemptEvent.reportsEffect]
  simp only [hkind]
  cases hgiven : effectState (event.data.row.field "effect_state") with
  | none => simp [EffectData.ofEvent, hgiven] at hstate
  | some given =>
    have hne : given ≠ .none := fun hnone => hmoves (by rw [EffectData.ofEvent, hgiven, hnone])
    simpa using hne

theorem verification_recorded_attempts (hunique : UniqueIds projection)
    (hnamed : projection.attemptFor event = some attempt) (hkind : event.kind = .verification_recorded)
    (h : verification_recorded projection attempt data = .ok next) : AttemptsStep projection event next.attempts := by
  have hmem := (attemptFor_eq_some_imp hnamed).1
  obtain ⟨_, h⟩ := check_bind_eq_ok.1 h
  split at h
  · cases h
  · obtain ⟨_, h⟩ := check_bind_eq_ok.1 h
    obtain ⟨_, h⟩ := check_bind_eq_ok.1 h
    split at h
    · cases h
    · next state _ =>
      obtain ⟨_, h⟩ := check_bind_eq_ok.1 h
      obtain rfl := Except.ok.inj h
      have hattempts : (verifiedAs projection attempt state).attempts = (projection.put { attempt with
          verification := state
          terminal_state := .settled
          lease := { attempt.lease with state := .settled } }).attempts := by
        rw [verifiedAs]
        split
        · rfl
        · split <;> rfl
      rw [hattempts]
      exact .put hunique hmem ⟨⟨rfl, rfl, rfl, rfl, rfl, rfl, rfl⟩, .kept rfl, .inr ⟨hkind, hnamed⟩,
        fun hactive => by cases hactive⟩

theorem reconciliation_started_attempts (h : reconciliation_started projection attempt = .ok next) :
    next.attempts = projection.attempts := by
  rw [reconciliation_started] at h
  split at h
  · cases h
  · obtain ⟨_, h⟩ := check_bind_eq_ok.1 h
    obtain ⟨_, h⟩ := check_bind_eq_ok.1 h
    exact (congrArg attempts (Except.ok.inj h)).symm

theorem attempt_terminal_attempts (hunique : UniqueIds projection) (hmem : attempt ∈ projection.attempts)
    (h : attempt_terminal projection attempt data = .ok next) : AttemptsStep projection event next.attempts := by
  obtain ⟨_, h⟩ := check_bind_eq_ok.1 h
  obtain rfl := Except.ok.inj h
  exact .put hunique hmem ⟨⟨rfl, rfl, rfl, rfl, rfl, rfl, rfl⟩, .kept rfl, .inl rfl, fun hactive => by cases hactive⟩

theorem applyEffect_subject (h : applyEffect attempt given = .ok updated) :
    SameSubject attempt updated ∧ updated.verification = attempt.verification := by
  obtain ⟨_, _, _, _, _, _, _, _, _, _, rfl⟩ := applyEffect_ok h
  exact ⟨⟨rfl, rfl, rfl, rfl, rfl, rfl, rfl⟩, rfl⟩

/-- What a resolved reconciliation found, and what it replaces. -/
structure Resolves (projection : AssignmentControlPlaneProjection) (attempt original updated : AssignmentAttemptRecord)
    (given : EffectData) : Prop where
  about : reconciledAttempt projection attempt = some original
  purpose : attempt.purpose = .reconciliation
  unknown : original.effect.state = .unknown
  authority : given.effect_authority = some .target_readback
  accepted : applyEffect original given = .ok updated

theorem reconciliation_resolved_ok (h : reconciliation_resolved projection attempt data = .ok next) :
    ∃ original updated given, Resolves projection attempt original updated given
      ∧ next.attempts = (putReconciled projection attempt updated data).attempts := by
  rw [reconciliation_resolved] at h
  split at h
  · cases h
  · next original horiginal =>
    obtain ⟨hchecked, h⟩ := check_bind_eq_ok.1 h
    obtain ⟨hpurpose, hunknown⟩ := require_eq_ok.1 hchecked
    split at h
    · cases h
    · obtain ⟨updated, hupdated, h⟩ := bind_eq_ok.1 h
      obtain rfl := Except.ok.inj h
      exact ⟨original, updated, _, ⟨horiginal, hpurpose, hunknown, rfl, applied_eq_ok.1 hupdated⟩, rfl⟩

theorem Resolves.mem
    (h : Resolves projection attempt original updated given) : original ∈ projection.attempts := by
  have horiginal := h.about
  rw [reconciledAttempt, Option.bind_eq_some_iff] at horiginal
  obtain ⟨id, _, hfind⟩ := horiginal
  exact (find_eq_some_imp hfind).1

theorem Resolves.rank
    (h : Resolves projection attempt original updated given) : effectAuthorityRank original.effect.authority ≤ 5 := by
  obtain ⟨_, source, _, _, _, _, _, hsource, _, haccepted, _⟩ := applyEffect_ok h.accepted
  obtain rfl : AssignmentEffectAuthority.target_readback = source := Option.some.inj (h.authority.symm.trans hsource)
  exact haccepted.rank

theorem Resolves.overwrites {final : AssignmentAttemptRecord}
    (h : Resolves projection attempt original updated given) (hnamed : projection.attemptFor event = some attempt)
    (hkind : event.kind = .reconciliation_resolved) (hsubject : SameSubject attempt final)
    (hverification : final.verification = attempt.verification)
    (hstate : final.effect.state = .none) (hsource : final.effect.authority = .target_readback)
    (hended : final.terminal_state = .reconciled) : AttemptStep projection event attempt final :=
  ⟨hsubject, .overwritten original hkind hnamed h.about h.purpose h.unknown h.rank hstate hsource, .inl hverification,
    fun hactive => by rw [hended] at hactive; cases hactive⟩

theorem putReconciled_other (hid : updated.attempt_id = original.attempt_id)
    (hother : original.attempt_id ≠ attempt.attempt_id) :
    (putReconciled projection attempt updated data).attempts = projection.attempts.map fun other =>
      if other.attempt_id = attempt.attempt_id then reconciler attempt data
      else if other.attempt_id = original.attempt_id then reconciled updated else other := by
  rw [putReconciled, if_neg (hid ▸ hother)]
  simp only [AssignmentControlPlaneProjection.put, List.map_map]
  refine List.map_congr_left fun other _ => ?_
  by_cases hattempt : other.attempt_id = attempt.attempt_id
  · simp [reconciler, reconciled, hattempt, hid, Ne.symm hother]
  · simp [reconciler, reconciled, hattempt, hid]

/-- The attempt that resolved a reconciliation is left with no effect, on the
    authority of the reading. -/
theorem reconciliation_resolved_erases (hmem : attempt ∈ projection.attempts)
    (hunique : UniqueIds projection) (h : reconciliation_resolved projection attempt data = .ok next) :
    ∃ now ∈ next.attempts, now.attempt_id = attempt.attempt_id ∧ now.effect.state = .none
      ∧ now.effect.authority = .target_readback := by
  obtain ⟨original, updated, given, hresolves, hattempts⟩ := reconciliation_resolved_ok h
  have hid : updated.attempt_id = original.attempt_id := (applyEffect_subject hresolves.accepted).1.attempt_id
  rw [hattempts]
  by_cases hself : original.attempt_id = attempt.attempt_id
  · obtain rfl := eq_of_attempt_id hunique hresolves.mem hmem hself
    rw [putReconciled, if_pos hid]
    refine ⟨_, List.mem_map.2 ⟨original, hmem, if_pos hid.symm⟩, hid, rfl, rfl⟩
  · rw [putReconciled_other hid hself]
    exact ⟨_, List.mem_map.2 ⟨attempt, hmem, if_pos rfl⟩, rfl, rfl, rfl⟩

/-- A reconciliation keeps or settles the effect of the attempt it is about and
    overwrites the effect of its own attempt. -/
theorem reconciliation_resolved_attempts (hunique : UniqueIds projection)
    (hnamed : projection.attemptFor event = some attempt) (hkind : event.kind = .reconciliation_resolved)
    (h : reconciliation_resolved projection attempt data = .ok next) : AttemptsStep projection event next.attempts := by
  have hmem := (attemptFor_eq_some_imp hnamed).1
  obtain ⟨original, updated, given, hresolves, hattempts⟩ := reconciliation_resolved_ok h
  obtain ⟨hsubject, hverification⟩ := applyEffect_subject hresolves.accepted
  rw [hattempts]
  by_cases hself : original.attempt_id = attempt.attempt_id
  · obtain rfl := eq_of_attempt_id hunique hresolves.mem hmem hself
    rw [putReconciled, if_pos hsubject.attempt_id]
    exact .put hunique hmem (hresolves.overwrites hnamed hkind
      (hsubject.trans ⟨rfl, rfl, rfl, rfl, rfl, rfl, rfl⟩) hverification rfl rfl rfl)
  · refine ⟨_, putReconciled_other hsubject.attempt_id hself, fun other hother => ?_⟩
    split
    · next hid =>
      rw [eq_of_attempt_id hunique hother hmem hid]
      exact hresolves.overwrites hnamed hkind ⟨rfl, rfl, rfl, rfl, rfl, rfl, rfl⟩ rfl rfl rfl rfl
    · split
      · next hid =>
        rw [eq_of_attempt_id hunique hother hresolves.mem hid]
        refine .of_applyEffect hresolves.accepted ⟨rfl, rfl, rfl, rfl, rfl, rfl, rfl⟩ rfl rfl
          (fun hactive => by cases hactive) fun hnone => ?_
        rw [hresolves.unknown] at hnone
        cases hnone
      · exact .refl other

/-- The projection keeps its run and whom it waits for. -/
structure SameRun (projection next : AssignmentControlPlaneProjection) : Prop where
  assignment_id : next.assignment_id = projection.assignment_id
  run_id : next.run_id = projection.run_id
  generation : next.generation = projection.generation
  outcome_state : next.outcome_state = projection.outcome_state
  pending_clarification_id : next.pending_clarification_id = projection.pending_clarification_id

theorem putReconciled_frame (projection : AssignmentControlPlaneProjection) (attempt updated : AssignmentAttemptRecord)
    (data : Json) : SameRun projection (putReconciled projection attempt updated data)
    ∧ (putReconciled projection attempt updated data).terminal_state = projection.terminal_state := by
  rw [putReconciled]
  split
  · exact ⟨⟨rfl, rfl, rfl, rfl, rfl⟩, rfl⟩
  · exact ⟨⟨rfl, rfl, rfl, rfl, rfl⟩, rfl⟩

theorem verification_recorded_frame (h : verification_recorded projection attempt data = .ok next) :
    SameRun projection next := by
  obtain ⟨_, h⟩ := check_bind_eq_ok.1 h
  split at h
  · cases h
  · obtain ⟨_, h⟩ := check_bind_eq_ok.1 h
    obtain ⟨_, h⟩ := check_bind_eq_ok.1 h
    split at h
    · cases h
    · obtain ⟨_, h⟩ := check_bind_eq_ok.1 h
      obtain rfl := Except.ok.inj h
      rw [verifiedAs]
      split
      · exact ⟨rfl, rfl, rfl, rfl, rfl⟩
      · split
        · exact ⟨rfl, rfl, rfl, rfl, rfl⟩
        · exact ⟨rfl, rfl, rfl, rfl, rfl⟩

/-- Events about an attempt leave the run, and only a verification touches the
    terminal state. -/
theorem applyAttemptEvent_frame (h : applyAttemptEvent projection event attempt data = .ok next) :
    SameRun projection next
      ∧ (event.kind ≠ .verification_recorded → next.terminal_state = projection.terminal_state) := by
  unfold applyAttemptEvent at h
  split at h
  · rw [admission_recorded] at h
    split at h
    · cases h
    · obtain ⟨_, h⟩ := check_bind_eq_ok.1 h
      split at h
      · obtain ⟨_, h⟩ := check_bind_eq_ok.1 h
        obtain rfl := Except.ok.inj h
        exact ⟨⟨rfl, rfl, rfl, rfl, rfl⟩, fun _ => rfl⟩
      · split at h
        · obtain ⟨_, _, h⟩ := bind_eq_ok.1 h
          obtain rfl := Except.ok.inj h
          exact ⟨⟨rfl, rfl, rfl, rfl, rfl⟩, fun _ => rfl⟩
        · obtain rfl := Except.ok.inj h
          exact ⟨⟨rfl, rfl, rfl, rfl, rfl⟩, fun _ => rfl⟩
  · rw [dispatch_recorded] at h
    split at h
    · cases h
    · obtain ⟨_, h⟩ := check_bind_eq_ok.1 h
      obtain ⟨_, h⟩ := check_bind_eq_ok.1 h
      obtain ⟨_, h⟩ := check_bind_eq_ok.1 h
      split at h
      · obtain rfl := Except.ok.inj h
        exact ⟨⟨rfl, rfl, rfl, rfl, rfl⟩, fun _ => rfl⟩
      · obtain ⟨_, _, h⟩ := bind_eq_ok.1 h
        obtain rfl := Except.ok.inj h
        exact ⟨⟨rfl, rfl, rfl, rfl, rfl⟩, fun _ => rfl⟩
  · rw [lease_recorded] at h
    split at h
    · cases h
    · obtain rfl := Except.ok.inj h
      exact ⟨⟨rfl, rfl, rfl, rfl, rfl⟩, fun _ => rfl⟩
  · obtain ⟨_, _, h⟩ := bind_eq_ok.1 h
    obtain rfl := Except.ok.inj h
    exact ⟨⟨rfl, rfl, rfl, rfl, rfl⟩, fun _ => rfl⟩
  · next hkind => exact ⟨verification_recorded_frame h, fun hother => absurd hkind hother⟩
  · rw [reconciliation_started] at h
    split at h
    · cases h
    · obtain ⟨_, h⟩ := check_bind_eq_ok.1 h
      obtain ⟨_, h⟩ := check_bind_eq_ok.1 h
      obtain rfl := Except.ok.inj h
      exact ⟨⟨rfl, rfl, rfl, rfl, rfl⟩, fun _ => rfl⟩
  · rw [reconciliation_resolved] at h
    split at h
    · cases h
    · obtain ⟨_, h⟩ := check_bind_eq_ok.1 h
      split at h
      · cases h
      · obtain ⟨updated, _, h⟩ := bind_eq_ok.1 h
        obtain rfl := Except.ok.inj h
        obtain ⟨hsame, hstate⟩ := putReconciled_frame projection attempt updated data
        exact ⟨⟨hsame.assignment_id, hsame.run_id, hsame.generation, hsame.outcome_state, hsame.pending_clarification_id⟩,
          fun _ => hstate⟩
  · obtain ⟨_, h⟩ := check_bind_eq_ok.1 h
    obtain rfl := Except.ok.inj h
    exact ⟨⟨rfl, rfl, rfl, rfl, rfl⟩, fun _ => rfl⟩
  · cases h

theorem applyAttemptEvent_attempts (hunique : UniqueIds projection)
    (hnamed : projection.attemptFor event = some attempt)
    (h : applyAttemptEvent projection event attempt event.data.row = .ok next) :
    AttemptsStep projection event next.attempts := by
  have hmem := (attemptFor_eq_some_imp hnamed).1
  unfold applyAttemptEvent at h
  split at h
  · exact admission_recorded_attempts hunique hmem h
  · next hkind => exact dispatch_recorded_attempts hunique hnamed hkind h
  · exact lease_recorded_attempts hunique hmem h
  · next hkind => exact effect_recorded_attempts hunique hnamed hkind h
  · next hkind => exact verification_recorded_attempts hunique hnamed hkind h
  · rw [reconciliation_started_attempts h]
    exact .same
  · next hkind => exact reconciliation_resolved_attempts hunique hnamed hkind h
  · exact attempt_terminal_attempts hunique hmem h
  · cases h

end handlers

section accept

variable {host : ControlPlaneHost} {projection next : AssignmentControlPlaneProjection} {event : AssignmentAttemptEvent}
  {data : Json}

/-- The kinds of events that record something of the assignment itself. -/
def EventKind.aboutAssignment : EventKind → Bool
  | .progress_recorded | .provider_call_recorded | .late_receipt_recorded | .clarification_requested
  | .clarification_resolved | .review_requested | .review_resolved | .criterion_recorded | .primary_artifact_recorded
  | .noop_completion_claimed | .noop_completion_validated | .read_completion_claimed | .read_completion_validated
  | .assignment_terminal => true
  | _ => false

/-- The projection keeps its attempts, its run and, until an event ends it, its
    terminal state. -/
structure Bookkeeping (projection next : AssignmentControlPlaneProjection) (event : AssignmentAttemptEvent) : Prop where
  attempts : next.attempts = projection.attempts
  run_id : next.run_id = projection.run_id
  generation : next.generation = projection.generation
  terminal_state : event.kind ≠ .assignment_terminal → next.terminal_state = projection.terminal_state

theorem progress_recorded_bookkeeping : Bookkeeping projection (progress_recorded host projection data) event := by
  rw [progress_recorded]
  split
  · exact ⟨rfl, rfl, rfl, fun _ => rfl⟩
  · exact ⟨rfl, rfl, rfl, fun _ => rfl⟩

theorem assignment_terminal_bookkeeping (hkind : event.kind = .assignment_terminal)
    (h : assignment_terminal projection data = .ok next) : Bookkeeping projection next event := by
  rw [assignment_terminal] at h
  obtain ⟨_, h⟩ := check_bind_eq_ok.1 h
  obtain ⟨_, h⟩ := check_bind_eq_ok.1 h
  obtain ⟨_, h⟩ := check_bind_eq_ok.1 h
  split at h
  · cases h
  · obtain ⟨_, h⟩ := check_bind_eq_ok.1 h
    obtain ⟨_, h⟩ := check_bind_eq_ok.1 h
    obtain rfl := Except.ok.inj h
    exact ⟨rfl, rfl, rfl, fun hother => absurd hkind hother⟩

theorem aboutAssignment_bookkeeping (hkind : event.kind.aboutAssignment)
    (h : applyAcceptedEvent host projection event = .ok next) : Bookkeeping projection next event := by
  unfold applyAcceptedEvent at h
  split at h
  case h_1 hevent | h_2 hevent | h_3 hevent =>
    rw [hevent] at hkind
    cases hkind
  case h_4 =>
    obtain rfl := Except.ok.inj h
    exact progress_recorded_bookkeeping
  case h_17 hevent => exact assignment_terminal_bookkeeping hevent h
  case h_18 =>
    cases hevent : event.kind <;> simp_all [EventKind.aboutAssignment]
  all_goals
    simp only [provider_call_recorded, clarification_requested, clarification_resolved, review_requested, review_resolved,
      criterion_recorded, primary_artifact_recorded, noop_completion_claimed, noop_completion_validated,
      read_completion_claimed, read_completion_validated, check_bind_eq_ok, Except.ok.injEq] at h
    constructor <;> grind

theorem nonEmpty_ne_some_empty {value : String} : nonEmpty value ≠ some "" := by
  rw [nonEmpty]
  split
  · simp
  · next hvalue => simpa using hvalue

theorem attempt_opened_ok (hkind : event.kind = .attempt_opened)
    (h : attempt_opened host projection event data = .ok next) :
    ∃ opened, next.attempts = projection.attempts ++ [opened] ∧ Opened projection event opened
      ∧ SameRun projection next ∧ next.terminal_state = projection.terminal_state
      ∧ projection.pending_clarification_id = none := by
  rw [attempt_opened] at h
  obtain ⟨hclarification, h⟩ := check_bind_eq_ok.1 h
  obtain ⟨_, h⟩ := check_bind_eq_ok.1 h
  obtain ⟨hfresh, h⟩ := check_bind_eq_ok.1 h
  obtain ⟨hid, hfresh⟩ := require_eq_ok.1 hfresh
  split at h
  · cases h
  · obtain ⟨_, h⟩ := check_bind_eq_ok.1 h
    obtain ⟨_, h⟩ := check_bind_eq_ok.1 h
    obtain ⟨_, h⟩ := check_bind_eq_ok.1 h
    obtain ⟨deadline, _, h⟩ := bind_eq_ok.1 h
    obtain rfl := Except.ok.inj h
    refine ⟨_, rfl, ⟨hkind, ?_, hfresh, hid, nonEmpty_ne_some_empty, rfl, ?_⟩, ⟨rfl, rfl, rfl, rfl, rfl⟩, rfl,
      require_eq_ok.1 hclarification⟩
    · cases hgiven : event.attempt_id with
      | none => simp [hgiven] at hid
      | some id => rfl
    · dsimp only
      split <;> simp

theorem applyAcceptedEvent_attempts (hunique : UniqueIds projection)
    (h : applyAcceptedEvent host projection event = .ok next) :
    (∃ opened, next.attempts = projection.attempts ++ [opened] ∧ Opened projection event opened)
      ∨ AttemptsStep projection event next.attempts := by
  by_cases habout : event.kind.aboutAssignment
  · rw [(aboutAssignment_bookkeeping habout h).attempts]
    exact .inr .same
  · unfold applyAcceptedEvent at h
    split at h
    case h_1 =>
      obtain rfl := Except.ok.inj h
      exact .inr .supersedeActive
    case h_2 =>
      obtain rfl := Except.ok.inj h
      exact .inr .supersedeActive
    case h_3 hkind =>
      obtain ⟨opened, hattempts, hopened, _⟩ := attempt_opened_ok hkind h
      exact .inl ⟨opened, hattempts, hopened⟩
    case h_18 =>
      split at h
      · cases h
      · next attempt hnamed => exact .inr (applyAttemptEvent_attempts hunique hnamed h)
    all_goals
      next hkind =>
        rw [hkind] at habout
        exact absurd rfl habout

/-- The rules of a run that every accepted event passed. -/
structure Fenced (projection : AssignmentControlPlaneProjection) (event : AssignmentAttemptEvent) : Prop where
  schema : event.schema = ASSIGNMENT_ATTEMPT_EVENT_SCHEMA
  assignment_id : event.assignment_id = projection.assignment_id
  terminal_state : projection.terminal_state = .open
  started : event.kind = .run_started → event.generation = projection.generation + 1 ∧ event.run_id ≠ ""
  current : event.kind ≠ .run_started → projection.run_id.any (· ≠ "") ∧ some event.run_id = projection.run_id
    ∧ event.generation = projection.generation

theorem rejectReason_eq_ok : rejectReason projection event = .ok () ↔ Fenced projection event := by
  rw [rejectReason]
  simp only [check_bind_eq_ok, require_eq_ok]
  by_cases hkind : event.kind = .run_started
  · rw [if_pos hkind]
    simp only [check_bind_eq_ok, require_eq_ok]
    exact ⟨fun ⟨hschema, hid, hopen, hgeneration, hrun⟩ =>
      ⟨hschema, hid, hopen, fun _ => ⟨hgeneration, hrun⟩, fun hother => absurd hkind hother⟩,
      fun h => ⟨h.schema, h.assignment_id, h.terminal_state, h.started hkind⟩⟩
  · rw [if_neg hkind]
    simp only [check_bind_eq_ok, require_eq_ok]
    exact ⟨fun ⟨hschema, hid, hopen, hrun, hcurrent⟩ =>
      ⟨hschema, hid, hopen, fun hstart => absurd hstart hkind, fun _ => ⟨hrun, hcurrent⟩⟩,
      fun h => ⟨h.schema, h.assignment_id, h.terminal_state, h.current hkind⟩⟩

theorem accept_eq_ok : accept host projection event = .ok next ↔
    Fenced projection event ∧ applyAcceptedEvent host projection event = .ok next := by
  rw [accept, check_bind_eq_ok, rejectReason_eq_ok]

end accept

section runs

variable {host : ControlPlaneHost} {projection next : AssignmentControlPlaneProjection} {event : AssignmentAttemptEvent}

theorem AttemptsStep.attempt_ids {attempts : List AssignmentAttemptRecord} (h : AttemptsStep projection event attempts) :
    attempts.map AssignmentAttemptRecord.attempt_id = projection.attempts.map AssignmentAttemptRecord.attempt_id := by
  obtain ⟨step, rfl, hstep⟩ := h
  rw [List.map_map]
  exact List.map_congr_left fun attempt hmem => (hstep attempt hmem).subject.attempt_id

theorem UniqueIds.of_accept (hunique : UniqueIds projection) (h : accept host projection event = .ok next) :
    UniqueIds next := by
  obtain ⟨opened, hattempts, hopened⟩ | hsteps := applyAcceptedEvent_attempts hunique (accept_eq_ok.1 h).2
  · rw [UniqueIds, hattempts, List.map_append, List.map_singleton]
    refine List.nodup_append.2 ⟨hunique, List.nodup_singleton _, ?_⟩
    intro id hid other hother hsame
    obtain ⟨attempt, hmem, rfl⟩ := List.mem_map.1 hid
    rw [List.mem_singleton.1 hother] at hsame
    exact find_eq_none.1 hopened.fresh attempt hmem hsame
  · rw [UniqueIds, hsteps.attempt_ids]
    exact hunique

variable {result after : AssignmentReduceResult}

/-- The reducer accepts the event: it is new, and nothing speaks against it. -/
def Accepted (host : ControlPlaneHost) (result : AssignmentReduceResult) (event : AssignmentAttemptEvent) : Prop :=
  event.event_id ∉ result.seen ∧ ∃ next, accept host result.projection event = .ok next

theorem reduceEvent_ok (h : reduceEvent host result event = .ok after) :
    (event.event_id ∉ result.seen ∧ accept host result.projection event = .ok after.projection)
      ∨ (¬ Accepted host result event ∧ after.projection = result.projection) := by
  rw [reduceEvent] at h
  split at h
  · next hseen =>
    obtain rfl := Except.ok.inj h
    exact .inr ⟨fun haccepted => haccepted.1 hseen, rfl⟩
  · next hnew =>
    split at h
    · next hnext =>
      obtain rfl := Except.ok.inj h
      exact .inl ⟨hnew, hnext⟩
    · next hrefused =>
      obtain rfl := Except.ok.inj h
      refine .inr ⟨fun ⟨_, next, hnext⟩ => ?_, rfl⟩
      rw [hrefused] at hnext
      cases hnext
    · cases h

/-- What every accepted event preserves, every turn of the reducer preserves. -/
theorem reduceEvent_preserves {I : AssignmentControlPlaneProjection → Prop}
    (haccept : ∀ projection event next, I projection → accept host projection event = .ok next → I next)
    (hI : I result.projection) (h : reduceEvent host result event = .ok after) : I after.projection := by
  obtain ⟨_, hnext⟩ | ⟨_, hsame⟩ := reduceEvent_ok h
  · exact haccept _ _ _ hI hnext
  · rw [hsame]
    exact hI

theorem UniqueIds.of_reduceEvent (hunique : UniqueIds result.projection) (h : reduceEvent host result event = .ok after) :
    UniqueIds after.projection :=
  reduceEvent_preserves (fun _ _ _ hunique hnext => hunique.of_accept hnext) hunique h

theorem uniqueIds_initial (assignment_id : String) : UniqueIds (initialProjection assignment_id) :=
  List.nodup_nil

end runs

section samples

/-- A host whose one date is the epoch. -/
def epochHost : ControlPlaneHost where
  parseDate text := if text = "1970-01-01T00:00:00.000Z" then some 0 else none
  toISOString time := if time = 0 then some "1970-01-01T00:00:00.000Z" else none
  parseDate_toISOString time text h := by
    split at h
    · next htime => rw [← Option.some.inj h, if_pos rfl, htime]
    · cases h
  toISOString_epoch := rfl
  progressFingerprint _ _ := ""

/-- An event of the first run of the assignment `assignment`. -/
def sampleEvent (event_id : String) (attempt_id : Option String) (kind : EventKind) (data : List (String × String)) :
    AssignmentAttemptEvent where
  schema := ASSIGNMENT_ATTEMPT_EVENT_SCHEMA
  event_id := event_id
  assignment_id := "assignment"
  run_id := "run"
  generation := 1
  attempt_id := attempt_id
  kind := kind
  occurred_at := "1970-01-01T00:00:00.000Z"
  actor := "worker"
  data := .obj (("deadline_at", .str "1970-01-01T00:00:00.000Z") :: data.map fun field => (field.1, .str field.2))

end samples

end revit_operator.assignment_control_plane
