import RevitOperator.ControlPlane.AttemptSteps
import Mathlib.Data.Fintype.EquivFin

open checked checked_run

namespace revit_operator.assignment_control_plane

open AssignmentControlPlaneProjection

/-- An attempt whose effect is unknown, or can still become unknown, at a rank
    that a reading of the target may overrule. -/
def CanBeReconciled (attempt : AssignmentAttemptRecord) : Prop :=
  (attempt.effect.state = .unknown ∧ effectAuthorityRank attempt.effect.authority ≤ 5)
    ∨ (attempt.effect.state = .none ∧ effectAuthorityRank attempt.effect.authority < 4)

/-- No native authority has spoken on the effect of the attempt, or the attempt
    is itself the reconciliation of one that can be reconciled. -/
def Reconcilable (projection : AssignmentControlPlaneProjection) (attempt : AssignmentAttemptRecord) : Prop :=
  effectAuthorityRank attempt.effect.authority < 4
    ∨ (attempt.purpose = .reconciliation ∧ ∃ id, attempt.reconciliation_of_attempt_id = some id
      ∧ ∀ original, projection.find id = some original → CanBeReconciled original)

/-- The unknown effect of the attempt is locked in. -/
def Locked (projection : AssignmentControlPlaneProjection) (attempt_id : String) : Prop :=
  ∃ attempt ∈ projection.attempts, attempt.attempt_id = attempt_id ∧ attempt.isUnresolved
    ∧ ¬ Reconcilable projection attempt

theorem isUnresolved_iff {attempt : AssignmentAttemptRecord} : attempt.isUnresolved ↔
    (attempt.requested_effect = .preview ∨ attempt.requested_effect = .apply) ∧ attempt.effect.state = .unknown := by
  simp [AssignmentAttemptRecord.isUnresolved]

section locked

variable {host : ControlPlaneHost} {projection next : AssignmentControlPlaneProjection} {event : AssignmentAttemptEvent}
  {before after : AssignmentAttemptRecord}

theorem EffectStep.not_canBeReconciled (h : EffectStep projection event before after) (hnot : ¬ CanBeReconciled before) :
    ¬ CanBeReconciled after := by
  cases h with
  | kept heffect =>
    rw [CanBeReconciled, heffect]
    exact hnot
  | recorded data state source haccepted hstate hsource =>
    intro hcan
    rw [CanBeReconciled, hstate, hsource] at hcan
    have hrank := haccepted.rank
    by_cases hsame : before.effect.state = state
    · refine hnot (hcan.imp ?_ ?_)
      · rintro ⟨hunknown, hfive⟩
        exact ⟨hsame.trans hunknown, hrank.trans hfive⟩
      · rintro ⟨hnone, hfour⟩
        exact ⟨hsame.trans hnone, lt_of_le_of_lt hrank hfour⟩
    · -- The state may change only below the rank of the native authorities.
      have hfour := (haccepted.conflict hsame).1
      cases hbefore : before.effect.state with
      | none => exact hnot (.inr ⟨hbefore, hfour⟩)
      | unknown => exact hnot (.inl ⟨hbefore, by omega⟩)
      | applied => exact hsame (hbefore.trans (haccepted.applied hbefore).symm)
  | overwritten _ _ _ _ _ _ _ hstate hsource =>
    rintro (⟨hunknown, _⟩ | ⟨_, hfour⟩)
    · rw [hstate] at hunknown
      cases hunknown
    · rw [hsource] at hfour
      exact absurd hfour (by decide)

/-- The unknown effect of an attempt that cannot be reconciled stays unknown, at
    a rank at which no native authority may overrule it. -/
theorem EffectStep.unknown_of_not_reconcilable (h : EffectStep projection event before after)
    (hnot : ¬ Reconcilable projection before) (hunknown : before.effect.state = .unknown) :
    after.effect.state = .unknown ∧ 4 ≤ effectAuthorityRank after.effect.authority := by
  have hfour : 4 ≤ effectAuthorityRank before.effect.authority := by
    by_contra hlow
    exact hnot (.inl (by omega))
  cases h with
  | kept heffect =>
    rw [heffect]
    exact ⟨hunknown, hfour⟩
  | recorded data state source haccepted hstate hsource =>
    have hsame : before.effect.state = state := by
      by_contra hconflict
      exact absurd (haccepted.conflict hconflict).1 (by omega)
    rw [hstate, hsource]
    exact ⟨hsame.symm.trans hunknown, hfour.trans haccepted.rank⟩
  | overwritten original _ _ horiginal hpurpose hresolved hrank =>
    rw [reconciledAttempt] at horiginal
    obtain ⟨id, hid, hfind⟩ := Option.bind_eq_some_iff.1 horiginal
    refine absurd (.inr ⟨hpurpose, id, hid, fun found hfound => ?_⟩) hnot
    obtain rfl := Option.some.inj (hfind.symm.trans hfound)
    exact .inl ⟨hresolved, hrank⟩

theorem exists_step_of_accept (hunique : UniqueIds projection) (h : accept host projection event = .ok next)
    (hmem : before ∈ projection.attempts) :
    ∃ after ∈ next.attempts, AttemptStep projection event before after := by
  obtain ⟨opened, hattempts, _⟩ | ⟨step, hattempts, hstep⟩ := applyAcceptedEvent_attempts hunique (accept_eq_ok.1 h).2
  · rw [hattempts]
    exact ⟨before, List.mem_append_left _ hmem, .refl before⟩
  · rw [hattempts]
    exact ⟨step before, List.mem_map_of_mem hmem, hstep before hmem⟩

theorem Locked.of_accept {attempt_id : String} (hunique : UniqueIds projection) (hlocked : Locked projection attempt_id)
    (h : accept host projection event = .ok next) : Locked next attempt_id := by
  obtain ⟨attempt, hmem, rfl, hunresolved, hnot⟩ := hlocked
  obtain ⟨hrequested, hunknown⟩ := isUnresolved_iff.1 hunresolved
  obtain ⟨after, hafter, hstep⟩ := exists_step_of_accept hunique h hmem
  obtain ⟨hstill, hfour⟩ := hstep.effect.unknown_of_not_reconcilable hnot hunknown
  refine ⟨after, hafter, hstep.subject.attempt_id, ?_, ?_⟩
  · rw [isUnresolved_iff, hstep.subject.requested_effect]
    exact ⟨hrequested, hstill⟩
  · rintro (hlow | ⟨hpurpose, id, hid, hall⟩)
    · omega
    · rw [hstep.subject.purpose] at hpurpose
      rw [hstep.subject.reconciliation_of] at hid
      refine hnot (.inr ⟨hpurpose, id, hid, fun original hfind => ?_⟩)
      obtain ⟨horiginal, rfl⟩ := find_eq_some_imp hfind
      obtain ⟨originalAfter, hmemAfter, hstepOriginal⟩ := exists_step_of_accept hunique h horiginal
      have hfound := find_of_mem (hunique.of_accept h) hmemAfter
      rw [hstepOriginal.subject.attempt_id] at hfound
      by_contra hcannot
      exact hstepOriginal.effect.not_canBeReconciled hcannot (hall originalAfter hfound)

theorem Locked.mem_unresolved {attempt_id : String} (h : Locked projection attempt_id) :
    attempt_id ∈ projection.unresolved_unknown_attempt_ids := by
  obtain ⟨attempt, hmem, hid, hunresolved, _⟩ := h
  exact List.mem_map.2 ⟨attempt, List.mem_filter.2 ⟨hmem, hunresolved⟩, hid⟩

end locked

/-- Further events, all of them accepted, lead from a result to a projection. -/
def Reaches (host : ControlPlaneHost) (result : AssignmentReduceResult) (projection : AssignmentControlPlaneProjection) :
    Prop :=
  ∃ further final, feed (reduceEvent host) result further = .ok final
    ∧ final.accepted_event_ids = result.accepted_event_ids ++ further.map AssignmentAttemptEvent.event_id
    ∧ final.projection = projection

/-- An open assignment with a current run and nobody waited for. -/
structure Ready (projection : AssignmentControlPlaneProjection) : Prop where
  terminal_state : projection.terminal_state = .open
  run : ∃ run, projection.run_id = some run ∧ run ≠ ""
  clarification : projection.pending_clarification_id = none
  review : projection.pending_review_id = none

/-- No identity of an attempt, and none it refers to, is empty. -/
def NamedIds (projection : AssignmentControlPlaneProjection) : Prop :=
  ∀ attempt ∈ projection.attempts, attempt.attempt_id ≠ "" ∧ attempt.reconciliation_of_attempt_id ≠ some ""

/-- The data of an event in which every field is a text. -/
def texts (fields : List (String × String)) : Json := .obj (fields.map fun field => (field.1, .str field.2))

/-- An event of the current run about an attempt. -/
def followUp (projection : AssignmentControlPlaneProjection) (attempt_id : String) (kind : EventKind)
    (fields : List (String × String)) : AssignmentAttemptEvent where
  schema := ASSIGNMENT_ATTEMPT_EVENT_SCHEMA
  event_id := ""
  assignment_id := projection.assignment_id
  run_id := projection.run_id.getD ""
  generation := projection.generation
  attempt_id := some attempt_id
  kind := kind
  occurred_at := "1970-01-01T00:00:00.000Z"
  actor := "worker"
  data := texts fields

variable {id : String} {original : AssignmentAttemptRecord}

section reaches

variable {host : ControlPlaneHost} {result : AssignmentReduceResult} {projection next : AssignmentControlPlaneProjection}
  {event : AssignmentAttemptEvent} {attempt : AssignmentAttemptRecord}

theorem Reaches.refl : Reaches host result result.projection :=
  ⟨[], result, rfl, (List.append_nil _).symm, rfl⟩

/-- The identity of an event plays no part in its acceptance, so there is always
    one more. -/
theorem Reaches.step (h : Reaches host result projection) (hnext : accept host projection event = .ok next) :
    Reaches host result next := by
  obtain ⟨further, final, hfinal, hids, rfl⟩ := h
  obtain ⟨fresh, hfresh⟩ := Infinite.exists_notMem_finset final.seen.toFinset
  rw [List.mem_toFinset] at hfresh
  have haccept : accept host final.projection { event with event_id := fresh } = .ok next := hnext
  have hstep : reduceEvent host final { event with event_id := fresh } = .ok { final with
      projection := next
      seen := final.seen ++ [fresh]
      accepted_event_ids := final.accepted_event_ids ++ [fresh] } := by
    rw [reduceEvent, if_neg hfresh]
    simp only [haccept]
  exact ⟨further ++ [{ event with event_id := fresh }], _, feed_snoc_eq_ok.2 ⟨final, hfinal, hstep⟩, by simp [hids], rfl⟩

theorem NamedIds.of_accept (hunique : UniqueIds projection) (hnamed : NamedIds projection)
    (h : accept host projection event = .ok next) : NamedIds next := by
  intro now hnow
  obtain ⟨opened, hattempts, hopened⟩ | ⟨step, hattempts, hstep⟩ := applyAcceptedEvent_attempts hunique (accept_eq_ok.1 h).2
  · rw [hattempts, List.mem_append, List.mem_singleton] at hnow
    obtain hbefore | rfl := hnow
    · exact hnamed now hbefore
    · exact ⟨hopened.named, hopened.reconciliation_of⟩
  · rw [hattempts] at hnow
    obtain ⟨before, hbefore, rfl⟩ := List.mem_map.1 hnow
    rw [(hstep before hbefore).subject.attempt_id, (hstep before hbefore).subject.reconciliation_of]
    exact hnamed before hbefore

theorem Ready.fenced {attempt_id : String} {kind : EventKind} {fields : List (String × String)} (hready : Ready projection)
    (hkind : kind ≠ .run_started) : Fenced projection (followUp projection attempt_id kind fields) := by
  obtain ⟨run, hrun, hne⟩ := hready.run
  refine ⟨rfl, rfl, hready.terminal_state, fun hstarted => absurd hstarted hkind, fun _ => ⟨?_, ?_, rfl⟩⟩
  · simpa [hrun] using hne
  · simp [followUp, hrun]

theorem attemptFor_followUp {kind : EventKind} {fields : List (String × String)} (hunique : UniqueIds projection)
    (hmem : attempt ∈ projection.attempts) (hnamed : attempt.attempt_id ≠ "") :
    projection.attemptFor (followUp projection attempt.attempt_id kind fields) = some attempt := by
  rw [attemptFor, followUp]
  simp [Option.filter, hnamed, find_of_mem hunique hmem]

theorem AssignmentControlPlaneProjection.mem_put {updated : AssignmentAttemptRecord} (hmem : attempt ∈ projection.attempts)
    (hid : updated.attempt_id = attempt.attempt_id) : updated ∈ (projection.put updated).attempts :=
  List.mem_map.2 ⟨attempt, hmem, if_pos hid.symm⟩

/-- What a native host reports of an effect. -/
def nativeEffect (state : AssignmentEffectState) : List (String × String) :=
  [("effect_state", state.name), ("effect_authority", "native_host")]

theorem ofEvent_nativeEffect (state : AssignmentEffectState) :
    EffectData.ofEvent (texts (nativeEffect state)) = .bare state .native_host "" "" := by
  cases state <;> rfl

/-- What a native host reports of an effect is accepted while no native
    authority has spoken. -/
theorem accept_nativeEffect (host : ControlPlaneHost) (state : AssignmentEffectState) (hready : Ready projection)
    (hunique : UniqueIds projection)
    (hmem : attempt ∈ projection.attempts) (hnamed : attempt.attempt_id ≠ "")
    (hlow : effectAuthorityRank attempt.effect.authority < 4) (happlied : attempt.effect.state ≠ .applied)
    (hstate : state ≠ .applied) :
    ∃ next, accept host projection (followUp projection attempt.attempt_id .effect_recorded (nativeEffect state)) = .ok next
      ∧ Ready next ∧ ∃ now ∈ next.attempts, SameSubject attempt now ∧ now.effect.state = state
        ∧ now.effect.authority = .native_host := by
  have haccepted : EffectAccepted attempt (.bare state .native_host "" "") state .native_host :=
    ⟨fun h => absurd h hstate, fun _ => hstate, hlow.le, fun h => absurd h happlied, fun _ _ => le_rfl,
      fun _ => ⟨hlow, ne_of_gt hlow⟩⟩
  obtain ⟨updated, hupdated, hreached, hsource⟩ := applyEffect_bare haccepted (by decide) (by decide) (by decide)
  obtain ⟨hsubject, heffect, _, _⟩ := settledBy_step updated (texts (nativeEffect state))
  have hsame := (applyEffect_subject hupdated).1.trans hsubject
  have hhandled : ∃ next, effect_recorded projection attempt (texts (nativeEffect state)) = .ok next
      ∧ Ready next ∧ next.attempts = (projection.put (settledBy updated (texts (nativeEffect state)))).attempts := by
    rw [effect_recorded, ofEvent_nativeEffect, applied_eq_ok.2 hupdated]
    exact ⟨_, rfl, ⟨hready.terminal_state, hready.run, hready.clarification, hready.review⟩, rfl⟩
  obtain ⟨next, hnext, hreadyNext, hattempts⟩ := hhandled
  refine ⟨next, accept_eq_ok.2 ⟨hready.fenced (by decide), ?_⟩, hreadyNext, _, ?_, hsame, ?_, ?_⟩
  · simp only [applyAcceptedEvent, attemptFor_followUp hunique hmem hnamed]
    exact hnext
  · rw [hattempts]
    exact mem_put hmem hsame.attempt_id
  · rw [heffect, hreached]
  · rw [heffect, hsource]

/-- An inconclusive reconciliation is accepted while a reading of the target may
    overrule the effect of the original attempt. -/
theorem accept_inconclusive (host : ControlPlaneHost) (hready : Ready projection)
    (hunique : UniqueIds projection) (hmem : attempt ∈ projection.attempts) (hnamed : attempt.attempt_id ≠ "")
    (hpurpose : attempt.purpose = .reconciliation) (hid : attempt.reconciliation_of_attempt_id = some id)
    (hfind : projection.find id = some original) (hunknown : original.effect.state = .unknown)
    (hrank : effectAuthorityRank original.effect.authority ≤ 5) :
    ∃ next, accept host projection (followUp projection attempt.attempt_id .reconciliation_resolved
        [("effect_state", "unknown")]) = .ok next
      ∧ ∃ now ∈ next.attempts, now.attempt_id = attempt.attempt_id ∧ now.effect.state = .none := by
  have haccepted : EffectAccepted original (.bare .unknown .target_readback "reconciled_unknown" "") .unknown
      .target_readback :=
    ⟨fun h => absurd h (by decide), fun _ => by decide, hrank, fun h => absurd (hunknown.symm.trans h) (by decide),
      fun _ h => absurd rfl h, fun h => absurd hunknown h⟩
  obtain ⟨updated, hupdated, _, _⟩ := applyEffect_bare haccepted (by decide) (by decide) (by decide)
  have hhandled : ∃ next, reconciliation_resolved projection attempt (texts [("effect_state", "unknown")]) = .ok next := by
    have habout : reconciledAttempt projection attempt = some original := by
      rw [reconciledAttempt, hid]
      exact hfind
    have hread : effectState ((texts [("effect_state", "unknown")]).field "effect_state") = some .unknown := rfl
    have hpassed := applied_eq_ok.2 hupdated
    rw [reconciliation_resolved, habout]
    dsimp only
    rw [require_of ⟨hpurpose, hunknown⟩, ok_bind, hread]
    dsimp only
    exact ⟨_, bind_eq_ok.2 ⟨updated, hpassed, rfl⟩⟩
  obtain ⟨next, hnext⟩ := hhandled
  obtain ⟨now, hnow, hnowId, hnone, _⟩ := reconciliation_resolved_erases hmem hunique hnext
  refine ⟨next, accept_eq_ok.2 ⟨hready.fenced (by decide), ?_⟩, now, hnow, hnowId, hnone⟩
  simp only [applyAcceptedEvent, attemptFor_followUp hunique hmem hnamed]
  exact hnext

/-- What opens a reading that is to reconcile another attempt. -/
def reconcilingRead : List (String × String) :=
  [("requested_effect", "read"), ("purpose", "reconciliation"), ("deadline_at", "1970-01-01T00:00:00.000Z")]

theorem deadlineAt_reconcilingRead :
    deadlineAt host event (texts reconcilingRead) = .ok "1970-01-01T00:00:00.000Z" := by
  have hparsed := host.parseDate_toISOString 0 _ host.toISOString_epoch
  have hread : string ((texts reconcilingRead).field "deadline_at") = "1970-01-01T00:00:00.000Z" := rfl
  rw [deadlineAt, hread, hparsed]
  simp only [Option.some_or, host.toISOString_epoch]

theorem accept_reconcilingRead (host : ControlPlaneHost) (hready : Ready projection) (hnamed : id ≠ "")
    (hfresh : projection.find id = none) :
    ∃ next, accept host projection (followUp projection id .attempt_opened reconcilingRead) = .ok next
      ∧ Ready next ∧ ∃ opened, next.attempts = projection.attempts ++ [opened] ∧ opened.attempt_id = id
        ∧ opened.effect.state = .none ∧ opened.effect.authority = .control_plane := by
  have hhandled : ∃ next, attempt_opened host projection (followUp projection id .attempt_opened reconcilingRead)
      (texts reconcilingRead) = .ok next
      ∧ Ready next ∧ ∃ opened, next.attempts = projection.attempts ++ [opened] ∧ opened.attempt_id = id
        ∧ opened.effect.state = .none ∧ opened.effect.authority = .control_plane := by
    have hrequested : requestedEffect ((texts reconcilingRead).field "requested_effect") = some .read := rfl
    have hpurpose : purpose ((texts reconcilingRead).field "purpose") = .reconciliation := rfl
    have hreplay : ∀ signature target retryOf delta,
        checkReplay projection .read signature target retryOf delta = .ok () := fun _ _ _ _ => rfl
    rw [attempt_opened, require_of hready.clarification, ok_bind, require_of hready.review, ok_bind]
    dsimp only
    rw [require_of ⟨hnamed, hfresh⟩, ok_bind, hrequested]
    dsimp only
    rw [require_of (.inr hpurpose), ok_bind, require_of (.inr (by rw [hpurpose]; decide)), ok_bind, hreplay, ok_bind,
      deadlineAt_reconcilingRead, ok_bind]
    exact ⟨_, rfl, ⟨hready.terminal_state, hready.run, hready.clarification, hready.review⟩, _, rfl, rfl, rfl, rfl⟩
  obtain ⟨next, hnext, hrest⟩ := hhandled
  exact ⟨next, accept_eq_ok.2 ⟨hready.fenced (by decide), hnext⟩, hrest⟩

theorem not_mem_unresolved (hunique : UniqueIds projection) (hmem : attempt ∈ projection.attempts)
    (hnone : attempt.effect.state = .none) : attempt.attempt_id ∉ projection.unresolved_unknown_attempt_ids := by
  intro hid
  obtain ⟨other, hother, hsame⟩ := List.mem_map.1 hid
  obtain ⟨hotherMem, hunresolved⟩ := List.mem_filter.1 hother
  rw [eq_of_attempt_id hunique hotherMem hmem hsame, isUnresolved_iff, hnone] at hunresolved
  cases hunresolved.2

/-- The attempt no longer has an unresolved effect after some further events,
    all of them accepted. -/
def Resolvable (host : ControlPlaneHost) (result : AssignmentReduceResult) (attempt_id : String) : Prop :=
  ∃ next, Reaches host result next ∧ attempt_id ∉ next.unresolved_unknown_attempt_ids

/-- A reconciling attempt loses its own effect to the reconciliation of an
    attempt with an unknown effect. -/
theorem resolvable_of_unknown (hreach : Reaches host result projection)
    (hready : Ready projection) (hunique : UniqueIds projection) (hmem : attempt ∈ projection.attempts)
    (hnamed : attempt.attempt_id ≠ "") (hpurpose : attempt.purpose = .reconciliation)
    (hid : attempt.reconciliation_of_attempt_id = some id) (hfind : projection.find id = some original)
    (hunknown : original.effect.state = .unknown) (hrank : effectAuthorityRank original.effect.authority ≤ 5) :
    Resolvable host result attempt.attempt_id := by
  obtain ⟨next, hnext, now, hnow, hnowId, hnone⟩ :=
    accept_inconclusive host hready hunique hmem hnamed hpurpose hid hfind hunknown hrank
  refine ⟨next, hreach.step hnext, ?_⟩
  rw [← hnowId]
  exact not_mem_unresolved (hunique.of_accept hnext) hnow hnone

/-- The attempt with no effect yet, whose reconciliation the attempt is, is first
    reported as unknown. -/
theorem resolvable_of_none (hreach : Reaches host result projection)
    (hready : Ready projection) (hunique : UniqueIds projection) (hnamed : NamedIds projection)
    (hmem : attempt ∈ projection.attempts) (horiginal : original ∈ projection.attempts)
    (hpurpose : attempt.purpose = .reconciliation)
    (hid : attempt.reconciliation_of_attempt_id = some original.attempt_id)
    (hnone : original.effect.state = .none) (hlow : effectAuthorityRank original.effect.authority < 4) :
    Resolvable host result attempt.attempt_id := by
  obtain ⟨next, hnext, hreadyNext, now, hnow, hsubject, hunknown, hnative⟩ :=
    accept_nativeEffect host .unknown hready hunique horiginal (hnamed original horiginal).1 hlow
      (by rw [hnone]; decide) (by decide)
  obtain ⟨attemptNow, hattemptNow, hstep⟩ := exists_step_of_accept hunique hnext hmem
  have hfind := find_of_mem (hunique.of_accept hnext) hnow
  rw [← hstep.subject.attempt_id]
  refine resolvable_of_unknown (hreach.step hnext) hreadyNext (hunique.of_accept hnext) hattemptNow ?_ ?_ ?_ hfind hunknown ?_
  · rw [hstep.subject.attempt_id]
    exact (hnamed attempt hmem).1
  · exact hstep.subject.purpose.trans hpurpose
  · rw [hstep.subject.reconciliation_of, hid, hsubject.attempt_id]
  · rw [hnative]
    decide

theorem Reconcilable.resolvable (hrec : Reconcilable projection attempt) (hreach : Reaches host result projection)
    (hready : Ready projection) (hunique : UniqueIds projection) (hnamed : NamedIds projection)
    (hmem : attempt ∈ projection.attempts) (hunknown : attempt.effect.state = .unknown) :
    Resolvable host result attempt.attempt_id := by
  obtain hlow | ⟨hpurpose, id, hid, hall⟩ := hrec
  · obtain ⟨next, hnext, _, now, hnow, hsubject, hnone, _⟩ :=
      accept_nativeEffect host .none hready hunique hmem (hnamed attempt hmem).1 hlow
        (by rw [hunknown]; decide) (by decide)
    refine ⟨next, hreach.step hnext, ?_⟩
    rw [← hsubject.attempt_id]
    exact not_mem_unresolved (hunique.of_accept hnext) hnow hnone
  · cases hfind : projection.find id with
    | some original =>
      obtain ⟨horiginal, rfl⟩ := find_eq_some_imp hfind
      obtain ⟨hopen, hrank⟩ | ⟨hnone, hlow⟩ := hall original hfind
      · exact resolvable_of_unknown hreach hready hunique hmem (hnamed attempt hmem).1 hpurpose hid hfind hopen hrank
      · exact resolvable_of_none hreach hready hunique hnamed hmem horiginal hpurpose hid hnone hlow
    | none =>
      have hne : id ≠ "" := fun hempty => (hnamed attempt hmem).2 (hempty ▸ hid)
      obtain ⟨next, hnext, hreadyNext, opened, hattempts, hopenedId, hnone, hcontrol⟩ :=
        accept_reconcilingRead host hready hne hfind
      have hopened : opened ∈ next.attempts := by
        rw [hattempts]
        exact List.mem_append_right _ (List.mem_singleton_self opened)
      have hstill : attempt ∈ next.attempts := by
        rw [hattempts]
        exact List.mem_append_left _ hmem
      refine resolvable_of_none (hreach.step hnext) hreadyNext (hunique.of_accept hnext) (hnamed.of_accept hunique hnext)
        hstill hopened hpurpose (hopenedId ▸ hid) hnone ?_
      rw [hcontrol]
      decide

theorem Locked.not_resolvable {attempt_id : String} (hunique : UniqueIds result.projection)
    (hlocked : Locked result.projection attempt_id) : ¬ Resolvable host result attempt_id := by
  rintro ⟨next, ⟨further, final, hfinal, _, rfl⟩, hresolved⟩
  have hinv : UniqueIds final.projection ∧ Locked final.projection attempt_id :=
    feed_invariant (I := fun result => UniqueIds result.projection ∧ Locked result.projection attempt_id)
      (fun _ _ _ hinv hstep => reduceEvent_preserves
        (I := fun projection => UniqueIds projection ∧ Locked projection attempt_id)
        (fun _ _ _ hinv hnext => ⟨hinv.1.of_accept hnext, hinv.2.of_accept hinv.1 hnext⟩) hinv hstep)
      ⟨hunique, hlocked⟩ hfinal
  exact hresolved hinv.2.mem_unresolved

end reaches

/-- After the events, further ones can be given to the reducer, all of them
    accepted, that leave the attempt without an unresolved effect. -/
def ResolvedByFurther (host : ControlPlaneHost) (assignment_id : String) (events : List AssignmentAttemptEvent)
    (result : AssignmentReduceResult) (attempt_id : String) : Prop :=
  ∃ further final, reduceAssignmentControlPlane host assignment_id (events ++ further) = .ok final
    ∧ final.accepted_event_ids = result.accepted_event_ids ++ further.map AssignmentAttemptEvent.event_id
    ∧ attempt_id ∉ final.projection.unresolved_unknown_attempt_ids

section resolved

variable {host : ControlPlaneHost} {assignment_id attempt_id : String} {events : List AssignmentAttemptEvent}
  {result : AssignmentReduceResult}

theorem resolvedByFurther_iff (hrun : reduceAssignmentControlPlane host assignment_id events = .ok result) :
    ResolvedByFurther host assignment_id events result attempt_id ↔ Resolvable host result attempt_id := by
  have hfeed : ∀ further, reduceAssignmentControlPlane host assignment_id (events ++ further)
      = feed (reduceEvent host) result further := by
    intro further
    rw [reduceAssignmentControlPlane] at hrun ⊢
    rw [feed_append, hrun, ok_bind]
  simp only [ResolvedByFurther, hfeed]
  constructor
  · rintro ⟨further, final, hfinal, hids, hresolved⟩
    exact ⟨final.projection, ⟨further, final, hfinal, hids, rfl⟩, hresolved⟩
  · rintro ⟨_, ⟨further, final, hfinal, hids, rfl⟩, hresolved⟩
    exact ⟨further, final, hfinal, hids, hresolved⟩

theorem reduce_invariants (hrun : reduceAssignmentControlPlane host assignment_id events = .ok result) :
    UniqueIds result.projection ∧ NamedIds result.projection :=
  feed_invariant (I := fun result => UniqueIds result.projection ∧ NamedIds result.projection)
    (fun _ _ _ hinv hstep => reduceEvent_preserves (I := fun projection => UniqueIds projection ∧ NamedIds projection)
      (fun _ _ _ hinv hnext => ⟨hinv.1.of_accept hnext, hinv.2.of_accept hinv.1 hnext⟩) hinv hstep)
    ⟨uniqueIds_initial assignment_id, fun _ hmem => absurd hmem List.not_mem_nil⟩ hrun

end resolved

/-- An unresolved effect of an open assignment can be resolved by further events
    exactly when no native authority has spoken on it, or its attempt is itself
    the reconciliation of one that can be reconciled. -/
theorem unresolved_effect_resolvable_iff (host : ControlPlaneHost) (assignment_id : String)
    (events : List AssignmentAttemptEvent) (result : AssignmentReduceResult)
    (hrun : reduceAssignmentControlPlane host assignment_id events = .ok result)
    (hready : Ready result.projection) (attempt : AssignmentAttemptRecord) (hmem : attempt ∈ result.projection.attempts)
    (hunresolved : attempt.attempt_id ∈ result.projection.unresolved_unknown_attempt_ids) :
    ResolvedByFurther host assignment_id events result attempt.attempt_id ↔ Reconcilable result.projection attempt := by
  obtain ⟨hunique, hnamed⟩ := reduce_invariants hrun
  have hunknown : attempt.isUnresolved := by
    obtain ⟨other, hother, hsame⟩ := List.mem_map.1 hunresolved
    obtain ⟨hotherMem, hother⟩ := List.mem_filter.1 hother
    rwa [eq_of_attempt_id hunique hotherMem hmem hsame] at hother
  rw [resolvedByFurther_iff hrun]
  constructor
  · intro hresolved
    by_contra hnot
    exact Locked.not_resolvable hunique ⟨attempt, hmem, rfl, hunknown, hnot⟩ hresolved
  · intro hrec
    exact hrec.resolvable .refl hready hunique hnamed hmem (isUnresolved_iff.1 hunknown).2

/-- An apply that was dispatched, with an effect not settled. -/
def dispatchedApply : List AssignmentAttemptEvent := [
  sampleEvent "1" none .run_started [],
  sampleEvent "2" (some "original") .attempt_opened
    [("requested_effect", "apply"), ("action_signature", "move"), ("target_fingerprint", "wall")],
  sampleEvent "3" (some "original") .dispatch_recorded [("dispatch_state", "dispatched")]]

/-- The projection is ready, and the effect of its attempt `original`, an action,
    is unresolved on an authority for which the condition holds. -/
def unresolvedOriginal (condition : AssignmentEffectAuthority → Bool) (result : AssignmentReduceResult) : Bool :=
  decide (result.projection.terminal_state = .open ∧ result.projection.run_id = some "run"
      ∧ result.projection.pending_clarification_id = none ∧ result.projection.pending_review_id = none)
    && result.projection.attempts.any fun attempt => decide (attempt.attempt_id = "original"
      ∧ attempt.purpose = .action) && attempt.isUnresolved && condition attempt.effect.authority

theorem unresolvedOriginal_spec {condition : AssignmentEffectAuthority → Bool} {result : AssignmentReduceResult}
    (h : unresolvedOriginal condition result) :
    Ready result.projection ∧ ∃ attempt ∈ result.projection.attempts, attempt.attempt_id = "original"
      ∧ attempt.purpose = .action ∧ attempt.isUnresolved ∧ condition attempt.effect.authority := by
  simp only [unresolvedOriginal, Bool.and_eq_true, decide_eq_true_eq, List.any_eq_true] at h
  obtain ⟨⟨hopen, hrun, hclarification, hreview⟩, attempt, hmem, ⟨⟨hid, hpurpose⟩, hunresolved⟩, hcondition⟩ := h
  exact ⟨⟨hopen, ⟨"run", hrun, by decide⟩, hclarification, hreview⟩, attempt, hmem, hid, hpurpose, hunresolved, hcondition⟩

/-- What dispatch left unknown can be resolved. -/
theorem dispatched_apply_resolvable : ∃ result, reduceAssignmentControlPlane epochHost "assignment" dispatchedApply = .ok result
    ∧ ResolvedByFurther epochHost "assignment" dispatchedApply result "original" := by
  have hrun : ((reduceAssignmentControlPlane epochHost "assignment" dispatchedApply).toOption.any
      (unresolvedOriginal fun source => effectAuthorityRank source < 4)) = true := by
    decide +kernel
  simp only [Option.any_eq_true, toOption_eq_some] at hrun
  obtain ⟨result, hresult, hstate⟩ := hrun
  obtain ⟨hready, attempt, hmem, hid, _, hunresolved, hlow⟩ := unresolvedOriginal_spec hstate
  refine ⟨result, hresult, ?_⟩
  rw [← hid]
  refine (unresolved_effect_resolvable_iff epochHost "assignment" dispatchedApply result hresult hready attempt hmem ?_).2
    (.inl (by simpa using hlow))
  exact List.mem_map_of_mem (List.mem_filter.2 ⟨hmem, hunresolved⟩)

/-- A reconciliation of it whose first answer is inconclusive. -/
def inconclusiveReconciliation : List AssignmentAttemptEvent := dispatchedApply ++ [
  sampleEvent "4" (some "reading") .attempt_opened
    [("requested_effect", "read"), ("purpose", "reconciliation"), ("target_fingerprint", "wall"),
      ("reconciliation_of_attempt_id", "original")],
  sampleEvent "5" (some "reading") .reconciliation_started [],
  sampleEvent "6" (some "reading") .reconciliation_resolved [("effect_state", "unknown")]]

/-- The assignment is locked by it. -/
theorem inconclusive_reconciliation_locks :
    ∃ result, reduceAssignmentControlPlane epochHost "assignment" inconclusiveReconciliation = .ok result
      ∧ Ready result.projection ∧ "original" ∈ result.projection.unresolved_unknown_attempt_ids
      ∧ ¬ ResolvedByFurther epochHost "assignment" inconclusiveReconciliation result "original" := by
  have hrun : ((reduceAssignmentControlPlane epochHost "assignment" inconclusiveReconciliation).toOption.any
      (unresolvedOriginal fun source => 4 ≤ effectAuthorityRank source)) = true := by
    decide +kernel
  simp only [Option.any_eq_true, toOption_eq_some] at hrun
  obtain ⟨result, hresult, hstate⟩ := hrun
  obtain ⟨hready, attempt, hmem, hid, hpurpose, hunresolved, hfour⟩ := unresolvedOriginal_spec hstate
  have hlocked : Locked result.projection "original" := by
    refine ⟨attempt, hmem, hid, hunresolved, ?_⟩
    rintro (hlow | ⟨hreconciliation, _⟩)
    · simp only [decide_eq_true_eq] at hfour
      omega
    · rw [hpurpose] at hreconciliation
      cases hreconciliation
  refine ⟨result, hresult, hready, hlocked.mem_unresolved, ?_⟩
  rw [resolvedByFurther_iff hresult]
  exact Locked.not_resolvable (reduce_invariants hresult).1 hlocked

end revit_operator.assignment_control_plane
