import RevitOperator.ControlPlane.InFlight
import RevitOperator.ControlPlane.Reconciliation
import RevitOperator.ControlPlane.SettlementBarrier

open checked checked_run

namespace revit_operator.assignment_control_plane

open AssignmentControlPlaneProjection

section identity

variable {host : BarrierHost} {current : AssignmentControlPlaneProjection} {time : String}

/-- The keys of an identity are no array indices, so it is written in its own
    order. -/
theorem enumerated_eventIdentity (attempt_id : String) (kind : EventKind) (data : Json) :
    (eventIdentity current attempt_id kind data time).enumerated = .obj [
      ("assignment_id", .str current.assignment_id), ("run_id", ((current.run_id.map Json.str).getD .null).enumerated),
      ("generation", .num current.generation), ("attempt_id", .str attempt_id), ("kind", .str kind.name),
      ("data", data.enumerated), ("at", .str time)] := by
  have hkeys : ∀ key ∈ ["assignment_id", "run_id", "generation", "attempt_id", "kind", "data", "at"],
      Json.arrayIndex? key = none := by
    decide +kernel
  simp only [List.forall_mem_cons, List.not_mem_nil, false_imp_iff, implies_true, and_true] at hkeys
  obtain ⟨hassignment, hrun, hgeneration, hattempt, hkind, hdata, htime⟩ := hkeys
  simp [eventIdentity, Json.enumerated, Json.enumeratedMembers, Json.enumerationOrder, hassignment, hrun, hgeneration,
    hattempt, hkind, hdata, htime]

/-- Events of the barrier about different attempts, or of different kinds, have
    different identities. -/
theorem barrierEvent_id_ne (hsha : Function.Injective host.sha256) {first second : String} {kind other : EventKind}
    {data given : Json} (hne : first ≠ second ∨ kind.name ≠ other.name) :
    (barrierEvent host current first kind data time).event_id ≠ (barrierEvent host current second other given time).event_id := by
  intro hsame
  simp only [barrierEvent, String.append_right_inj] at hsame
  have htext := String.toByteArray_inj.1 (hsha hsame)
  rw [Json.stringify_inj, enumerated_eventIdentity, enumerated_eventIdentity] at htext
  simp only [Json.obj.injEq, List.cons.injEq, Prod.mk.injEq, Json.str.injEq, true_and, and_true] at htext
  obtain ⟨hattempt, hkind, _⟩ := htext
  exact hne.elim (fun h => h hattempt) fun h => h hkind

end identity

/-- What every projection of a run satisfies, while it is open. -/
structure OpenOrder (projection : AssignmentControlPlaneProjection) : Prop where
  unique : UniqueIds projection
  named : NamedIds projection
  order : InFlightOrder projection
  terminal_state : projection.terminal_state = .open

/-- What the barrier leaves of an attempt it records something of. -/
structure LeaseKept (before after : AssignmentAttemptRecord) : Prop where
  attempt_id : after.attempt_id = before.attempt_id
  generation : after.generation = before.generation
  deadline_at : after.lease.deadline_at = before.lease.deadline_at

theorem LeaseKept.refl (attempt : AssignmentAttemptRecord) : LeaseKept attempt attempt :=
  ⟨rfl, rfl, rfl⟩

theorem LeaseKept.trans {first second third : AssignmentAttemptRecord} (hfirst : LeaseKept first second)
    (hsecond : LeaseKept second third) : LeaseKept first third :=
  ⟨hsecond.attempt_id.trans hfirst.attempt_id, hsecond.generation.trans hfirst.generation,
    hsecond.deadline_at.trans hfirst.deadline_at⟩

section events

variable {host : BarrierHost} {projection next : AssignmentControlPlaneProjection} {attempt : AssignmentAttemptRecord}
  {time : String}

theorem OpenOrder.of_accept {event : AssignmentAttemptEvent} (horder : OpenOrder projection)
    (h : accept host.toControlPlaneHost projection event = .ok next) (hopen : next.terminal_state = .open) : OpenOrder next :=
  ⟨horder.unique.of_accept h, horder.named.of_accept horder.unique h, horder.order.of_accept horder.unique h, hopen⟩

theorem barrierEvent_fenced {kind : EventKind} {data : Json} (horder : OpenOrder projection)
    (hmem : attempt ∈ projection.attempts) (hkind : kind ≠ .run_started) :
    Fenced projection (barrierEvent host projection attempt.attempt_id kind data time) := by
  have hrun := horder.order.run fun hnone => by rw [hnone] at hmem; cases hmem
  refine ⟨rfl, rfl, horder.terminal_state, fun hstarted => absurd hstarted hkind, fun _ => ⟨hrun, ?_, rfl⟩⟩
  cases hid : projection.run_id with
  | none => simp [hid] at hrun
  | some run => simp [barrierEvent, hid]

theorem barrierEvent_attemptFor {kind : EventKind} {data : Json} (horder : OpenOrder projection)
    (hmem : attempt ∈ projection.attempts) :
    projection.attemptFor (barrierEvent host projection attempt.attempt_id kind data time) = some attempt := by
  rw [attemptFor, barrierEvent]
  simp [Option.filter, (horder.named attempt hmem).1, find_of_mem horder.unique hmem]

theorem accept_barrierEvent {kind : EventKind} {data : Json} (horder : OpenOrder projection)
    (hmem : attempt ∈ projection.attempts) (hkind : kind = .effect_recorded ∨ kind = .lease_recorded ∨ kind = .attempt_terminal) :
    accept host.toControlPlaneHost projection (barrierEvent host projection attempt.attempt_id kind data time)
      = applyAttemptEvent projection (barrierEvent host projection attempt.attempt_id kind data time) attempt data.row := by
  have hstarted : kind ≠ .run_started := by
    rintro rfl
    simp at hkind
  rw [accept, rejectReason_eq_ok.2 (barrierEvent_fenced horder hmem hstarted), ok_bind, applyAcceptedEvent,
    barrierEvent_attemptFor horder hmem]
  obtain rfl | rfl | rfl := hkind <;> rfl

theorem AssignmentControlPlaneProjection.put_self (hunique : UniqueIds projection) (hmem : attempt ∈ projection.attempts) :
    (projection.put attempt).attempts = projection.attempts := by
  rw [put]
  refine (List.map_congr_left fun other hother => ?_).trans (List.map_id _)
  split
  · next hid => exact (eq_of_attempt_id hunique hother hmem hid).symm
  · rfl

theorem AssignmentControlPlaneProjection.put_put {first second : AssignmentAttemptRecord}
    (hid : second.attempt_id = first.attempt_id) :
    ((projection.put first).put second).attempts = (projection.put second).attempts := by
  simp only [put, List.map_map]
  refine List.map_congr_left fun other _ => ?_
  simp only [Function.comp_apply, hid]
  by_cases hother : other.attempt_id = first.attempt_id
  · simp [hother]
  · simp [hother]

/-- What is left of an attempt after the barrier recorded its effect. -/
structure EffectSettled (before after : AssignmentAttemptRecord) : Prop where
  lease : LeaseKept before after
  terminal_state : after.terminal_state = before.terminal_state
  unknown : settlesAsUnknown before = false → (after.effect.state = .unknown ↔ before.effect.state = .unknown)

theorem expiredEffect_pending (attempt : AssignmentAttemptRecord) :
    ((expiredEffect attempt).row.field "settlement_pending_evidence").isBool true = true := by
  rfl

/-- An attempt that does not settle as unknown gets no effect on an authority
    below the native ones. -/
theorem expiredEffect_none (hnone : settlesAsUnknown attempt = false) :
    (EffectData.ofEvent (expiredEffect attempt).row).effect_state = some .none
      ∧ ∃ source, (EffectData.ofEvent (expiredEffect attempt).row).effect_authority = some source
        ∧ effectAuthorityRank source < 4 := by
  by_cases hmay : mayHaveDispatched attempt
  · simp only [expiredEffect, hnone, hmay, if_true]
    exact ⟨rfl, .worker, rfl, by decide⟩
  · simp only [expiredEffect, hnone, hmay]
    exact ⟨rfl, .transport_pre_dispatch, rfl, by decide⟩

theorem settledBy_pending (attempt : AssignmentAttemptRecord) {data : Json} (hpending : (data.field "settlement_pending_evidence").isBool true = true) :
    (settledBy attempt data).terminal_state = attempt.terminal_state
      ∧ (settledBy attempt data).lease.deadline_at = attempt.lease.deadline_at := by
  rw [settledBy]
  split
  · next hsettled => simp [hpending] at hsettled
  · split
    · exact ⟨rfl, rfl⟩
    · exact ⟨rfl, rfl⟩

theorem accept_expiredEffect (host : BarrierHost) (time : String) (horder : OpenOrder projection) (hmem : attempt ∈ projection.attempts) :
    (∃ next updated, accept host.toControlPlaneHost projection
        (barrierEvent host projection attempt.attempt_id .effect_recorded (expiredEffect attempt) time) = .ok next
      ∧ next.attempts = (projection.put updated).attempts ∧ EffectSettled attempt updated
      ∧ next.terminal_state = .open ∧ SameRun projection next)
    ∨ ∃ reason, accept host.toControlPlaneHost projection
        (barrierEvent host projection attempt.attempt_id .effect_recorded (expiredEffect attempt) time)
      = .error (.rejected reason) := by
  rw [accept_barrierEvent horder hmem (.inl rfl)]
  have hhandler : applyAttemptEvent projection (barrierEvent host projection attempt.attempt_id .effect_recorded
      (expiredEffect attempt) time) attempt (expiredEffect attempt).row
      = effect_recorded projection attempt (expiredEffect attempt).row := rfl
  rw [hhandler, effect_recorded]
  cases happlied : applyEffect attempt (.ofEvent (expiredEffect attempt).row) with
  | error reason =>
    refine .inr ⟨reason, ?_⟩
    rw [applied, happlied]
    rfl
  | ok updated =>
    left
    rw [applied_eq_ok.2 happlied, ok_bind]
    obtain ⟨hsubject, heffect, _, _⟩ := settledBy_step updated (expiredEffect attempt).row
    obtain ⟨hterminal, hdeadline⟩ := settledBy_pending updated (expiredEffect_pending attempt)
    obtain ⟨state, source, _, _, _, _, _, hsource, hstate, haccepted, hfinal⟩ := applyEffect_ok happlied
    refine ⟨_, _, rfl, rfl, ⟨⟨?_, ?_, ?_⟩, ?_, fun hnone => ?_⟩, horder.terminal_state, ⟨rfl, rfl, rfl, rfl, rfl⟩⟩
    · rw [hsubject.attempt_id, hfinal]
    · rw [hsubject.generation, hfinal]
    · rw [hdeadline, hfinal]
    · rw [hterminal, hfinal]
    · obtain ⟨hgiven, low, hlow, hrank⟩ := expiredEffect_none hnone
      rw [hgiven, Option.map_some, effectiveState, if_neg (by simp)] at hstate
      obtain rfl : AssignmentEffectState.none = state := Option.some.inj hstate
      obtain rfl : low = source := Option.some.inj (hlow.symm.trans hsource)
      rw [heffect, hfinal]
      constructor
      · intro hunknown
        cases hunknown
      · intro hunknown
        exact absurd (haccepted.resolves hunknown (by decide)) (by omega)

theorem settlingKind_mem (attempt : AssignmentAttemptRecord) :
    settlingKind attempt = .effect_recorded ∨ settlingKind attempt = .lease_recorded
    ∨ settlingKind attempt = .attempt_terminal := by
  rw [settlingKind]
  split
  · exact .inr (.inl rfl)
  · exact .inr (.inr rfl)

/-- The barrier settles an attempt unless its effect is unknown and the barrier
    took it for an effect that is not. -/
theorem accept_settling (host : BarrierHost) (time : String) {now : AssignmentAttemptRecord}
    (horder : OpenOrder projection) (hmem : now ∈ projection.attempts)
    (hsettles : now.effect.state = .unknown → settlesAsUnknown attempt) :
    ∃ next updated, accept host.toControlPlaneHost projection
        (barrierEvent host projection now.attempt_id (settlingKind attempt) (settlingData attempt) time) = .ok next
      ∧ next.attempts = (projection.put updated).attempts ∧ LeaseKept now updated ∧ updated.terminal_state = .settled
      ∧ next.terminal_state = .open ∧ SameRun projection next := by
  rw [accept_barrierEvent horder hmem (settlingKind_mem attempt)]
  by_cases hunknown : settlesAsUnknown attempt
  · have hkind : settlingKind attempt = .lease_recorded := if_pos hunknown
    have hdata : leaseState ((settlingData attempt).row.field "lease_state") = some .effect_unknown := by
      rw [settlingData, if_pos hunknown]
      rfl
    have hhandler : applyAttemptEvent projection (barrierEvent host projection now.attempt_id (settlingKind attempt)
        (settlingData attempt) time) now (settlingData attempt).row
        = lease_recorded projection now (settlingData attempt).row := by
      rw [hkind]
      rfl
    rw [hhandler, lease_recorded, hdata]
    exact ⟨_, _, rfl, rfl, ⟨rfl, rfl, rfl⟩, rfl, horder.terminal_state, ⟨rfl, rfl, rfl, rfl, rfl⟩⟩
  · have hkind : settlingKind attempt = .attempt_terminal := if_neg hunknown
    have hhandler : applyAttemptEvent projection (barrierEvent host projection now.attempt_id (settlingKind attempt)
        (settlingData attempt) time) now (settlingData attempt).row
        = attempt_terminal projection now (settlingData attempt).row := by
      rw [hkind]
      rfl
    have hknown : now.effect.state ≠ .unknown := fun hstate => hunknown (hsettles hstate)
    rw [hhandler, attempt_terminal, require_of hknown, ok_bind]
    exact ⟨_, _, rfl, rfl, ⟨rfl, rfl, rfl⟩, rfl, horder.terminal_state, ⟨rfl, rfl, rfl, rfl, rfl⟩⟩

theorem reject_settling (host : BarrierHost) (time : String) {now : AssignmentAttemptRecord}
    (horder : OpenOrder projection) (hmem : now ∈ projection.attempts)
    (hunknown : now.effect.state = .unknown) (hnone : settlesAsUnknown attempt = false) :
    ∃ reason, accept host.toControlPlaneHost projection
        (barrierEvent host projection now.attempt_id (settlingKind attempt) (settlingData attempt) time)
      = .error (.rejected reason) := by
  rw [accept_barrierEvent horder hmem (settlingKind_mem attempt)]
  have hkind : settlingKind attempt = .attempt_terminal := if_neg (by simp [hnone])
  have hhandler : applyAttemptEvent projection (barrierEvent host projection now.attempt_id (settlingKind attempt)
      (settlingData attempt) time) now (settlingData attempt).row
      = attempt_terminal projection now (settlingData attempt).row := by
    rw [hkind]
    rfl
  rw [hhandler, attempt_terminal, require, if_neg (not_not_intro hunknown)]
  exact ⟨_, rfl⟩

end events

end revit_operator.assignment_control_plane
