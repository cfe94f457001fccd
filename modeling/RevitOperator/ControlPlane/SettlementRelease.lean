import RevitOperator.ControlPlane.BarrierEvents
import RevitOperator.ControlPlane.GoalLog

open checked checked_run
open text (bytesAsText bytesAsText_injective)

namespace revit_operator.assignment_control_plane

open AssignmentControlPlaneProjection

/-- When the barrier settles an attempt whose time is over: the settling event is
    new to the goal, the effect is not unknown unless the attempt is an apply that
    may have been handed over, and the goal has no verdict, or loses it to the
    effect the barrier recorded before. -/
structure Settles (host : BarrierHost) (goal : GoalRecord) (projection : AssignmentControlPlaneProjection) (time : String)
    (attempt : AssignmentAttemptRecord) : Prop where
  fresh : (barrierEvent host projection attempt.attempt_id (settlingKind attempt) (settlingData attempt) time).event_id
    ∉ goal.event_ids
  effect : attempt.effect.state = .unknown → settlesAsUnknown attempt
  taken : goal.status.isTerminal → projection.outcome_state = .awaiting_user_input
    ∧ (barrierEvent host projection attempt.attempt_id .effect_recorded (expiredEffect attempt) time).event_id
      ∈ goal.events.map AssignmentAttemptEvent.event_id

section turn

variable {host : BarrierHost} {goal : GoalRecord} {result : AssignmentReduceResult} {attempt : AssignmentAttemptRecord}
  {time : String}

theorem statusAfter_open {event : AssignmentAttemptEvent} {accepted : Bool} {current : AssignmentControlPlaneProjection}
    (hopen : current.terminal_state = .open) (hkind : event.kind ≠ .clarification_resolved) :
    (statusAfter goal event accepted current).isTerminal
      ↔ goal.status.isTerminal ∧ ¬ (accepted ∧ current.outcome_state = .awaiting_user_input) := by
  rw [statusAfter, if_neg fun h => h.2 hopen]
  by_cases hawaiting : accepted = true ∧ current.outcome_state = .awaiting_user_input
  · rw [if_pos hawaiting]
    exact ⟨fun hpaused => absurd hpaused (by decide), fun h => absurd hawaiting h.2⟩
  · rw [if_neg hawaiting, if_neg fun h => hkind h.2]
    exact ⟨fun hterminal => ⟨hterminal, hawaiting⟩, And.left⟩

/-- What the first event of a turn leaves: the effect of the attempt. -/
structure EffectTurn (host : BarrierHost) (goal : GoalRecord) (result : AssignmentReduceResult)
    (attempt : AssignmentAttemptRecord) (time : String) (recorded : Standing) (after : AssignmentReduceResult)
    (now : AssignmentAttemptRecord) : Prop where
  ok : appendBarrierEvent host (goal, result.projection) attempt.attempt_id .effect_recorded (expiredEffect attempt) time
    = .ok recorded
  id : recorded.1.id = goal.id
  stands : StandsAt host.toControlPlaneHost recorded.1 after
  projection : recorded.2 = after.projection
  order : OpenOrder after.projection
  run : SameRun result.projection after.projection
  attempts : after.projection.attempts = (result.projection.put now).attempts
  settled : EffectSettled attempt now
  kept : ∀ id ∈ goal.event_ids, id ∈ recorded.1.event_ids
  ids : ∀ id ∈ recorded.1.event_ids, id ∈ goal.event_ids
    ∨ id = (barrierEvent host result.projection attempt.attempt_id .effect_recorded (expiredEffect attempt) time).event_id
  status : recorded.1.status.isTerminal ↔ goal.status.isTerminal
    ∧ ¬ (result.projection.outcome_state = .awaiting_user_input
      ∧ (barrierEvent host result.projection attempt.attempt_id .effect_recorded (expiredEffect attempt) time).event_id
        ∈ goal.events.map AssignmentAttemptEvent.event_id)

theorem effect_turn (time : String) (hstands : StandsAt host.toControlPlaneHost goal result) (horder : OpenOrder result.projection)
    (hmem : attempt ∈ result.projection.attempts) : ∃ recorded after now, EffectTurn host goal result attempt time recorded after now := by
  have hanswers := accept_expiredEffect host time horder hmem
  obtain ⟨appended, after, happended⟩ := append_ok (barrierEvent host result.projection attempt.attempt_id
    .effect_recorded (expiredEffect attempt) time) hstands rfl
    (hanswers.imp (fun ⟨next, _, hnext, _⟩ => ⟨next, hnext⟩) fun h => h)
  have hstate : ∃ now, after.projection.attempts = (result.projection.put now).attempts ∧ EffectSettled attempt now
      ∧ OpenOrder after.projection ∧ SameRun result.projection after.projection := by
    by_cases htakes : Takes goal (barrierEvent host result.projection attempt.attempt_id .effect_recorded
        (expiredEffect attempt) time)
    · obtain ⟨next, updated, hnext, hattempts, hsettled, hopen, hrun⟩ | ⟨reason, hreason⟩ := hanswers
      · rw [happended.taken next htakes hnext]
        exact ⟨updated, hattempts, hsettled, horder.of_accept hnext hopen, hrun⟩
      · rw [happended.refused (.inr fun next hnext => by rw [hreason] at hnext; cases hnext)]
        exact ⟨attempt, (put_self horder.unique hmem).symm, ⟨.refl attempt, rfl, fun _ => Iff.rfl⟩, horder, rfl, rfl, rfl, rfl, rfl⟩
    · rw [happended.refused (.inl htakes)]
      exact ⟨attempt, (put_self horder.unique hmem).symm, ⟨.refl attempt, rfl, fun _ => Iff.rfl⟩, horder, rfl, rfl, rfl, rfl, rfl⟩
  obtain ⟨now, hattempts, hsettled, horderAfter, hrun⟩ := hstate
  refine ⟨(appended.goal, appended.projection), after, now, ?_, happended.id, happended.stands, happended.projection,
    horderAfter, hrun, hattempts, hsettled, happended.kept, happended.ids, ?_⟩
  · rw [appendBarrierEvent, happended.ok, ok_bind]
  · rw [happended.status, statusAfter_open horderAfter.terminal_state (by simp [barrierEvent]), hrun.outcome_state]
    constructor
    · rintro ⟨hterminal, hnot⟩
      exact ⟨hterminal, fun h => hnot ⟨(happended.accepted hterminal).2 h.2, h.1⟩⟩
    · rintro ⟨hterminal, hnot⟩
      exact ⟨hterminal, fun h => hnot ⟨h.2, (happended.accepted hterminal).1 h.1⟩⟩

theorem barrierEvent_congr (host : BarrierHost) (time : String) {projection current : AssignmentControlPlaneProjection} (hrun : SameRun projection current)
    (id : String) (kind : EventKind) (data : Json) :
    barrierEvent host current id kind data time = barrierEvent host projection id kind data time := by
  rw [barrierEvent, barrierEvent, eventIdentity, eventIdentity, hrun.assignment_id, hrun.run_id, hrun.generation]

theorem AssignmentControlPlaneProjection.put_congr {projection current : AssignmentControlPlaneProjection}
    (hattempts : current.attempts = projection.attempts) (updated : AssignmentAttemptRecord) :
    (current.put updated).attempts = (projection.put updated).attempts := by
  rw [AssignmentControlPlaneProjection.put, hattempts, AssignmentControlPlaneProjection.put]

theorem settlingKind_name_ne : EventKind.name .effect_recorded ≠ (settlingKind attempt).name := by
  rw [settlingKind]
  split
  · decide
  · decide

/-- What a whole turn of the barrier leaves. -/
structure Turn (host : BarrierHost) (goal : GoalRecord) (result : AssignmentReduceResult)
    (attempt : AssignmentAttemptRecord) (time : String) (standing : Standing) (after : AssignmentReduceResult)
    (now : AssignmentAttemptRecord) : Prop where
  ok : settleExpired host time (goal, result.projection) attempt = .ok standing
  stands : StandsAt host.toControlPlaneHost standing.1 after
  projection : standing.2 = after.projection
  order : OpenOrder after.projection
  run : SameRun result.projection after.projection
  attempts : after.projection.attempts = (result.projection.put now).attempts
  lease : LeaseKept attempt now
  active : now.terminal_state = .active ↔ ¬ Settles host goal result.projection time attempt
  kept : ∀ id ∈ goal.event_ids, id ∈ standing.1.event_ids
  ids : ∀ id ∈ standing.1.event_ids, id ∈ goal.event_ids ∨ ∃ kind data,
    id = (barrierEvent host result.projection attempt.attempt_id kind data time).event_id
  status : result.projection.outcome_state ≠ .awaiting_user_input →
    (standing.1.status.isTerminal ↔ goal.status.isTerminal)

/-- The settling event is taken after the effect was recorded exactly when the
    barrier settles the attempt. -/
theorem EffectTurn.takes_iff (hsha : Function.Injective host.sha256) {recorded : Standing} {mid : AssignmentReduceResult}
    {now : AssignmentAttemptRecord} (h : EffectTurn host goal result attempt time recorded mid now) :
    (Takes recorded.1 (barrierEvent host result.projection attempt.attempt_id (settlingKind attempt) (settlingData attempt) time)
        ∧ (now.effect.state = .unknown → settlesAsUnknown attempt))
      ↔ Settles host goal result.projection time attempt := by
  have hfresh : (barrierEvent host result.projection attempt.attempt_id (settlingKind attempt) (settlingData attempt)
      time).event_id ∈ recorded.1.event_ids ↔ (barrierEvent host result.projection attempt.attempt_id (settlingKind attempt)
      (settlingData attempt) time).event_id ∈ goal.event_ids := by
    refine ⟨fun hid => (h.ids _ hid).resolve_right fun hsame => ?_, h.kept _⟩
    exact barrierEvent_id_ne hsha (.inr settlingKind_name_ne) hsame.symm
  have heffect : (now.effect.state = .unknown → settlesAsUnknown attempt = true)
      ↔ (attempt.effect.state = .unknown → settlesAsUnknown attempt = true) := by
    by_cases hunknown : settlesAsUnknown attempt = true
    · exact ⟨fun _ _ => hunknown, fun _ _ => hunknown⟩
    · rw [h.settled.unknown (by simpa using hunknown)]
  constructor
  · rintro ⟨⟨hnew, hopen⟩, hsettles⟩
    refine ⟨fun hid => hnew (hfresh.2 hid), heffect.1 hsettles, fun hterminal => ?_⟩
    by_contra hnot
    exact hopen (h.status.2 ⟨hterminal, hnot⟩)
  · rintro ⟨hnew, hsettles, htaken⟩
    refine ⟨⟨fun hid => hnew (hfresh.1 hid), fun hterminal => ?_⟩, heffect.2 hsettles⟩
    obtain ⟨hbefore, hnot⟩ := h.status.1 hterminal
    exact hnot (htaken hbefore)

theorem turn_ok (time : String) (hsha : Function.Injective host.sha256) (hstands : StandsAt host.toControlPlaneHost goal result)
    (horder : OpenOrder result.projection) (hmem : attempt ∈ result.projection.attempts)
    (hactive : attempt.terminal_state = .active) : ∃ standing after now, Turn host goal result attempt time standing after now := by
  obtain ⟨recorded, mid, now, hturn⟩ := effect_turn time hstands horder hmem
  have hnow : now ∈ mid.projection.attempts := by
    rw [hturn.attempts]
    exact mem_put hmem hturn.settled.lease.attempt_id
  have hevent := barrierEvent_congr host time hturn.run attempt.attempt_id (settlingKind attempt)
    (settlingData attempt)
  have hnamed : now.attempt_id = attempt.attempt_id := hturn.settled.lease.attempt_id
  -- The reducer accepts the settling event unless the effect stands in its way.
  have hanswers : Answers host.toControlPlaneHost mid.projection (barrierEvent host mid.projection attempt.attempt_id
      (settlingKind attempt) (settlingData attempt) time) := by
    by_cases hsettles : now.effect.state = .unknown → settlesAsUnknown attempt = true
    · obtain ⟨next, _, hnext, _⟩ := accept_settling host time hturn.order hnow hsettles
      rw [hnamed] at hnext
      exact .inl ⟨next, hnext⟩
    · rw [Classical.not_imp] at hsettles
      obtain ⟨reason, hreason⟩ := reject_settling host time hturn.order hnow hsettles.1
        (by simpa using hsettles.2)
      rw [hnamed] at hreason
      exact .inr ⟨reason, hreason⟩
  obtain ⟨appended, after, happended⟩ := append_ok _ hturn.stands rfl hanswers
  have hok : settleExpired host time (goal, result.projection) attempt = .ok (appended.goal, appended.projection) := by
    rw [settleExpired, find_of_mem horder.unique hmem, Option.getD_some, hturn.ok, ok_bind, appendBarrierEvent,
      hturn.projection, happended.ok, ok_bind]
  have htakes := hturn.takes_iff hsha
  rw [← hevent] at htakes
  have hstate : ∃ final, after.projection.attempts = (mid.projection.put final).attempts ∧ LeaseKept now final
      ∧ (final.terminal_state = .active ↔ ¬ Settles host goal result.projection time attempt)
      ∧ OpenOrder after.projection ∧ SameRun mid.projection after.projection := by
    by_cases hsettles : Settles host goal result.projection time attempt
    · obtain ⟨htaken, heffect⟩ := htakes.2 hsettles
      obtain ⟨next, updated, hnext, hattempts, hlease, hsettled, hopen, hrun⟩ :=
        accept_settling host time hturn.order hnow heffect
      rw [hnamed] at hnext
      rw [happended.taken next htaken hnext]
      refine ⟨updated, hattempts, hlease, ?_, hturn.order.of_accept hnext hopen, hrun⟩
      rw [hsettled]
      constructor
      · intro hactive
        cases hactive
      · exact fun hnot => absurd hsettles hnot
    · have hrefused : after.projection = mid.projection := by
        refine happended.refused ?_
        by_cases heffect : now.effect.state = .unknown → settlesAsUnknown attempt = true
        · exact .inl fun htaken => hsettles (htakes.1 ⟨htaken, heffect⟩)
        · rw [Classical.not_imp] at heffect
          obtain ⟨reason, hreason⟩ := reject_settling host time hturn.order hnow heffect.1
            (by simpa using heffect.2)
          rw [hnamed] at hreason
          refine .inr fun next hnext => ?_
          rw [hreason] at hnext
          cases hnext
      rw [hrefused]
      refine ⟨now, (put_self hturn.order.unique hnow).symm, .refl now, ?_, hturn.order, rfl, rfl, rfl, rfl, rfl⟩
      rw [hturn.settled.terminal_state]
      exact ⟨fun _ => hsettles, fun _ => hactive⟩
  obtain ⟨final, hattempts, hlease, hended, horderAfter, hrun⟩ := hstate
  refine ⟨_, after, final, hok, happended.stands, happended.projection, horderAfter, ?_, ?_,
    hturn.settled.lease.trans hlease, hended, ?_, ?_, ?_⟩
  · exact ⟨hrun.assignment_id.trans hturn.run.assignment_id, hrun.run_id.trans hturn.run.run_id,
      hrun.generation.trans hturn.run.generation, hrun.outcome_state.trans hturn.run.outcome_state,
      hrun.pending_clarification_id.trans hturn.run.pending_clarification_id⟩
  · rw [hattempts, put_congr hturn.attempts, put_put hlease.attempt_id]
  · exact fun id hid => happended.kept id (hturn.kept id hid)
  · intro id hid
    obtain hbefore | rfl := happended.ids id hid
    · exact (hturn.ids id hbefore).imp (fun h => h) fun h => ⟨_, _, h⟩
    · rw [hevent]
      exact .inr ⟨_, _, rfl⟩
  · intro hanswered
    have houtcome : after.projection.outcome_state ≠ .awaiting_user_input := by
      rw [hrun.outcome_state, hturn.run.outcome_state]
      exact hanswered
    have hkind : (barrierEvent host mid.projection attempt.attempt_id (settlingKind attempt) (settlingData attempt)
        time).kind ≠ .clarification_resolved := by
      intro hkind
      obtain hthis | hthis | hthis := settlingKind_mem attempt <;>
        simp [barrierEvent, hthis] at hkind
    rw [happended.status, statusAfter_open horderAfter.terminal_state hkind, hturn.status]
    exact ⟨fun h => h.1.1, fun hterminal => ⟨⟨hterminal, fun h => hanswered h.1⟩, fun h => houtcome h.2⟩⟩

theorem Turn.settles_iff (hsha : Function.Injective host.sha256) {standing : Standing} {after : AssignmentReduceResult}
    {now other : AssignmentAttemptRecord} (h : Turn host goal result attempt time standing after now)
    (hother : other.attempt_id ≠ attempt.attempt_id)
    (hanswered : result.projection.outcome_state ≠ .awaiting_user_input) :
    Settles host standing.1 after.projection time other ↔ Settles host goal result.projection time other := by
  have hids : ∀ kind data, (barrierEvent host after.projection other.attempt_id kind data time).event_id ∈ standing.1.event_ids
      ↔ (barrierEvent host result.projection other.attempt_id kind data time).event_id ∈ goal.event_ids := by
    intro kind data
    rw [barrierEvent_congr host _ h.run]
    refine ⟨fun hid => (h.ids _ hid).resolve_right ?_, h.kept _⟩
    rintro ⟨_, _, hsame⟩
    exact barrierEvent_id_ne hsha (.inl hother) hsame
  have houtcome : after.projection.outcome_state ≠ .awaiting_user_input := by
    rw [h.run.outcome_state]
    exact hanswered
  constructor
  · rintro ⟨hfresh, heffect, htaken⟩
    refine ⟨fun hid => hfresh ((hids _ _).2 hid), heffect, fun hterminal => ?_⟩
    exact absurd (htaken ((h.status hanswered).2 hterminal)).1 houtcome
  · rintro ⟨hfresh, heffect, htaken⟩
    refine ⟨fun hid => hfresh ((hids _ _).1 hid), heffect, fun hterminal => ?_⟩
    exact absurd (htaken ((h.status hanswered).1 hterminal)).1 hanswered

/-- What the barrier leaves of the attempts when it has gone over some of
    them. -/
structure Settled (host : BarrierHost) (goal : GoalRecord) (result : AssignmentReduceResult) (time : String)
    (pending : List AssignmentAttemptRecord) (after : AssignmentReduceResult)
    (step : AssignmentAttemptRecord → AssignmentAttemptRecord) : Prop where
  run : SameRun result.projection after.projection
  attempts : after.projection.attempts = result.projection.attempts.map step
  lease : ∀ attempt ∈ result.projection.attempts, LeaseKept attempt (step attempt)
  others : ∀ attempt ∈ result.projection.attempts, attempt ∉ pending → step attempt = attempt
  active : ∀ attempt ∈ pending,
    ((step attempt).terminal_state = .active ↔ ¬ Settles host goal result.projection time attempt)

theorem settle_all (time : String) (hsha : Function.Injective host.sha256) (pending : List AssignmentAttemptRecord)
    (hstands : StandsAt host.toControlPlaneHost goal result) (horder : OpenOrder result.projection)
    (hpending : ∀ attempt ∈ pending, attempt ∈ result.projection.attempts ∧ attempt.terminal_state = .active)
    (hnodup : pending.Nodup) (halone : result.projection.outcome_state = .awaiting_user_input → pending.length ≤ 1) :
    ∃ standing after step, pending.foldlM (settleExpired host time) (goal, result.projection) = .ok standing
      ∧ standing.2 = after.projection ∧ Settled host goal result time pending after step := by
  induction pending generalizing goal result with
  | nil =>
    refine ⟨_, result, id, rfl, rfl, ⟨rfl, rfl, rfl, rfl, rfl⟩, (List.map_id _).symm, fun attempt _ => .refl attempt,
      fun _ _ _ => rfl, fun attempt hmem => absurd hmem List.not_mem_nil⟩
  | cons attempt rest ih =>
    obtain ⟨hmem, hactive⟩ := hpending attempt List.mem_cons_self
    obtain ⟨hnew, hrest⟩ := List.nodup_cons.1 hnodup
    obtain ⟨⟨turned, projected⟩, mid, now, hturn⟩ := turn_ok time hsha hstands horder hmem hactive
    obtain rfl : projected = mid.projection := hturn.projection
    have hid : ∀ other ∈ result.projection.attempts, other ≠ attempt → other.attempt_id ≠ attempt.attempt_id :=
      fun other hother hne hsame => hne (eq_of_attempt_id horder.unique hother hmem hsame)
    have hstill : ∀ other ∈ result.projection.attempts, other ≠ attempt → other ∈ mid.projection.attempts := by
      intro other hother hne
      rw [hturn.attempts]
      refine List.mem_map.2 ⟨other, hother, if_neg ?_⟩
      rw [hturn.lease.attempt_id]
      exact hid other hother hne
    have hnow : now ∈ mid.projection.attempts := by
      rw [hturn.attempts]
      exact mem_put hmem hturn.lease.attempt_id
    have hrestNe : ∀ other ∈ rest, other ≠ attempt := fun other hother hsame => hnew (hsame ▸ hother)
    have hnowRest : now ∉ rest := by
      intro hin
      have hold := (hpending now (List.mem_cons_of_mem _ hin)).1
      exact hid now hold (hrestNe now hin) hturn.lease.attempt_id
    obtain ⟨standing, after, step, hfold, hafter, hsettled⟩ := ih hturn.stands hturn.order
      (fun other hother => ⟨hstill other (hpending other (List.mem_cons_of_mem _ hother)).1 (hrestNe other hother),
        (hpending other (List.mem_cons_of_mem _ hother)).2⟩) hrest
      (fun hawaiting => by
        rw [hturn.run.outcome_state] at hawaiting
        have hlength := halone hawaiting
        rw [List.length_cons] at hlength
        omega)
    refine ⟨standing, after, fun other => if other.attempt_id = attempt.attempt_id then step now else step other, ?_, hafter,
      ?_, ?_, ?_, ?_, ?_⟩
    · rw [List.foldlM_cons, hturn.ok, ok_bind]
      exact hfold
    · exact ⟨hsettled.run.assignment_id.trans hturn.run.assignment_id, hsettled.run.run_id.trans hturn.run.run_id,
        hsettled.run.generation.trans hturn.run.generation, hsettled.run.outcome_state.trans hturn.run.outcome_state,
        hsettled.run.pending_clarification_id.trans hturn.run.pending_clarification_id⟩
    · rw [hsettled.attempts, hturn.attempts]
      simp only [AssignmentControlPlaneProjection.put, List.map_map]
      refine List.map_congr_left fun other _ => ?_
      simp only [Function.comp_apply, hturn.lease.attempt_id]
      split
      · rfl
      · rfl
    · intro other hother
      split
      · next hsame =>
        rw [eq_of_attempt_id horder.unique hother hmem hsame]
        exact hturn.lease.trans (hsettled.lease now hnow)
      · next hne => exact hsettled.lease other (hstill other hother fun hsame => hne (hsame ▸ rfl))
    · intro other hother hout
      have hne : other ≠ attempt := fun hsame => hout (hsame ▸ List.mem_cons_self)
      rw [if_neg (hid other hother hne)]
      exact hsettled.others other (hstill other hother hne) fun hin => hout (List.mem_cons_of_mem _ hin)
    · intro other hother
      obtain rfl | hin := List.mem_cons.1 hother
      · rw [if_pos rfl, hsettled.others now hnow hnowRest]
        exact hturn.active
      · have hne := hid other (hpending other hother).1 (hrestNe other hin)
        rw [if_neg hne, hsettled.active other hin, hturn.settles_iff hsha hne]
        intro hawaiting
        have hlength := halone hawaiting
        have hsome := List.length_pos_of_mem hin
        rw [List.length_cons] at hlength
        omega

end turn

section release

variable {host : BarrierHost} {goal : GoalRecord} {result after : AssignmentReduceResult} {now : Int} {time : String}
  {step : AssignmentAttemptRecord → AssignmentAttemptRecord}

theorem StandsAt.openOrder (hstands : StandsAt host.toControlPlaneHost goal result)
    (hopen : result.projection.terminal_state = .open) : OpenOrder result.projection := by
  have hinv : UniqueIds result.projection ∧ InFlightOrder result.projection :=
    feed_invariant (I := fun result => UniqueIds result.projection ∧ InFlightOrder result.projection)
      (fun _ _ _ hinv hstep => reduceEvent_preserves (I := fun projection => UniqueIds projection ∧ InFlightOrder projection)
        (fun _ _ _ hinv hnext => ⟨hinv.1.of_accept hnext, hinv.2.of_accept hinv.1 hnext⟩) hinv hstep)
      ⟨uniqueIds_initial goal.id, inFlightOrder_initial goal.id⟩ hstands
  exact ⟨hinv.1, (reduce_invariants hstands).2, hinv.2, hopen⟩

theorem mem_inFlight {projection : AssignmentControlPlaneProjection} {attempt : AssignmentAttemptRecord} :
    attempt ∈ projection.inFlight ↔ attempt ∈ projection.attempts ∧ attempt.generation = projection.generation
      ∧ attempt.terminal_state = .active := by
  simp [inFlight, isInFlight]

/-- What is in flight after the barrier: the attempts whose time was not over, and
    those it did not settle. -/
theorem Settled.mem_inFlight
    (h : Settled host goal result time (result.projection.inFlight.filter fun attempt => expired host attempt now) after step)
    {left : AssignmentAttemptRecord} :
    left ∈ after.projection.inFlight ↔ ∃ attempt ∈ result.projection.inFlight, step attempt = left
      ∧ (expired host attempt now → ¬ Settles host goal result.projection time attempt) := by
  rw [assignment_control_plane.mem_inFlight, h.attempts, h.run.generation]
  constructor
  · rintro ⟨hmem, hgeneration, hactive⟩
    obtain ⟨attempt, hattempt, rfl⟩ := List.mem_map.1 hmem
    rw [(h.lease attempt hattempt).generation] at hgeneration
    by_cases hpending : attempt ∈ result.projection.inFlight.filter fun attempt => expired host attempt now
    · exact ⟨attempt, (List.mem_filter.1 hpending).1, rfl, fun _ => (h.active attempt hpending).1 hactive⟩
    · rw [h.others attempt hattempt hpending] at hactive
      have hflight := assignment_control_plane.mem_inFlight.2 ⟨hattempt, hgeneration, hactive⟩
      exact ⟨attempt, hflight, rfl, fun hexpired => absurd (List.mem_filter.2 ⟨hflight, hexpired⟩) hpending⟩
  · rintro ⟨attempt, hflight, rfl, hkept⟩
    obtain ⟨hattempt, hgeneration, hactive⟩ := assignment_control_plane.mem_inFlight.1 hflight
    refine ⟨List.mem_map_of_mem hattempt, (h.lease attempt hattempt).generation.trans hgeneration, ?_⟩
    by_cases hexpired : expired host attempt now
    · exact (h.active attempt (List.mem_filter.2 ⟨hflight, hexpired⟩)).2 (hkept hexpired)
    · rw [h.others attempt hattempt fun hpending => hexpired (List.mem_filter.1 hpending).2]
      exact hactive

/-- Nothing the barrier leaves in flight is past its deadline. -/
def Released (host : BarrierHost) (projection : AssignmentControlPlaneProjection) (now : Int) : Prop :=
  ∀ attempt ∈ projection.inFlight, ¬ expired host attempt now

theorem expired_congr {before attempt : AssignmentAttemptRecord} (h : LeaseKept before attempt) :
    expired host attempt now = expired host before now := by
  rw [expired, expired, h.deadline_at]

/-- The barrier runs, and leaves in flight what was not past its deadline and what
    it could not settle. -/
theorem settleAssignmentExpiredWork_ok (host : BarrierHost) (goal : GoalRecord) (now : Int)
    (hsha : Function.Injective host.sha256) (hstands : StandsAt host.toControlPlaneHost goal result) (hopen : result.projection.terminal_state = .open)
    (htime : host.toISOString now = some time) :
    ∃ standing after step, settleAssignmentExpiredWork host goal now = .ok standing ∧ standing.2 = after.projection
      ∧ Settled host goal result time (result.projection.inFlight.filter fun attempt => expired host attempt now) after step := by
  have horder := hstands.openOrder hopen
  obtain ⟨standing, after, step, hfold, hafter, hsettled⟩ := settle_all time hsha
    (result.projection.inFlight.filter fun attempt => expired host attempt now) hstands horder
    (fun attempt hpending => by
      obtain ⟨hmem, _, hactive⟩ := assignment_control_plane.mem_inFlight.1 (List.mem_filter.1 hpending).1
      exact ⟨hmem, hactive⟩)
    ((List.Nodup.of_map _ horder.unique).filter _ |>.filter _)
    (fun hawaiting => (List.length_filter_le _ _).trans (horder.order.alone hawaiting).2)
  refine ⟨standing, after, step, ?_, hafter, hsettled⟩
  rw [settleAssignmentExpiredWork, hstands.projection, ok_bind, if_neg (not_not_intro hopen), htime]
  exact hfold

/-- The barrier leaves nothing past its deadline in flight exactly when it settles
    every attempt past its deadline. -/
theorem Settled.released_iff
    (h : Settled host goal result time (result.projection.inFlight.filter fun attempt => expired host attempt now) after step) :
    Released host after.projection now
      ↔ ∀ attempt ∈ result.projection.inFlight, expired host attempt now → Settles host goal result.projection time attempt := by
  constructor
  · intro hreleased attempt hflight hexpired
    by_contra hnot
    have hleft := h.mem_inFlight.2 ⟨attempt, hflight, rfl, fun _ => hnot⟩
    refine hreleased _ hleft ?_
    rw [expired_congr (h.lease attempt (assignment_control_plane.mem_inFlight.1 hflight).1)]
    exact hexpired
  · intro hall left hleft hexpired
    obtain ⟨attempt, hflight, rfl, hkept⟩ := h.mem_inFlight.1 hleft
    rw [expired_congr (h.lease attempt (assignment_control_plane.mem_inFlight.1 hflight).1)] at hexpired
    exact hkept hexpired (hall attempt hflight hexpired)

/-- When everything in flight is past its deadline, nothing is left exactly when
    nothing past its deadline is. -/
theorem Settled.quiescent_iff
    (h : Settled host goal result time (result.projection.inFlight.filter fun attempt => expired host attempt now) after step)
    (hexpired : ∀ attempt ∈ result.projection.inFlight, expired host attempt now) :
    after.projection.quiescent ↔ Released host after.projection now := by
  rw [quiescent, List.isEmpty_iff, List.eq_nil_iff_forall_not_mem]
  constructor
  · exact fun hnone left hleft => absurd hleft (hnone left)
  · intro hreleased left hleft
    obtain ⟨attempt, hflight, rfl, _⟩ := h.mem_inFlight.1 hleft
    refine hreleased _ hleft ?_
    rw [expired_congr (h.lease attempt (assignment_control_plane.mem_inFlight.1 hflight).1)]
    exact hexpired attempt hflight

theorem Released.next_deadline {projection : AssignmentControlPlaneProjection} (h : Released host projection now)
    {deadline : String} (hnext : projection.next_in_flight_deadline = some deadline) {date : Int}
    (hdate : host.parseDate deadline = some date) : now < date := by
  have hmem := List.mem_of_head? hnext
  rw [text.mem_sorted, List.mem_filter] at hmem
  obtain ⟨attempt, hflight, rfl⟩ := List.mem_map.1 hmem.1
  by_contra hpast
  refine h attempt hflight ?_
  rw [expired, hdate, Option.any_some, decide_eq_true_eq]
  omega

end release

/-- Of an open assignment the barrier settles everything past its deadline exactly
    when it settles each attempt that is: with all of them past it the projection is
    quiescent, and at any other instant what is left in flight, with the deadline
    the timer is set to next, lies ahead. -/
theorem settlement_releases_iff (host : BarrierHost) (hsha : Function.Injective host.sha256) (goal : GoalRecord)
    (result : AssignmentReduceResult)
    (hrun : reduceAssignmentControlPlane host.toControlPlaneHost goal.id
      (normalizeAssignmentControlPlane goal.control_plane).events = .ok result)
    (hopen : result.projection.terminal_state = .open) (now : Int) (time : String)
    (htime : host.toISOString now = some time) :
    ∃ goal' after, settleAssignmentExpiredWork host goal now = .ok (goal', after)
      ∧ ((∀ attempt ∈ result.projection.inFlight, expired host attempt now) →
        (after.quiescent ↔ ∀ attempt ∈ result.projection.inFlight, Settles host goal result.projection time attempt))
      ∧ (Released host after now ↔ ∀ attempt ∈ result.projection.inFlight, expired host attempt now →
        Settles host goal result.projection time attempt)
      ∧ (Released host after now → ∀ deadline date, after.next_in_flight_deadline = some deadline →
        host.parseDate deadline = some date → now < date) := by
  obtain ⟨⟨goal', projected⟩, after, step, hok, hprojected, hsettled⟩ :=
    settleAssignmentExpiredWork_ok _ _ _ hsha hrun hopen htime
  obtain rfl : projected = after.projection := hprojected
  refine ⟨goal', after.projection, hok, fun hexpired => ?_, hsettled.released_iff, ?_⟩
  · rw [hsettled.quiescent_iff hexpired, hsettled.released_iff]
    exact ⟨fun hall attempt hflight => hall attempt hflight (hexpired attempt hflight),
      fun hall attempt hflight _ => hall attempt hflight⟩
  · exact fun hreleased deadline date hnext hdate => hreleased.next_deadline hnext hdate

def epochBarrier : BarrierHost where
  toControlPlaneHost := epochHost
  numbers := Json.integerText
  sha256 := bytesAsText

/-- The goal of the assignment `assignment` with a list of events. -/
def sampleGoal (events : List AssignmentAttemptEvent) : GoalRecord :=
  ⟨"assignment", .active, ⟨events, []⟩⟩

/-- A read in flight. -/
def pendingRead : List AssignmentAttemptEvent := [
  sampleEvent "1" none .run_started [],
  sampleEvent "2" (some "reading") .attempt_opened [("requested_effect", "read")]]

/-- The read is released at its deadline. -/
theorem pending_read_released : ∃ goal' after,
    settleAssignmentExpiredWork epochBarrier (sampleGoal pendingRead) 0 = .ok (goal', after) ∧ after.quiescent := by
  have hrun : ((reduceAssignmentControlPlane epochHost "assignment"
      (normalizeAssignmentControlPlane ⟨pendingRead, []⟩).events).toOption.any fun result =>
        decide (result.projection.terminal_state = .open) && result.projection.inFlight.all fun attempt =>
          expired epochBarrier attempt 0 && decide (attempt.effect.state = .none)) = true := by
    decide +kernel
  simp only [Option.any_eq_true, toOption_eq_some, Bool.and_eq_true, decide_eq_true_eq, List.all_eq_true] at hrun
  obtain ⟨result, hresult, hopen, hflight⟩ := hrun
  obtain ⟨goal', after, hok, hquiescent, _⟩ := settlement_releases_iff epochBarrier bytesAsText_injective
    (sampleGoal pendingRead) result hresult hopen 0 "1970-01-01T00:00:00.000Z" rfl
  refine ⟨goal', after, hok, (hquiescent fun attempt hmem => (hflight attempt hmem).1).2 fun attempt hmem => ?_⟩
  refine ⟨?_, fun hunknown => ?_, fun hterminal => absurd hterminal (by decide)⟩
  · have hids : (sampleGoal pendingRead).event_ids = ["1", "2"] := by decide +kernel
    rw [hids]
    intro hid
    have hlength : ∀ id ∈ ["1", "2"], id.length = 1 := by decide
    have hlong := hlength _ hid
    simp only [barrierEvent, String.length_append] at hlong
    have hprefix : "sha256:".length = 7 := by decide
    omega
  · rw [(hflight attempt hmem).2] at hunknown
    cases hunknown

/-- An apply that was being handed over when the assignment was canceled. -/
def canceledApply : List AssignmentAttemptEvent := [
  sampleEvent "1" none .run_started [],
  sampleEvent "2" (some "move") .attempt_opened
    [("requested_effect", "apply"), ("action_signature", "move"), ("target_fingerprint", "wall")],
  sampleEvent "3" (some "move") .lease_recorded [("lease_state", "dispatching")],
  sampleEvent "4" (some "move") .effect_recorded [("effect_state", "unknown"), ("effect_authority", "dispatch_transport"),
    ("reason", "canceled_after_possible_apply_dispatch")],
  sampleEvent "5" (some "move") .lease_recorded [("lease_state", "canceled_after_dispatch")]]

/-- The barrier never releases it. -/
theorem canceled_apply_held : ∃ result, reduceAssignmentControlPlane epochHost "assignment"
      (normalizeAssignmentControlPlane (sampleGoal canceledApply).control_plane).events = .ok result
    ∧ result.projection.terminal_state = .open ∧ (∀ attempt ∈ result.projection.inFlight, expired epochBarrier attempt 0)
    ∧ ∃ goal' after, settleAssignmentExpiredWork epochBarrier (sampleGoal canceledApply) 0 = .ok (goal', after)
      ∧ ¬ after.quiescent := by
  have hrun : ((reduceAssignmentControlPlane epochHost "assignment"
      (normalizeAssignmentControlPlane ⟨canceledApply, []⟩).events).toOption.any fun result =>
        decide (result.projection.terminal_state = .open) && (result.projection.inFlight.all fun attempt =>
          expired epochBarrier attempt 0) && result.projection.inFlight.any fun attempt =>
          decide (attempt.effect.state = .unknown) && !settlesAsUnknown attempt) = true := by
    decide +kernel
  simp only [Option.any_eq_true, toOption_eq_some, Bool.and_eq_true, decide_eq_true_eq, List.all_eq_true, List.any_eq_true,
    Bool.not_eq_true'] at hrun
  obtain ⟨result, hresult, ⟨hopen, hexpired⟩, attempt, hmem, hunknown, hknown⟩ := hrun
  obtain ⟨⟨goal', projected⟩, after, step, hok, hprojected, hsettled⟩ := settleAssignmentExpiredWork_ok
    epochBarrier (sampleGoal canceledApply) 0 bytesAsText_injective hresult hopen rfl
  obtain rfl : projected = after.projection := hprojected
  refine ⟨result, hresult, hopen, hexpired, goal', after.projection, hok, ?_⟩
  rw [hsettled.quiescent_iff hexpired, hsettled.released_iff]
  intro hall
  have hsettles := (hall attempt hmem (hexpired attempt hmem)).effect hunknown
  rw [hknown] at hsettles
  cases hsettles

end revit_operator.assignment_control_plane
