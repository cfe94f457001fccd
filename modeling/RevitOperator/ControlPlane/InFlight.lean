import RevitOperator.ControlPlane.AttemptSteps

open checked checked_run

namespace revit_operator.assignment_control_plane

open AssignmentControlPlaneProjection

/-- Attempts belong to a run, and while the user is asked at most one of them is
    in flight. -/
structure InFlightOrder (projection : AssignmentControlPlaneProjection) : Prop where
  run : projection.attempts ≠ [] → projection.run_id.any (· ≠ "")
  alone : projection.outcome_state = .awaiting_user_input →
    projection.pending_clarification_id ≠ none ∧ projection.inFlight.length ≤ 1

section steps

variable {host : ControlPlaneHost} {projection next : AssignmentControlPlaneProjection} {event : AssignmentAttemptEvent}
  {data : Json}

theorem terminalOutcome_ne_awaiting (state : AssignmentTerminalState) (reason : String) :
    terminalOutcome state reason ≠ .awaiting_user_input := by
  rw [terminalOutcome]
  split
  · simp
  · split
    · simp
    · split <;> simp

theorem assignment_terminal_outcome (h : assignment_terminal projection data = .ok next) :
    next.outcome_state ≠ .awaiting_user_input := by
  rw [assignment_terminal] at h
  obtain ⟨_, h⟩ := check_bind_eq_ok.1 h
  obtain ⟨_, h⟩ := check_bind_eq_ok.1 h
  obtain ⟨_, h⟩ := check_bind_eq_ok.1 h
  split at h
  · cases h
  · obtain ⟨_, h⟩ := check_bind_eq_ok.1 h
    obtain ⟨_, h⟩ := check_bind_eq_ok.1 h
    obtain rfl := Except.ok.inj h
    exact terminalOutcome_ne_awaiting _ _

theorem progress_recorded_outcome :
    (progress_recorded host projection data).outcome_state = projection.outcome_state
      ∧ (progress_recorded host projection data).pending_clarification_id = projection.pending_clarification_id := by
  rw [progress_recorded]
  split
  · exact ⟨rfl, rfl⟩
  · exact ⟨rfl, rfl⟩

theorem aboutAssignment_awaiting (hkind : event.kind.aboutAssignment)
    (h : applyAcceptedEvent host projection event = .ok next) (hawaiting : next.outcome_state = .awaiting_user_input) :
    (next.pending_clarification_id ≠ none ∧ projection.inFlight.length ≤ 1)
      ∨ (next.outcome_state = projection.outcome_state
        ∧ next.pending_clarification_id = projection.pending_clarification_id) := by
  unfold applyAcceptedEvent at h
  split at h
  case h_1 hevent | h_2 hevent | h_3 hevent =>
    rw [hevent] at hkind
    cases hkind
  case h_4 =>
    obtain rfl := Except.ok.inj h
    exact .inr progress_recorded_outcome
  case h_17 => exact absurd hawaiting (assignment_terminal_outcome h)
  case h_18 =>
    cases hevent : event.kind <;> simp_all [EventKind.aboutAssignment]
  all_goals
    simp only [provider_call_recorded, clarification_requested, clarification_resolved, review_requested, review_resolved,
      criterion_recorded, primary_artifact_recorded, noop_completion_claimed, noop_completion_validated,
      read_completion_claimed, read_completion_validated, check_bind_eq_ok, require_eq_ok, Except.ok.injEq] at h
    grind

theorem AttemptsStep.inFlight_length (hsteps : AttemptsStep projection event next.attempts)
    (hgeneration : next.generation = projection.generation) : next.inFlight.length ≤ projection.inFlight.length := by
  obtain ⟨step, hattempts, hstep⟩ := hsteps
  rw [inFlight, inFlight, hattempts, List.filter_map, List.length_map, ← List.countP_eq_length_filter,
    ← List.countP_eq_length_filter]
  refine List.countP_mono_left fun attempt hmem hflight => ?_
  simp only [Function.comp_apply, isInFlight, Bool.and_eq_true, decide_eq_true_eq, hgeneration] at hflight ⊢
  exact ⟨(hstep attempt hmem).subject.generation ▸ hflight.1, (hstep attempt hmem).active hflight.2⟩

theorem supersedeActive_inFlight {phase : AssignmentPhase} :
    ({ projection.supersedeActive with phase := phase }).inFlight = [] := by
  rw [List.eq_nil_iff_forall_not_mem]
  intro attempt hattempt
  obtain ⟨hmem, hflight⟩ := List.mem_filter.1 hattempt
  obtain ⟨before, _, rfl⟩ := List.mem_map.1 hmem
  simp only [isInFlight, Bool.and_eq_true, decide_eq_true_eq] at hflight
  obtain ⟨_, hactive⟩ := hflight
  split at hactive
  · cases hactive
  · next hended => exact hended hactive

theorem run_of_accept (h : accept host projection event = .ok next) : next.run_id.any (· ≠ "") := by
  obtain ⟨hfenced, hevent⟩ := accept_eq_ok.1 h
  by_cases hkind : event.kind = .run_started
  · simp only [applyAcceptedEvent, hkind] at hevent
    obtain rfl := Except.ok.inj hevent
    simpa [run_started] using (hfenced.started hkind).2
  · obtain ⟨hrun, _⟩ := hfenced.current hkind
    by_cases habout : event.kind.aboutAssignment
    · rw [(aboutAssignment_bookkeeping habout hevent).run_id]
      exact hrun
    · unfold applyAcceptedEvent at hevent
      split at hevent
      case h_1 hstarted => exact absurd hstarted hkind
      case h_2 =>
        obtain rfl := Except.ok.inj hevent
        exact hrun
      case h_3 hopened =>
        obtain ⟨_, _, _, hsame, _⟩ := attempt_opened_ok hopened hevent
        rw [hsame.run_id]
        exact hrun
      case h_18 =>
        split at hevent
        · cases hevent
        · rw [(applyAttemptEvent_frame hevent).1.run_id]
          exact hrun
      all_goals
        next hother =>
          rw [hother] at habout
          exact absurd rfl habout

theorem InFlightOrder.of_accept (hunique : UniqueIds projection) (horder : InFlightOrder projection)
    (h : accept host projection event = .ok next) : InFlightOrder next := by
  refine ⟨fun _ => run_of_accept h, fun hawaiting => ?_⟩
  obtain ⟨_, hevent⟩ := accept_eq_ok.1 h
  by_cases habout : event.kind.aboutAssignment
  · have hkept := aboutAssignment_bookkeeping habout hevent
    have hflight : next.inFlight = projection.inFlight := by
      rw [inFlight, inFlight, hkept.attempts]
      refine List.filter_congr fun attempt _ => ?_
      rw [isInFlight, isInFlight, hkept.generation]
    rw [hflight]
    obtain hasked | ⟨houtcome, hpending⟩ := aboutAssignment_awaiting habout hevent hawaiting
    · exact hasked
    · rw [hpending]
      exact horder.alone (houtcome.symm.trans hawaiting)
  · unfold applyAcceptedEvent at hevent
    split at hevent
    case h_1 =>
      obtain rfl := Except.ok.inj hevent
      cases hawaiting
    case h_2 =>
      obtain rfl := Except.ok.inj hevent
      rw [supersedeActive_inFlight]
      exact ⟨(horder.alone hawaiting).1, Nat.zero_le 1⟩
    case h_3 hopened =>
      obtain ⟨_, _, _, hsame, _, hnobody⟩ := attempt_opened_ok hopened hevent
      exact absurd hnobody (horder.alone (hsame.outcome_state.symm.trans hawaiting)).1
    case h_18 =>
      split at hevent
      · cases hevent
      · next attempt hnamed =>
        have hsame := (applyAttemptEvent_frame hevent).1
        have hbefore := horder.alone (hsame.outcome_state.symm.trans hawaiting)
        have hsteps := applyAttemptEvent_attempts hunique hnamed hevent
        rw [hsame.pending_clarification_id]
        exact ⟨hbefore.1, (hsteps.inFlight_length hsame.generation).trans hbefore.2⟩
    all_goals
      next hother =>
        rw [hother] at habout
        exact absurd rfl habout

theorem inFlightOrder_initial (assignment_id : String) : InFlightOrder (initialProjection assignment_id) :=
  ⟨fun hattempts => absurd rfl hattempts, fun hawaiting => by cases hawaiting⟩

end steps

end revit_operator.assignment_control_plane
