import RevitOperator.ControlPlane.AttemptSteps

open checked checked_run

namespace revit_operator.assignment_control_plane

open AssignmentControlPlaneProjection

section handlers

variable {host : ControlPlaneHost} {projection next : AssignmentControlPlaneProjection} {event : AssignmentAttemptEvent}
  {attempt : AssignmentAttemptRecord} {data : Json}

theorem assignment_terminal_ok (h : assignment_terminal projection data = .ok next) :
    terminalState (data.field "terminal_state") = some next.terminal_state ∧ projection.quiescent
      ∧ next.attempts = projection.attempts ∧ next.generation = projection.generation := by
  rw [assignment_terminal] at h
  obtain ⟨hquiescent, h⟩ := check_bind_eq_ok.1 h
  obtain ⟨_, h⟩ := check_bind_eq_ok.1 h
  obtain ⟨_, h⟩ := check_bind_eq_ok.1 h
  split at h
  · cases h
  · next hstate =>
    obtain ⟨_, h⟩ := check_bind_eq_ok.1 h
    obtain ⟨_, h⟩ := check_bind_eq_ok.1 h
    obtain rfl := Except.ok.inj h
    exact ⟨hstate, require_eq_ok.1 hquiescent, rfl, rfl⟩

theorem verification_recorded_ok (h : verification_recorded projection attempt data = .ok next) :
    ∃ state, verificationState (data.field "verification_state") = some state ∧ attempt.purpose = .verification
      ∧ (∀ other ∈ projection.inFlight, other.attempt_id = attempt.attempt_id)
      ∧ next = verifiedAs projection attempt state := by
  obtain ⟨hpurpose, h⟩ := check_bind_eq_ok.1 h
  split at h
  · cases h
  · obtain ⟨_, h⟩ := check_bind_eq_ok.1 h
    obtain ⟨_, h⟩ := check_bind_eq_ok.1 h
    split at h
    · cases h
    · next state hstate =>
      obtain ⟨halone, h⟩ := check_bind_eq_ok.1 h
      exact ⟨state, hstate, require_eq_ok.1 hpurpose, require_eq_ok.1 halone, (Except.ok.inj h).symm⟩

/-- An attempt with its verification recorded. -/
def AssignmentAttemptRecord.verifiedWith (attempt : AssignmentAttemptRecord) (state : AssignmentVerificationState) :
    AssignmentAttemptRecord :=
  { attempt with
    verification := state
    terminal_state := .settled
    lease := { attempt.lease with state := .settled } }

theorem verifiedAs_fields (projection : AssignmentControlPlaneProjection) (attempt : AssignmentAttemptRecord)
    (state : AssignmentVerificationState) :
    (verifiedAs projection attempt state).attempts = (projection.put (attempt.verifiedWith state)).attempts
      ∧ (verifiedAs projection attempt state).generation = projection.generation
      ∧ (verifiedAs projection attempt state).terminal_state =
        if state = .passed then .verified else if state = .failed then .failed else projection.terminal_state := by
  rw [verifiedAs]
  split
  · exact ⟨rfl, rfl, rfl⟩
  · split
    · exact ⟨rfl, rfl, rfl⟩
    · exact ⟨rfl, rfl, rfl⟩

end handlers

/-- The event ends the assignment in the terminal state. -/
def Decides (projection : AssignmentControlPlaneProjection) (event : AssignmentAttemptEvent)
    (state : AssignmentTerminalState) : Prop :=
  (event.kind = .assignment_terminal ∧ terminalState (event.data.row.field "terminal_state") = some state)
    ∨ (event.kind = .verification_recorded ∧ ∃ attempt, projection.attemptFor event = some attempt
      ∧ ((state = .verified ∧ verificationState (event.data.row.field "verification_state") = some .passed)
        ∨ (state = .failed ∧ verificationState (event.data.row.field "verification_state") = some .failed)))

/-- The verification of the attempt is what the event records as passed. -/
def Passes (projection : AssignmentControlPlaneProjection) (event : AssignmentAttemptEvent)
    (attempt : AssignmentAttemptRecord) : Prop :=
  event.kind = .verification_recorded ∧ projection.attemptFor event = some attempt
    ∧ verificationState (event.data.row.field "verification_state") = some .passed

section verdicts

variable {host : ControlPlaneHost} {projection next : AssignmentControlPlaneProjection} {event : AssignmentAttemptEvent}
  {attempt : AssignmentAttemptRecord}

theorem accept_terminal_state (hterminal : event.kind ≠ .assignment_terminal) (hverification : event.kind ≠ .verification_recorded)
    (h : accept host projection event = .ok next) : next.terminal_state = projection.terminal_state := by
  have hevent := (accept_eq_ok.1 h).2
  by_cases habout : event.kind.aboutAssignment
  · exact (aboutAssignment_bookkeeping habout hevent).terminal_state hterminal
  · unfold applyAcceptedEvent at hevent
    split at hevent
    case h_1 | h_2 => exact (congrArg terminal_state (Except.ok.inj hevent)).symm
    case h_3 hkind =>
      obtain ⟨_, _, _, _, hstate, _⟩ := attempt_opened_ok hkind hevent
      exact hstate
    case h_18 =>
      split at hevent
      · cases hevent
      · exact (applyAttemptEvent_frame hevent).2 hverification
    all_goals
      next hkind =>
        rw [hkind] at habout
        exact absurd rfl habout

theorem accept_assignment_terminal (hkind : event.kind = .assignment_terminal) (h : accept host projection event = .ok next) :
    terminalState (event.data.row.field "terminal_state") = some next.terminal_state ∧ projection.quiescent
      ∧ next.attempts = projection.attempts ∧ next.generation = projection.generation := by
  have hevent := (accept_eq_ok.1 h).2
  simp only [applyAcceptedEvent, hkind] at hevent
  exact assignment_terminal_ok hevent

theorem accept_verification_recorded (hkind : event.kind = .verification_recorded)
    (h : accept host projection event = .ok next) :
    ∃ attempt state, projection.attemptFor event = some attempt
      ∧ verificationState (event.data.row.field "verification_state") = some state ∧ attempt.purpose = .verification
      ∧ (∀ other ∈ projection.inFlight, other.attempt_id = attempt.attempt_id)
      ∧ next = verifiedAs projection attempt state := by
  have hevent := (accept_eq_ok.1 h).2
  simp only [applyAcceptedEvent, hkind] at hevent
  split at hevent
  · cases hevent
  · next attempt hnamed =>
    simp only [applyAttemptEvent, hkind] at hevent
    obtain ⟨state, hstate, hrest⟩ := verification_recorded_ok hevent
    exact ⟨attempt, state, hnamed, hstate, hrest⟩

/-- An accepted event decides on a verdict exactly when it leaves the assignment
    with it. -/
theorem decides_iff (h : accept host projection event = .ok next) {state : AssignmentTerminalState} (hstate : state ≠ .open) :
    Decides projection event state ↔ next.terminal_state = state := by
  have hopen := (accept_eq_ok.1 h).1.terminal_state
  constructor
  · rintro (⟨hkind, hread⟩ | ⟨hkind, attempt, hnamed, hread⟩)
    · have hnext := (accept_assignment_terminal hkind h).1
      exact Option.some.inj (hnext.symm.trans hread)
    · obtain ⟨found, recorded, _, hrecorded, _, _, rfl⟩ := accept_verification_recorded hkind h
      rw [(verifiedAs_fields _ _ recorded).2.2]
      obtain ⟨rfl, hread⟩ | ⟨rfl, hread⟩ := hread
      · obtain rfl : recorded = .passed := Option.some.inj (hrecorded.symm.trans hread)
        rfl
      · obtain rfl : recorded = .failed := Option.some.inj (hrecorded.symm.trans hread)
        rfl
  · intro hnext
    by_cases hterminal : event.kind = .assignment_terminal
    · refine .inl ⟨hterminal, ?_⟩
      rw [(accept_assignment_terminal hterminal h).1, hnext]
    · by_cases hverification : event.kind = .verification_recorded
      · obtain ⟨attempt, recorded, hnamed, hrecorded, _, _, rfl⟩ := accept_verification_recorded hverification h
        rw [(verifiedAs_fields _ _ recorded).2.2, hopen] at hnext
        refine .inr ⟨hverification, attempt, hnamed, ?_⟩
        split at hnext
        · next hpassed => exact .inl ⟨hnext.symm, hpassed ▸ hrecorded⟩
        · split at hnext
          · next hfailed => exact .inr ⟨hnext.symm, hfailed ▸ hrecorded⟩
          · exact absurd hnext.symm hstate
      · rw [accept_terminal_state hterminal hverification h, hopen] at hnext
        exact absurd hnext.symm hstate

theorem unresolved_of_map {step : AssignmentAttemptRecord → AssignmentAttemptRecord}
    (hattempts : next.attempts = projection.attempts.map step)
    (hstep : ∀ attempt ∈ projection.attempts, (step attempt).isUnresolved = attempt.isUnresolved
      ∧ (step attempt).attempt_id = attempt.attempt_id) :
    next.unresolved_unknown_attempt_ids = projection.unresolved_unknown_attempt_ids := by
  have hsame : projection.attempts.filter (AssignmentAttemptRecord.isUnresolved ∘ step)
      = projection.attempts.filter AssignmentAttemptRecord.isUnresolved :=
    List.filter_congr fun attempt hmem => (hstep attempt hmem).1
  rw [unresolved_unknown_attempt_ids, hattempts, List.filter_map, List.map_map, hsame, unresolved_unknown_attempt_ids]
  exact List.map_congr_left fun attempt hmem => (hstep attempt (List.mem_filter.1 hmem).1).2

theorem verifiedAs_unresolved (hunique : UniqueIds projection) (hmem : attempt ∈ projection.attempts)
    (state : AssignmentVerificationState) :
    (verifiedAs projection attempt state).unresolved_unknown_attempt_ids = projection.unresolved_unknown_attempt_ids := by
  refine unresolved_of_map (verifiedAs_fields _ _ state).1 fun other hother => ?_
  split
  · next hid =>
    obtain rfl := eq_of_attempt_id hunique hother hmem hid
    exact ⟨rfl, rfl⟩
  · exact ⟨rfl, rfl⟩

theorem verifiedAs_inFlight (state : AssignmentVerificationState)
    (halone : ∀ other ∈ projection.inFlight, other.attempt_id = attempt.attempt_id) :
    (verifiedAs projection attempt state).inFlight = [] := by
  obtain ⟨hattempts, hgeneration, _⟩ := verifiedAs_fields projection attempt state
  rw [List.eq_nil_iff_forall_not_mem]
  intro now hnow
  obtain ⟨hnow, hflight⟩ := List.mem_filter.1 hnow
  rw [isInFlight, hgeneration] at hflight
  rw [hattempts] at hnow
  obtain ⟨other, hother, rfl⟩ := List.mem_map.1 hnow
  split at hflight
  · simp [AssignmentAttemptRecord.verifiedWith] at hflight
  · next hid => exact hid (halone other (List.mem_filter.2 ⟨hother, hflight⟩))

/-- An event that ends the assignment leaves nothing in flight, and what was
    unresolved before it. -/
theorem decided_settled (hunique : UniqueIds projection) (h : accept host projection event = .ok next)
    (hclosed : next.terminal_state ≠ .open) :
    next.in_flight_attempt_ids = [] ∧ next.unresolved_unknown_attempt_ids = projection.unresolved_unknown_attempt_ids := by
  have hdecides := (decides_iff h hclosed).2 rfl
  obtain ⟨hkind, _⟩ | ⟨hkind, _⟩ := hdecides
  · obtain ⟨_, hquiescent, hattempts, hgeneration⟩ := accept_assignment_terminal hkind h
    have hflight : next.inFlight = projection.inFlight := by
      rw [inFlight, inFlight, hattempts]
      refine List.filter_congr fun attempt _ => ?_
      rw [isInFlight, isInFlight, hgeneration]
    rw [quiescent, List.isEmpty_iff] at hquiescent
    refine ⟨by rw [in_flight_attempt_ids, hflight, hquiescent, List.map_nil], ?_⟩
    rw [unresolved_unknown_attempt_ids, hattempts, unresolved_unknown_attempt_ids]
  · obtain ⟨attempt, state, hnamed, _, _, halone, rfl⟩ := accept_verification_recorded hkind h
    refine ⟨by rw [in_flight_attempt_ids, verifiedAs_inFlight state halone, List.map_nil], ?_⟩
    exact verifiedAs_unresolved hunique (attemptFor_eq_some_imp hnamed).1 state

/-- In an open assignment no verification has passed. -/
def NonePassed (projection : AssignmentControlPlaneProjection) : Prop :=
  projection.terminal_state = .open → ∀ attempt ∈ projection.attempts, attempt.verification ≠ .passed

theorem passes_of_verified (hunique : UniqueIds projection) (hnone : NonePassed projection)
    (h : accept host projection event = .ok next) {now : AssignmentAttemptRecord} (hnow : now ∈ next.attempts)
    (hpassed : now.verification = .passed) :
    ∃ attempt, Passes projection event attempt ∧ attempt.purpose = .verification ∧ now = attempt.verifiedWith .passed := by
  have hbefore := hnone (accept_eq_ok.1 h).1.terminal_state
  obtain ⟨opened, hattempts, hopened⟩ | ⟨step, hattempts, hstep⟩ := applyAcceptedEvent_attempts hunique (accept_eq_ok.1 h).2
  · rw [hattempts, List.mem_append, List.mem_singleton] at hnow
    obtain hold | rfl := hnow
    · exact absurd hpassed (hbefore now hold)
    · exact absurd hpassed hopened.verification
  · have hnowNext := hnow
    rw [hattempts] at hnow
    obtain ⟨attempt, hmem, rfl⟩ := List.mem_map.1 hnow
    obtain hsame | ⟨hkind, hnamed⟩ := (hstep attempt hmem).verification
    · exact absurd (hsame ▸ hpassed) (hbefore attempt hmem)
    · obtain ⟨found, state, hfound, hstate, hpurpose, _, rfl⟩ := accept_verification_recorded hkind h
      obtain rfl : attempt = found := Option.some.inj (hnamed.symm.trans hfound)
      have hput : attempt.verifiedWith state ∈ (verifiedAs projection attempt state).attempts := by
        rw [(verifiedAs_fields _ _ state).1]
        exact List.mem_map.2 ⟨attempt, hmem, if_pos rfl⟩
      have hverified : step attempt = attempt.verifiedWith state :=
        eq_of_attempt_id (hunique.of_accept h) hnowNext hput (hstep attempt hmem).subject.attempt_id
      rw [hverified] at hpassed
      obtain rfl : state = .passed := hpassed
      exact ⟨attempt, ⟨hkind, hnamed, hstate⟩, hpurpose, hverified⟩

theorem Passes.decides (h : Passes projection event attempt) : Decides projection event .verified :=
  .inr ⟨h.1, attempt, h.2.1, .inl ⟨rfl, h.2.2⟩⟩

theorem NonePassed.of_accept (hunique : UniqueIds projection) (hnone : NonePassed projection)
    (h : accept host projection event = .ok next) : NonePassed next := by
  intro hopen now hnow hpassed
  obtain ⟨attempt, hpasses, _⟩ := passes_of_verified hunique hnone h hnow hpassed
  have hverified := (decides_iff h (by decide)).1 hpasses.decides
  rw [hopen] at hverified
  cases hverified

end verdicts

/-- At some point of the run the attempt was not open yet, and another attempt
    on its target had an applied effect. -/
def OpenedAfterApply (host : ControlPlaneHost) (assignment_id : String) (events : List AssignmentAttemptEvent)
    (verifying : AssignmentAttemptRecord) : Prop :=
  ∃ pre earlier, pre <+: events ∧ reduceAssignmentControlPlane host assignment_id pre = .ok earlier
    ∧ (∀ attempt ∈ earlier.projection.attempts, attempt.attempt_id ≠ verifying.attempt_id)
    ∧ ∃ attempt ∈ earlier.projection.attempts, attempt.effect.state = .applied
      ∧ attempt.target_fingerprint = verifying.target_fingerprint

/-- What a verdict says of the assignment is true. -/
structure SoundVerdict (host : ControlPlaneHost) (assignment_id : String) (events : List AssignmentAttemptEvent)
    (projection : AssignmentControlPlaneProjection) : Prop where
  settled : projection.terminal_state = .verified ∨ projection.terminal_state = .complete →
    projection.in_flight_attempt_ids = [] ∧ projection.unresolved_unknown_attempt_ids = []
  verified : projection.terminal_state = .verified → ∃ verifying ∈ projection.attempts,
    verifying.purpose = .verification ∧ verifying.verification = .passed
      ∧ OpenedAfterApply host assignment_id events verifying

/-- An event decides on a verdict with nothing unresolved, and on `verified` only
    by a verification that was opened after the apply. -/
structure SoundlyDecided (host : ControlPlaneHost) (assignment_id : String) (events : List AssignmentAttemptEvent)
    (projection : AssignmentControlPlaneProjection) (event : AssignmentAttemptEvent) : Prop where
  asserted : event.kind = .assignment_terminal →
    terminalState (event.data.row.field "terminal_state") ≠ some .verified
  resolved : Decides projection event .verified ∨ Decides projection event .complete →
    projection.unresolved_unknown_attempt_ids = []
  opened : ∀ attempt, Passes projection event attempt → OpenedAfterApply host assignment_id events attempt

section runs

variable {host : ControlPlaneHost} {assignment_id : String} {events : List AssignmentAttemptEvent}
  {projection next : AssignmentControlPlaneProjection} {event : AssignmentAttemptEvent}

/-- The verdict of an event is sound exactly when the event decides on it
    soundly. -/
theorem soundVerdict_iff_soundlyDecided (hunique : UniqueIds projection) (hnone : NonePassed projection)
    (h : accept host projection event = .ok next) :
    SoundVerdict host assignment_id events next ↔ SoundlyDecided host assignment_id events projection event := by
  constructor
  · intro hsound
    refine ⟨fun hkind hread => ?_, fun hdecides => ?_, fun attempt hpasses => ?_⟩
    · have hverified := (decides_iff h (by decide)).1 (.inl ⟨hkind, hread⟩)
      obtain ⟨now, hnow, _, hpassed, _⟩ := hsound.verified hverified
      obtain ⟨_, ⟨hother, _⟩, _⟩ := passes_of_verified hunique hnone h hnow hpassed
      rw [hkind] at hother
      cases hother
    · rw [decides_iff h (by decide), decides_iff h (by decide)] at hdecides
      have hclosed : next.terminal_state ≠ .open := by
        intro hopen
        rw [hopen] at hdecides
        obtain hverified | hcomplete := hdecides
        · cases hverified
        · cases hcomplete
      rw [← (decided_settled hunique h hclosed).2]
      exact (hsound.settled hdecides).2
    · have hverified := (decides_iff h (by decide)).1 hpasses.decides
      obtain ⟨now, hnow, _, hpassed, hopened⟩ := hsound.verified hverified
      obtain ⟨verifying, ⟨_, hnamed, _⟩, _, rfl⟩ := passes_of_verified hunique hnone h hnow hpassed
      obtain rfl : attempt = verifying := Option.some.inj (hpasses.2.1.symm.trans hnamed)
      exact hopened
  · intro hdecided
    refine ⟨fun hverdict => ?_, fun hverified => ?_⟩
    · have hclosed : next.terminal_state ≠ .open := by
        intro hopen
        rw [hopen] at hverdict
        obtain hverified | hcomplete := hverdict
        · cases hverified
        · cases hcomplete
      obtain ⟨hflight, hunresolved⟩ := decided_settled hunique h hclosed
      refine ⟨hflight, hunresolved.trans (hdecided.resolved ?_)⟩
      rw [decides_iff h (by decide), decides_iff h (by decide)]
      exact hverdict
    · obtain ⟨hkind, hread⟩ | ⟨hkind, attempt, hnamed, ⟨_, hread⟩ | ⟨hfailed, _⟩⟩ := (decides_iff h (by decide)).2 hverified
      · exact absurd hread (hdecided.asserted hkind)
      · obtain ⟨found, state, hfound, hstate, hpurpose, _, rfl⟩ := accept_verification_recorded hkind h
        obtain rfl : attempt = found := Option.some.inj (hnamed.symm.trans hfound)
        obtain rfl : state = .passed := Option.some.inj (hstate.symm.trans hread)
        refine ⟨attempt.verifiedWith .passed, ?_, hpurpose, rfl, hdecided.opened attempt ⟨hkind, hnamed, hread⟩⟩
        rw [(verifiedAs_fields _ _ .passed).1]
        exact List.mem_map.2 ⟨attempt, (attemptFor_eq_some_imp hnamed).1, if_pos rfl⟩
      · cases hfailed

theorem projection_of_closed {result final : AssignmentReduceResult} {rest : List AssignmentAttemptEvent}
    (hclosed : result.projection.terminal_state ≠ .open) (hrest : feed (reduceEvent host) result rest = .ok final) :
    final.projection = result.projection := by
  refine feed_invariant (I := fun later => later.projection = result.projection) ?_ rfl hrest
  intro later event after hsame hstep
  obtain ⟨_, hnext⟩ | ⟨_, hkept⟩ := reduceEvent_ok hstep
  · rw [← hsame] at hclosed
    exact absurd (accept_eq_ok.1 hnext).1.terminal_state hclosed
  · exact hkept.trans hsame

theorem final_of_closed {pre : List AssignmentAttemptEvent} {before after final : AssignmentReduceResult}
    (hrun : reduceAssignmentControlPlane host assignment_id events = .ok final) (hpre : pre ++ [event] <+: events)
    (hbefore : feed (reduceEvent host) (.initial assignment_id) pre = .ok before)
    (hstep : reduceEvent host before event = .ok after) (hclosed : after.projection.terminal_state ≠ .open) :
    final.projection = after.projection := by
  obtain ⟨rest, rfl⟩ := hpre
  rw [reduceAssignmentControlPlane, feed_append, feed_snoc_eq_ok.2 ⟨before, hbefore, hstep⟩, ok_bind] at hrun
  exact projection_of_closed hclosed hrun

theorem reduce_verdict_invariants {result : AssignmentReduceResult}
    (hrun : feed (reduceEvent host) (.initial assignment_id) events = .ok result) :
    UniqueIds result.projection ∧ NonePassed result.projection :=
  feed_invariant (I := fun result => UniqueIds result.projection ∧ NonePassed result.projection)
    (fun _ _ _ hinv hstep => reduceEvent_preserves (I := fun projection => UniqueIds projection ∧ NonePassed projection)
      (fun _ _ _ hinv hnext => ⟨hinv.1.of_accept hnext, hinv.2.of_accept hinv.1 hnext⟩) hinv hstep)
    ⟨uniqueIds_initial assignment_id, fun _ _ hmem => absurd hmem List.not_mem_nil⟩ hrun

theorem SoundVerdict.of_not (hverified : projection.terminal_state ≠ .verified)
    (hcomplete : projection.terminal_state ≠ .complete) : SoundVerdict host assignment_id events projection :=
  ⟨fun hverdict => absurd hverdict fun h => h.elim hverified hcomplete, fun h => absurd h hverified⟩

end runs

/-- The verdict of a run is sound exactly when every accepted event decides
    soundly. -/
theorem verdict_sound_iff (host : ControlPlaneHost) (assignment_id : String) (events : List AssignmentAttemptEvent)
    (result : AssignmentReduceResult) (hrun : reduceAssignmentControlPlane host assignment_id events = .ok result) :
    SoundVerdict host assignment_id events result.projection
      ↔ AlongSteps (reduceEvent host) (.initial assignment_id) events (fun before event _ =>
        Accepted host before event → SoundlyDecided host assignment_id events before.projection event) := by
  constructor
  · intro hsound pre event hpre before after hbefore hstep haccepted
    obtain ⟨_, hnext⟩ | ⟨hrefused, _⟩ := reduceEvent_ok hstep
    · obtain ⟨hunique, hnone⟩ := reduce_verdict_invariants hbefore
      rw [← soundVerdict_iff_soundlyDecided hunique hnone hnext]
      by_cases hclosed : after.projection.terminal_state = .open
      · exact .of_not (by rw [hclosed]; decide) (by rw [hclosed]; decide)
      · rw [← final_of_closed hrun hpre hbefore hstep hclosed]
        exact hsound
    · exact absurd haccepted hrefused
  · intro hsteps
    by_cases hopen : result.projection.terminal_state = .open
    · exact .of_not (by rw [hopen]; decide) (by rw [hopen]; decide)
    · obtain ⟨pre, event, before, after, hpre, hbefore, hstep, hnot, hclosed⟩ :=
        exists_step_of_feed (P := fun result : AssignmentReduceResult => result.projection.terminal_state ≠ .open)
          (not_not_intro rfl) hrun hopen
      rw [final_of_closed hrun hpre hbefore hstep hclosed]
      obtain ⟨hunique, hnone⟩ := reduce_verdict_invariants hbefore
      obtain ⟨hnew, hnext⟩ | ⟨_, hsame⟩ := reduceEvent_ok hstep
      · rw [soundVerdict_iff_soundlyDecided hunique hnone hnext]
        exact hsteps pre event hpre before after hbefore hstep ⟨hnew, _, hnext⟩
      · rw [hsame] at hclosed
        exact absurd hclosed hnot

/-- An apply that took place. -/
def appliedMove : List AssignmentAttemptEvent := [
  sampleEvent "1" none .run_started [],
  sampleEvent "2" (some "move") .attempt_opened
    [("requested_effect", "apply"), ("action_signature", "move"), ("target_fingerprint", "wall")],
  sampleEvent "3" (some "move") .dispatch_recorded [("dispatch_state", "dispatched")],
  sampleEvent "4" (some "move") .effect_recorded
    [("effect_state", "applied"), ("effect_authority", "native_transaction")]]

/-- The verification of the apply. -/
def verifiedMove : List AssignmentAttemptEvent := appliedMove ++ [
  sampleEvent "5" (some "check") .attempt_opened
    [("requested_effect", "read"), ("purpose", "verification"), ("target_fingerprint", "wall"),
      ("reconciliation_of_attempt_id", "move")],
  sampleEvent "6" (some "check") .verification_recorded [("verification_state", "passed")]]

/-- Every event of the verified run decides soundly. -/
theorem verified_move_decided :
    AlongSteps (reduceEvent epochHost) (.initial "assignment") verifiedMove (fun before event _ =>
      Accepted epochHost before event → SoundlyDecided epochHost "assignment" verifiedMove before.projection event) := by
  have hearlier : ((reduceAssignmentControlPlane epochHost "assignment" appliedMove).toOption.any fun earlier =>
      earlier.projection.attempts.all (fun attempt => attempt.attempt_id ≠ "check")
        && earlier.projection.attempts.any fun attempt =>
          decide (attempt.effect.state = .applied ∧ attempt.target_fingerprint = "wall")) = true := by
    decide +kernel
  have hrun : ((reduceAssignmentControlPlane epochHost "assignment" verifiedMove).toOption.any fun result =>
      decide (result.projection.in_flight_attempt_ids = [] ∧ result.projection.unresolved_unknown_attempt_ids = [])
        && result.projection.attempts.any fun attempt => decide (attempt.attempt_id = "check"
          ∧ attempt.purpose = .verification ∧ attempt.verification = .passed ∧ attempt.target_fingerprint = "wall")) = true := by
    decide +kernel
  simp only [Option.any_eq_true, toOption_eq_some, Bool.and_eq_true, decide_eq_true_eq, List.all_eq_true,
    List.any_eq_true] at hearlier hrun
  obtain ⟨earlier, hearlier, hfresh, applied, happliedMem, hstate, htarget⟩ := hearlier
  obtain ⟨result, hresult, hsettled, verifying, hmem, hid, hpurpose, hpassed, hsame⟩ := hrun
  refine (verdict_sound_iff epochHost "assignment" verifiedMove result hresult).1 ⟨fun _ => hsettled, fun _ => ?_⟩
  refine ⟨verifying, hmem, hpurpose, hpassed, appliedMove, earlier, List.prefix_append _ _, hearlier, ?_, ?_⟩
  · rw [hid]
    exact hfresh
  · exact ⟨applied, happliedMem, hstate, htarget.trans hsame.symm⟩

/-- An apply whose effect is unknown, and an assignment called verified. -/
def assertedVerdict : List AssignmentAttemptEvent := [
  sampleEvent "1" none .run_started [],
  sampleEvent "2" (some "move") .attempt_opened
    [("requested_effect", "apply"), ("action_signature", "move"), ("target_fingerprint", "wall")],
  sampleEvent "3" (some "move") .dispatch_recorded [("dispatch_state", "dispatched")],
  sampleEvent "4" (some "move") .lease_recorded [("lease_state", "effect_unknown")],
  sampleEvent "5" none .assignment_terminal [("terminal_state", "verified")]]

/-- The verdict stands, with the effect unresolved and nothing verified. -/
theorem asserted_verdict_unsound :
    ∃ result, reduceAssignmentControlPlane epochHost "assignment" assertedVerdict = .ok result
      ∧ result.projection.terminal_state = .verified
      ∧ ¬ SoundVerdict epochHost "assignment" assertedVerdict result.projection := by
  have hrun : ((reduceAssignmentControlPlane epochHost "assignment" assertedVerdict).toOption.any fun result =>
      decide (result.projection.terminal_state = .verified
        ∧ result.projection.unresolved_unknown_attempt_ids = ["move"])) = true := by
    decide +kernel
  simp only [Option.any_eq_true, toOption_eq_some, decide_eq_true_eq] at hrun
  obtain ⟨result, hresult, hverified, hunresolved⟩ := hrun
  refine ⟨result, hresult, hverified, fun hsound => ?_⟩
  have hsettled := (hsound.settled (.inl hverified)).2
  rw [hunresolved] at hsettled
  cases hsettled

end revit_operator.assignment_control_plane
