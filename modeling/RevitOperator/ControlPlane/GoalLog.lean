import RevitOperator.ControlPlane.AttemptSteps
import RevitOperator.ControlPlane.SettlementBarrier

open checked checked_run

namespace revit_operator.assignment_control_plane

open AssignmentControlPlaneProjection

section reduction

variable {host : ControlPlaneHost} {assignment_id : String} {events : List AssignmentAttemptEvent}
  {result after : AssignmentReduceResult} {event : AssignmentAttemptEvent}

theorem reduceEvent_seen (h : reduceEvent host result event = .ok after) (id : String) :
    id ∈ after.seen ↔ id ∈ result.seen ∨ id = event.event_id := by
  rw [reduceEvent] at h
  split at h
  · next hseen =>
    obtain rfl := Except.ok.inj h
    exact ⟨.inl, fun hid => hid.elim (fun hbefore => hbefore) fun hsame => hsame ▸ hseen⟩
  · split at h
    · obtain rfl := Except.ok.inj h
      simp
    · obtain rfl := Except.ok.inj h
      simp
    · cases h

theorem reduceEvent_rejected (h : reduceEvent host result event = .ok after)
    (hrejected : ∀ entry ∈ result.rejected, entry.1.event_id ∈ result.seen) :
    ∀ entry ∈ after.rejected, entry.1.event_id ∈ after.seen := by
  rw [reduceEvent] at h
  split at h
  · obtain rfl := Except.ok.inj h
    exact hrejected
  · split at h
    · obtain rfl := Except.ok.inj h
      exact fun entry hentry => List.mem_append_left _ (hrejected entry hentry)
    · obtain rfl := Except.ok.inj h
      intro entry hentry
      obtain hbefore | hnew := List.mem_append.1 hentry
      · exact List.mem_append_left _ (hrejected entry hbefore)
      · rw [List.mem_singleton.1 hnew]
        exact List.mem_append_right _ (List.mem_singleton_self _)
    · cases h

theorem mem_seen (hrun : reduceAssignmentControlPlane host assignment_id events = .ok result) (id : String) :
    id ∈ result.seen ↔ id ∈ events.map AssignmentAttemptEvent.event_id := by
  induction events using List.reverseRecOn generalizing result with
  | nil =>
    obtain rfl := Except.ok.inj hrun
    rfl
  | append_singleton first event ih =>
    obtain ⟨mid, hmid, hlast⟩ := feed_snoc_eq_ok.1 hrun
    rw [reduceEvent_seen hlast, ih hmid, List.map_append, List.mem_append, List.map_singleton, List.mem_singleton]

theorem rejected_seen (hrun : reduceAssignmentControlPlane host assignment_id events = .ok result) :
    ∀ entry ∈ result.rejected, entry.1.event_id ∈ result.seen :=
  feed_invariant (I := fun result : AssignmentReduceResult => ∀ entry ∈ result.rejected, entry.1.event_id ∈ result.seen)
    (fun _ _ _ hbefore hstep => reduceEvent_rejected hstep hbefore) (fun _ hentry => absurd hentry List.not_mem_nil) hrun

end reduction

variable {log : AssignmentControlPlaneLog}

section store

variable {host : ControlPlaneHost} {goal : GoalRecord} {result : AssignmentReduceResult} {event : AssignmentAttemptEvent}

/-- The events of the goal that count. -/
def GoalRecord.events (goal : GoalRecord) : List AssignmentAttemptEvent :=
  (normalizeAssignmentControlPlane goal.control_plane).events

/-- The identities no further event of the goal may have. -/
def GoalRecord.event_ids (goal : GoalRecord) : List String :=
  (normalizeAssignmentControlPlane goal.control_plane).event_ids

/-- The goal stands where its events lead. -/
def StandsAt (host : ControlPlaneHost) (goal : GoalRecord) (result : AssignmentReduceResult) : Prop :=
  reduceAssignmentControlPlane host goal.id goal.events = .ok result

theorem StandsAt.projection (h : StandsAt host goal result) :
    assignment_control_plane.projection host goal = .ok result.projection := by
  rw [StandsAt, GoalRecord.events] at h
  rw [assignment_control_plane.projection, h, ok_bind]

/-- The goal takes the event into its log of accepted events, if the reducer
    accepts it. -/
def Takes (goal : GoalRecord) (event : AssignmentAttemptEvent) : Prop :=
  event.event_id ∉ goal.event_ids ∧ ¬ goal.status.isTerminal

/-- The reducer answers to the event, and does not throw. -/
def Answers (host : ControlPlaneHost) (projection : AssignmentControlPlaneProjection) (event : AssignmentAttemptEvent) :
    Prop :=
  (∃ next, accept host projection event = .ok next) ∨ ∃ reason, accept host projection event = .error (.rejected reason)

/-- What an event appended to a goal leaves. -/
structure Appended (host : ControlPlaneHost) (goal : GoalRecord) (result : AssignmentReduceResult)
    (event : AssignmentAttemptEvent) (appended : AssignmentEventAppendResult) (after : AssignmentReduceResult) : Prop where
  ok : appendAssignmentEvent host goal event = .ok appended
  id : appended.goal.id = goal.id
  stands : StandsAt host appended.goal after
  projection : appended.projection = after.projection
  taken : ∀ next, Takes goal event → accept host result.projection event = .ok next → after.projection = next
  refused : (¬ Takes goal event ∨ ∀ next, accept host result.projection event ≠ .ok next) →
    after.projection = result.projection
  kept : ∀ id ∈ goal.event_ids, id ∈ appended.goal.event_ids
  ids : ∀ id ∈ appended.goal.event_ids, id ∈ goal.event_ids ∨ id = event.event_id
  status : appended.goal.status = statusAfter goal event appended.accepted after.projection
  accepted : goal.status.isTerminal → (appended.accepted ↔ event.event_id ∈ goal.events.map AssignmentAttemptEvent.event_id)

theorem mem_event_ids {id : String} :
    id ∈ log.event_ids ↔ id ∈ log.events.map AssignmentAttemptEvent.event_id
      ∨ ∃ entry ∈ log.quarantined_events, entry.1.event_id = id := by
  simp [AssignmentControlPlaneLog.event_ids]

theorem append_of_placed {accepted : Bool} {reason : Option String}
    {after : AssignmentReduceResult}
    (hplaced : placeEvent host goal event (normalizeAssignmentControlPlane goal.control_plane) = .ok (log, accepted, reason))
    (hrun : reduceAssignmentControlPlane host goal.id log.events = .ok after)
    (hnormal : (normalizeAssignmentControlPlane log).events = log.events) :
    ∃ appended, appendAssignmentEvent host goal event = .ok appended ∧ appended.goal.id = goal.id
      ∧ appended.goal.event_ids = (normalizeAssignmentControlPlane log).event_ids ∧ appended.projection = after.projection ∧ appended.accepted = accepted
      ∧ StandsAt host appended.goal after ∧ appended.goal.status = statusAfter goal event accepted after.projection := by
  have hstands : StandsAt host { goal with
      status := statusAfter goal event accepted after.projection
      control_plane := log } after := by
    rw [StandsAt, GoalRecord.events, hnormal]
    exact hrun
  refine ⟨⟨{ goal with
      status := statusAfter goal event accepted after.projection
      control_plane := log }, after.projection, accepted, reason⟩, ?_, rfl, rfl, rfl, rfl, hstands, rfl⟩
  rw [appendAssignmentEvent, hplaced, ok_bind]
  dsimp only
  rw [hrun, ok_bind, hstands.projection, ok_bind]

theorem events_normal (goal : GoalRecord) : goal.events.filter (fun event => event.schema = ASSIGNMENT_ATTEMPT_EVENT_SCHEMA)
    = goal.events := by
  rw [GoalRecord.events, normalizeAssignmentControlPlane, List.filter_filter]
  simp

theorem event_ids_of_extended (goal : GoalRecord) (event : AssignmentAttemptEvent) (log : AssignmentControlPlaneLog)
    (more : List AssignmentAttemptEvent) (quarantined : List (AssignmentAttemptEvent × String))
    (hevents : log.events = goal.events ++ more)
    (hquarantined : log.quarantined_events
      = (normalizeAssignmentControlPlane goal.control_plane).quarantined_events ++ quarantined)
    (hmore : ∀ added ∈ more, added.event_id = event.event_id) (hless : ∀ entry ∈ quarantined, entry.1.event_id = event.event_id) :
    (∀ id ∈ goal.event_ids, id ∈ (normalizeAssignmentControlPlane log).event_ids)
      ∧ ∀ id ∈ (normalizeAssignmentControlPlane log).event_ids, id ∈ goal.event_ids ∨ id = event.event_id := by
  constructor
  · intro id hid
    rw [GoalRecord.event_ids, mem_event_ids] at hid
    rw [mem_event_ids]
    obtain hevent | ⟨entry, hentry, hid⟩ := hid
    · left
      rw [normalizeAssignmentControlPlane, hevents, List.filter_append, events_normal, List.map_append]
      exact List.mem_append_left _ hevent
    · right
      refine ⟨entry, ?_, hid⟩
      rw [normalizeAssignmentControlPlane] at hentry ⊢
      rw [hquarantined]
      refine List.mem_filter.2 ⟨List.mem_append_left _ hentry, (List.mem_filter.1 hentry).2⟩
  · intro id hid
    rw [mem_event_ids] at hid
    rw [GoalRecord.event_ids, mem_event_ids]
    obtain hevent | ⟨entry, hentry, hid⟩ := hid
    · rw [normalizeAssignmentControlPlane, hevents, List.filter_append, events_normal, List.map_append, List.mem_append] at hevent
      obtain hbefore | hnew := hevent
      · exact .inl (.inl hbefore)
      · obtain ⟨added, hadded, rfl⟩ := List.mem_map.1 hnew
        exact .inr (hmore added (List.mem_filter.1 hadded).1)
    · rw [normalizeAssignmentControlPlane, hquarantined] at hentry
      obtain hbefore | hnew := List.mem_append.1 (List.mem_filter.1 hentry).1
      · exact .inl (.inr ⟨entry, hbefore, hid⟩)
      · exact .inr (hid.symm.trans (hless entry hnew))

theorem append_known (hstands : StandsAt host goal result) (hknown : event.event_id ∈ goal.event_ids) :
    ∃ appended, Appended host goal result event appended result := by
  have hplaced : placeEvent host goal event (normalizeAssignmentControlPlane goal.control_plane) = .ok
      (normalizeAssignmentControlPlane goal.control_plane,
        decide (event.event_id ∈ goal.events.map AssignmentAttemptEvent.event_id),
        if decide (event.event_id ∈ goal.events.map AssignmentAttemptEvent.event_id) then none
          else some "Duplicate quarantined event.") := by
    rw [placeEvent]
    exact if_pos hknown
  obtain ⟨appended, hok, hid, hlog, hprojection, haccepted, hstandsAfter, hstatus⟩ :=
    append_of_placed hplaced hstands (events_normal goal)
  obtain ⟨hkept, hids⟩ := event_ids_of_extended goal event
    (normalizeAssignmentControlPlane goal.control_plane) [] [] (List.append_nil _).symm (List.append_nil _).symm
    (fun _ h => absurd h List.not_mem_nil) (fun _ h => absurd h List.not_mem_nil)
  refine ⟨appended, hok, hid, hstandsAfter, hprojection, fun next htakes => absurd hknown htakes.1, fun _ => rfl, ?_, ?_, ?_, ?_⟩
  · rw [hlog]
    exact hkept
  · rw [hlog]
    exact hids
  · rw [hstatus, haccepted]
  · rw [haccepted, decide_eq_true_eq]
    exact fun _ => Iff.rfl

theorem placeEvent_rejected {reason : String} (hfresh : event.event_id ∉ log.event_ids)
    (hrejection : rejectionOf host goal event log = .ok (some reason)) : placeEvent host goal event log = .ok
      ({ log with quarantined_events := log.quarantined_events ++ [(event, reason)] }, false, some reason) := by
  rw [placeEvent, if_neg hfresh, hrejection]
  rfl

theorem placeEvent_accepted (hfresh : event.event_id ∉ log.event_ids)
    (hrejection : rejectionOf host goal event log = .ok none) :
    placeEvent host goal event log = .ok ({ log with events := log.events ++ [event] }, true, none) := by
  rw [placeEvent, if_neg hfresh, hrejection]
  rfl

theorem append_rejected {reason : String} (hstands : StandsAt host goal result) (hfresh : event.event_id ∉ goal.event_ids)
    (hrejection : rejectionOf host goal event (normalizeAssignmentControlPlane goal.control_plane) = .ok (some reason))
    (hrefused : ¬ Takes goal event ∨ ∀ next, accept host result.projection event ≠ .ok next) :
    ∃ appended, Appended host goal result event appended result := by
  obtain ⟨appended, hok, hid, hlog, hprojection, haccepted, hstandsAfter, hstatus⟩ :=
    append_of_placed (placeEvent_rejected hfresh hrejection) hstands (events_normal goal)
  obtain ⟨hkept, hids⟩ := event_ids_of_extended goal event
    { normalizeAssignmentControlPlane goal.control_plane with
      quarantined_events := (normalizeAssignmentControlPlane goal.control_plane).quarantined_events ++ [(event, reason)] }
    [] [(event, reason)]
    (List.append_nil _).symm rfl (fun _ h => absurd h List.not_mem_nil)
    (fun entry hentry => by rw [List.mem_singleton.1 hentry])
  refine ⟨appended, hok, hid, hstandsAfter, hprojection, fun next htakes haccept => ?_, fun _ => rfl, ?_, ?_, ?_, ?_⟩
  · exact absurd haccept (hrefused.resolve_left (not_not_intro htakes) next)
  · rw [hlog]
    exact hkept
  · rw [hlog]
    exact hids
  · rw [hstatus, haccepted]
  · rw [haccepted]
    refine fun _ => ⟨fun hfalse => absurd hfalse Bool.false_ne_true, fun hknown => absurd ?_ hfresh⟩
    rw [GoalRecord.event_ids, mem_event_ids]
    exact .inl hknown

theorem append_accepted {next : AssignmentControlPlaneProjection} (hstands : StandsAt host goal result)
    (htakes : Takes goal event) (hschema : event.schema = ASSIGNMENT_ATTEMPT_EVENT_SCHEMA)
    (hnew : event.event_id ∉ result.seen)
    (hnotRejected : result.rejected.find? (fun entry => entry.1.event_id = event.event_id) = none)
    (hnext : accept host result.projection event = .ok next) :
    ∃ appended after, Appended host goal result event appended after := by
  have hstep : reduceEvent host result event = .ok { result with
      projection := next
      seen := result.seen ++ [event.event_id]
      accepted_event_ids := result.accepted_event_ids ++ [event.event_id] } := by
    rw [reduceEvent, if_neg hnew]
    simp only [hnext]
  have hrun := feed_snoc_eq_ok.2 ⟨result, hstands, hstep⟩
  have hrejection : rejectionOf host goal event (normalizeAssignmentControlPlane goal.control_plane) = .ok none := by
    rw [rejectionOf, if_neg htakes.2, reduceAssignmentControlPlane]
    refine bind_eq_ok.2 ⟨_, hrun, ?_⟩
    simp only [hnotRejected, Option.map_none]
  have hnormal : (goal.events ++ [event]).filter (fun event => event.schema = ASSIGNMENT_ATTEMPT_EVENT_SCHEMA)
      = goal.events ++ [event] := by
    rw [List.filter_append, events_normal]
    simp [hschema]
  obtain ⟨appended, hok, hid, hlog, hprojection, haccepted, hstandsAfter, hstatus⟩ :=
    append_of_placed (placeEvent_accepted htakes.1 hrejection) hrun hnormal
  obtain ⟨hkept, hids⟩ := event_ids_of_extended goal event
    { normalizeAssignmentControlPlane goal.control_plane with
      events := (normalizeAssignmentControlPlane goal.control_plane).events ++ [event] }
    [event] []
    rfl (List.append_nil _).symm (fun added hadded => by rw [List.mem_singleton.1 hadded])
    (fun _ h => absurd h List.not_mem_nil)
  refine ⟨appended, _, hok, hid, hstandsAfter, hprojection, fun other _ hother => ?_, fun hrefused => ?_, ?_, ?_, ?_, ?_⟩
  · exact Except.ok.inj (hnext.symm.trans hother)
  · exact absurd hnext (hrefused.resolve_left (not_not_intro htakes) next)
  · rw [hlog]
    exact hkept
  · rw [hlog]
    exact hids
  · rw [hstatus, haccepted]
  · exact fun hterminal => absurd hterminal htakes.2

theorem append_ok (event : AssignmentAttemptEvent) (hstands : StandsAt host goal result)
    (hschema : event.schema = ASSIGNMENT_ATTEMPT_EVENT_SCHEMA)
    (hanswers : Answers host result.projection event) : ∃ appended after, Appended host goal result event appended after := by
  by_cases hknown : event.event_id ∈ goal.event_ids
  · exact (append_known hstands hknown).imp fun appended h => ⟨result, h⟩
  · by_cases hterminal : goal.status.isTerminal
    · have hrejection : rejectionOf host goal event (normalizeAssignmentControlPlane goal.control_plane)
          = .ok (some ("Goal is terminal (" ++ goal.status.name ++ ").")) := by
        rw [rejectionOf, if_pos hterminal]
      exact (append_rejected hstands hknown hrejection (.inl fun htakes => htakes.2 hterminal)).imp fun appended h =>
        ⟨result, h⟩
    · have hnew : event.event_id ∉ result.seen := by
        rw [mem_seen hstands]
        intro hseen
        refine hknown ?_
        rw [GoalRecord.event_ids, mem_event_ids]
        exact .inl hseen
      have hnotRejected : result.rejected.find? (fun entry => entry.1.event_id = event.event_id) = none := by
        rw [List.find?_eq_none]
        intro entry hentry hsame
        rw [decide_eq_true_eq] at hsame
        exact hnew (hsame ▸ rejected_seen hstands entry hentry)
      obtain ⟨next, hnext⟩ | ⟨reason, hreason⟩ := hanswers
      · exact append_accepted hstands ⟨hknown, hterminal⟩ hschema hnew hnotRejected hnext
      · have hstep : reduceEvent host result event = .ok { result with
            seen := result.seen ++ [event.event_id]
            rejected := result.rejected ++ [(event, reason)] } := by
          rw [reduceEvent, if_neg hnew]
          simp only [hreason]
        have hrejection : rejectionOf host goal event (normalizeAssignmentControlPlane goal.control_plane)
            = .ok (some reason) := by
          rw [rejectionOf, if_neg hterminal, reduceAssignmentControlPlane]
          refine bind_eq_ok.2 ⟨_, feed_snoc_eq_ok.2 ⟨result, hstands, hstep⟩, ?_⟩
          simp [List.find?_append, hnotRejected]
        refine (append_rejected hstands hknown hrejection (.inr fun next hnext => ?_)).imp fun appended h => ⟨result, h⟩
        rw [hreason] at hnext
        cases hnext

end store

end revit_operator.assignment_control_plane
