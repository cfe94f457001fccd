import RevitOperator.ControlPlane.Reducer
import RevitOperator.Library.JsonText

open checked

namespace revit_operator.assignment_control_plane

inductive GoalStatus where
  | draft
  | active
  | paused
  | blocked
  | complete
  | canceled
  | failed
  deriving DecidableEq

structure AssignmentControlPlaneLog where
  events : List AssignmentAttemptEvent
  quarantined_events : List (AssignmentAttemptEvent × String)

/-- The part of a goal the control plane of its assignment reads and writes. -/
structure GoalRecord where
  id : String
  status : GoalStatus
  control_plane : AssignmentControlPlaneLog

def GoalStatus.isTerminal (status : GoalStatus) : Bool :=
  status = .complete || status = .canceled || status = .failed

def GoalStatus.name : GoalStatus → String
  | .draft => "draft"
  | .active => "active"
  | .paused => "paused"
  | .blocked => "blocked"
  | .complete => "complete"
  | .canceled => "canceled"
  | .failed => "failed"

def EventKind.name : EventKind → String
  | .run_started => "run_started"
  | .run_superseded => "run_superseded"
  | .attempt_opened => "attempt_opened"
  | .admission_recorded => "admission_recorded"
  | .dispatch_recorded => "dispatch_recorded"
  | .lease_recorded => "lease_recorded"
  | .effect_recorded => "effect_recorded"
  | .verification_recorded => "verification_recorded"
  | .reconciliation_started => "reconciliation_started"
  | .reconciliation_resolved => "reconciliation_resolved"
  | .attempt_terminal => "attempt_terminal"
  | .provider_call_recorded => "provider_call_recorded"
  | .late_receipt_recorded => "late_receipt_recorded"
  | .progress_recorded => "progress_recorded"
  | .read_completion_claimed => "read_completion_claimed"
  | .read_completion_validated => "read_completion_validated"
  | .clarification_requested => "clarification_requested"
  | .clarification_resolved => "clarification_resolved"
  | .review_requested => "review_requested"
  | .review_resolved => "review_resolved"
  | .criterion_recorded => "criterion_recorded"
  | .primary_artifact_recorded => "primary_artifact_recorded"
  | .noop_completion_claimed => "noop_completion_claimed"
  | .noop_completion_validated => "noop_completion_validated"
  | .assignment_terminal => "assignment_terminal"
  | .unsupported => ""

def normalizeAssignmentControlPlane (log : AssignmentControlPlaneLog) : AssignmentControlPlaneLog where
  events := log.events.filter fun event => event.schema = ASSIGNMENT_ATTEMPT_EVENT_SCHEMA
  quarantined_events := log.quarantined_events.filter fun entry => text.trim entry.2 ≠ ""

/-- The identities of all events a log holds. -/
def AssignmentControlPlaneLog.event_ids (log : AssignmentControlPlaneLog) : List String :=
  (log.events ++ log.quarantined_events.map Prod.fst).map AssignmentAttemptEvent.event_id

structure AssignmentEventAppendResult where
  goal : GoalRecord
  projection : AssignmentControlPlaneProjection
  accepted : Bool
  quarantined_reason : Option String

section store

variable (host : ControlPlaneHost) (goal : GoalRecord) (event : AssignmentAttemptEvent)

/-- The projection of the assignment of a goal. -/
def projection : Except String AssignmentControlPlaneProjection := do
  let result ← reduceAssignmentControlPlane host goal.id (normalizeAssignmentControlPlane goal.control_plane).events
  .ok result.projection

/-- The status a verdict gives the goal. -/
def statusOfVerdict (state : AssignmentTerminalState) : GoalStatus :=
  match state with
  | .verified | .complete => .complete
  | .canceled => .canceled
  | .failed => .failed
  | _ => .blocked

/-- Why an event is not taken into the log. -/
def rejectionOf (log : AssignmentControlPlaneLog) : Except String (Option String) :=
  if goal.status.isTerminal then .ok (some ("Goal is terminal (" ++ goal.status.name ++ ")."))
  else do
    let candidate ← reduceAssignmentControlPlane host goal.id (log.events ++ [event])
    .ok ((candidate.rejected.find? fun entry => entry.1.event_id = event.event_id).map Prod.snd)

/-- The log with the event in its place: whether the event counts as accepted,
    and why it does not. -/
def placeEvent (log : AssignmentControlPlaneLog) : Except String (AssignmentControlPlaneLog × Bool × Option String) :=
  if event.event_id ∈ log.event_ids then
    let accepted := decide (event.event_id ∈ log.events.map AssignmentAttemptEvent.event_id)
    .ok (log, accepted, if accepted then none else some "Duplicate quarantined event.")
  else do
    match ← rejectionOf host goal event log with
    | some reason =>
      .ok ({ log with quarantined_events := log.quarantined_events ++ [(event, reason)] }, false, some reason)
    | none => .ok ({ log with events := log.events ++ [event] }, true, none)

/-- The status of the goal after an event was placed. -/
def statusAfter (accepted : Bool) (current : AssignmentControlPlaneProjection) : GoalStatus :=
  if accepted ∧ current.terminal_state ≠ .open then statusOfVerdict current.terminal_state
  else if accepted ∧ current.outcome_state = .awaiting_user_input then .paused
  else if accepted ∧ event.kind = .clarification_resolved then .active
  else goal.status

def appendAssignmentEvent : Except String AssignmentEventAppendResult := do
  let (log, accepted, quarantined_reason) ←
    placeEvent host goal event (normalizeAssignmentControlPlane goal.control_plane)
  let acceptedProjection ← reduceAssignmentControlPlane host goal.id log.events
  let mutated := { goal with
    status := statusAfter goal event accepted acceptedProjection.projection
    control_plane := log }
  let current ← projection host mutated
  .ok ⟨mutated, current, accepted, quarantined_reason⟩

end store

/-- The host of the settlement barrier also writes numbers and takes digests. -/
structure BarrierHost extends ControlPlaneHost where
  numbers : Json.NumberText
  sha256 : ByteArray → String

section barrier

variable (host : BarrierHost)

/-- What the identity of an event of the barrier is the digest of. -/
def eventIdentity (current : AssignmentControlPlaneProjection) (attempt_id : String) (kind : EventKind) (data : Json)
    (time : String) : Json :=
  .obj [("assignment_id", .str current.assignment_id), ("run_id", (current.run_id.map Json.str).getD .null),
    ("generation", .num current.generation), ("attempt_id", .str attempt_id), ("kind", .str kind.name), ("data", data),
    ("at", .str time)]

/-- `event`. -/
def barrierEvent (current : AssignmentControlPlaneProjection) (attempt_id : String) (kind : EventKind) (data : Json)
    (time : String) : AssignmentAttemptEvent where
  schema := ASSIGNMENT_ATTEMPT_EVENT_SCHEMA
  event_id := "sha256:" ++ host.sha256 (Json.stringify host.numbers (eventIdentity current attempt_id kind data time)).toUTF8
  assignment_id := current.assignment_id
  run_id := current.run_id.getD ""
  generation := current.generation
  attempt_id := some attempt_id
  kind := kind
  occurred_at := time
  actor := "assignment_settlement_barrier"
  data := data

def expired (attempt : AssignmentAttemptRecord) (now : Int) : Bool :=
  (host.parseDate attempt.lease.deadline_at).any fun deadline => deadline ≤ now

/-- The attempt may have been handed over to Revit. -/
def mayHaveDispatched (attempt : AssignmentAttemptRecord) : Bool :=
  attempt.dispatch.state = .dispatched || attempt.dispatch.state = .acknowledged
    || attempt.lease.state ∈ [.dispatching, .dispatched, .retaining_evidence]

/-- An apply that may have been handed over settles as unknown. -/
def settlesAsUnknown (attempt : AssignmentAttemptRecord) : Bool :=
  attempt.requested_effect = .apply && mayHaveDispatched attempt

def refs (values : List String) : Json := .arr (values.map Json.str)

/-- What the barrier records of the effect of an attempt whose time is over. -/
def expiredEffect (attempt : AssignmentAttemptRecord) : Json :=
  let state := if settlesAsUnknown attempt then "unknown" else "none"
  let source := if settlesAsUnknown attempt then "dispatch_transport"
    else if mayHaveDispatched attempt then "worker" else "transport_pre_dispatch"
  let reason := if settlesAsUnknown attempt then "operation_deadline_elapsed_after_possible_dispatch"
    else if attempt.requested_effect = .read then "read_result_deadline_elapsed_without_task_evidence"
    else "preview_deadline_elapsed_without_authoritative_completion"
  .obj [("effect_state", .str state), ("effect_authority", .str source),
    ("authority_id", (attempt.dispatch.dispatch_id.map Json.str).getD .null), ("reason", .str reason),
    ("receipt_refs", refs attempt.receipt_refs), ("evidence_refs", refs attempt.evidence_refs),
    ("settlement_pending_evidence", .bool true)]

/-- The kind of the event that settles such an attempt. -/
def settlingKind (attempt : AssignmentAttemptRecord) : EventKind :=
  if settlesAsUnknown attempt then .lease_recorded else .attempt_terminal

def settlingData (attempt : AssignmentAttemptRecord) : Json :=
  if settlesAsUnknown attempt then
    .obj [("lease_state", .str "effect_unknown"), ("reason", .str "reconciliation_required_after_operation_deadline")]
  else
    .obj [("lease_state", .str (if attempt.requested_effect = .read then "timed_out_read" else "settled")),
      ("reason", .str "operation_deadline_elapsed")]

/-- A goal together with the projection of its assignment. -/
abbrev Standing := GoalRecord × AssignmentControlPlaneProjection

/-- `append`. -/
def appendBarrierEvent (standing : Standing) (attempt_id : String) (kind : EventKind) (data : Json) (time : String) :
    Except String Standing := do
  let result ← appendAssignmentEvent host.toControlPlaneHost standing.1 (barrierEvent host standing.2 attempt_id kind data time)
  .ok (result.goal, result.projection)

/-- One turn of the loop over the attempts whose time is over. -/
def settleExpired (time : String) (standing : Standing) (pending : AssignmentAttemptRecord) : Except String Standing := do
  let attempt := (standing.2.find pending.attempt_id).getD pending
  let recorded ← appendBarrierEvent host standing attempt.attempt_id .effect_recorded (expiredEffect attempt) time
  appendBarrierEvent host recorded attempt.attempt_id (settlingKind attempt) (settlingData attempt) time

def settleAssignmentExpiredWork (goal : GoalRecord) (now : Int) : Except String Standing := do
  let current ← projection host.toControlPlaneHost goal
  if current.terminal_state ≠ .open then .ok (goal, current)
  else
    match host.toISOString now with
    | none => .error "Invalid time value"
    | some time => (current.inFlight.filter fun attempt => expired host attempt now).foldlM (settleExpired host time) (goal, current)

end barrier

end revit_operator.assignment_control_plane
