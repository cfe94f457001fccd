import RevitOperator.Assignments.CachedReplay
import RevitOperator.ControlPlane.SettlementBarrier
import RevitOperator.Library.JsonWire

open checked
open revit_operator.assignment_kernel
open revit_operator.assignment_control_plane (GoalStatus)
open revit_operator.contracts

namespace revit_operator.assignments

structure AssignmentKernelQuarantinedEventV2 where
  event : StoredEventV2
  reason_code : String
  reason : String
  quarantined_at : String

structure AssignmentKernelJournalRecordV2 where
  events : List StoredEventV2
  quarantined_events : List AssignmentKernelQuarantinedEventV2

/-- The part of a goal the journal of its assignment reads and writes. -/
structure GoalRecord where
  id : String
  status : GoalStatus
  current_phase : Option String
  current_step : Option String
  finished_at : Option String
  progress_summary : String
  blocker : Option String
  error : Option String
  assignment_kernel_v2 : Option AssignmentKernelJournalRecordV2

structure AssignmentKernelAppendResultV2 where
  goal : GoalRecord
  snapshot : AssignmentSnapshotV2
  accepted : Bool
  quarantined_reason_code : Option String

def emptyJournal : AssignmentKernelJournalRecordV2 := ⟨[], []⟩

def journalForMutation (stored : Option AssignmentKernelJournalRecordV2) : AssignmentKernelJournalRecordV2 :=
  stored.getD emptyJournal

namespace AssignmentKernelJournalRecordV2

/-- The retained event under an identity, an accepted one first. -/
def existing? (record : AssignmentKernelJournalRecordV2) (id : String) : Option StoredEventV2 :=
  (record.events ++ record.quarantined_events.map AssignmentKernelQuarantinedEventV2.event).find?
    fun candidate => candidate.event_id = id

def accept (record : AssignmentKernelJournalRecordV2) (event : StoredEventV2) : AssignmentKernelJournalRecordV2 :=
  { record with events := record.events ++ [event] }

def quarantine (record : AssignmentKernelJournalRecordV2) (entry : AssignmentKernelQuarantinedEventV2) :
    AssignmentKernelJournalRecordV2 :=
  { record with quarantined_events := record.quarantined_events ++ [entry] }

end AssignmentKernelJournalRecordV2

def terminalStatus (snapshot : AssignmentSnapshotV2) : GoalStatus :=
  if snapshot.outcome = .complete ∨ snapshot.outcome = .verified_noop
      ∨ snapshot.outcome = .complete_with_issues then .complete
  else if snapshot.outcome = .blocked then .blocked
  else .failed

def outcomeName : AssignmentOutcomeV2 → String
  | .active => "active"
  | .awaiting_user_input => "awaiting_user_input"
  | .awaiting_user_review => "awaiting_user_review"
  | .complete => "complete"
  | .complete_with_issues => "complete_with_issues"
  | .verified_noop => "verified_noop"
  | .blocked => "blocked"
  | .failed => "failed"

def synchronizeGoalLifecycle (goal : GoalRecord) (snapshot : AssignmentSnapshotV2) : GoalRecord :=
  if snapshot.terminal = true then
    let status := terminalStatus snapshot
    { goal with
      status
      current_phase := some "settled"
      current_step := none
      finished_at := snapshot.finished_at
      progress_summary := snapshot.terminal_reason.getD ("Assignment " ++ outcomeName snapshot.outcome ++ ".")
      blocker := if status = .blocked then some (snapshot.terminal_reason.getD "Blocked.") else none
      error := if status = .failed then some (snapshot.terminal_reason.getD "Assignment failed.") else none }
  else if snapshot.outcome = .awaiting_user_input ∨ snapshot.outcome = .awaiting_user_review then
    { goal with
      status := .paused
      current_phase := some (outcomeName snapshot.outcome)
      current_step :=
        some (if snapshot.outcome = .awaiting_user_input then "Awaiting required user input."
          else "Awaiting bounded user review.")
      finished_at := none
      blocker := none
      error := none
      progress_summary :=
        if snapshot.outcome = .awaiting_user_input then "The Assignment is resumable after authenticated input."
        else "Useful work is retained while bounded review is pending." }
  else if snapshot.paused = true then
    { goal with
      status := .paused
      current_phase := some "paused"
      current_step := some "Resume saved work when ready."
      finished_at := none
      blocker := none
      error := none
      progress_summary := "Work and evidence are saved. Execution is paused." }
  else
    { goal with
      status := .active
      current_phase := some (if snapshot.quiescent then "planning" else "executing")
      current_step :=
        some (if snapshot.quiescent then "Evaluate the next unresolved criterion."
          else "Await canonical operation settlement.")
      finished_at := none
      blocker := none
      error := none
      progress_summary :=
        toString snapshot.in_flight_operation_ids.length ++ " operation(s) in flight; "
          ++ toString snapshot.criteria.ids.length ++ "/" ++ toString snapshot.spec.criteria.length
          ++ " criteria evaluated." }

/-- The code under which a rejected event is quarantined. -/
def faultCode : KernelFault → String
  | .assertion code _ => code
  | .error _ => "assignment_kernel_event_invalid"

def faultMessage : KernelFault → String
  | .assertion _ message => message
  | .error message => message

/-- The members the journal gives to an event itself. -/
def envelopeKeys : List String :=
  ["schema", "event_id", "assignment_id", "assignment_version", "binding", "occurred_at", "actor"]

/-- An event for the current version of an assignment. The type of its body
    omits the members of the envelope. -/
structure AssignmentKernelCurrentEventInputV2 where
  goal_id : String
  binding : Json
  event_id : String
  actor : String
  occurred_at : Option String
  body : List (String × Json)
  body_keys : (body.map Prod.fst).Nodup
  omits : ∀ entry ∈ body, entry.1 ∉ envelopeKeys
  unindexed : ∀ entry ∈ body, Json.arrayIndex? entry.1 = none
  proper : ∀ value ∈ binding :: body.map Prod.snd, value.Proper
  enumerated : ∀ value ∈ binding :: body.map Prod.snd, value.enumerated = value

namespace AssignmentKernelCurrentEventInputV2

/-- The members of the event at a version and a time. -/
def members (input : AssignmentKernelCurrentEventInputV2) (version : Nat) (occurredAt : String) :
    List (String × Json) :=
  [("schema", .str "revit-operator.assignment-event/v2"), ("event_id", .str input.event_id),
    ("assignment_id", .str input.goal_id), ("assignment_version", .num version), ("binding", input.binding),
    ("occurred_at", .str occurredAt), ("actor", .str input.actor)] ++ input.body

theorem members_keys (input : AssignmentKernelCurrentEventInputV2) (version : Nat) (occurredAt : String) :
    (input.members version occurredAt).map Prod.fst = envelopeKeys ++ input.body.map Prod.fst := by
  simp [members, envelopeKeys]

theorem members_nodup (input : AssignmentKernelCurrentEventInputV2) (version : Nat) (occurredAt : String) :
    ((input.members version occurredAt).map Prod.fst).Nodup := by
  rw [members_keys, List.nodup_append]
  refine ⟨by decide, input.body_keys, ?_⟩
  rintro key hkey other hother rfl
  obtain ⟨entry, hentry, rfl⟩ := List.mem_map.1 hother
  exact input.omits entry hentry hkey

theorem members_values (input : AssignmentKernelCurrentEventInputV2) {P : Json → Prop}
    (htexts : ∀ value, P (.str value)) (hnumbers : ∀ value, P (.num value))
    (hinput : ∀ value ∈ input.binding :: input.body.map Prod.snd, P value) (version : Nat) (occurredAt : String) :
    ∀ entry ∈ input.members version occurredAt, P entry.2 := by
  intro entry hentry
  simp only [members, List.cons_append, List.nil_append, List.mem_cons] at hentry
  obtain rfl | rfl | rfl | rfl | rfl | rfl | rfl | hbody := hentry
  · exact htexts _
  · exact htexts _
  · exact htexts _
  · exact hnumbers _
  · exact hinput _ List.mem_cons_self
  · exact htexts _
  · exact htexts _
  · exact hinput _ (List.mem_cons_of_mem _ (List.mem_map_of_mem hbody))

theorem members_enumerated (input : AssignmentKernelCurrentEventInputV2) (version : Nat) (occurredAt : String) :
    (Json.obj (input.members version occurredAt)).enumerated = .obj (input.members version occurredAt) := by
  have hvalues := input.members_values (P := fun value => value.enumerated = value) Json.enumerated_str
    Json.enumerated_num input.enumerated version occurredAt
  have hsame : Json.mapValues Json.enumerated (input.members version occurredAt)
      = input.members version occurredAt := by
    rw [Json.mapValues]
    conv_rhs => rw [← List.map_id (input.members version occurredAt)]
    exact List.map_congr_left fun entry hentry => Prod.ext rfl (hvalues entry hentry)
  have hindex : ∀ entry ∈ input.members version occurredAt, Json.arrayIndex? entry.1 = none := by
    intro entry hentry
    have hkey := List.mem_map_of_mem (f := Prod.fst) hentry
    rw [members_keys, List.mem_append] at hkey
    obtain henvelope | hbody := hkey
    · revert henvelope
      have hall : ∀ key ∈ envelopeKeys, Json.arrayIndex? key = none := by decide
      exact hall entry.1
    · obtain ⟨own, hown, hsame⟩ := List.mem_map.1 hbody
      rw [← hsame]
      exact input.unindexed own hown
  rw [Json.enumerated_obj, hsame, Json.enumerationOrder_of_unindexed hindex]

/-- The event offered for the input: a delivery under a known identity repeats
    the version and the time of the retained event. -/
def candidate (input : AssignmentKernelCurrentEventInputV2) (existing : Option StoredEventV2)
    (snapshot : AssignmentSnapshotV2) (now : String) : StoredEventV2 :=
  let version := (existing.map StoredEventV2.assignment_version).getD (snapshot.assignment_version + 1)
  let occurredAt := ((existing.bind fun event => (event.value.field "occurred_at").asString?).or
    input.occurred_at).getD now
  { value := .obj (input.members version occurredAt)
    proper :=
      Json.everyObject_obj.2 ⟨input.members_nodup version occurredAt,
        input.members_values (fun _ => trivial) (fun _ => trivial) input.proper version occurredAt⟩
    enumerated := input.members_enumerated version occurredAt
    event_id := input.event_id
    reads_event_id := rfl
    assignment_version := version
    reads_assignment_version := rfl }

end AssignmentKernelCurrentEventInputV2

section store

variable (host : JavaScriptHost) (numbers : Json.NumberText) (typed : Json → AssignmentEventV2)
  (sha256 : String → String)

def eventDigest (event : StoredEventV2) : String := sha256 (canonicalPayloadJsonV2 numbers event.value)

/-- `journalProjection.open`, whose cache changes no answer. -/
def openJournal (events : List StoredEventV2) : Except KernelFault AssignmentJournalV2 := do
  checkRepeated host typed events
  AssignmentJournalV2.ofEvents host numbers typed events

/-- The snapshot of a stored history, none of an empty one. -/
def storedSnapshot (events : List StoredEventV2) : Except KernelFault (Option AssignmentSnapshotV2) :=
  match events with
  | [] => .ok none
  | first :: rest => do
    let journal ← openJournal host numbers typed (first :: rest)
    let snapshot ← journal.snapshot
    return some snapshot

/-- The delivery repeats an accepted event. -/
def repeats (record : AssignmentKernelJournalRecordV2) (existing event : StoredEventV2) : Bool :=
  (record.events.any fun candidate => candidate.event_id = event.event_id)
    && eventDigest numbers sha256 existing == eventDigest numbers sha256 event

/-- The entry of an identity that was reused. -/
def conflictEntry (event : StoredEventV2) (now : String) : AssignmentKernelQuarantinedEventV2 :=
  ⟨event, "assignment_event_id_conflict", "Event identity was reused with different content.", now⟩

def rejectedEntry (event : StoredEventV2) (fault : KernelFault) (now : String) :
    AssignmentKernelQuarantinedEventV2 :=
  ⟨event, faultCode fault, faultMessage fault, now⟩

/-- What one mutation of the goal comes to. -/
structure Delivery where
  goal : GoalRecord
  snapshot : Option AssignmentSnapshotV2
  accepted : Bool
  quarantined_reason_code : Option String

/-- The mutation of `appendAssignmentKernelEventV2`. -/
def deliver (now : String) (current : GoalRecord) (event : StoredEventV2) : Except KernelFault Delivery :=
  let record := journalForMutation current.assignment_kernel_v2
  match record.existing? event.event_id with
  | some existing => do
    let snapshot ← storedSnapshot host numbers typed record.events
    if repeats numbers sha256 record existing event then
      return ⟨current, snapshot, true, none⟩
    else
      return ⟨{ current with assignment_kernel_v2 := some (record.quarantine (conflictEntry event now)) }, snapshot,
        false, some "assignment_event_id_conflict"⟩
  | none =>
    match openJournal host numbers typed record.events >>= fun journal => journal.append host numbers typed event with
    | .ok (_, snapshot) =>
      return ⟨synchronizeGoalLifecycle { current with assignment_kernel_v2 := some (record.accept event) } snapshot,
        some snapshot, true, none⟩
    | .error fault => do
      let snapshot ← storedSnapshot host numbers typed record.events
      return ⟨{ current with assignment_kernel_v2 := some (record.quarantine (rejectedEntry event fault now)) },
        snapshot, false, some (faultCode fault)⟩

/-- The goal as it is stored afterwards, and the reply. -/
def appendAssignmentKernelEventV2 (now : String) (current : GoalRecord) (event : StoredEventV2) :
    GoalRecord × Except KernelFault AssignmentKernelAppendResultV2 :=
  match deliver host numbers typed sha256 now current event with
  | .error fault => (current, .error fault)
  | .ok delivery =>
    match delivery.snapshot with
    | none => (delivery.goal, .error (.error "assignment_kernel_v2_not_created"))
    | some snapshot =>
      (delivery.goal, .ok ⟨delivery.goal, snapshot, delivery.accepted, delivery.quarantined_reason_code⟩)

/-- The state of the loop over a batch. -/
structure BatchState where
  record : AssignmentKernelJournalRecordV2
  journal : AssignmentJournalV2
  snapshot : AssignmentSnapshotV2
  appended : Bool

/-- The loop over a batch, up to the first event that is refused, with the
    reason. -/
def offerBatch (now : String) (state : BatchState) :
    List AssignmentKernelCurrentEventInputV2 → BatchState × Option String
  | [] => (state, none)
  | input :: rest =>
    let existing := state.record.existing? input.event_id
    let candidate := input.candidate existing state.snapshot now
    match existing with
    | some existing =>
      if repeats numbers sha256 state.record existing candidate then offerBatch now state rest
      else
        ({ state with record := state.record.quarantine (conflictEntry candidate now) },
          some "assignment_event_id_conflict")
    | none =>
      match state.journal.append host numbers typed candidate with
      | .ok (journal, snapshot) => offerBatch now ⟨state.record.accept candidate, journal, snapshot, true⟩ rest
      | .error fault =>
        ({ state with record := state.record.quarantine (rejectedEntry candidate fault now) },
          some (faultCode fault))

/-- The state in which the loop over a batch starts. -/
def startBatch (record : AssignmentKernelJournalRecordV2) : Except KernelFault BatchState := do
  let journal ← openJournal host numbers typed record.events
  throwUnless (record.events.isEmpty = false) "assignment_kernel_v2_not_created"
  let snapshot ← journal.snapshot
  return ⟨record, journal, snapshot, false⟩

/-- The goal as it is stored afterwards, and the reply. A batch that is refused
    part way is stored all the same. -/
def appendCurrentEventsUnderGoalLock (now : String) (current : GoalRecord)
    (inputs : List AssignmentKernelCurrentEventInputV2) :
    GoalRecord × Except KernelFault AssignmentKernelAppendResultV2 :=
  match inputs with
  | [] => (current, .error (.error "Cannot read properties of undefined (reading 'goal_id')"))
  | _ :: _ =>
    match startBatch host numbers typed (journalForMutation current.assignment_kernel_v2) with
    | .error fault => (current, .error fault)
    | .ok start =>
      let (final, refused) := offerBatch host numbers typed sha256 now start inputs
      let stored := { current with assignment_kernel_v2 := some final.record }
      let goal :=
        if final.appended then synchronizeGoalLifecycle stored final.snapshot
        else if refused.isNone then current
        else stored
      match refused with
      | some code => (goal, .error (.error code))
      | none => (goal, .ok ⟨goal, final.snapshot, true, none⟩)

end store

end revit_operator.assignments
