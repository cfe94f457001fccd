import RevitOperator.ControlPlane.Effect

namespace revit_operator.assignment_control_plane

inductive AssignmentPhase where
  | idle
  | planning
  | executing
  | verifying
  | reconciling
  | settled
  deriving DecidableEq

inductive ClarificationStatus where
  | pending
  | resolved
  deriving DecidableEq

structure AssignmentClarificationRecord where
  clarification_id : String
  status : ClarificationStatus
  deriving DecidableEq

structure NoopCompletion where
  claim_id : Option String
  status : CompletionStatus
  deriving DecidableEq

structure ReadCompletion where
  claim_id : Option String
  status : CompletionStatus
  deriving DecidableEq

structure AssignmentProgress where
  fingerprint : Option String
  repeated_no_progress_count : Nat
  diagnosis_used : Bool
  tool_family_switch_used : Bool
  decision : AssignmentProgressDecision
  reason : Option String
  deriving DecidableEq

def AssignmentProgress.initial : AssignmentProgress := ⟨none, 0, false, false, .continue, none⟩

/-- The fields `refreshDerived` fills after every accepted event are functions
    of the others. -/
structure AssignmentControlPlaneProjection where
  assignment_id : String
  run_id : Option String
  generation : Int
  requested_effect : Option AssignmentRequestedEffect
  phase : AssignmentPhase
  terminal_state : AssignmentTerminalState
  terminal_reason : Option String
  attempts : List AssignmentAttemptRecord
  active_verification_attempt_id : Option String
  provider_call_ids : List String
  late_receipt_count : Nat
  outcome_state : AssignmentOutcomeState
  clarifications : List AssignmentClarificationRecord
  pending_clarification_id : Option String
  pending_review_id : Option String
  noop_completion : NoopCompletion
  read_completion : ReadCompletion
  progress : AssignmentProgress
  deriving DecidableEq

def initialProjection (assignment_id : String) : AssignmentControlPlaneProjection where
  assignment_id := assignment_id
  run_id := none
  generation := 0
  requested_effect := none
  phase := .idle
  terminal_state := .open
  terminal_reason := none
  attempts := []
  active_verification_attempt_id := none
  provider_call_ids := []
  late_receipt_count := 0
  outcome_state := .active
  clarifications := []
  pending_clarification_id := none
  pending_review_id := none
  noop_completion := ⟨none, .none⟩
  read_completion := ⟨none, .none⟩
  progress := .initial

/-- A persistent effect was requested or tried out, and it is not known whether
    it took place. -/
def AssignmentAttemptRecord.isUnresolved (attempt : AssignmentAttemptRecord) : Bool :=
  (attempt.requested_effect = .preview || attempt.requested_effect = .apply) && attempt.effect.state = .unknown

namespace AssignmentControlPlaneProjection

variable (projection : AssignmentControlPlaneProjection)

def unresolved_unknown_attempt_ids : List String :=
  (projection.attempts.filter AssignmentAttemptRecord.isUnresolved).map AssignmentAttemptRecord.attempt_id

def isInFlight (attempt : AssignmentAttemptRecord) : Bool :=
  attempt.generation = projection.generation && attempt.terminal_state = .active

def inFlight : List AssignmentAttemptRecord := projection.attempts.filter projection.isInFlight

def in_flight_attempt_ids : List String := projection.inFlight.map AssignmentAttemptRecord.attempt_id

def quiescent : Bool := projection.inFlight.isEmpty

def next_in_flight_deadline : Option String :=
  (text.sorted ((projection.inFlight.map fun attempt => attempt.lease.deadline_at).filter (· ≠ ""))).head?

/-- The attempt with an identity. -/
def find (id : String) : Option AssignmentAttemptRecord :=
  projection.attempts.find? fun attempt => attempt.attempt_id = id

/-- The attempt an event names. -/
def attemptFor (event : AssignmentAttemptEvent) : Option AssignmentAttemptRecord :=
  (event.attempt_id.filter (· ≠ "")).bind projection.find

/-- Replace the attempt with the identity of the given one. -/
def put (attempt : AssignmentAttemptRecord) : AssignmentControlPlaneProjection :=
  { projection with attempts := projection.attempts.map fun other =>
      if other.attempt_id = attempt.attempt_id then attempt else other }

/-- End every active attempt, of whatever generation. -/
def supersedeActive : AssignmentControlPlaneProjection :=
  { projection with attempts := projection.attempts.map fun attempt =>
      if attempt.terminal_state = .active then { attempt with terminal_state := .superseded } else attempt }

end AssignmentControlPlaneProjection

end revit_operator.assignment_control_plane
