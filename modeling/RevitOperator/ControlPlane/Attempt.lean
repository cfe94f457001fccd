import RevitOperator.Library.Json

namespace revit_operator.assignment_control_plane

inductive AssignmentRequestedEffect where
  | read
  | preview
  | apply
  deriving DecidableEq

inductive AssignmentEffectState where
  | none
  | unknown
  | applied
  deriving DecidableEq

inductive AssignmentAttemptPurpose where
  | action
  | discovery
  | evidence_read
  | interaction
  | navigation
  | completion_claim
  | verification
  | reconciliation
  | rollback
  deriving DecidableEq

/-- `unnamed` is a value that prints as one of the other states and equals none
    of them, such as a list with the state's name as its one entry. -/
inductive AssignmentTerminalState where
  | open
  | verified
  | complete
  | blocked
  | failed
  | canceled
  | unnamed (name : String)
  deriving DecidableEq

def AssignmentTerminalState.name : AssignmentTerminalState → String
  | .open => "open"
  | .verified => "verified"
  | .complete => "complete"
  | .blocked => "blocked"
  | .failed => "failed"
  | .canceled => "canceled"
  | .unnamed name => name

inductive AssignmentOutcomeState where
  | active
  | awaiting_user_input
  | awaiting_user_review
  | complete
  | complete_with_issues
  | verified_noop
  | blocked
  | failed
  deriving DecidableEq

inductive AssignmentVerificationState where
  | not_requested
  | pending
  | passed
  | failed
  | inconclusive
  | unnamed
  deriving DecidableEq

inductive AssignmentProgressDecision where
  | continue
  | diagnose
  | switch_tool_family
  | terminate
  deriving DecidableEq

inductive AssignmentAttemptLeaseState where
  | admitted
  | dispatching
  | dispatched
  | retaining_evidence
  | settled
  | failed_before_dispatch
  | timed_out_read
  | effect_unknown
  | canceled_before_dispatch
  | canceled_after_dispatch
  | quarantined_late
  deriving DecidableEq

inductive AssignmentEffectAuthority where
  | control_plane
  | admission_policy
  | schema_validator
  | write_grant
  | transport_pre_dispatch
  | dispatch_transport
  | native_host
  | native_transaction
  | native_receipt
  | native_rollback
  | target_readback
  | independent_verifier
  | worker
  | caller_report
  | assistant_prose
  deriving DecidableEq

inductive AssignmentRetryDelta where
  | corrected_schema
  | corrected_confirmation
  | new_target_evidence
  | changed_plan
  | recovered_authorization
  | resolved_host_state
  | reconciliation_none
  deriving DecidableEq

inductive AdmissionState where
  | pending
  | admitted
  | rejected
  deriving DecidableEq

def AdmissionState.name : AdmissionState → String
  | .pending => "pending"
  | .admitted => "admitted"
  | .rejected => "rejected"

inductive DispatchState where
  | not_dispatched
  | dispatched
  | acknowledged
  | failed
  | unnamed (name : String)
  deriving DecidableEq

def DispatchState.name : DispatchState → String
  | .not_dispatched => "not_dispatched"
  | .dispatched => "dispatched"
  | .acknowledged => "acknowledged"
  | .failed => "failed"
  | .unnamed name => name

inductive AttemptTerminalState where
  | active
  | settled
  | reconciled
  | superseded
  deriving DecidableEq

inductive CompletionStatus where
  | none
  | pending
  | accepted
  | rejected
  deriving DecidableEq

structure AttemptDispatch where
  state : DispatchState
  dispatch_id : Option String
  deriving DecidableEq

structure AttemptEffect where
  state : AssignmentEffectState
  reason : String
  authority : AssignmentEffectAuthority
  authority_id : Option String
  deriving DecidableEq

structure AttemptLease where
  state : AssignmentAttemptLeaseState
  deadline_at : String
  deriving DecidableEq

structure AssignmentAttemptRecord where
  attempt_id : String
  generation : Int
  purpose : AssignmentAttemptPurpose
  requested_effect : AssignmentRequestedEffect
  action_signature : String
  target_fingerprint : String
  admission : AdmissionState
  dispatch : AttemptDispatch
  effect : AttemptEffect
  affected_target_identities : List String
  receipt_refs : List String
  evidence_refs : List String
  verification : AssignmentVerificationState
  retry_of_attempt_id : Option String
  retry_delta : Option AssignmentRetryDelta
  reconciliation_of_attempt_id : Option String
  terminal_state : AttemptTerminalState
  lease : AttemptLease
  deriving DecidableEq

inductive EventKind where
  | run_started
  | run_superseded
  | attempt_opened
  | admission_recorded
  | dispatch_recorded
  | lease_recorded
  | effect_recorded
  | verification_recorded
  | reconciliation_started
  | reconciliation_resolved
  | attempt_terminal
  | provider_call_recorded
  | late_receipt_recorded
  | progress_recorded
  | read_completion_claimed
  | read_completion_validated
  | clarification_requested
  | clarification_resolved
  | review_requested
  | review_resolved
  | criterion_recorded
  | primary_artifact_recorded
  | noop_completion_claimed
  | noop_completion_validated
  | assignment_terminal
  | unsupported
  deriving DecidableEq

structure AssignmentAttemptEvent where
  schema : String
  event_id : String
  assignment_id : String
  run_id : String
  generation : Int
  attempt_id : Option String
  kind : EventKind
  occurred_at : String
  actor : String
  data : Json

def ASSIGNMENT_ATTEMPT_EVENT_SCHEMA : String := "revit-operator.assignment-attempt-event/v1"

section readers

/-- `string(value)`: the trimmed text, and the empty text for any other value. -/
def string (value : Json) : String := text.trim (value.asString?.getD "")

/-- A text, and nothing in place of the empty one. -/
def nonEmpty (value : String) : Option String := if value = "" then none else some value

/-- A text, and another in place of the empty one. -/
def orElse (value fallback : String) : String := if value = "" then fallback else value

def strings (value : Json) : List String :=
  match value with
  | .arr items => ((items.map string).filter (· ≠ "")).eraseDups
  | _ => []

/-- `[...new Set([...left, ...right])]`. -/
def union (left right : List String) : List String := (left ++ right).eraseDups

/-- `String(value) === word`, for a word without commas. -/
def printsAs (word : String) : Json → Bool
  | .str value => value = word
  | .arr [item] => printsAs word item
  | _ => false

/-- The value a table holds for a text. -/
def named {α : Type} (table : List (String × α)) (value : Json) : Option α :=
  value.asString?.bind fun name => List.lookup name table

/-- The state a table holds for the text a value prints as, and `other` for a
    value that is not that text itself. -/
def printed {α : Type} (table : List (String × α)) (other : String → α) (value : Json) : Option α :=
  match named table value with
  | some state => some state
  | none => (table.find? fun entry => printsAs entry.1 value).map fun entry => other entry.1

def requestedEffect (value : Json) : Option AssignmentRequestedEffect :=
  named [("read", .read), ("preview", .preview), ("apply", .apply)] value

def purpose (value : Json) : AssignmentAttemptPurpose :=
  (named [("discovery", .discovery), ("evidence_read", .evidence_read), ("navigation", .navigation),
    ("interaction", .interaction), ("completion_claim", .completion_claim), ("verification", .verification),
    ("reconciliation", .reconciliation), ("rollback", .rollback)] value).getD .action

def authority (value : Json) : Option AssignmentEffectAuthority :=
  named [("control_plane", .control_plane), ("admission_policy", .admission_policy),
    ("schema_validator", .schema_validator), ("write_grant", .write_grant),
    ("transport_pre_dispatch", .transport_pre_dispatch), ("dispatch_transport", .dispatch_transport),
    ("native_host", .native_host), ("native_transaction", .native_transaction), ("native_receipt", .native_receipt),
    ("native_rollback", .native_rollback), ("target_readback", .target_readback),
    ("independent_verifier", .independent_verifier), ("worker", .worker), ("caller_report", .caller_report),
    ("assistant_prose", .assistant_prose)] value

def retryDelta (value : Json) : Option AssignmentRetryDelta :=
  named [("corrected_schema", .corrected_schema), ("corrected_confirmation", .corrected_confirmation),
    ("new_target_evidence", .new_target_evidence), ("changed_plan", .changed_plan),
    ("recovered_authorization", .recovered_authorization), ("resolved_host_state", .resolved_host_state),
    ("reconciliation_none", .reconciliation_none)] value

def effectState (value : Json) : Option AssignmentEffectState :=
  named [("none", .none), ("unknown", .unknown), ("applied", .applied)] value

def admissionState (value : Json) : Option AdmissionState :=
  named [("admitted", .admitted), ("rejected", .rejected)] value

def dispatchState (value : Json) : Option DispatchState :=
  printed [("dispatched", .dispatched), ("acknowledged", .acknowledged), ("failed", .failed),
    ("not_dispatched", .not_dispatched)] .unnamed value

def leaseState (value : Json) : Option AssignmentAttemptLeaseState :=
  named [("admitted", .admitted), ("dispatching", .dispatching), ("dispatched", .dispatched),
    ("retaining_evidence", .retaining_evidence), ("settled", .settled),
    ("failed_before_dispatch", .failed_before_dispatch), ("timed_out_read", .timed_out_read),
    ("effect_unknown", .effect_unknown), ("canceled_before_dispatch", .canceled_before_dispatch),
    ("canceled_after_dispatch", .canceled_after_dispatch), ("quarantined_late", .quarantined_late)] value

def verificationState (value : Json) : Option AssignmentVerificationState :=
  printed [("passed", .passed), ("failed", .failed), ("inconclusive", .inconclusive)] (fun _ => .unnamed) value

def terminalState (value : Json) : Option AssignmentTerminalState :=
  printed [("verified", .verified), ("complete", .complete), ("blocked", .blocked), ("failed", .failed),
    ("canceled", .canceled)] .unnamed value

/-- The names of the states of a criterion. -/
def criterionStates : List String :=
  ["pass", "partial", "needs_input", "needs_review", "failed", "not_applicable", "uncertain"]

end readers

end revit_operator.assignment_control_plane
