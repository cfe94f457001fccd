import RevitOperator.AssignmentKernel.Events

namespace revit_operator.assignment_kernel

/-- Where the text of a follow-up was stated. -/
structure FollowupSource where
  version : Nat
  field : String
  index : Nat
  parent_item_id : Option String

/-- A repeated unfinished claim reopens a closed item; a deferred item stays
    deferred. -/
def AdvisoryFollowupV2.mentionedAgain (item : AdvisoryFollowupV2) (version : Nat) : AdvisoryFollowupV2 :=
  if item.state = .deferred then { item with version, last_mentioned_version := version }
  else { item with version, last_mentioned_version := version, state := .open_, disposition_reason := none }

/-- A new unfinished item, named after its immutable source. -/
def newFollowup (source : FollowupSource) (kind : AdvisoryFollowupKind) (text : String) :
    AdvisoryFollowupV2 where
  item_id := s!"followup:{source.version}:{source.field}:{source.index}"
  kind
  text
  source_version := source.version
  source_field := source.field
  source_index := source.index
  parent_item_id := source.parent_item_id
  last_mentioned_version := source.version
  version := source.version
  state := .open_
  disposition_reason := none

/-- Mention a text: the first item of its kind and text is refreshed, and a new
    item is added when there is none. -/
def mention (source : FollowupSource) (kind : AdvisoryFollowupKind) (text : String) :
    List AdvisoryFollowupV2 → List AdvisoryFollowupV2
  | [] => [newFollowup source kind text]
  | item :: rest =>
    if item.kind = kind ∧ item.text = text then item.mentionedAgain source.version :: rest
    else item :: mention source kind text rest

/-- Mention the texts of one field of a proposal in order. -/
def mentionAll (version : Nat) (kind : AdvisoryFollowupKind) (texts : List String)
    (items : List AdvisoryFollowupV2) : List AdvisoryFollowupV2 :=
  texts.zipIdx.foldl (fun items (text, index) => mention ⟨version, kind.toText, index, none⟩ kind text items)
    items

/-- Retain what a proposal leaves unfinished. Omission does nothing. -/
def retainAdvisoryFollowupsV2 (previous : List AdvisoryFollowupV2) (proposal : AdvisoryCompletionProposalV1)
    (version : Nat) : List AdvisoryFollowupV2 :=
  mentionAll version .uncertainties proposal.uncertainties
    (mentionAll version .remaining_work proposal.remaining_work previous)

/-- Supersession names one to eight replacements other than the item itself;
    the other dispositions name none. -/
def replacementsValid (item : AdvisoryFollowupV2) (value : AdvisoryFollowupDispositionV2) : Bool :=
  match value.disposition, value.replacements with
  | .superseded, some replacements => !replacements.isEmpty && replacements.length ≤ 8
      && replacements.all fun replacement => text.nonBlank replacement.text
        && text.length replacement.text ≤ 1000
        && !(replacement.kind == item.kind && replacement.text == item.text)
  | .superseded, none => false
  | _, replacements => replacements.isNone

def AdvisoryDisposition.state : AdvisoryDisposition → AdvisoryFollowupState
  | .resolved => .resolved
  | .deferred => .deferred
  | .superseded => .superseded

/-- Record what the trusted work-plan boundary decides about one item. -/
def dispositionAdvisoryFollowupV2 (items : List AdvisoryFollowupV2) (value : AdvisoryFollowupDispositionV2)
    (version : Nat) : Except KernelFault (List AdvisoryFollowupV2) := do
  kernelAssertV2 (text.isStableIdentity 159 value.command_id ∧ text.length value.item_id ≤ 100
      ∧ isSafeInteger value.expected_version ∧ 0 < value.expected_version ∧ text.nonBlank value.reason
      ∧ text.length value.reason ≤ 1000) "advisory_followup_disposition_invalid"
    "A bounded explicit unverified disposition and reason are required."
  match items.find? fun item => item.item_id == value.item_id with
  | none => .error (.assertion "advisory_followup_stale"
      "Read the current item before recording its disposition.")
  | some item =>
    kernelAssertV2 ((item.version : Int) = value.expected_version) "advisory_followup_stale"
      "Read the current item before recording its disposition."
    kernelAssertV2 (item.state = .open_ ∨ item.state = .deferred) "advisory_followup_closed"
      "Only unfinished items accept a new disposition."
    kernelAssertV2 (replacementsValid item value) "advisory_followup_replacements_invalid"
      "Supersession must atomically retain one to eight bounded unfinished replacements, excluding the parent itself."
    let next := items.map fun other =>
      if other.item_id = value.item_id then
        { other with state := value.disposition.state, disposition_reason := some value.reason, version }
      else other
    return (value.replacements.getD []).zipIdx.foldl
      (fun items (replacement, index) =>
        mention ⟨version, "replacements", index, some item.item_id⟩ replacement.kind replacement.text items)
      next

end revit_operator.assignment_kernel

open checked

namespace revit_operator.assignment_kernel

/-- A bounded saved direction of the user. -/
def continuationWellFormed (continuation : AdvisoryCheckpointContinuationV1) : Bool :=
  text.isStableIdentity 159 continuation.command_id && text.nonBlank continuation.direction_text
    && text.length continuation.direction_text ≤ 8000
    && text.startsWith continuation.direction_variable_id "user_direction_"
    && text.isHexText 32 (text.dropFirst 15 continuation.direction_variable_id)

/-- The budget leaves room for another provider call, operation, token and
    moment. -/
def withinBudget (host : JavaScriptHost) (snapshot : AssignmentSnapshotV2)
    (budget : AssignmentProgressBudgetV2) (now : String) : Bool :=
  decide ((snapshot.provider_calls.ids.length : Int) < budget.max_provider_calls)
    && decide ((snapshot.operations.ids.length : Int) < budget.max_operations)
    && decide (consumedTokens snapshot < budget.max_total_tokens)
    && activeTimeBelow host snapshot now budget.max_wall_clock_ms

/-- The direction of the user is resolved and saved under its variable. -/
def directionSaved (snapshot : AssignmentSnapshotV2) (continuation : AdvisoryCheckpointContinuationV1) :
    Bool :=
  ((snapshot.clarifications.get? continuation.command_id).any fun input =>
      input.variable_id == continuation.direction_variable_id && truthy input.resolved_at)
    && snapshot.input_values.get? continuation.direction_variable_id
      == some (some (.str continuation.direction_text))

/-- Nothing else stands between the checkpoint and its continuation. -/
def checkContinuationUnblocked (snapshot : AssignmentSnapshotV2) (reviewId : String)
    (continuation : AdvisoryCheckpointContinuationV1) (preparingDirection allocateNewWork : Bool) :
    Except KernelFault Unit := do
  kernelAssertV2 (snapshot.completion_proposal.map CompletionProposal.review_id = some reviewId
      ∧ snapshot.pending_review_ids = [reviewId]) "advisory_continuation_review_stale"
    "Only the current checkpoint can be continued."
  kernelAssertV2 (continuation.expected_control_command_id
      = snapshot.execution_control.map ExecutionControl.command_id) "assignment_control_stale"
    "Execution control changed since this continuation was prepared."
  kernelAssertV2 (continuation.document_fingerprint ≠ ""
      ∧ some continuation.document_fingerprint = snapshot.spec.binding.document_fingerprint
      ∧ some continuation.document_fingerprint = snapshot.current_binding.document_fingerprint)
    "advisory_continuation_document_mismatch" "Continuation retains the exact task document."
  kernelAssertV2 (snapshot.quiescent ∧ snapshot.in_flight_operation_ids = []
      ∧ snapshot.in_flight_provider_call_ids = []) "advisory_continuation_not_quiescent"
    "Admitted work must settle first."
  kernelAssertV2 (snapshot.unresolved_unknown_operation_ids = [])
    "advisory_continuation_reconciliation_required"
    "Unknown effects cannot be released by a follow-up."
  kernelAssertV2 (snapshot.pending_input_variable_ids.all fun id =>
      preparingDirection && id == continuation.direction_variable_id) "advisory_continuation_input_pending"
    "Other execution-critical answers are still required."
  kernelAssertV2 (snapshot.progress_blocker = none ∧ ¬ snapshot.provider_budget_exhausted
      ∧ snapshot.provider_usage_hold = none ∧ snapshot.execution_failure_ids = [])
    "advisory_continuation_execution_blocked"
    "A checkpoint cannot clear execution failure or budget stops."
  kernelAssertV2 (continuation.resource_renewal = none ∨ allocateNewWork)
    "advisory_resource_renewal_decision_invalid"
    "Explicit resource renewal requires an authenticated work-allocation decision."

/-- The snapshot a continuation goes on from, with newly allocated work if it
    asks for that. -/
def continuationCandidate (host : JavaScriptHost) (snapshot : AssignmentSnapshotV2)
    (policy : AssignmentExecutionPolicyV1) (continuation : AdvisoryCheckpointContinuationV1) (now : String)
    (allocateNewWork : Bool) : Except KernelFault AssignmentSnapshotV2 :=
  if allocateNewWork then
    allocateAuthenticatedFollowupV1 host snapshot policy continuation.command_id now
      continuation.resource_renewal
  else .ok snapshot

/-- Saving a direction may precede its resolution; only the pending input of
    that command may be left open. The result is the candidate snapshot. -/
def assertAdvisoryCheckpointContinuationV1 (host : JavaScriptHost) (snapshot : AssignmentSnapshotV2)
    (reviewId : String) (continuation : Option AdvisoryCheckpointContinuationV1) (now : String)
    (preparingDirection allocateNewWork : Bool) : Except KernelFault AssignmentSnapshotV2 := do
  kernelAssertV2 (advisoryVerificationV2 snapshot.spec ∧ ¬ snapshot.terminal)
    "advisory_continuation_not_enabled" "An open advisory task is required."
  match continuation, snapshot.spec.execution_policy with
  | some continuation, some policy =>
    kernelAssertV2 (continuationWellFormed continuation) "advisory_continuation_invalid"
      "A bounded saved user direction is required."
    checkContinuationUnblocked snapshot reviewId continuation preparingDirection allocateNewWork
    let candidate ← continuationCandidate host snapshot policy continuation now allocateNewWork
    kernelAssertV2 (withinBudget host snapshot (advisoryWorkBudget host candidate policy) now)
      "advisory_continuation_budget_exhausted" "Continuation retains the original usage limits."
    onlyIf (¬ preparingDirection) do
      kernelAssertV2 (directionSaved snapshot continuation) "advisory_continuation_direction_not_saved"
        "The authenticated follow-up must be saved before releasing its checkpoint."
      kernelAssertV2 (deriveAssignmentOutcomeV2 host
          { candidate with completion_proposal := none, pending_review_ids := [] } = .active)
        "advisory_continuation_execution_blocked" "The task still has unresolved execution prerequisites."
    return candidate
  | _, _ => .error (.assertion "advisory_continuation_invalid"
      "A bounded saved user direction is required.")

/-- A proposal of the advisory work plan opens a checkpoint. -/
def proposeCompletion (snapshot : AssignmentSnapshotV2) (actor occurredAt reviewId : String)
    (proposal : AdvisoryCompletionProposalV1) : Except KernelFault AssignmentSnapshotV2 := do
  kernelAssertV2 (advisoryVerificationV2 snapshot.spec ∧ actor = "operator-work-plan")
    "advisory_proposal_not_enabled"
    "Only the local advisory work-plan boundary can propose an unverified checkpoint."
  kernelAssertV2 (snapshot.completion_proposal = none ∧ validAdvisoryProposalV1 proposal)
    "advisory_proposal_invalid" "Only one bounded checkpoint may be pending."
  kernelAssertV2 (¬ snapshot.paused ∧ snapshot.in_flight_operation_ids = []
      ∧ snapshot.unresolved_unknown_operation_ids = [] ∧ snapshot.pending_input_variable_ids = [])
    "advisory_proposal_unsafe"
    "Pause, missing inputs, unsettled operations and unknown effects must be resolved first."
  return { snapshot with
    advisory_followups :=
      retainAdvisoryFollowupsV2 snapshot.advisory_followups proposal snapshot.assignment_version
    completion_proposal := some ⟨proposal, reviewId, occurredAt⟩ }

/-- A review may come with a proposal. -/
def withProposal (snapshot : AssignmentSnapshotV2) (actor occurredAt reviewId : String)
    (proposal : Option AdvisoryCompletionProposalV1) : Except KernelFault AssignmentSnapshotV2 :=
  match proposal with
  | none => .ok snapshot
  | some proposal => proposeCompletion snapshot actor occurredAt reviewId proposal

def requestReview (snapshot : AssignmentSnapshotV2) (actor occurredAt reviewId : String)
    (workUnitIds : List String) (proposal : Option AdvisoryCompletionProposalV1) :
    Except KernelFault AssignmentSnapshotV2 := do
  let proposed ← withProposal snapshot actor occurredAt reviewId proposal
  forEach workUnitIds fun workUnitId =>
    kernelAssertV2 (proposed.work_unit_states.has workUnitId) "review_work_unit_unknown"
      "Review cites an unknown work unit."
  return { proposed with
    pending_review_ids := text.sortedUnique (proposed.pending_review_ids ++ [reviewId]) }

def CONTINUE_ADVISORY_CHECKPOINT_V1 : String := "continue_advisory_checkpoint_v1"

/-- Release the checkpoint of a review on the authority of the user. -/
def releaseCheckpoint (host : JavaScriptHost) (snapshot : AssignmentSnapshotV2)
    (actor occurredAt reviewId decision : String) (continuation : Option AdvisoryCheckpointContinuationV1) :
    Except KernelFault AssignmentSnapshotV2 :=
  if decision = CONTINUE_ADVISORY_CHECKPOINT_V1 ∨ decision = USER_FOLLOWUP_ALLOCATION_V1 then do
    kernelAssertV2 (actor = "authenticated-user") "advisory_continuation_authority_invalid"
      "Only an authenticated user can continue a checkpoint."
    let candidate ← assertAdvisoryCheckpointContinuationV1 host snapshot reviewId continuation occurredAt
      false (decision == USER_FOLLOWUP_ALLOCATION_V1)
    return { candidate with completion_proposal := none }
  else do
    kernelAssertV2 (continuation = none) "advisory_continuation_decision_invalid"
      "Continuation requires its versioned decision."
    return snapshot

def resolveReview (host : JavaScriptHost) (snapshot : AssignmentSnapshotV2)
    (actor occurredAt reviewId decision : String) (continuation : Option AdvisoryCheckpointContinuationV1) :
    Except KernelFault AssignmentSnapshotV2 := do
  kernelAssertV2 (reviewId ∈ snapshot.pending_review_ids) "review_resolution_unknown"
    "Review resolution does not match a pending review."
  let released ← releaseCheckpoint host snapshot actor occurredAt reviewId decision continuation
  return { released with pending_review_ids := released.pending_review_ids.filter (· != reviewId) }

end revit_operator.assignment_kernel
