import RevitOperator.AssignmentKernel.Reducer

open checked

namespace revit_operator.assignment_kernel

/-- The part of a snapshot the lifecycle of operations and provider calls rests
    on. -/
structure OperationLedger where
  spec : AssignmentSpecV2
  current_binding : AssignmentBindingV2
  assignment_version : Nat
  terminal : Bool
  operations : Record OperationV2
  provider_calls : Record ProviderCallV2
  observations : Record ObservationV2
  observation_versions : Record Nat

def AssignmentSnapshotV2.ledger (snapshot : AssignmentSnapshotV2) : OperationLedger where
  spec := snapshot.spec
  current_binding := snapshot.current_binding
  assignment_version := snapshot.assignment_version
  terminal := snapshot.terminal
  operations := snapshot.operations
  provider_calls := snapshot.provider_calls
  observations := snapshot.observations
  observation_versions := snapshot.observation_versions

@[simp]
theorem withDerivedState_operations (host : JavaScriptHost) (snapshot : AssignmentSnapshotV2) :
    (withDerivedState host snapshot).operations = snapshot.operations :=
  rfl

@[simp]
theorem withDerivedState_provider_calls (host : JavaScriptHost) (snapshot : AssignmentSnapshotV2) :
    (withDerivedState host snapshot).provider_calls = snapshot.provider_calls :=
  rfl

/-- What a publication is checked against beside the ledger. -/
structure PublicationIndex where
  execution_control : Option ExecutionControl
  provider_usage_hold : Option ProviderUsageHoldV1
  provider_call_ids : List String
  execution_failure_ids : List String
  execution_failures : Record ExecutionFailureV2

def AssignmentSnapshotV2.publicationIndex (snapshot : AssignmentSnapshotV2) : PublicationIndex where
  execution_control := snapshot.execution_control
  provider_usage_hold := snapshot.provider_usage_hold
  provider_call_ids := snapshot.provider_call_ids
  execution_failure_ids := snapshot.execution_failure_ids
  execution_failures := snapshot.execution_failures

/-- The later snapshot has the ledger and the publication index of the earlier
    one. -/
structure AssignmentSnapshotV2.Frames (next snapshot : AssignmentSnapshotV2) : Prop where
  ledger : next.ledger = snapshot.ledger
  index : next.publicationIndex = snapshot.publicationIndex

theorem AssignmentSnapshotV2.Frames.update {next middle snapshot : AssignmentSnapshotV2}
    (h : middle.Frames snapshot) (hledger : next.ledger = middle.ledger)
    (hindex : next.publicationIndex = middle.publicationIndex) : next.Frames snapshot :=
  ⟨hledger.trans h.ledger, hindex.trans h.index⟩

/-! Events that are not about operations, provider calls or observations leave
    the ledger alone, and most of them the publication index too. -/

section frame

variable {host : JavaScriptHost} {state : ReducerStateV2} {snapshot next : AssignmentSnapshotV2}
  {event : AssignmentEventV2}

theorem applyAssignmentExecutionControlV2_ledger {actor occurredAt : String} {version : Nat}
    {request : ExecutionControlRequest}
    (h : applyAssignmentExecutionControlV2 host snapshot actor version occurredAt request = .ok next) :
    next.ledger = snapshot.ledger := by
  simp only [applyAssignmentExecutionControlV2, check_bind_eq_ok, pure_eq_ok] at h
  obtain ⟨-, -, -, -, rfl⟩ := h
  rfl

theorem recordUsageHold_ledger {hold : ProviderUsageHoldV1}
    (h : recordUsageHold host state snapshot event hold = .ok next) : next.ledger = snapshot.ledger := by
  simp only [recordUsageHold, check_bind_eq_ok, pure_eq_ok] at h
  obtain ⟨-, -, rfl⟩ := h
  rfl

theorem changeWorkUnitState_frame {id : String} {unitState : AssignmentWorkUnitStateV2}
    (h : changeWorkUnitState snapshot id unitState = .ok next) : next.Frames snapshot := by
  simp only [changeWorkUnitState, check_bind_eq_ok, pure_eq_ok] at h
  obtain ⟨-, rfl⟩ := h
  exact ⟨rfl, rfl⟩

theorem appendDiscoveredInputV2_frame {declaration : DiscoveredAssignmentInputV2}
    (h : appendDiscoveredInputV2 host snapshot declaration = .ok next) : next.Frames snapshot := by
  simp only [appendDiscoveredInputV2, check_bind_eq_ok, pure_eq_ok] at h
  obtain ⟨-, -, -, -, -, rfl⟩ := h
  exact ⟨rfl, rfl⟩

theorem declareInput_frame {id : String} {declaration : Option DiscoveredAssignmentInputV2}
    (h : declareInput host snapshot id declaration = .ok next) : next.Frames snapshot := by
  cases declaration with
  | none =>
    obtain rfl : snapshot = next := by simpa [declareInput] using h
    exact ⟨rfl, rfl⟩
  | some declaration =>
    simp only [declareInput, check_bind_eq_ok] at h
    exact appendDiscoveredInputV2_frame h.2

theorem requestInput_frame {occurredAt variableId clarificationId question : String}
    {declaration : Option DiscoveredAssignmentInputV2}
    (h : requestInput host state snapshot occurredAt variableId clarificationId question declaration
      = .ok next) : next.Frames snapshot := by
  simp only [requestInput, bind_eq_ok, pure_eq_ok] at h
  obtain ⟨declared, hdeclared, -, -, -, -, rfl⟩ := h
  exact (declareInput_frame hdeclared).update rfl rfl

theorem invalidateDependentInputResultsV2_frame (snapshot : AssignmentSnapshotV2) (id : String) :
    (invalidateDependentInputResultsV2 snapshot id).Frames snapshot := by
  unfold invalidateDependentInputResultsV2
  dsimp only
  split <;> exact ⟨rfl, rfl⟩

theorem supplyInput_frame {actor occurredAt variableId clarificationId : String}
    {value : Option Json} {freshness : Option String}
    (h : supplyInput state snapshot actor occurredAt variableId clarificationId value freshness = .ok next) :
    next.Frames snapshot := by
  simp only [supplyInput, check_bind_eq_ok, pure_eq_ok] at h
  obtain ⟨-, -, -, rfl⟩ := h
  split
  · have hinvalidated := fun answered => invalidateDependentInputResultsV2_frame answered variableId
    exact ⟨(hinvalidated _).ledger, (hinvalidated _).index⟩
  · exact ⟨rfl, rfl⟩

theorem recordExecutionFailure_ledger {failure : ExecutionFailureV2}
    (h : recordExecutionFailure snapshot failure = .ok next) : next.ledger = snapshot.ledger := by
  simp only [recordExecutionFailure, check_bind_eq_ok, pure_eq_ok] at h
  obtain ⟨-, -, -, -, -, -, rfl⟩ := h
  rfl

theorem exhaustProviderBudget_frame {limit : Int}
    (h : exhaustProviderBudget snapshot limit = .ok next) : next.Frames snapshot := by
  simp only [exhaustProviderBudget, check_bind_eq_ok, pure_eq_ok] at h
  obtain ⟨-, rfl⟩ := h
  exact ⟨rfl, rfl⟩

theorem recordProgressEpoch_frame {epoch : ProgressEpochV2}
    (h : recordProgressEpoch snapshot epoch = .ok next) : next.Frames snapshot := by
  simp only [recordProgressEpoch, check_bind_eq_ok, pure_eq_ok] at h
  obtain ⟨-, -, -, rfl⟩ := h
  exact ⟨rfl, rfl⟩

theorem blockProgress_frame {occurredAt code : String} {gapIds : List String}
    (h : blockProgress snapshot occurredAt code gapIds = .ok next) : next.Frames snapshot := by
  simp only [blockProgress, check_bind_eq_ok, pure_eq_ok] at h
  obtain ⟨-, -, rfl⟩ := h
  exact ⟨rfl, rfl⟩

theorem recordEvaluation_frame {evaluation : CriterionEvaluationV2}
    (h : recordEvaluation host snapshot evaluation = .ok next) : next.Frames snapshot := by
  simp only [recordEvaluation, check_bind_eq_ok, pure_eq_ok] at h
  obtain ⟨-, rfl⟩ := h
  exact ⟨rfl, rfl⟩

theorem deliverResult_frame {actor : String} {delivery : AssignmentResultDeliveryV2}
    (h : deliverResult host snapshot actor delivery = .ok next) : next.Frames snapshot := by
  simp only [deliverResult, check_bind_eq_ok, pure_eq_ok] at h
  obtain ⟨-, -, -, rfl⟩ := h
  exact ⟨rfl, rfl⟩

theorem recordFollowupDisposition_frame {disposition : AdvisoryFollowupDispositionV2}
    (h : recordFollowupDisposition snapshot event disposition = .ok next) :
    next.Frames snapshot := by
  simp only [recordFollowupDisposition, bind_eq_ok, pure_eq_ok] at h
  obtain ⟨-, -, -, -, -, -, -, -, rfl⟩ := h
  exact ⟨rfl, rfl⟩

theorem replaceWorkPlan_frame {actor : String} {plan : Except KernelFault AssignmentWorkPlanV2}
    (h : replaceWorkPlan snapshot actor plan = .ok next) : next.Frames snapshot := by
  simp only [replaceWorkPlan, bind_eq_ok, pure_eq_ok] at h
  obtain ⟨-, -, -, -, rfl⟩ := h
  exact ⟨rfl, rfl⟩

theorem requestPlanScope_frame {actor occurredAt itemId : String} {scope : Json}
    {operationIds : List String} {readSelection : Option String}
    (h : requestPlanScope snapshot actor occurredAt itemId scope operationIds readSelection = .ok next) :
    next.Frames snapshot := by
  simp only [requestPlanScope, check_bind_eq_ok, pure_eq_ok] at h
  obtain ⟨-, rfl⟩ := h
  exact ⟨rfl, rfl⟩

theorem claimPlanItem_frame {actor occurredAt itemId : String} {operationIds : List String}
    (h : claimPlanItem snapshot actor occurredAt itemId operationIds = .ok next) :
    next.Frames snapshot := by
  simp only [claimPlanItem, check_bind_eq_ok, pure_eq_ok] at h
  obtain ⟨-, -, -, rfl⟩ := h
  exact ⟨rfl, rfl⟩

theorem proposeCompletion_frame {actor occurredAt reviewId : String}
    {proposal : AdvisoryCompletionProposalV1}
    (h : proposeCompletion snapshot actor occurredAt reviewId proposal = .ok next) :
    next.Frames snapshot := by
  simp only [proposeCompletion, check_bind_eq_ok, pure_eq_ok] at h
  obtain ⟨-, -, -, rfl⟩ := h
  exact ⟨rfl, rfl⟩

theorem requestReview_frame {actor occurredAt reviewId : String} {workUnitIds : List String}
    {proposal : Option AdvisoryCompletionProposalV1}
    (h : requestReview snapshot actor occurredAt reviewId workUnitIds proposal = .ok next) :
    next.Frames snapshot := by
  simp only [requestReview, bind_eq_ok, pure_eq_ok] at h
  obtain ⟨proposed, hproposed, -, -, rfl⟩ := h
  cases proposal with
  | none =>
    obtain rfl : snapshot = proposed := by simpa [withProposal] using hproposed
    exact ⟨rfl, rfl⟩
  | some proposal => exact (proposeCompletion_frame hproposed).update rfl rfl

theorem allocateAuthenticatedFollowupV1_frame {policy : AssignmentExecutionPolicyV1}
    {commandId now : String} {renewal : Option UserResourceRenewalRequestV1}
    (h : allocateAuthenticatedFollowupV1 host snapshot policy commandId now renewal = .ok next) :
    next.Frames snapshot := by
  simp only [allocateAuthenticatedFollowupV1, allocateUserFollowupV1, check_bind_eq_ok] at h
  obtain ⟨-, h⟩ := h
  split at h
  · split at h
    · obtain rfl : snapshot = next := by simpa using h
      exact ⟨rfl, rfl⟩
    · rw [check_bind_eq_ok] at h
      obtain ⟨-, h⟩ := h
      split at h
      · cases h
      · simp only [bind_eq_ok, pure_eq_ok] at h
        obtain ⟨-, -, rfl⟩ := h
        exact ⟨rfl, rfl⟩
  · obtain rfl : snapshot = next := by simpa using h
    exact ⟨rfl, rfl⟩

theorem continuationCandidate_frame {policy : AssignmentExecutionPolicyV1}
    {continuation : AdvisoryCheckpointContinuationV1} {now : String} {allocate : Bool}
    (h : continuationCandidate host snapshot policy continuation now allocate = .ok next) :
    next.Frames snapshot := by
  cases allocate with
  | false =>
    obtain rfl : snapshot = next := by simpa [continuationCandidate] using h
    exact ⟨rfl, rfl⟩
  | true => exact allocateAuthenticatedFollowupV1_frame h

theorem assertAdvisoryCheckpointContinuationV1_frame {reviewId now : String}
    {continuation : Option AdvisoryCheckpointContinuationV1} {preparing allocate : Bool}
    (h : assertAdvisoryCheckpointContinuationV1 host snapshot reviewId continuation now preparing allocate
      = .ok next) : next.Frames snapshot := by
  simp only [assertAdvisoryCheckpointContinuationV1, check_bind_eq_ok] at h
  obtain ⟨-, h⟩ := h
  split at h
  · simp only [bind_eq_ok, pure_eq_ok] at h
    obtain ⟨-, -, -, -, candidate, hcandidate, -, -, -, -, rfl⟩ := h
    exact continuationCandidate_frame hcandidate
  · cases h

theorem releaseCheckpoint_frame {actor occurredAt reviewId decision : String}
    {continuation : Option AdvisoryCheckpointContinuationV1}
    (h : releaseCheckpoint host snapshot actor occurredAt reviewId decision continuation = .ok next) :
    next.Frames snapshot := by
  unfold releaseCheckpoint at h
  split at h
  · simp only [bind_eq_ok, pure_eq_ok] at h
    obtain ⟨-, -, candidate, hcandidate, rfl⟩ := h
    exact (assertAdvisoryCheckpointContinuationV1_frame hcandidate).update rfl rfl
  · simp only [check_bind_eq_ok, pure_eq_ok] at h
    obtain ⟨-, rfl⟩ := h
    exact ⟨rfl, rfl⟩

theorem resolveReview_frame {actor occurredAt reviewId decision : String}
    {continuation : Option AdvisoryCheckpointContinuationV1}
    (h : resolveReview host snapshot actor occurredAt reviewId decision continuation = .ok next) :
    next.Frames snapshot := by
  simp only [resolveReview, bind_eq_ok, pure_eq_ok] at h
  obtain ⟨-, -, released, hreleased, rfl⟩ := h
  exact (releaseCheckpoint_frame hreleased).update rfl rfl

end frame

end revit_operator.assignment_kernel
