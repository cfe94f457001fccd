import RevitOperator.AssignmentKernel.InputRegistry
import RevitOperator.AssignmentKernel.Progress.NativeWorkProgress

open revit_operator.contracts

namespace revit_operator.assignment_kernel

/-- A retained observation repeats what a bound native result claims. -/
def boundObservation (snapshot : AssignmentSnapshotV2) (operation : OperationV2)
    (result : OperationResultV2) (id : String) : Bool :=
  match snapshot.observations.get? id with
  | none => false
  | some observation => observation.authority == "native-host"
      && observation.operation_id == operation.operation_id
      && sameAssignmentBindingV2 observation.binding snapshot.current_binding
      && observation.capability_id == some operation.capability_id
      && observation.result_schema_id == result.result_schema_id && observation.raw_payload_ref != ""
      && text.isHexTextAnyCase 64 observation.raw_payload_hash
      && some observation.raw_payload_hash == result.raw_payload_hash

def boundNativeResult (snapshot : AssignmentSnapshotV2) (operation : OperationV2) : Bool :=
  match operation.result, operation.request_identity with
  | some result, some identity =>
    retainedNativeSuccess snapshot operation && truthy result.receipt_id
      && truthy result.native_correlation_id && identity.capability_id == operation.capability_id
      && inputNamesRequest operation && text.isHexTextAnyCase 64 identity.request_signature
      && result.request_identity == some identity && !operation.observation_ids.isEmpty
      && operation.observation_ids.all (boundObservation snapshot operation result)
  | _, _ => false

/-- The criterion asks only for an available task result. -/
def asksOnlyForResult (criterion : AssignmentCriterionSpecV2) : Bool :=
  criterion.semantic_fact_requirements == ["task.result_available"]

/-- No hold, stop, pending answer or unfinished work stands in the way. -/
def savedPartialUnblocked (snapshot : AssignmentSnapshotV2) : Bool :=
  snapshot.spec.requested_effect == .apply && snapshot.spec.work_plan_required
    && !advisoryVerificationV2 snapshot.spec && snapshot.quiescent && !snapshot.paused
    && snapshot.provider_usage_hold.isNone && !snapshot.provider_budget_exhausted
    && snapshot.progress_blocker.isNone && snapshot.pending_input_variable_ids.isEmpty
    && snapshot.pending_review_ids.isEmpty && snapshot.in_flight_operation_ids.isEmpty
    && snapshot.in_flight_provider_call_ids.isEmpty
    && snapshot.unresolved_unknown_operation_ids.isEmpty && snapshot.execution_failure_ids.isEmpty
    && snapshot.completion_proposal.isNone
    && (!snapshot.spec.result_delivery_required || snapshot.result_delivery.isSome)

/-- A deferred item is an untouched edit with a specific reason. -/
def deferredItemSound (host : JavaScriptHost) (item : AssignmentWorkPlanItemV2) : Bool :=
  !truthy item.completed_at && item.kind != some .inspection && item.operation_ids.isEmpty
    && (match (item.deferrals.getD []).getLast? with
      | some latest => text.nonBlank latest.reason && host.finiteDate latest.deferred_at
      | none => false)

/-- One applied edit of a partial delivery is current, bound and verified. -/
def appliedEditSound (host : JavaScriptHost) (snapshot : AssignmentSnapshotV2) (operation : OperationV2) :
    Bool :=
  match operation.result with
  | none => false
  | some result => result.authority == "native-host" && result.status == .succeeded
      && operation.settlement_state == .settled
      && sameAssignmentBindingV2 operation.binding snapshot.current_binding
      && sameAssignmentBindingV2 result.binding snapshot.current_binding
      && boundNativeResult snapshot operation
      && (nativeCommitProgressIdentityV2 host snapshot operation).isSome
      && !snapshot.input_invalidated_operation_ids.contains operation.operation_id
      && appliedOperationHasVerifiedPostconditionV2 snapshot operation.operation_id

/-- One read of a partial delivery is current, bound and without effect. -/
def deliveryReadSound (snapshot : AssignmentSnapshotV2) (id : String) : Bool :=
  match snapshot.operations.get? id with
  | none => false
  | some operation =>
    match operation.result with
    | none => false
    | some result => boundNativeResult snapshot operation
        && !snapshot.input_invalidated_operation_ids.contains id && result.authority == "native-host"
        && result.status == .succeeded && operation.requested_effect == .read
        && operation.persistent_effect == .none && result.persistent_effect == .none
        && result.native_transaction_state == .not_applicable && operation.settlement_state == .settled
        && sameAssignmentBindingV2 operation.binding snapshot.current_binding
        && sameAssignmentBindingV2 result.binding snapshot.current_binding
        && !operation.observation_ids.isEmpty && operation.observation_ids.all fun oid =>
          match snapshot.observations.get? oid with
          | none => false
          | some observation => observation.operation_id == id && observation.authority == "native-host"
              && sameAssignmentBindingV2 observation.binding snapshot.current_binding
              && some observation.raw_payload_hash == result.raw_payload_hash

/-- The last save covers every applied edit, and some edit is not a save. -/
def savedAfterEveryEdit (host : JavaScriptHost) (applied : List OperationV2) : Bool :=
  let saves := applied.filter fun operation => isNativeDocumentCheckpointRequestV2 operation
    && (match operation.result with
      | some result => nativeDocumentCheckpointResultV2 host result
      | none => false)
  match choice.maxBy (fun operation => (host.parseDate (resultCompletedAt operation)).getD 0) saves with
  | none => false
  | some saved =>
    applied.all (fun operation => host.notAfter (resultCompletedAt operation) (resultCompletedAt saved))
      && applied.any fun operation => !isNativeDocumentCheckpointRequestV2 operation

/-- The finished part of a plan is inspected, verified and saved while the rest
    is explicitly deferred. -/
def verifiedSavedPartialV2 (host : JavaScriptHost) (snapshot : AssignmentSnapshotV2) : Bool :=
  let required := snapshot.spec.criteria.filter AssignmentCriterionSpecV2.required
  let items := (snapshot.work_plan.map AssignmentWorkPlanV2.items).getD []
  let deferred := items.filter workPlanItemDeferredV2
  let done := items.filter fun item => !workPlanItemDeferredV2 item
  let inspections := done.filter fun item => item.kind == some .inspection
  let edits := done.filter fun item => item.kind != some .inspection
  let inspected := inspections.flatMap fun item => item.depends_on.getD []
  let applied := snapshot.operations.values.filter fun operation =>
    operation.requested_effect == .apply && operation.persistent_effect == .applied
  let represented := (edits.flatMap AssignmentWorkPlanItemV2.operation_ids).dedup
  let reads := inspections.flatMap AssignmentWorkPlanItemV2.operation_ids
    ++ applied.flatMap OperationV2.verification_operation_ids
  savedPartialUnblocked snapshot && required.length == 1 && required.all asksOnlyForResult
    && !deferred.isEmpty && deferred.all (deferredItemSound host)
    && !done.isEmpty && done.all (fun item => truthy item.completed_at && !item.operation_ids.isEmpty)
    && !inspections.isEmpty && inspections.all (inspectionIsCurrentV2 host snapshot) && !edits.isEmpty
    && edits.all (fun item => inspected.contains item.item_id)
    && 2 ≤ applied.length && represented.length == applied.length
    && applied.all (fun operation => represented.contains operation.operation_id
      && appliedEditSound host snapshot operation)
    && reads.all (deliveryReadSound snapshot) && savedAfterEveryEdit host applied

def requiredInputsKnown (snapshot : AssignmentSnapshotV2) : Bool :=
  (assignmentInputVariablesV2 snapshot).all fun input =>
    !input.required || input.value_state == .known || snapshot.input_values.has input.variable_id

/-- The evaluations of the required criteria that have one. -/
def requiredEvaluations (snapshot : AssignmentSnapshotV2) : List CriterionEvaluationV2 :=
  (snapshot.spec.criteria.filter AssignmentCriterionSpecV2.required).filterMap
    fun criterion => snapshot.criteria.get? criterion.criterion_id

/-- The failure an assignment stopped on last, if it is retained. -/
def lastExecutionFailure (snapshot : AssignmentSnapshotV2) : Option ExecutionFailureV2 :=
  match snapshot.execution_failure_ids.getLast? with
  | some id => if id = "" then none else snapshot.execution_failures.get? id
  | none => none

/-- The applied edits of a snapshot. -/
def appliedOperations (snapshot : AssignmentSnapshotV2) : List OperationV2 :=
  snapshot.operations.values.filter fun operation =>
    operation.requested_effect == .apply && operation.persistent_effect == .applied

/-- The outcome once every required criterion passes or does not apply. -/
def passedOutcome (host : JavaScriptHost) (snapshot : AssignmentSnapshotV2) : AssignmentOutcomeV2 :=
  if snapshot.spec.result_delivery_required && snapshot.result_delivery.isNone then .active
  else if workPlanPendingV2 host snapshot then .active
  else if snapshot.spec.requested_effect != .apply then .complete
  else if !(appliedOperations snapshot).isEmpty && (appliedOperations snapshot).all fun operation =>
      appliedOperationHasVerifiedPostconditionV2 snapshot operation.operation_id then .complete
  else if !(appliedOperations snapshot).isEmpty then .active
  else if (requiredEvaluations snapshot).any fun evaluation =>
      evaluation.basis == .desired_state_equivalence then .verified_noop
  else .active

/-- The outcome the required evaluations of a quiescent snapshot derive. -/
def evaluatedOutcome (host : JavaScriptHost) (snapshot : AssignmentSnapshotV2) : AssignmentOutcomeV2 :=
  let requiredSpecs := snapshot.spec.criteria.filter AssignmentCriterionSpecV2.required
  let evaluations := requiredEvaluations snapshot
  let hasStatus (status : CriterionStatusV2) := evaluations.any fun evaluation => evaluation.status == status
  let states := snapshot.work_unit_states.values
  if requiredSpecs.isEmpty || evaluations.length != requiredSpecs.length then .active
  else if hasStatus .needs_input then .awaiting_user_input
  else if hasStatus .needs_review then .awaiting_user_review
  else if hasStatus .uncertain then .active
  else if hasStatus .failed then
    if hasStatus .pass then .complete_with_issues
    else if states.any (· == .blocked) then .blocked
    else .failed
  else if hasStatus .partial_ then
    if states.all (fun state => state == .complete || state == .blocked || state == .failed
        || state == .retained) || verifiedSavedPartialV2 host snapshot then .complete_with_issues
    else .active
  else if !evaluations.all (fun evaluation =>
      evaluation.status == .pass || evaluation.status == .not_applicable) then .active
  else passedOutcome host snapshot

def deriveAssignmentOutcomeV2 (host : JavaScriptHost) (snapshot : AssignmentSnapshotV2) :
    AssignmentOutcomeV2 :=
  if !snapshot.pending_input_variable_ids.isEmpty || !requiredInputsKnown snapshot then
    .awaiting_user_input
  else if !snapshot.pending_review_ids.isEmpty
      && (snapshot.completion_proposal.isNone || snapshot.quiescent) then .awaiting_user_review
  else if !snapshot.quiescent then .active
  else if snapshot.progress_blocker.isSome then .blocked
  else if !snapshot.unresolved_unknown_operation_ids.isEmpty then .active
  else
    match lastExecutionFailure snapshot with
    | some failure => executionFailureOutcomeV2 failure.error_class
    | none =>
      if snapshot.provider_budget_exhausted then .failed
      else if snapshot.provider_usage_hold.isSome then .active
      else if advisoryVerificationV2 snapshot.spec then
        if snapshot.completion_proposal.isSome then .awaiting_user_review else .active
      else evaluatedOutcome host snapshot

/-- A differing verdict does not silently replace a settled one. -/
def mergeEvaluation (previous : Option CriterionEvaluationV2) (next : CriterionEvaluationV2) :
    CriterionEvaluationV2 :=
  match previous with
  | none => next
  | some earlier =>
    if earlier.status = next.status ∨ earlier.status = .needs_input ∨ earlier.status = .needs_review
        ∨ earlier.status = .partial_ ∨ earlier.status = .uncertain then next
    else
      { next with
        status := .uncertain
        basis := .policy
        supporting_operation_ids :=
          text.sortedUnique (earlier.supporting_operation_ids ++ next.supporting_operation_ids)
        supporting_facts := earlier.supporting_facts ++ next.supporting_facts
        reason := "Conflicting authoritative criterion evaluations: " ++ earlier.status.toText
          ++ " versus " ++ next.status.toText ++ "." }

/-- The verification units of a snapshot: the reserved one and those that have
    admitted verification work. -/
def isVerificationUnit (snapshot : AssignmentSnapshotV2) (workUnitId : String) : Bool :=
  workUnitId == ASSIGNMENT_VERIFICATION_WORK_UNIT_ID_V2
    || snapshot.operations.values.any fun operation =>
      operation.purpose == .verification && operation.work_unit_id == workUnitId

/-- The state the criteria of a work unit give it, if they decide one. -/
def projectedUnitState (snapshot : AssignmentSnapshotV2) (unit : AssignmentWorkUnitSpecV2) :
    Option AssignmentWorkUnitStateV2 :=
  match unit.criterion_ids.mapM snapshot.criteria.get? with
  | none => none
  | some evaluations =>
    if evaluations.isEmpty then none
    else if evaluations.all fun row => row.status == .pass || row.status == .not_applicable then
      if snapshot.spec.requested_effect = .apply ∧ isVerificationUnit snapshot unit.work_unit_id then
        let applied := appliedOperations snapshot
        let verifiedNoop := applied.isEmpty
          && evaluations.any fun row => row.basis == .desired_state_equivalence
        let everyApplyVerified := !applied.isEmpty && applied.all fun operation =>
          appliedOperationHasVerifiedPostconditionV2 snapshot operation.operation_id
        if verifiedNoop || everyApplyVerified then some .complete else none
      else some .complete
    else if unit.safe_to_retain
        && evaluations.any fun row => row.status == .pass || row.status == .partial_ then some .retained
    else none

def projectWorkUnitCriteria (snapshot : AssignmentSnapshotV2) : AssignmentSnapshotV2 :=
  { snapshot with
    work_unit_states := snapshot.spec.work_units.foldl
      (fun states unit =>
        match projectedUnitState snapshot unit with
        | some state => states.set unit.work_unit_id state
        | none => states)
      snapshot.work_unit_states }

/-- The identities of the operations of one kind, in order. -/
def operationIdsWhere (snapshot : AssignmentSnapshotV2) (kind : OperationV2 → Bool) : List String :=
  text.sorted ((snapshot.operations.values.filter kind).map OperationV2.operation_id)

/-- The children each operation has, in order. -/
def operationChildren (operations : List OperationV2) : Record (List String) :=
  operations.foldl
    (fun children operation =>
      match operation.parent_operation_id with
      | none => children
      | some parent =>
        if parent = "" then children
        else children.set parent
          (text.sorted ((children.get? parent).getD [] ++ [operation.operation_id])))
    ∅

/-- A child of some operation that keeps it from settling. -/
def OperationV2.isBlockingChild (operation : OperationV2) : Bool :=
  truthy operation.parent_operation_id && operation.blocks_parent_settlement != some false
    && operation.settlement_state != .settled

/-- The effect of the operation on the document is not known. -/
def OperationV2.isUnknown (operation : OperationV2) : Bool := operation.persistent_effect == .unknown

/-- The index fields recomputed from the operations and provider calls. -/
def withLedgerIndex (snapshot : AssignmentSnapshotV2) : AssignmentSnapshotV2 :=
  let inFlight := operationIdsWhere snapshot OperationV2.inFlight
  let inFlightProviders := text.sorted
    ((snapshot.provider_calls.values.filter ProviderCallV2.inFlight).map ProviderCallV2.call_id)
  { snapshot with
    in_flight_operation_ids := inFlight
    in_flight_provider_call_ids := inFlightProviders
    operation_children := operationChildren snapshot.operations.values
    blocking_child_operation_ids := operationIdsWhere snapshot OperationV2.isBlockingChild
    unresolved_unknown_operation_ids := operationIdsWhere snapshot OperationV2.isUnknown
    quiescent := inFlight.isEmpty && inFlightProviders.isEmpty }

/-- Every derived field recomputed after an event. -/
def withDerivedState (host : JavaScriptHost) (snapshot : AssignmentSnapshotV2) : AssignmentSnapshotV2 :=
  let next := projectWorkUnitCriteria (withLedgerIndex snapshot)
  { next with outcome := deriveAssignmentOutcomeV2 host next }

end revit_operator.assignment_kernel
