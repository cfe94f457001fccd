import RevitOperator.AssignmentKernel.Admission
import RevitOperator.AssignmentKernel.Events
import RevitOperator.AssignmentKernel.Settlement

open checked
open revit_operator.contracts

namespace revit_operator.assignment_kernel

/-- Retain an operation under its identity. -/
def AssignmentSnapshotV2.withOperation (snapshot : AssignmentSnapshotV2) (operation : OperationV2) :
    AssignmentSnapshotV2 :=
  { snapshot with operations := snapshot.operations.set operation.operation_id operation }

/-- The retained operation under an identity, when it is in an allowed
    state. -/
def requireOperation (snapshot : AssignmentSnapshotV2) (operationId : String)
    (allowed : OperationV2 → Bool) (code message : String) : Except KernelFault OperationV2 :=
  match snapshot.operations.get? operationId with
  | none => .error (.assertion code message)
  | some operation => if allowed operation then .ok operation else .error (.assertion code message)

theorem requireOperation_eq_ok {snapshot : AssignmentSnapshotV2} {operationId : String}
    {allowed : OperationV2 → Bool} {code message : String} {operation : OperationV2} :
    requireOperation snapshot operationId allowed code message = .ok operation ↔
      snapshot.operations.get? operationId = some operation ∧ allowed operation = true := by
  unfold requireOperation
  cases hget : snapshot.operations.get? operationId with
  | none => simp
  | some kept =>
    by_cases hallowed : allowed kept = true
    · simp only [hallowed, if_true, Except.ok.injEq, Option.some.injEq]
      constructor
      · rintro rfl
        exact ⟨rfl, hallowed⟩
      · exact fun h => h.1
    · simp only [hallowed, if_false, reduceCtorEq, Option.some.injEq, false_iff, not_and]
      rintro rfl
      simpa using hallowed

/-- The operation as its admission retains it. -/
def admittedOperation (version : Nat) (operation : OperationV2) : OperationV2 :=
  { operation with
    admitted_assignment_version := some version
    settled_assignment_version := none }

def admitOperation (host : JavaScriptHost) (snapshot : AssignmentSnapshotV2) (operation : OperationV2) :
    Except KernelFault AssignmentSnapshotV2 := do
  validateOperationAdmission host snapshot operation
  return { snapshot.withOperation (admittedOperation snapshot.assignment_version operation) with
    work_unit_states := snapshot.work_unit_states.set operation.work_unit_id .active }

/-- The operation is admitted and nothing has been sent for it. -/
def OperationV2.awaitsDispatch (operation : OperationV2) : Bool :=
  operation.settlement_state == .open_ && operation.dispatch_state == .not_dispatched

/-- The operation at the dispatch boundary. -/
def startedOperation (occurredAt : String) (operation : OperationV2) : OperationV2 :=
  { operation with
    dispatch_state := .dispatching
    settlement_state := .awaiting_result
    dispatch_started_at := some occurredAt }

def startDispatch (snapshot : AssignmentSnapshotV2) (occurredAt operationId : String) :
    Except KernelFault AssignmentSnapshotV2 := do
  let operation ← requireOperation snapshot operationId OperationV2.awaitsDispatch
    "operation_dispatch_start_invalid" "Dispatch start requires one newly admitted operation."
  return snapshot.withOperation (startedOperation occurredAt operation)

/-- The operation is not settled and no dispatch is recorded for it. -/
def OperationV2.dispatchable (operation : OperationV2) : Bool :=
  operation.settlement_state != .settled
    && (operation.dispatch_state == .not_dispatched || operation.dispatch_state == .dispatching)

/-- The operation after a recorded dispatch. -/
def dispatchedOperation (authority : DispatchAuthorityV2) (effect : PersistentEffectV2)
    (occurredAt : String) (operation : OperationV2) : OperationV2 :=
  { operation with
    dispatch_state := .dispatched
    dispatch_authority := some authority
    persistent_effect := effect
    settlement_state := .awaiting_result
    dispatch_started_at := some (operation.dispatch_started_at.getD occurredAt)
    dispatched_at := some (operation.dispatch_started_at.getD occurredAt) }

/-- The effect of a native dispatch as long as its result is missing. -/
def dispatchEffect (operation : OperationV2) : PersistentEffectV2 :=
  if operation.requested_effect = .read then .none else .unknown

def recordNativeDispatch (snapshot : AssignmentSnapshotV2) (occurredAt operationId : String) :
    Except KernelFault AssignmentSnapshotV2 := do
  let operation ← requireOperation snapshot operationId OperationV2.dispatchable
    "operation_dispatch_invalid" "Native dispatch requires one admitted, unsettled operation."
  kernelAssertV2 (childrenSettled snapshot operation.operation_id) "operation_parent_blocked_by_child"
    "A parent operation cannot dispatch while a blocking child operation is unresolved."
  return snapshot.withOperation
    (dispatchedOperation .native (dispatchEffect operation) occurredAt operation)

def recordOperationDispatch (snapshot : AssignmentSnapshotV2) (occurredAt operationId : String)
    (authority : RecordedDispatchAuthorityV2) : Except KernelFault AssignmentSnapshotV2 := do
  let operation ← requireOperation snapshot operationId OperationV2.dispatchable
    "operation_dispatch_invalid" "Operation dispatch requires one admitted, unsettled operation."
  kernelAssertV2 (childrenSettled snapshot operation.operation_id) "operation_parent_blocked_by_child"
    "A parent operation cannot dispatch while a blocking child operation is unresolved."
  kernelAssertV2 (operation.requested_effect = .read) "operation_non_native_mutation_dispatch_forbidden"
    "A mutation cannot establish dispatch without native or dynamic-runtime authority."
  return snapshot.withOperation (dispatchedOperation authority.authority .none occurredAt operation)

/-- The operation is not settled and has no result. -/
def OperationV2.awaitsResult (operation : OperationV2) : Bool :=
  operation.settlement_state != .settled && operation.result.isNone

/-- The artifact receipt inside a held payload. -/
def heldArtifactReceipt (commit : Option ObservationCommitInputV2) : Json :=
  (((commit.map ObservationCommitInputV2.raw_payload).getD .null).field "artifact_receipt")

/-- The operation with its result: waiting for its observation, or settled when
    none is required. -/
def resultedOperation (version : Nat) (result : OperationResultV2)
    (commit : Option ObservationCommitInputV2) (operation : OperationV2) : OperationV2 :=
  { operation with
    dispatch_state := result.dispatch_state
    persistent_effect := result.persistent_effect
    settlement_state := if result.observation_required then .retaining_observation else .settled
    result := some result
    observation_commit := commit.or operation.observation_commit
    observation_commit_attempts :=
      if commit.isSome then some 0 else operation.observation_commit_attempts
    settled_at := if result.observation_required then none else some result.completed_at
    settled_assignment_version := if result.observation_required then none else some version }

def recordResult (host : JavaScriptHost) (snapshot : AssignmentSnapshotV2) (result : OperationResultV2)
    (commit : Option ObservationCommitInputV2) : Except KernelFault AssignmentSnapshotV2 := do
  let operation ← requireOperation snapshot result.operation_id OperationV2.awaitsResult
    "operation_result_unmatched"
    "Result requires one unsettled admitted operation without a prior result."
  validateResult host snapshot operation result
  forEach result.native_artifact_receipt.toList fun receipt =>
    kernelAssertV2 (sameJson (heldArtifactReceipt commit) receipt) "artifact_receipt_payload_mismatch"
      "Artifact settlement must match the exact retained native payload receipt."
  return snapshot.withOperation (resultedOperation snapshot.assignment_version result commit operation)

/-- The operation has its result and waits for its observation. -/
def OperationV2.retaining (operation : OperationV2) : Bool :=
  operation.settlement_state == .retaining_observation && operation.result.isSome

/-- The observation describes the recorded result. -/
def OperationV2.resultDescribedBy (operation : OperationV2) (observation : ObservationV2) : Bool :=
  operation.result.any fun result => result.result_schema_id == observation.result_schema_id
    && result.raw_payload_hash == some observation.raw_payload_hash

def OperationV2.resultAuthority (operation : OperationV2) : Option String :=
  operation.result.map OperationResultV2.authority

/-- Typed evidence repeats the contract its operation was admitted with. -/
def checkObservationContract (operation : OperationV2) (observation : ObservationV2) :
    Except KernelFault Unit := do
  kernelAssertV2 (operation.fulfillment_role.isSome
      ∧ observation.fulfillment_role = operation.fulfillment_role) "observation_fulfillment_role_mismatch"
    "Observation must retain the admitted operation fulfillment role."
  kernelAssertV2 (observation.evidence_class.isSome ∧ observation.evidence_class
      = operation.fulfillment_role.map evidenceClassForFulfillmentRoleV2)
    "observation_evidence_class_mismatch"
    "Observation evidence class must be derived from the admitted operation."
  kernelAssertV2 (observation.capability_id = some operation.capability_id)
    "observation_capability_mismatch" "Observation must retain the admitted capability identity."
  kernelAssertV2 (observation.eligible_criterion_ids.getD [] = operation.eligible_criterion_ids.getD [])
    "observation_criterion_eligibility_mismatch"
    "Observation criterion eligibility must equal the immutable operation contract."

def checkObservation (snapshot : AssignmentSnapshotV2) (operation : OperationV2)
    (observation : ObservationV2) : Except KernelFault Unit := do
  kernelAssertV2 (operation.resultDescribedBy observation) "observation_result_mismatch"
    "Observation must describe the exact recorded operation result."
  kernelAssertV2 (operation.resultAuthority = some observation.authority)
    "observation_authority_mismatch"
    "Observation authority must match the exact native result authority."
  kernelAssertV2 (sameAssignmentBindingV2 snapshot.current_binding observation.binding)
    "observation_binding_mismatch" "Observation binding is not current."
  kernelAssertV2 ((snapshot.observations.get? observation.observation_id).isNone) "observation_duplicate"
    "Observation identity already exists."
  onlyIf snapshot.spec.semanticEvidence (checkObservationContract operation observation)

/-- The operation once its observation is retained. The held payload is given
    up and what the kernel derives from it is kept. -/
def retainedOperation (host : JavaScriptHost) (version : Nat) (occurredAt : String)
    (observation : ObservationV2) (operation : OperationV2) : OperationV2 :=
  let payload := operation.observation_commit.map ObservationCommitInputV2.raw_payload
  let links := nativeFailureDependencyLinksV1 payload operation.target.declared
  { operation with
    settlement_state := .settled
    settled_at := some occurredAt
    settled_assignment_version := some version
    observation_retention_error := none
    native_failure_context :=
      (deriveNativeFailureContextV1 host operation links).or operation.native_failure_context
    native_template_state :=
      (deriveNativeTemplateStateV1 host operation).or operation.native_template_state
    native_schedule_filter_state :=
      (deriveNativeScheduleFilterStateV1 host operation).or operation.native_schedule_filter_state
    native_inventory_workload :=
      (deriveNativeInventoryWorkloadV1 host operation).or operation.native_inventory_workload
    observation_commit := none
    observation_ids := operation.observation_ids ++ [observation.observation_id] }

/-- The verified operation lists the operation that verified it. -/
def verifiedSubject (verificationId : String) (subject : OperationV2) : OperationV2 :=
  { subject with
    verification_operation_ids :=
      text.sortedUnique (subject.verification_operation_ids ++ [verificationId]) }

/-- Link a verification to its subject, which has to be retained. -/
def linkVerification (operations : Record OperationV2) (operation : OperationV2) :
    Except KernelFault (Record OperationV2) :=
  if truthy operation.verification_of_operation_id then
    match operation.verification_of_operation_id.bind operations.get? with
    | none => .error (.assertion "operation_verification_subject_missing"
        "Verification subject disappeared before settlement.")
    | some subject => .ok (operations.set subject.operation_id
        (verifiedSubject operation.operation_id subject))
  else .ok operations

def retainObservation (host : JavaScriptHost) (snapshot : AssignmentSnapshotV2) (occurredAt : String)
    (observation : ObservationV2) : Except KernelFault AssignmentSnapshotV2 := do
  let operation ← requireOperation snapshot observation.operation_id OperationV2.retaining
    "observation_operation_unsettled"
    "Observation requires an operation awaiting authoritative retention."
  checkObservation snapshot operation observation
  let settled := retainedOperation host snapshot.assignment_version occurredAt observation operation
  let operations ← linkVerification (snapshot.operations.set operation.operation_id settled) operation
  let useful := (findWorkUnit snapshot.spec operation.work_unit_id).any
    AssignmentWorkUnitSpecV2.independently_useful
  return { snapshot with
    observations := snapshot.observations.set observation.observation_id observation
    observation_versions :=
      snapshot.observation_versions.set observation.observation_id snapshot.assignment_version
    operations
    work_unit_states :=
      if useful then snapshot.work_unit_states.set operation.work_unit_id .retained
      else snapshot.work_unit_states }

/-- The attempt that follows the recorded ones. -/
def OperationV2.nextAttempt (operation : OperationV2) : Int :=
  operation.observation_commit_attempts.getD 0 + 1

def OperationV2.hasResultId (operation : OperationV2) (resultId : String) : Bool :=
  operation.result.any fun result => result.result_id == resultId

/-- The operation after an attempt to commit its observation. -/
def attemptedOperation (attempt : Int) (errorCode : String) (operation : OperationV2) : OperationV2 :=
  { operation with
    observation_commit_attempts := some attempt
    observation_retention_error := some (text.slice 240 errorCode) }

def recordCommitRetry (snapshot : AssignmentSnapshotV2) (operationId resultId : String) (attempt : Int)
    (errorCode : String) : Except KernelFault AssignmentSnapshotV2 := do
  let operation ← requireOperation snapshot operationId
    (fun operation => operation.retaining && operation.observation_commit.isSome)
    "observation_commit_operation_invalid"
    "Observation commit retry requires one durable result awaiting authoritative retention."
  kernelAssertV2 (operation.hasResultId resultId
      ∧ operation.observation_commit.any fun commit => commit.result_id == resultId)
    "observation_commit_result_mismatch"
    "Observation commit retry must remain bound to the exact durable result."
  kernelAssertV2 (attempt = operation.nextAttempt) "observation_commit_attempt_out_of_order"
    "Observation commit attempts must be monotonic."
  return snapshot.withOperation (attemptedOperation attempt errorCode operation)

/-- The operation after its last failed attempt: no longer in flight and not
    settled either. -/
def commitFailedOperation (attempt : Int) (errorCode : String) (operation : OperationV2) : OperationV2 :=
  { attemptedOperation attempt errorCode operation with settlement_state := .observation_commit_failed }

def recordCommitFailure (snapshot : AssignmentSnapshotV2) (occurredAt operationId resultId : String)
    (attempt : Int) (errorCode : String) : Except KernelFault AssignmentSnapshotV2 := do
  let operation ← requireOperation snapshot operationId OperationV2.retaining
    "observation_commit_operation_invalid"
    "Observation commit failure requires one durable result awaiting authoritative retention."
  kernelAssertV2 (operation.hasResultId resultId
      ∧ operation.observation_commit.all fun commit => commit.result_id == resultId)
    "observation_commit_result_mismatch"
    "Observation commit failure must remain bound to the exact durable result."
  kernelAssertV2 (attempt = operation.nextAttempt) "observation_commit_attempt_out_of_order"
    "Observation commit attempts must be monotonic."
  return { snapshot.withOperation (commitFailedOperation attempt errorCode operation) with
    progress_blocker := some ⟨"observation_commit_failed", operation.resolves_gap_ids, occurredAt⟩ }

/-- The operation settled without its observation. -/
def unretainedOperation (version : Nat) (occurredAt errorCode : String) (operation : OperationV2) :
    OperationV2 :=
  { operation with
    settlement_state := .settled
    settled_at := some occurredAt
    settled_assignment_version := some version
    observation_retention_error := some (text.slice 240 errorCode) }

def recordRetentionFailure (snapshot : AssignmentSnapshotV2) (occurredAt operationId errorCode : String) :
    Except KernelFault AssignmentSnapshotV2 := do
  let operation ← requireOperation snapshot operationId OperationV2.retaining
    "observation_retention_operation_invalid"
    "Observation-retention failure requires an operation awaiting authoritative retention."
  kernelAssertV2 (text.nonBlank errorCode) "observation_retention_error_missing"
    "Observation-retention failure requires a bounded error code."
  return snapshot.withOperation
    (unretainedOperation snapshot.assignment_version occurredAt errorCode operation)

/-- The effect is unknown and no late receipt is attached. -/
def OperationV2.awaitsCompletion (operation : OperationV2) : Bool :=
  operation.isUnknown && operation.native_completion_reconciliation.isNone

/-- The operation with the effect a late native receipt proves. -/
def completedOperation (effect : PersistentEffectV2) (completion : Json) (operation : OperationV2) :
    OperationV2 :=
  { operation with
    persistent_effect := effect
    native_completion_reconciliation := some completion }

def reconcileCompletion (host : JavaScriptHost) (snapshot : AssignmentSnapshotV2)
    (actor operationId : String) (completion : Json) : Except KernelFault AssignmentSnapshotV2 := do
  kernelAssertV2 (actor = "native-completion-recovery") "native_completion_operation_invalid"
    "Only an exact unknown native operation may acquire a late receipt."
  let operation ← requireOperation snapshot operationId OperationV2.awaitsCompletion
    "native_completion_operation_invalid"
    "Only an exact unknown native operation may acquire a late receipt."
  match nativeCompletionReconciliationEffectV1 host completion operation with
  | none => .error (.assertion "native_completion_receipt_invalid"
      "The late receipt must prove the exact admitted native request and known effect.")
  | some effect => return snapshot.withOperation (completedOperation effect completion operation)

/-- The operation with the effect a reconciliation established. -/
def reconciledOperation (effect : ResolvedEffectV2) (operation : OperationV2) : OperationV2 :=
  { operation with persistent_effect := effect.effect }

def recordReconciliation (snapshot : AssignmentSnapshotV2) (operationId : String)
    (effect : ResolvedEffectV2) (observationIds : List String) :
    Except KernelFault AssignmentSnapshotV2 := do
  let operation ← requireOperation snapshot operationId OperationV2.isUnknown
    "reconciliation_operation_invalid" "Reconciliation requires an unknown-effect operation."
  forEach observationIds fun observationId =>
    kernelAssertV2 (snapshot.observations.has observationId) "reconciliation_observation_unknown"
      "Reconciliation cites an unknown observation."
  return snapshot.withOperation (reconciledOperation effect operation)

end revit_operator.assignment_kernel
