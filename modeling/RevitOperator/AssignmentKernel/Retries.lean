import RevitOperator.AssignmentKernel.DocumentCheckpoint
import RevitOperator.AssignmentKernel.Progress.Controller

open revit_operator.contracts

namespace revit_operator.assignment_kernel

/-- The predecessor a typed retry is bound to, and the later operation that
    permits it where there is one. -/
structure TypedRetry where
  retry_of_operation_id : String
  retry_after_operation_id : Option String
deriving DecidableEq, Repr

/-- The document-global element ids an operation declares. -/
def declaredElementIds (operation : OperationV2) : List String :=
  (operation.target.declared.filter (text.isNumbered "id:")).map (text.dropFirst 3)

/-- The element ids the native result reports as affected. -/
def affectedElementIds (result : OperationResultV2) : List String :=
  (result.affected_target_identities.getD []).filterMap fun identity =>
    if text.isNumbered "element_id:" identity then some (text.dropFirst 11 identity)
    else if text.isNumbered "id:" identity then some (text.dropFirst 3 identity)
    else none

/-- No retained operation is a retry of this one. -/
def unretried (operations : List OperationV2) (prior : OperationV2) : Bool :=
  !operations.any fun candidate => candidate.retry_of_operation_id == some prior.operation_id

/-- The last admitted operation of the same progress under the same binding. -/
def latestEquivalent (operations : List OperationV2) (operation : OperationV2) : Option OperationV2 :=
  latestAdmitted (operations.filter fun candidate =>
    sameAssignmentBindingV2 operation.binding candidate.binding
      && operationProgressIdentityV2 candidate == operationProgressIdentityV2 operation)

/-- The native host ran the edit and left no effect. -/
def failedWithoutEffect (prior : OperationV2) : Bool :=
  match prior.result with
  | none => false
  | some result => prior.settlement_state == .settled && prior.persistent_effect == .none
      && result.status == .failed_after_dispatch && result.authority == "native-host"
      && result.persistent_effect == .none && prior.dispatch_authority == some .native
      && (result.native_transaction_state == .not_started
        || result.native_transaction_state == .rolled_back)
      && !truthy prior.observation_retention_error
      && !(prior.settled_assignment_version.getD 0 == 0)
      && result.input_schema_gap.isNone && result.result_semantic_gap.isNone

/-- A committed native change after the failed edit that touched a declared
    target, or a dependency the failure named. -/
def correctsTarget (snapshot : AssignmentSnapshotV2) (operation prior candidate : OperationV2) : Bool :=
  match candidate.result with
  | none => false
  | some result =>
    let targets := declaredElementIds operation
    let declared := declaredElementIds candidate
    let affected := affectedElementIds result
    sameAssignmentBindingV2 operation.binding candidate.binding
      && candidate.target.document_fingerprint == operation.binding.document_fingerprint
      && candidate.requested_effect == .apply && candidate.settlement_state == .settled
      && candidate.persistent_effect == .applied && candidate.dispatch_authority == some .native
      && !truthy candidate.observation_retention_error && result.authority == "native-host"
      && result.status == .succeeded && result.dispatch_state == .dispatched
      && result.persistent_effect == .applied && result.native_transaction_state == .committed
      && truthy result.receipt_id && truthy result.native_correlation_id
      && sameAssignmentBindingV2 operation.binding result.binding && stampedInOrder snapshot candidate
      && laterVersion candidate.admitted_assignment_version prior.settled_assignment_version
      && (affected.any (fun id => targets.contains id && declared.contains id)
        || committedNativeFailureDependencyV1 prior declared affected targets)

/-- One retry of a native edit without effect after a later change of its
    target. -/
def committedTargetChangeRetryV2 (snapshot : AssignmentSnapshotV2) (operation : OperationV2) :
    Option TypedRetry :=
  let operations := snapshot.operations.values
  if operation.requested_effect != .apply || operation.role != .root || !operation.inBoundDocument
      || !sameAssignmentBindingV2 snapshot.current_binding operation.binding then none
  else
    match latestEquivalent operations operation with
    | none => none
    | some prior =>
      if !failedWithoutEffect prior || !unretried operations prior
          || (declaredElementIds operation).isEmpty then none
      else
        (latestSettled (operations.filter (correctsTarget snapshot operation prior))).map
          fun changed => ⟨prior.operation_id, some changed.operation_id⟩

/-- An admitted operation with a complete, retained and current native
    result. -/
def nativeResult (snapshot : AssignmentSnapshotV2) (operation : OperationV2) : Bool :=
  match operation.result, operation.request_identity with
  | some result, some request =>
    operation.admission_state == .admitted && operation.dispatch_authority == some .native
      && operation.dispatch_state == .dispatched && operation.settlement_state == .settled
      && !truthy operation.observation_retention_error && stampedInOrder snapshot operation
      && result.authority == "native-host" && result.status == .succeeded
      && result.dispatch_state == .dispatched && result.operation_id == operation.operation_id
      && truthy result.receipt_id && truthy result.native_correlation_id
      && (match result.raw_payload_hash with | some hash => text.isHexText 64 hash | none => false)
      && request.request_signature != ""
      && result.result_schema_id == "operator-native/"
        ++ ((request.method.map HttpMethod.toText).getD "undefined") ++ ":"
        ++ pathText (some request) ++ "/v2"
      && sameAssignmentBindingV2 operation.binding result.binding
      && sameRequestIdentity operation result && operation.observation_ids.any fun id =>
        match snapshot.observations.get? id with
        | none => false
        | some observation => observation.operation_id == operation.operation_id
            && observation.authority == "native-host"
            && sameAssignmentBindingV2 operation.binding observation.binding
            && some observation.raw_payload_hash == result.raw_payload_hash
            && observation.result_schema_id == result.result_schema_id
            && observation.raw_payload_ref != ""
  | _, _ => false

inductive RefreshScope where
  | target
  | document
deriving DecidableEq, Repr

/-- The result had no effect and needed no transaction. -/
def readWithoutEffect (operation : OperationV2) : Bool :=
  match operation.result with
  | none => false
  | some result => result.native_transaction_state == .not_applicable
      && operation.persistent_effect == .none && result.persistent_effect == .none

/-- A wrapper that finished its read through the operator transport. -/
def transportWrapper (prior : OperationV2) : Bool :=
  match prior.result with
  | none => false
  | some result => result.status == .completed_without_native_dispatch
      && result.authority == "operator-mcp-transport" && result.dispatch_state == .not_dispatched
      && prior.dispatch_state == .not_dispatched
      && result.result_schema_id == "operator-capability/" ++ prior.capability_id ++ "/v2"
      && sameAssignmentBindingV2 prior.binding result.binding && sameRequestIdentity prior result

/-- The native child that did the read of a wrapper, inside its lifetime. -/
def witnessesWrapper (snapshot : AssignmentSnapshotV2) (prior child : OperationV2) : Bool :=
  child.root_operation_id == some prior.operation_id && child.operation_role == some .child
    && child.blocks_parent_settlement == some true && child.requested_effect == .read
    && readWithoutEffect child && nativeResult snapshot child
    && sameAssignmentBindingV2 prior.binding child.binding
    && child.target.document_fingerprint == prior.binding.document_fingerprint
    && laterVersion child.admitted_assignment_version prior.admitted_assignment_version
    && laterVersion prior.settled_assignment_version child.settled_assignment_version
    && !snapshot.input_invalidated_operation_ids.contains child.operation_id
    && (match child.result with
      | some result => result.input_schema_gap.isNone && result.result_semantic_gap.isNone
      | none => false)

/-- The native read behind a read: itself, or in a document the only child of a
    transport wrapper. -/
def hasReadWitness (snapshot : AssignmentSnapshotV2) (prior : OperationV2) (scope : RefreshScope) : Bool :=
  readWithoutEffect prior && (nativeResult snapshot prior
    || (scope == .document && transportWrapper prior
      && (match snapshot.operations.values.filter
            fun child => child.parent_operation_id == some prior.operation_id with
        | [child] => witnessesWrapper snapshot prior child
        | _ => false)))

/-- A bare model file name that its native save resolved to this full path. -/
def bareModelName (host : JavaScriptHost) (requested actual : String) : Bool :=
  let lowered := normalizedPath host requested
  !requested.toList.any (fun c => c ∈ ['\\', '/', ':', '*', '?', '"', '<', '>', '|'] || c.toNat ≤ 0x1F)
    && text.endsWith lowered ".rvt" && 4 < requested.toList.length && !text.includes requested ".."
    && text.endsWith actual ("/" ++ lowered)

/-- A native save of the bound document under its requested name. -/
def sameDocumentSave (host : JavaScriptHost) (operation : OperationV2) : Bool :=
  match operation.result with
  | none => false
  | some result =>
    let save := ((result.native_artifact_receipt.getD .null).row.field "save_document").row
    let print := (operation.binding.document_fingerprint.map Json.str).getD .null
    match operation.inputBody.row.field "filePath", (save.field "after").row.field "path" with
    | .str requested, .str written =>
      let actual := normalizedPath host written
      let named := operation.target.target_id == some ("path:" ++ actual)
      result.native_transaction_state == .not_applicable && nativeDocumentCheckpointResultV2 host result
        && (save.field "same_document").isBool true
        && (save.field "before").row.field "project_fingerprint" == print
        && (save.field "after").row.field "project_fingerprint" == print
        && ((normalizedPath host requested == actual && named)
          || (bareModelName host requested actual && (operation.target.target_id.isNone || named)
            && (result.affected_target_identities.getD []).any fun id =>
              normalizedPath host id == "artifact_path:" ++ actual))
    | _, _ => false

/-- A later native commit that makes an earlier read stale. -/
def outdatesRead (host : JavaScriptHost) (snapshot : AssignmentSnapshotV2) (operation prior : OperationV2)
    (scope : RefreshScope) (change : OperationV2) : Bool :=
  match change.result with
  | none => false
  | some result =>
    let declared := declaredElementIds change
    let requested := declaredElementIds operation
    change.requested_effect == .apply && change.persistent_effect == .applied
      && result.persistent_effect == .applied
      && (result.native_transaction_state == .committed
        || (scope == .document && sameDocumentSave host change))
      && nativeResult snapshot change && sameAssignmentBindingV2 operation.binding change.binding
      && change.target.document_fingerprint == operation.binding.document_fingerprint
      && laterVersion change.admitted_assignment_version prior.settled_assignment_version
      && !snapshot.input_invalidated_operation_ids.contains change.operation_id
      && (scope == .document || (affectedElementIds result).any fun id =>
        declared.contains id && requested.contains id)

/-- The reads that may be refreshed: signed roots of an open, running
    assignment in its document while no edit is open. -/
def refreshEligible (snapshot : AssignmentSnapshotV2) (operation : OperationV2) : Bool :=
  operation.requested_effect == .read
    && (operation.purpose == .discovery || operation.purpose == .verification)
    && operation.role == .root && !snapshot.terminal && snapshot.completion_proposal.isNone
    && !snapshot.paused && snapshot.unresolved_unknown_operation_ids.isEmpty
    && operation.inBoundDocument && sameAssignmentBindingV2 snapshot.current_binding operation.binding
    && (match operation.request_identity with
      | some request => request.request_signature != ""
      | none => false)
    && !snapshot.in_flight_operation_ids.any fun id =>
      ((snapshot.operations.get? id).map OperationV2.requested_effect) == some .apply

/-- One fresh run of an unchanged read after a later native commit. -/
def readRefreshV2 (host : JavaScriptHost) (snapshot : AssignmentSnapshotV2) (operation : OperationV2)
    (scope : RefreshScope) : Option TypedRetry :=
  let operations := snapshot.operations.values
  if !refreshEligible snapshot operation then none
  else
    match latestEquivalent operations operation with
    | none => none
    | some prior =>
      let clean := match prior.result with
        | some result => result.input_schema_gap.isNone && result.result_semantic_gap.isNone
        | none => true
      if prior.requested_effect != .read || prior.settlement_state != .settled
          || !hasReadWitness snapshot prior scope || !clean
          || snapshot.input_invalidated_operation_ids.contains prior.operation_id
          || !unretried operations prior
          || (scope == .target && (declaredElementIds operation).isEmpty) then none
      else
        (latestSettled (operations.filter (outdatesRead host snapshot operation prior scope))).map
          fun change => ⟨prior.operation_id, some change.operation_id⟩

def committedReadRefreshV2 (host : JavaScriptHost) (snapshot : AssignmentSnapshotV2)
    (operation : OperationV2) : Option TypedRetry :=
  readRefreshV2 host snapshot operation .target

def committedDocumentReadRefreshV2 (host : JavaScriptHost) (snapshot : AssignmentSnapshotV2)
    (operation : OperationV2) : Option TypedRetry :=
  readRefreshV2 host snapshot operation .document

def isOpenRequest (operation : OperationV2) : Bool :=
  nativeFamilySessionRequestV1 operation == some .open_

/-- A settled native edit of the bound document without effect. -/
def nativeNone (snapshot : AssignmentSnapshotV2) (binding : AssignmentBindingV2) (o : OperationV2) : Bool :=
  match o.result with
  | none => false
  | some result => sameAssignmentBindingV2 binding o.binding
      && o.target.document_fingerprint == binding.document_fingerprint
      && o.requested_effect == .apply && o.settlement_state == .settled && o.persistent_effect == .none
      && o.dispatch_authority == some .native && !truthy o.observation_retention_error
      && !o.observation_ids.isEmpty && result.authority == "native-host"
      && result.dispatch_state == .dispatched && result.persistent_effect == .none
      && result.native_transaction_state == .not_applicable && cleanNativeReceipt result
      && truthy result.raw_payload_hash && sameAssignmentBindingV2 binding result.binding
      && sameRequestIdentity o result && stampedInOrder snapshot o

/-- A native observation of the operation states all of these field values. -/
def hasFacts (snapshot : AssignmentSnapshotV2) (binding : AssignmentBindingV2) (o : OperationV2)
    (expected : List (String × SemanticFactScalarV2)) : Bool :=
  o.observation_ids.any fun id =>
    match snapshot.observations.get? id with
    | none => false
    | some observation => observation.authority == "native-host"
        && observation.operation_id == o.operation_id && sameAssignmentBindingV2 binding observation.binding
        && some observation.raw_payload_hash == o.result.bind OperationResultV2.raw_payload_hash
        && observation.raw_payload_ref != "" && expected.all fun (key, value) =>
          observation.facts.any fun fact =>
            fact.fact_id == "control.field." ++ key && fact.value == .scalar value

/-- The status an operation's result reports. -/
def resultStatus (o : OperationV2) : Option OperationResultStatusV2 :=
  o.result.map OperationResultV2.status

/-- A confirmed close without save that frees a slot this assignment held and
    that no later open has taken. -/
def freesCapacity (snapshot : AssignmentSnapshotV2) (binding : AssignmentBindingV2) (prior o : OperationV2) :
    Bool :=
  let operations := snapshot.operations.values
  match nativeFamilySessionRequestV1 o with
  | some (.close_without_save session) =>
    nativeNone snapshot binding o && resultStatus o == some .succeeded && requestMethod o == some .POST
      && laterVersion o.admitted_assignment_version prior.settled_assignment_version
      && hasFacts snapshot binding o [("ok", .bool true), ("closed", .bool true), ("saved", .bool false),
        ("family_document_id", .str session)]
      && !operations.any (fun used => used.retry_after_operation_id == some o.operation_id)
      && operations.any (fun p => nativeNone snapshot binding p && resultStatus p == some .succeeded
        && isOpenRequest p && laterVersion prior.admitted_assignment_version p.settled_assignment_version
        && hasFacts snapshot binding p [("ok", .bool true), ("family_document_id", .str session)])
      && !operations.any (fun p => isOpenRequest p && resultStatus p == some .succeeded
        && laterVersion p.admitted_assignment_version o.settled_assignment_version)
  | _ => false

/-- One retry of a refused open after a confirmed close freed its capacity. An
    operation without a request identity has no canonical text and stops the
    search. -/
def familyCapacityRetryV2 (snapshot : AssignmentSnapshotV2) (operation : OperationV2) :
    Except KernelFault (Option TypedRetry) :=
  let operations := snapshot.operations.values
  if operation.requested_effect != .apply || operation.role != .root
      || requestMethod operation != some .POST || !isOpenRequest operation
      || !inputNamesRequest operation || !operation.inBoundDocument
      || !sameAssignmentBindingV2 snapshot.current_binding operation.binding
      || !snapshot.unresolved_unknown_operation_ids.isEmpty || operations.any unresolvedApply then .ok none
  else if operations.any fun o => o.request_identity.isNone then
    .error (.error "payload_digest_v2_unsupported_value:undefined")
  else
    match latestAdmitted (operations.filter fun o => o.request_identity == operation.request_identity
        && sameInputAndTarget o operation) with
    | none => .ok none
    | some prior =>
      if !nativeNone snapshot operation.binding prior || resultStatus prior != some .failed_after_dispatch
          || (prior.result.bind OperationResultV2.error_code) != some "family_session_capacity_reached"
          || !unretried operations prior then .ok none
      else
        .ok ((latestSettled (operations.filter (freesCapacity snapshot operation.binding prior))).map
          fun closed => ⟨prior.operation_id, some closed.operation_id⟩)

/-- The applied edit whose verification read may be retried: committed, current
    and not followed by another edit. -/
def retryableSubject (snapshot : AssignmentSnapshotV2) (operation apply_ : OperationV2) : Bool :=
  match apply_.result with
  | none => false
  | some result => apply_.requested_effect == .apply && apply_.admission_state == .admitted
      && apply_.settlement_state == .settled && apply_.persistent_effect == .applied
      && result.authority == "native-host" && result.status == .succeeded
      && result.native_transaction_state == .committed && result.persistent_effect == .applied
      && result.dispatch_state == .dispatched && sameAssignmentBindingV2 operation.binding apply_.binding
      && sameAssignmentBindingV2 operation.binding result.binding
      && !(apply_.settled_assignment_version.getD 0 == 0)
      && !snapshot.input_invalidated_operation_ids.contains apply_.operation_id
      && !snapshot.operations.values.any fun o => o.requested_effect == .apply
        && (o.settlement_state != .settled || o.persistent_effect == .unknown
          || o.admitted_assignment_version.isNone
          || laterVersion o.admitted_assignment_version apply_.settled_assignment_version)

/-- A verification read that the native host confirmed it never dispatched. -/
def neverDispatched (snapshot : AssignmentSnapshotV2) (operation apply_ prior : OperationV2) : Bool :=
  match prior.result with
  | none => false
  | some result => !truthy prior.retry_of_operation_id && unretried snapshot.operations.values prior
      && prior.admission_state == .admitted && prior.settlement_state == .settled
      && prior.purpose == .verification && prior.fulfillment_role == some .verification
      && prior.dispatch_state == .not_dispatched && prior.persistent_effect == .none
      && prior.observation_ids.isEmpty && result.authority == "native-host"
      && result.status == .failed_before_dispatch && result.dispatch_state == .not_dispatched
      && result.persistent_effect == .none && !result.observation_required
      && (result.native_transaction_state == .not_applicable
        || result.native_transaction_state == .not_started)
      && truthy result.native_correlation_id && result.input_schema_gap.isNone
      && result.result_semantic_gap.isNone && sameAssignmentBindingV2 operation.binding prior.binding
      && sameAssignmentBindingV2 operation.binding result.binding && sameRequestIdentity prior result
      && laterVersion prior.admitted_assignment_version apply_.settled_assignment_version
      && !(prior.settled_assignment_version.getD 0 == 0)
      && prior.settled_assignment_version.getD 0 ≤ snapshot.assignment_version
      && !snapshot.input_invalidated_operation_ids.contains prior.operation_id

/-- One fresh verification read after a native-confirmed non-dispatch. A read
    without a request identity has no canonical text and permits none. -/
def preDispatchReadRetryV2 (snapshot : AssignmentSnapshotV2) (operation : OperationV2) :
    Option TypedRetry :=
  if operation.requested_effect != .read || operation.purpose != .verification
      || operation.fulfillment_role != some .verification || operation.role != .root
      || !truthy operation.verification_of_operation_id || snapshot.terminal
      || snapshot.completion_proposal.isSome || snapshot.paused
      || !snapshot.unresolved_unknown_operation_ids.isEmpty || !operation.inBoundDocument
      || !sameAssignmentBindingV2 snapshot.current_binding operation.binding then none
  else
    match operation.verification_of_operation_id.bind snapshot.operations.get? with
    | none => none
    | some apply_ =>
      let reads := snapshot.operations.values.filter fun o => o.requested_effect == .read
        && o.verification_of_operation_id == some apply_.operation_id
      if operation.request_identity.isNone || reads.any (fun o => o.request_identity.isNone)
          || !retryableSubject snapshot operation apply_ then none
      else
        match latestAdmitted (reads.filter fun o => o.request_identity == operation.request_identity
            && sameInputAndTarget o operation) with
        | none => none
        | some prior =>
          if neverDispatched snapshot operation apply_ prior then some ⟨prior.operation_id, none⟩ else none

end revit_operator.assignment_kernel
