import RevitOperator.AssignmentKernel.NativeEvidence

open revit_operator.contracts

namespace revit_operator.assignment_kernel

/-- The input without the registry-discovery hint, which does not change a
    native save. A malformed hint has no identity. -/
def checkpointInputIdentity (input : Json) : Option Json :=
  match input.member? "requireKnownPath" with
  | none | some (.bool _) =>
    some (Json.obj (input.members.filter fun entry => entry.1 != "requireKnownPath")).canonicalValue
  | some _ => none

/-- A settled native edit of the bound document with complete retained proof. -/
def nativeApplied (snapshot : AssignmentSnapshotV2) (binding : AssignmentBindingV2)
    (candidate : OperationV2) : Bool :=
  match candidate.result with
  | none => false
  | some result => sameAssignmentBindingV2 binding candidate.binding
      && candidate.target.document_fingerprint == binding.document_fingerprint
      && candidate.requested_effect == .apply && candidate.settlement_state == .settled
      && candidate.persistent_effect == .applied && candidate.dispatch_authority == some .native
      && !truthy candidate.observation_retention_error && !candidate.observation_ids.isEmpty
      && (result.status == .succeeded || result.status == .failed_after_dispatch)
      && result.authority == "native-host" && result.dispatch_state == .dispatched
      && result.persistent_effect == .applied && cleanNativeReceipt result
      && truthy result.raw_payload_hash && sameAssignmentBindingV2 binding result.binding
      && candidate.request_identity.isSome && sameRequestIdentity candidate result
      && stampedInOrder snapshot candidate

/-- The native save wrote the requested path of the bound document. -/
def savedRequestedPath (host : JavaScriptHost) (binding : AssignmentBindingV2) (candidate : OperationV2)
    (result : OperationResultV2) : Bool :=
  let saved := ((result.native_artifact_receipt.getD .null).row.field "save_document").row
  let print := (binding.document_fingerprint.map Json.str).getD .null
  match candidate.inputBody.row.field "filePath", (saved.field "after").row.field "path" with
  | .str requested, .str written => (saved.field "same_document").isBool true
      && (saved.field "before").row.field "project_fingerprint" == print
      && (saved.field "after").row.field "project_fingerprint" == print
      && normalizedPath host requested == normalizedPath host written
      && candidate.target.target_id == some ("path:" ++ normalizedPath host written)
  | _, _ => false

/-- A complete native save of the bound document. -/
def isCheckpoint (host : JavaScriptHost) (snapshot : AssignmentSnapshotV2) (binding : AssignmentBindingV2)
    (candidate : OperationV2) : Bool :=
  match candidate.result with
  | none => false
  | some result => nativeApplied snapshot binding candidate && result.status == .succeeded
      && candidate.role == .root && nativeDocumentCheckpointResultV2 host result
      && savedRequestedPath host binding candidate result

/-- A native change of document elements, not the writing of a file. -/
def committedElementChange (snapshot : AssignmentSnapshotV2) (binding : AssignmentBindingV2)
    (candidate : OperationV2) : Bool :=
  match candidate.result with
  | none => false
  | some result => nativeApplied snapshot binding candidate
      && result.native_transaction_state == .committed
      && !result.native_artifact_receipt.any truthyJson
      && (result.affected_target_identities.getD []).any fun id =>
        text.isNumbered "element_id:" id || text.isNumbered "id:" id

/-- The requests that can ask for another save: signed roots of the bound
    document that are no retries. -/
def checkpointEligible (snapshot : AssignmentSnapshotV2) (operation : OperationV2)
    (request : OperationRequestIdentityV2) : Bool :=
  operation.requested_effect == .apply && operation.role == .root && operation.isNoRetry
    && operation.inBoundDocument && sameAssignmentBindingV2 snapshot.current_binding operation.binding
    && request.method.isSome && truthy request.path && request.capability_id == operation.capability_id
    && request.request_signature != "" && inputNamesRequest operation
    && snapshot.unresolved_unknown_operation_ids.isEmpty

/-- The earlier run is the same save with the same request, target and input. -/
def sameSave (host : JavaScriptHost) (snapshot : AssignmentSnapshotV2) (operation candidate : OperationV2) :
    Bool :=
  isCheckpoint host snapshot operation.binding candidate
    && candidate.capability_id == operation.capability_id
    && candidate.request_identity == operation.request_identity
    && sameTarget candidate.target operation.target
    && checkpointInputIdentity candidate.input == checkpointInputIdentity operation.input

/-- A new save of changed document contents, never a retry of an applied edit.
    A different successful save also uses up the earlier changes. -/
def documentCheckpointContinuationV2 (host : JavaScriptHost) (snapshot : AssignmentSnapshotV2)
    (operation : OperationV2) : Option CounterStateCitation :=
  match operation.request_identity with
  | none => none
  | some request =>
    let operations := snapshot.operations.values
    let repeats := operations.filter fun o => o.requested_effect == .apply && sameNativeRequest o operation
    if !checkpointEligible snapshot operation request || operations.any unresolvedApply
        || (checkpointInputIdentity operation.input).isNone
        || !repeats.all (sameSave host snapshot operation) then none
    else
      match latestAdmitted repeats with
      | none => none
      | some prior =>
        if operations.any fun o => o.checkpoint_of_operation_id == some prior.operation_id then none
        else
          match latestSettled (operations.filter (isCheckpoint host snapshot operation.binding)) with
          | none => none
          | some lastCheckpoint =>
            let changed := operations.filter fun o =>
              committedElementChange snapshot operation.binding o
                && laterVersion o.admitted_assignment_version lastCheckpoint.settled_assignment_version
                && !operations.any fun consumed =>
                  consumed.checkpoint_after_operation_id == some o.operation_id
            (latestSettled changed).map fun change => ⟨prior.operation_id, change.operation_id⟩

end revit_operator.assignment_kernel
