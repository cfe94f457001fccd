import RevitOperator.AssignmentKernel.NativeEvidence

open revit_operator.contracts

namespace revit_operator.assignment_kernel

/-- The view whose template an operation requests to change. -/
def requestView (host : JavaScriptHost) (operation : OperationV2) : Option Int :=
  (nativeTemplateRequestV1 host operation).map NativeTemplateRequestV1.view_id

def requestKind (host : JavaScriptHost) (operation : OperationV2) : Option NativeTemplateRequestKind :=
  (nativeTemplateRequestV1 host operation).map NativeTemplateRequestV1.kind

/-- The template a committed native change leaves on its view, derived when the
    observation is retained. -/
def deriveNativeTemplateStateV1 (host : JavaScriptHost) (operation : OperationV2) :
    Option NativeTemplateStateV1 :=
  match requestView host operation, operation.result with
  | some viewId, some result =>
    if !committedNativeResult host operation result then none
    else
      match heldPayload host operation result with
      | none => none
      | some commit =>
        match nativeTemplateResultStateV1 host operation commit.raw_payload with
        | none => none
        | some (view, template) =>
          if view = viewId ∧ (result.affected_target_identities.getD []).contains
              ("element_id:" ++ toString viewId) then some
            { result_id := result.result_id
              raw_payload_hash := result.raw_payload_hash.getD ""
              view_id := view
              template_id := template }
          else none
  | _, _ => none

/-- A settled native change of the view's template under the binding. -/
def validNativeTemplate (host : JavaScriptHost) (snapshot : AssignmentSnapshotV2)
    (binding : AssignmentBindingV2) (viewId : Int) (operation : OperationV2) : Bool :=
  match operation.native_template_state, operation.result with
  | some state, some result => requestView host operation == some viewId
      && sameAssignmentBindingV2 binding operation.binding
      && operation.target.document_fingerprint == binding.document_fingerprint
      && operation.settlement_state == .settled && operation.persistent_effect == .applied
      && operation.dispatch_authority == some .native && !truthy operation.observation_retention_error
      && result.status == .succeeded && result.authority == "native-host"
      && result.native_transaction_state == .committed && result.persistent_effect == .applied
      && sameAssignmentBindingV2 binding result.binding && state.view_id == viewId
      && isSafeInteger state.template_id && 0 < state.template_id && state.result_id == result.result_id
      && some state.raw_payload_hash == result.raw_payload_hash
      && hasNativeObservation snapshot binding operation (some state.raw_payload_hash)
      && stampedInOrder snapshot operation
  | _, _ => false

/-- A typed wrapper that finished without dispatch of its own. -/
def typedWrapperFinished (host : JavaScriptHost) (binding : AssignmentBindingV2) (viewId : Int)
    (operation : OperationV2) : Bool :=
  match operation.result with
  | none => false
  | some result => requestKind host operation == some .typed_parameter
      && requestView host operation == some viewId && operation.role == .root
      && sameAssignmentBindingV2 binding operation.binding && operation.settlement_state == .settled
      && operation.persistent_effect == .none && !truthy operation.observation_retention_error
      && result.status == .completed_without_native_dispatch && result.authority == "operator-mcp-transport"
      && result.dispatch_state == .not_dispatched && result.persistent_effect == .none
      && sameAssignmentBindingV2 operation.binding result.binding

/-- The native child carries the wrapper's request and ran inside it. -/
def wrapsNativeChild (host : JavaScriptHost) (wrapper child : OperationV2) : Bool :=
  child.operation_role == some .child && child.root_operation_id == some wrapper.operation_id
    && requestKind host child == some .native_parameter && sameJson child.inputBody wrapper.input
    && sameTarget child.target wrapper.target
    && laterVersion child.admitted_assignment_version wrapper.admitted_assignment_version
    && laterVersion wrapper.settled_assignment_version child.settled_assignment_version

/-- The native change behind an operation: itself, or the only child of a typed
    wrapper. -/
def nativeFor (host : JavaScriptHost) (snapshot : AssignmentSnapshotV2) (binding : AssignmentBindingV2)
    (viewId : Int) (operations : List OperationV2) (operation : OperationV2) : Option OperationV2 :=
  if validNativeTemplate host snapshot binding viewId operation then some operation
  else if !typedWrapperFinished host binding viewId operation then none
  else
    match operations.filter fun child => child.parent_operation_id == some operation.operation_id with
    | [child] =>
      if validNativeTemplate host snapshot binding viewId child && wrapsNativeChild host operation child then
        some child
      else none
    | _ => none

/-- The template the native change behind an operation left on the view. -/
def nativeTemplateFor (host : JavaScriptHost) (snapshot : AssignmentSnapshotV2)
    (binding : AssignmentBindingV2) (viewId : Int) (operations : List OperationV2)
    (operation : OperationV2) : Option Int :=
  ((nativeFor host snapshot binding viewId operations operation).bind
    OperationV2.native_template_state).map NativeTemplateStateV1.template_id

/-- The requests a reassignment never follows: retries and checkpoints. -/
def reassignmentEligible (snapshot : AssignmentSnapshotV2) (operation : OperationV2) : Bool :=
  operation.inBoundDocument && sameAssignmentBindingV2 snapshot.current_binding operation.binding
    && operation.isNoRetry && !truthy operation.checkpoint_of_operation_id
    && !truthy operation.checkpoint_after_operation_id && snapshot.unresolved_unknown_operation_ids.isEmpty

/-- The reassignment the history permits when one open edit is exempt. -/
def templateReassignmentExempting (host : JavaScriptHost) (snapshot : AssignmentSnapshotV2)
    (operation : OperationV2) (allowedParent : Option String) : Option CounterStateCitation :=
  match requestView host operation with
  | none => none
  | some viewId =>
    let operations := otherOperations snapshot operation
    let native := nativeFor host snapshot operation.binding viewId operations
    let template := nativeTemplateFor host snapshot operation.binding viewId operations
    let repeats := operations.filter fun o => o.requested_effect == .apply && sameNativeRequest o operation
    if !reassignmentEligible snapshot operation
        || operations.any (fun o => some o.operation_id != allowedParent && unresolvedApply o)
        || repeats.any (fun o => (native o).isNone || !sameInputAndTarget o operation) then none
    else
      match latestSettled repeats with
      | none => none
      | some prior =>
        if operations.any fun o => o.reassignment_of_operation_id == some prior.operation_id then none
        else
          match latestSettled (operations.filter fun o => (native o).isSome
              && laterVersion o.admitted_assignment_version prior.settled_assignment_version
              && o.capability_id == prior.capability_id && o.role == prior.role
              && template o != template prior) with
          | none => none
          | some counter =>
            let expected := (nativeTemplateParameterChangeV1 operation).map
              NativeTemplateParameterChangeV1.expectedOldValue
            if operations.any (fun o => o.reassignment_after_operation_id == some counter.operation_id)
                || (expected.isSome && template counter != expected)
                || operations.any (fun o => o.requested_effect == .apply && o.persistent_effect != .none
                  && laterVersion o.admitted_assignment_version counter.settled_assignment_version
                  && affectsElement o viewId) then none
            else some ⟨prior.operation_id, counter.operation_id⟩

/-- The typed parent a native child may follow while the parent is open: its
    own reassignment is still the one the history permits. A typed parent is a
    root, so its own check exempts nothing. -/
def allowedTypedParent (host : JavaScriptHost) (snapshot : AssignmentSnapshotV2) (operation : OperationV2) :
    Option String :=
  match operation.parent_operation_id.bind snapshot.operations.get? with
  | none => none
  | some parent =>
    if truthy operation.parent_operation_id && requestKind host parent == some .typed_parameter
        && operation.operation_role == some .child
        && operation.root_operation_id == some parent.operation_id
        && sameAssignmentBindingV2 parent.binding operation.binding
        && sameJson parent.input operation.inputBody && sameTarget parent.target operation.target
        && truthy parent.reassignment_of_operation_id && truthy parent.reassignment_after_operation_id then
      match templateReassignmentExempting host snapshot parent none with
      | none => none
      | some proof =>
        if parent.reassignment_of_operation_id = some proof.of_operation_id
            ∧ parent.reassignment_after_operation_id = some proof.after_operation_id then
          some parent.operation_id
        else none
    else none

/-- An intentional state transition after a proven counter-assignment, never a
    retry of an unknown mutation. -/
def templateReassignmentV1 (host : JavaScriptHost) (snapshot : AssignmentSnapshotV2)
    (operation : OperationV2) : Option CounterStateCitation :=
  templateReassignmentExempting host snapshot operation (allowedTypedParent host snapshot operation)

end revit_operator.assignment_kernel
