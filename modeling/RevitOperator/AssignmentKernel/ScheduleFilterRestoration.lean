import RevitOperator.AssignmentKernel.NativeEvidence

open revit_operator.contracts

namespace revit_operator.assignment_kernel

/-- The filter state a committed native change leaves on its schedule, derived
    when the observation is retained. -/
def deriveNativeScheduleFilterStateV1 (host : JavaScriptHost) (operation : OperationV2) :
    Option NativeScheduleFilterStateV1 :=
  match nativeScheduleFilterRequestV1 host operation, operation.result with
  | some request, some result =>
    if !committedNativeResult host operation result
        || !(result.affected_target_identities.getD []).contains
          ("element_id:" ++ toString request.schedule_id) then none
    else
      match heldPayload host operation result with
      | none => none
      | some commit =>
        (nativeScheduleFilterResultStateV1 host operation commit.raw_payload).map fun state =>
          { result_id := result.result_id
            raw_payload_hash := result.raw_payload_hash.getD ""
            schedule_id := state.schedule_id
            state_hash := host.utf8TextSha256V2 state.state }
  | _, _ => none

/-- A native observation states that the change inventory of the operation is
    complete. -/
def completeFootprint (snapshot : AssignmentSnapshotV2) (binding : AssignmentBindingV2)
    (operation : OperationV2) : Bool :=
  match operation.result with
  | none => false
  | some result => truthy result.raw_payload_hash && operation.observation_ids.any fun id =>
      match snapshot.observations.get? id with
      | none => false
      | some observation => observation.operation_id == operation.operation_id
          && observation.authority == "native-host"
          && sameAssignmentBindingV2 binding observation.binding
          && sameAssignmentBindingV2 binding result.binding
          && some observation.raw_payload_hash == result.raw_payload_hash
          && observation.facts.any fun fact =>
            fact.fact_id == "control.native_change_inventory_complete"
              && fact.fact_class == some .control && fact.value.isTrue

/-- A settled native filter change of the schedule under the binding. -/
def validFilterChange (host : JavaScriptHost) (snapshot : AssignmentSnapshotV2)
    (binding : AssignmentBindingV2) (scheduleId : Int) (operation : OperationV2) : Bool :=
  match operation.native_schedule_filter_state, operation.result,
      nativeScheduleFilterRequestV1 host operation with
  | some state, some result, some decoded => decoded.schedule_id == scheduleId
      && state.schedule_id == scheduleId && state.state_hash == host.utf8TextSha256V2 decoded.state
      && state.result_id == result.result_id && some state.raw_payload_hash == result.raw_payload_hash
      && sameAssignmentBindingV2 binding operation.binding && sameAssignmentBindingV2 binding result.binding
      && operation.target.document_fingerprint == binding.document_fingerprint
      && operation.settlement_state == .settled && operation.persistent_effect == .applied
      && operation.dispatch_authority == some .native && !truthy operation.observation_retention_error
      && result.status == .succeeded && result.authority == "native-host"
      && result.dispatch_state == .dispatched && result.persistent_effect == .applied
      && result.native_transaction_state == .committed && cleanNativeReceipt result
      && (result.affected_target_identities.getD []).contains ("element_id:" ++ toString scheduleId)
      && completeFootprint snapshot binding operation
      && hasNativeObservation snapshot binding operation (some state.raw_payload_hash)
      && stampedInOrder snapshot operation
  | _, _, _ => false

def filterStateHash (operation : OperationV2) : Option String :=
  operation.native_schedule_filter_state.map NativeScheduleFilterStateV1.state_hash

/-- A later edit may have touched the schedule, so the counter-state need not
    be current any more. -/
def mayDisturbSchedule (snapshot : AssignmentSnapshotV2) (binding : AssignmentBindingV2)
    (scheduleId : Int) (counter operation : OperationV2) : Bool :=
  operation.operation_id != counter.operation_id && operation.requested_effect == .apply
    && operation.persistent_effect != .none
    && (operation.settled_assignment_version.isNone
      || laterVersion operation.settled_assignment_version counter.settled_assignment_version)
    && (!completeFootprint snapshot binding operation
      || ((operation.result.bind OperationResultV2.affected_target_identities).getD []).isEmpty
      || affectsElement operation scheduleId)

/-- The requests a restoration never follows: retries, checkpoints and
    reassignments. -/
def restorationEligible (snapshot : AssignmentSnapshotV2) (operation : OperationV2) : Bool :=
  operation.inBoundDocument && sameAssignmentBindingV2 snapshot.current_binding operation.binding
    && snapshot.unresolved_unknown_operation_ids.isEmpty && operation.isNoRetry
    && !truthy operation.checkpoint_of_operation_id && !truthy operation.checkpoint_after_operation_id
    && !truthy operation.reassignment_of_operation_id
    && !truthy operation.reassignment_after_operation_id

/-- A requested transition after a proven counter-state, not a replay of an
    applied or uncertain write. -/
def scheduleFilterRestorationV1 (host : JavaScriptHost) (snapshot : AssignmentSnapshotV2)
    (operation : OperationV2) : Option CounterStateCitation :=
  match nativeScheduleFilterRequestV1 host operation with
  | none => none
  | some request =>
    let operations := otherOperations snapshot operation
    let valid := validFilterChange host snapshot operation.binding request.schedule_id
    let repeats := operations.filter fun o => o.requested_effect == .apply && sameNativeRequest o operation
    if !restorationEligible snapshot operation || operations.any unresolvedApply
        || repeats.any (fun o => !valid o || !sameInputAndTarget o operation) then none
    else
      match latestSettled repeats with
      | none => none
      | some prior =>
        match latestSettled (operations.filter fun o => valid o
            && laterVersion o.admitted_assignment_version prior.settled_assignment_version
            && filterStateHash o != filterStateHash prior) with
        | none => none
        | some counter =>
          if operations.any (fun o => o.filter_restoration_after_operation_id == some counter.operation_id)
              || operations.any (mayDisturbSchedule snapshot operation.binding request.schedule_id counter)
              then none
          else some ⟨prior.operation_id, counter.operation_id⟩

end revit_operator.assignment_kernel
