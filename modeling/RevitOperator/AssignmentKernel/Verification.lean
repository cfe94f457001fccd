import RevitOperator.Contracts.Receipts

open revit_operator.contracts

namespace revit_operator.assignment_kernel

/-- A retained observation of the operation states that its postcondition
    holds, as a fact of class verification. -/
def provesAppliedPostcondition (snapshot : AssignmentSnapshotV2) (verification : OperationV2) : Bool :=
  verification.observation_ids.any fun observationId =>
    match snapshot.observations.get? observationId with
    | some observation => observation.facts.any fun fact =>
        fact.fact_id == "verification.postcondition_satisfied"
          && fact.fact_class == some .verification && fact.value.isTrue
    | none => false

def verificationOperationHasVerifiedPostconditionV2 (snapshot : AssignmentSnapshotV2)
    (verificationOperationId : String) : Bool :=
  match snapshot.operations.get? verificationOperationId with
  | none => false
  | some verification =>
    truthy verification.verification_of_operation_id
      && (match verification.verification_of_operation_id.bind snapshot.operations.get? with
        | none => false
        | some applied =>
          applied.requested_effect == .apply && applied.persistent_effect == .applied
            && applied.settlement_state == .settled
            && applied.verification_operation_ids.contains verificationOperationId
            && verification.requested_effect == .read && verification.purpose == .verification
            && verification.persistent_effect == .none && verification.settlement_state == .settled
            && (verification.result.map OperationResultV2.status) == some .succeeded
            && !verification.observation_ids.isEmpty
            && provesAppliedPostcondition snapshot verification)

def appliedOperationHasVerifiedPostconditionV2 (snapshot : AssignmentSnapshotV2)
    (appliedOperationId : String) : Bool :=
  match snapshot.operations.get? appliedOperationId with
  | none => false
  | some operation =>
    operation.requested_effect == .apply && operation.persistent_effect == .applied
      && operation.settlement_state == .settled
      && operation.verification_operation_ids.any fun verificationId =>
        ((snapshot.operations.get? verificationId).bind OperationV2.verification_of_operation_id)
            == some operation.operation_id
          && verificationOperationHasVerifiedPostconditionV2 snapshot verificationId

/-- The comparable spellings of a target identity. Native settlements write
    `element_id:42` where requests write `id:42`. -/
def operationTargetIdentityAliasesV2 (host : JavaScriptHost) (value : String) : List String :=
  let identity := host.toLowerCase (text.trim value)
  if identity == "" || 500 < text.length identity || text.hasUnitIn 0 0x1F identity
      || text.hasUnitIn 0x7F 0x7F identity then []
  else
    let cs := identity.toList
    let lead := cs.takeWhile (· != ':')
    if lead.isEmpty || lead.length == cs.length then [identity]
    else
      let kind := String.ofList (lead.filter fun c => text.isLower c || text.isDigit c)
      let identifier := String.ofList (cs.drop (lead.length + 1))
      let artifact := if kind == "artifactpath" then ["artifact_path:" ++ forwardSlashes identifier] else []
      let element :=
        if (kind == "id" || text.endsWith kind "id"
              || ["ids", "elementids", "requestedelementids", "viewids"].contains kind)
            && identifier != "" && identifier.toList.all text.isDigit then ["id:" ++ identifier]
        else []
      text.sortedUnique ([identity] ++ artifact ++ element)

def effectiveOperationTargetIdentitiesV2 (host : JavaScriptHost) (operation : OperationV2) :
    List String :=
  text.sortedUnique ((operation.target.target_id.toList
    ++ (operation.result.bind OperationResultV2.affected_target_identities).getD []).flatMap
      (operationTargetIdentityAliasesV2 host))

/-- One of the candidate identities names the operation's target or a target
    its native result reports as affected. -/
def operationMatchesTargetIdentityV2 (host : JavaScriptHost) (operation : OperationV2)
    (candidateIdentities : List String) : Bool :=
  let candidates := candidateIdentities.flatMap (operationTargetIdentityAliasesV2 host)
  (effectiveOperationTargetIdentitiesV2 host operation).any candidates.contains

/-- The non-empty exact identities an operation was admitted for. -/
def admittedTargets (operation : OperationV2) : List String :=
  operation.target.declared.filter (· != "")

/-- The exact admitted and native-reported identities of an operation. -/
def reportedOperationTargetIdentitiesV2 (operation : OperationV2) : List String :=
  text.sortedUnique ((operation.target.declared
    ++ (operation.result.bind OperationResultV2.affected_target_identities).getD []).filter (· != ""))

def VERIFIED_DELIVERABLE_TARGETS_FACT_V2 : String := "verification.deliverable_target_identities"

/-- An observation of the operation by the native host under the current
    binding. -/
def nativeObservationOf (snapshot : AssignmentSnapshotV2) (operationId observationId : String) :
    Option ObservationV2 :=
  (snapshot.observations.get? observationId).filter fun observation =>
    observation.operation_id == operationId && observation.authority == "native-host"
      && sameAssignmentBindingV2 observation.binding snapshot.current_binding

/-- The identities a deliverable fact lists, when it lists them well. -/
def deliverableIdentities : SemanticFactValueV2 → Option (List String)
  | .scalar _ => none
  | .list values =>
    match values.mapM (fun | .str identity => some identity | _ => none) with
    | none => none
    | some identities =>
      if identities.isEmpty || 256 < identities.length
          || !identities.all (text.isNumbered "element_id:") || !decide identities.Nodup then none
      else some identities

/-- The targets one verification read certifies for its subject. -/
def verificationReadTargets (host : JavaScriptHost) (snapshot : AssignmentSnapshotV2)
    (appliedId id : String) : List String :=
  match snapshot.operations.get? id with
  | none => []
  | some read =>
    let trusted := match read.result with
      | none => false
      | some result => result.authority == "native-host"
          && sameAssignmentBindingV2 read.binding snapshot.current_binding
          && sameAssignmentBindingV2 result.binding snapshot.current_binding
    let observations := read.observation_ids.filterMap (nativeObservationOf snapshot id)
    let proven := observations.any fun observation => observation.facts.any fun fact =>
      fact.fact_id == "verification.postcondition_satisfied"
        && fact.fact_class == some .verification && fact.value.isTrue
    let deliverables := observations.flatMap fun observation => observation.facts.filter fun fact =>
      fact.fact_id == VERIFIED_DELIVERABLE_TARGETS_FACT_V2 && fact.fact_class == some .verification
    if !verificationOperationHasVerifiedPostconditionV2 snapshot id
        || read.verification_of_operation_id != some appliedId || !trusted || !proven then []
    else
      let identities := match deliverables with
        | [] => some read.target.declared
        | [fact] => deliverableIdentities fact.value
        | _ => none
      ((identities.getD []).flatMap (operationTargetIdentityAliasesV2 host)).filterMap fun alias_ =>
        if text.isNumbered "id:" alias_ then some ("element_id:" ++ text.dropFirst 3 alias_)
        else if text.startsWith alias_ "artifact_path:" then some alias_
        else none

/-- The independently verified deliverable targets of an applied operation. -/
def verifiedNativeWorkTargetIdentitiesV2 (host : JavaScriptHost) (snapshot : AssignmentSnapshotV2)
    (appliedId : String) : List String :=
  match snapshot.operations.get? appliedId with
  | none => []
  | some applied =>
    if applied.requested_effect != .apply
        || !sameAssignmentBindingV2 applied.binding snapshot.current_binding then []
    else text.sortedUnique
      (applied.verification_operation_ids.flatMap (verificationReadTargets host snapshot appliedId))

end revit_operator.assignment_kernel
