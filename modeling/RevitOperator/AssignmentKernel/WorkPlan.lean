import RevitOperator.AssignmentKernel.Verification

namespace revit_operator.assignment_kernel

/-- A non-blank text within a byte bound and without low control characters. -/
def validText (value : String) (max : Nat) : Bool :=
  text.nonBlank value && text.utf8ByteLength value ≤ max && !text.hasUnitIn 0 0x08 value

/-- The last deferral of an item is not resumed. -/
def workPlanItemDeferredV2 (item : AssignmentWorkPlanItemV2) : Bool :=
  match (item.deferrals.getD []).getLast? with
  | some latest => !truthy latest.resumed_at
  | none => false

def findPlanItem (snapshot : AssignmentSnapshotV2) (itemId : String) :
    Option AssignmentWorkPlanItemV2 :=
  snapshot.work_plan.bind fun plan => plan.items.find? fun item => item.item_id == itemId

/-- The latest of some instants; `none` as soon as one does not parse. -/
def latestInstant (host : JavaScriptHost) (instants : List String) : Option Int :=
  match instants.mapM host.parseDate with
  | some (first :: rest) => some (rest.foldl max first)
  | _ => none

/-- An inspection dependency is a finished, undeferred edit whose operations
    are all verified. -/
def inspectionDependencyReady (snapshot : AssignmentSnapshotV2) (dependency : String) : Bool :=
  match findPlanItem snapshot dependency with
  | none => false
  | some item => !workPlanItemDeferredV2 item && item.kind != some .inspection && truthy item.completed_at
      && !item.operation_ids.isEmpty
      && item.operation_ids.all (appliedOperationHasVerifiedPostconditionV2 snapshot)

/-- One native read of an inspection is settled, current and later than the
    last edit, and a retained native observation backs it. -/
def inspectionReadCurrent (host : JavaScriptHost) (snapshot : AssignmentSnapshotV2)
    (inspection : WorkPlanInspectionV2) (lastEdit : Int) (id : String) : Bool :=
  match snapshot.operations.get? id with
  | none => false
  | some op =>
    match op.result with
    | none => false
    | some result =>
      op.requested_effect == .read && op.persistent_effect == .none && op.settlement_state == .settled
        && result.authority == "native-host" && result.status == .succeeded
        && result.dispatch_state == .dispatched
        && (match host.parseDate op.opened_at with | some opened => lastEdit < opened | none => false)
        && sameAssignmentBindingV2 op.binding snapshot.current_binding
        && sameAssignmentBindingV2 result.binding snapshot.current_binding
        && inspection.observation_ids.any fun oid => op.observation_ids.contains oid
          && (match snapshot.observations.get? oid with
            | none => false
            | some observation => observation.authority == "native-host"
                && some observation.raw_payload_hash == result.raw_payload_hash
                && sameAssignmentBindingV2 observation.binding snapshot.current_binding)

def inspectionIsCurrentV2 (host : JavaScriptHost) (snapshot : AssignmentSnapshotV2)
    (item : AssignmentWorkPlanItemV2) : Bool :=
  match item.inspection with
  | none => false
  | some inspection =>
    let dependsOn := item.depends_on.getD []
    let expected := dependsOn.flatMap fun id =>
      ((findPlanItem snapshot id).map AssignmentWorkPlanItemV2.operation_ids).getD [] |>.flatMap
        (verifiedNativeWorkTargetIdentitiesV2 host snapshot)
    let applied := snapshot.operations.values.filter fun op => op.persistent_effect == .applied
    item.kind == some .inspection && truthy item.completed_at && !dependsOn.isEmpty
      && !item.operation_ids.isEmpty && dependsOn.all (inspectionDependencyReady snapshot)
      && !expected.isEmpty && expected.all inspection.target_ids.contains
      && (match latestInstant host (item.declared_at :: applied.map fun op =>
          (op.result.map OperationResultV2.completed_at).getD "") with
        | none => false
        | some lastEdit =>
          item.operation_ids.all (inspectionReadCurrent host snapshot inspection lastEdit))

/-- An item is unfinished, or what finished it is no longer proven. -/
def workPlanItemPendingV2 (host : JavaScriptHost) (snapshot : AssignmentSnapshotV2)
    (item : AssignmentWorkPlanItemV2) : Bool :=
  !truthy item.completed_at
    || (if item.kind = some .inspection then !inspectionIsCurrentV2 host snapshot item
      else item.operation_ids.any fun id => !appliedOperationHasVerifiedPostconditionV2 snapshot id)

def workPlanPendingV2 (host : JavaScriptHost) (snapshot : AssignmentSnapshotV2) : Bool :=
  (snapshot.spec.work_plan_required && snapshot.work_plan.isNone)
    || (match snapshot.work_plan with
      | none => false
      | some plan => plan.items.any (workPlanItemPendingV2 host snapshot))

/-- Depth-first search for a cycle through `id`: it fails when the search meets
    an item it is still visiting and returns the items it has finished. -/
def visitDependencies (graph : Record (List String)) :
    Nat → List String → List String → String → Except KernelFault (List String)
  | 0, _, _, _ => .error (.assertion "work_plan_dependency_cycle" "Dependencies must form an acyclic work order.")
  | fuel + 1, visiting, visited, id => do
    kernelAssertV2 (id ∉ visiting) "work_plan_dependency_cycle"
      "Dependencies must form an acyclic work order."
    if id ∈ visited then return visited
    let finished ← ((graph.get? id).getD []).foldlM
      (visitDependencies graph fuel (id :: visiting)) visited
    return id :: finished

def isPlanItemIdentifier (value : String) : Bool :=
  text.leadThen text.isLower
    (fun c => text.isLower c || text.isDigit c || c == '_' || c == '-') 79 value

/-- Non-empty, bounded and without repetition. -/
def boundedDistinct (ids : List String) (max : Nat) : Bool :=
  !ids.isEmpty && ids.length ≤ max && decide ids.Nodup

/-- The dependencies of a declared item name items of the plan it may name. -/
def declaredDependenciesValid (snapshot : AssignmentSnapshotV2) (prior : List AssignmentWorkPlanItemV2)
    (declaration : WorkPlanDeclarationV2) (item : WorkPlanItemDeclarationV2) : Bool :=
  let known := prior.map (fun p => (p.item_id, p.kind)) ++ declaration.items.map fun p => (p.item_id, p.kind)
  match item.kind, item.depends_on with
  | some .inspection, none => advisoryVerificationV2 snapshot.spec
  | some .inspection, some ids => boundedDistinct ids 128
      && ids.all fun id => known.any fun p => p.1 == id && p.2 != some .inspection
  | _, none => true
  | _, some ids => boundedDistinct ids 128
      && ids.all fun id => id != item.item_id && known.any fun p => p.1 == id

/-- Check the declared items in order against the identities already taken. -/
def declareItems (snapshot : AssignmentSnapshotV2) (prior : List AssignmentWorkPlanItemV2)
    (declaration : WorkPlanDeclarationV2) (occurredAt : String) :
    List String → List WorkPlanItemDeclarationV2 → Except KernelFault (List AssignmentWorkPlanItemV2)
  | _, [] => .ok []
  | ids, item :: rest => do
    kernelAssertV2 (isPlanItemIdentifier item.item_id ∧ validText item.description 800
        ∧ validText item.source_basis 800 ∧ item.item_id ∉ ids) "work_plan_item_invalid"
      "Use unique stable item IDs and source descriptions; existing items cannot be replaced or removed."
    kernelAssertV2 (declaredDependenciesValid snapshot prior declaration item)
      "work_plan_dependencies_invalid"
      "Inspections must name edit items unless they are independent advisory reads; other dependencies must name existing distinct prerequisites."
    let added ← declareItems snapshot prior declaration occurredAt (item.item_id :: ids) rest
    return { item_id := item.item_id
             description := item.description
             source_basis := item.source_basis
             declared_at := occurredAt
             kind := item.kind
             depends_on := item.depends_on
             inspection := none
             operation_ids := []
             completed_at := none
             location_history := none
             deferrals := none } :: added

/-- Extend the declared scope. Existing items stay. -/
def declareWorkPlanV2 (snapshot : AssignmentSnapshotV2) (declaration : WorkPlanDeclarationV2)
    (occurredAt : String) : Except KernelFault AssignmentWorkPlanV2 := do
  kernelAssertV2 (snapshot.spec.requested_effect = .apply) "work_plan_effect_unsupported"
    "This work plan tracks model edits."
  kernelAssertV2 (declaration.items ≠ [] ∧ declaration.items.length ≤ 128
      ∧ declaration.assumptions.length ≤ 16 ∧ declaration.assumptions.all (validText · 800))
    "work_plan_invalid" "Provide bounded scope items and assumptions."
  let prior := (snapshot.work_plan.map AssignmentWorkPlanV2.items).getD []
  kernelAssertV2 (advisoryVerificationV2 snapshot.spec ∨ prior ≠ []
      ∨ ¬ snapshot.operations.values.any fun op =>
        op.requested_effect == .apply && op.dispatch_state != .not_dispatched)
    "work_plan_after_apply" "Declare the drawing scope before its first edit."
  let added ← declareItems snapshot prior declaration occurredAt
    (prior.map AssignmentWorkPlanItemV2.item_id) declaration.items
  let graph := Record.ofPairs ((prior ++ added).map fun item => (item.item_id, item.depends_on.getD []))
  let _ ← ((prior ++ added).map AssignmentWorkPlanItemV2.item_id).foldlM
    (visitDependencies graph ((prior ++ added).length + 2) []) []
  let minimumItems := if snapshot.spec.work_plan_min_items = some 1 then 1 else 2
  kernelAssertV2 ((prior ++ added).length ≤ 128 ∧ (advisoryVerificationV2 snapshot.spec
      ∨ ¬ snapshot.spec.work_plan_required ∨ prior ≠ [] ∨ minimumItems ≤ added.length))
    "work_plan_scope_incomplete"
    s!"Retain the full requested scope in at least {minimumItems} independently verifiable work item(s)."
  let assumptions :=
    ((snapshot.work_plan.map AssignmentWorkPlanV2.assumptions).getD [] ++ declaration.assumptions).dedup
  kernelAssertV2 (assumptions.length ≤ 32) "work_plan_assumption_limit"
    "Retain existing assumptions; the plan has reached its bounded assumption limit."
  return { items := prior ++ added, assumptions }

/-- Replace the item under an identity. -/
def replaceItem (plan : AssignmentWorkPlanV2) (itemId : String)
    (update : AssignmentWorkPlanItemV2 → AssignmentWorkPlanItemV2) : AssignmentWorkPlanV2 :=
  { plan with items := plan.items.map fun item => if item.item_id = itemId then update item else item }

/-- A prerequisite of an edit is finished, undeferred and still proven. -/
def prerequisiteFinished (host : JavaScriptHost) (snapshot : AssignmentSnapshotV2) (id : String) : Bool :=
  match findPlanItem snapshot id with
  | none => false
  | some dependency => truthy dependency.completed_at && !workPlanItemDeferredV2 dependency
      && (if dependency.kind = some .inspection then inspectionIsCurrentV2 host snapshot dependency
        else dependency.operation_ids.all (appliedOperationHasVerifiedPostconditionV2 snapshot))

/-- A retained cited edit was opened no earlier than its item was declared. -/
def creditedAfterDeclaration (host : JavaScriptHost) (item : AssignmentWorkPlanItemV2) :
    Option OperationV2 → Bool
  | none => true
  | some op => host.notAfter item.declared_at op.opened_at

/-- A cited edit is retained, not credited before, applied and verified. -/
def creditedOperationVerified (snapshot : AssignmentSnapshotV2) (used : List String)
    (operationId : String) : Option OperationV2 → Bool
  | none => false
  | some op => !used.contains operationId && sameAssignmentBindingV2 op.binding snapshot.current_binding
      && op.requested_effect == .apply && op.persistent_effect == .applied
      && op.settlement_state == .settled && appliedOperationHasVerifiedPostconditionV2 snapshot operationId

/-- One cited edit is new to the plan, later than its item and verified. -/
def checkCreditedOperation (host : JavaScriptHost) (snapshot : AssignmentSnapshotV2)
    (item : AssignmentWorkPlanItemV2) (used : List String) (operationId : String) :
    Except KernelFault Unit := do
  let operation := snapshot.operations.get? operationId
  kernelAssertV2 (creditedAfterDeclaration host item operation)
    "work_plan_operation_predates_item"
    "This edit occurred before the item was declared. Credit an earlier declared matching item; do not repeat the edit."
  kernelAssertV2 (creditedOperationVerified snapshot used operationId operation)
    "work_plan_operation_unverified"
    (if (operation.map OperationV2.requested_effect) = some .read then
      s!"Operation {operationId} is read-only. For edit item {item.item_id}, cite only the existing applied edit IDs from available_verified_operations; their accepted native verification reads are already associated. Read IDs belong to an inspection item. Do not repeat the edit to correct this proof submission."
    else "Each item needs distinct current independently verified work performed after its declaration. Use available_verified_operations for edit IDs; keep verification read IDs in inspection items. Do not repeat an applied or uncertain edit to obtain another ID.")

/-- Complete an unfinished item: an inspection by current native reads, an edit
    by verified applied operations. -/
def completeWorkPlanItemV2 (host : JavaScriptHost) (snapshot : AssignmentSnapshotV2) (itemId : String)
    (operationIds : List String) (occurredAt : String) (inspection : Option WorkPlanInspectionV2) :
    Except KernelFault AssignmentWorkPlanV2 := do
  match snapshot.work_plan, findPlanItem snapshot itemId with
  | some plan, some item =>
    kernelAssertV2 (¬ truthy item.completed_at
        ∨ (item.kind = some .inspection ∧ ¬ inspectionIsCurrentV2 host snapshot item))
      "work_plan_item_not_pending" "Complete an existing unfinished work item."
    kernelAssertV2 (¬ workPlanItemDeferredV2 item ∧ (item.kind = some .inspection
        ∨ (item.depends_on.getD []).all (prerequisiteFinished host snapshot)))
      "work_plan_prerequisite_pending" "Resume the item and finish its prerequisites before completing it."
    kernelAssertV2 (boundedDistinct operationIds 128) "work_plan_proof_missing"
      "Cite every applied operation for this item."
    if item.kind = some .inspection then
      let completed := { item with
        operation_ids := text.sorted operationIds, completed_at := some occurredAt, inspection }
      kernelAssertV2 (inspectionIsCurrentV2 host snapshot completed) "work_plan_inspection_unverified"
        "Inspect every dependent target after the latest edit using fresh complete native element summaries, loaded-family content, connector reads, paired copied-view-detailing verification or the paired accepted saved/exported-file verification. Artifact proof covers only the exact saved paths; it cannot replace model inspection. Do not repeat edits. This records inspection coverage, not an engineering pass."
      return replaceItem plan itemId fun _ => completed
    else
      kernelAssertV2 (inspection = none) "work_plan_edit_inspection_invalid"
        "Read-only inspection cannot complete an edit item."
      checked.forEach operationIds (checkCreditedOperation host snapshot item
        (plan.items.flatMap AssignmentWorkPlanItemV2.operation_ids))
      return replaceItem plan itemId fun candidate =>
        { candidate with operation_ids := text.sorted operationIds, completed_at := some occurredAt }
  | _, _ => .error (.assertion "work_plan_item_not_pending" "Complete an existing unfinished work item.")

inductive DeferralAction where
  | defer
  | resume_item
deriving DecidableEq, Repr

/-- A ready item with room in its history can be deferred, a deferred one
    resumed. -/
def deferralAllowed (item : AssignmentWorkPlanItemV2) : DeferralAction → Bool
  | .defer => !workPlanItemDeferredV2 item && decide ((item.deferrals.getD []).length < 16)
  | .resume_item => workPlanItemDeferredV2 item

/-- Record a question or blocker on an unfinished item, or resume it. -/
def deferWorkPlanItemV2 (snapshot : AssignmentSnapshotV2) (itemId : String) (action : DeferralAction)
    (reason at_ : String) : Except KernelFault AssignmentWorkPlanV2 := do
  match snapshot.work_plan, findPlanItem snapshot itemId with
  | some plan, some item =>
    kernelAssertV2 (¬ truthy item.completed_at ∧ validText reason 800) "work_plan_deferral_invalid"
      "Name an unfinished item and a specific reason or question."
    let history := item.deferrals.getD []
    kernelAssertV2 (deferralAllowed item action)
      "work_plan_deferral_state" "Defer a ready item or resume a deferred one; retain its history."
    let claims := (snapshot.work_plan_claims.filter fun claim => claim.item_id == itemId).length
    let deferrals := match action with
      | .defer => history ++ [⟨reason, at_, some claims, none, none⟩]
      | .resume_item => history.dropLast ++ history.getLast?.toList.map fun last =>
          { last with resumed_at := some at_, resume_reason := some reason }
    return replaceItem plan itemId fun p => { p with deferrals := some deferrals }
  | _, _ => .error (.assertion "work_plan_deferral_invalid"
      "Name an unfinished item and a specific reason or question.")

end revit_operator.assignment_kernel
