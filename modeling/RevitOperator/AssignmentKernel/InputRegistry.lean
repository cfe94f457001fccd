import RevitOperator.AssignmentKernel.Snapshot

namespace revit_operator.assignment_kernel

/-- The declared input variables followed by the discovered ones. -/
def assignmentInputVariablesV2 (snapshot : AssignmentSnapshotV2) : List AssignmentInputVariableV2 :=
  snapshot.spec.input_variables
    ++ snapshot.discovered_inputs.values.map DiscoveredAssignmentInputV2.variable_

/-- The first work unit of the specification under an identity. -/
def findWorkUnit (spec : AssignmentSpecV2) (workUnitId : String) : Option AssignmentWorkUnitSpecV2 :=
  spec.work_units.find? fun unit => unit.work_unit_id == workUnitId

/-- The first criterion of the specification under an identity. -/
def findCriterion (spec : AssignmentSpecV2) (criterionId : String) :
    Option AssignmentCriterionSpecV2 :=
  spec.criteria.find? fun criterion => criterion.criterion_id == criterionId

def workUnitInputVariableIdsV2 (snapshot : AssignmentSnapshotV2) (workUnitId : String) : List String :=
  let original := ((findWorkUnit snapshot.spec workUnitId).map
    AssignmentWorkUnitSpecV2.input_variable_ids).getD []
  (original ++ (snapshot.discovered_inputs.values.filter
    fun item => item.dependent_work_unit_ids.contains workUnitId).map
      fun item => item.variable_.variable_id).dedup

def discoveredInputDependenciesV2 (snapshot : AssignmentSnapshotV2) : List String :=
  text.sorted ((snapshot.spec.work_units.filter
    fun unit => unit.independently_useful || unit.requested_effect != .read).map
      AssignmentWorkUnitSpecV2.work_unit_id)

/-- A lower-case identifier of at most 160 characters. -/
def isVariableIdentifier (value : String) : Bool :=
  text.leadThen text.isLower (fun c => text.isLower c || text.isDigit c || c == '_') 159 value

def validDiscoveredInputIdV2 (value : String) : Bool :=
  isVariableIdentifier value
    && !(["assignmentid", "runid", "generation", "sessionid", "principalid", "documentfingerprint",
        "constructor", "prototype", "proto"].contains (.ofList (value.toList.filter (· != '_'))))

/-- Two identifiers that differ only in compatibility forms, separators and
    case name the same variable. -/
def normalizedIdentifier (host : JavaScriptHost) (value : String) : String :=
  host.toLowerCase (.ofList ((host.normalizeNFKC value).toList.filter
    fun c => !text.isSpace c && c != '_' && c != '-'))

def appendDiscoveredInputV2 (host : JavaScriptHost) (snapshot : AssignmentSnapshotV2)
    (declaration : DiscoveredAssignmentInputV2) : Except KernelFault AssignmentSnapshotV2 := do
  let declared := declaration.variable_
  kernelAssertV2 (validDiscoveredInputIdV2 declared.variable_id) "input_declaration_id_invalid"
    "Discovered input needs a bounded, non-reserved stable identifier."
  kernelAssertV2 (declared.required ∧ ¬ declared.sensitive ∧ declared.value_state = .needs_input
      ∧ declared.value = none) "input_declaration_value_forbidden"
    "A discovered question cannot supply its own answer or change task authority."
  kernelAssertV2 (¬ (assignmentInputVariablesV2 snapshot).any fun candidate =>
      normalizedIdentifier host candidate.variable_id == normalizedIdentifier host declared.variable_id)
    "input_declaration_conflict" "A discovered input cannot replace or alias an existing variable."
  kernelAssertV2 (snapshot.discovered_inputs.ids.length < 64) "input_declaration_limit"
    "This assignment has reached its discovered-question limit."
  let dependencies := discoveredInputDependenciesV2 snapshot
  kernelAssertV2 (dependencies ≠ [] ∧ declaration.dependent_work_unit_ids = dependencies)
    "input_declaration_dependencies_invalid"
    "The host binds discovered inputs to the existing task work units."
  return { snapshot with
    discovered_inputs := snapshot.discovered_inputs.set declared.variable_id declaration }

/-- Keep finished work as evidence, but require the results that depend on a
    new answer to be refreshed. -/
def invalidateDependentInputResultsV2 (snapshot : AssignmentSnapshotV2) (variableId : String) :
    AssignmentSnapshotV2 :=
  let units := snapshot.spec.work_units.filter
    fun unit => (workUnitInputVariableIdsV2 snapshot unit.work_unit_id).contains variableId
  if units.isEmpty then snapshot
  else
    let unitIds := units.map AssignmentWorkUnitSpecV2.work_unit_id
    let criterionIds := units.flatMap AssignmentWorkUnitSpecV2.criterion_ids
    let stale := (snapshot.operations.values.filter
      fun operation => unitIds.contains operation.work_unit_id).map OperationV2.operation_id
    { snapshot with
      criteria := criterionIds.foldl Record.delete snapshot.criteria
      criterion_evaluation_versions :=
        criterionIds.foldl Record.delete snapshot.criterion_evaluation_versions
      work_unit_states := unitIds.foldl (fun states id => states.set id .pending) snapshot.work_unit_states
      result_delivery := none
      input_invalidated_operation_ids :=
        text.sortedUnique (snapshot.input_invalidated_operation_ids ++ stale) }

def operationUsesCurrentInputsV2 (snapshot : AssignmentSnapshotV2) (operation : OperationV2) : Bool :=
  let stale := snapshot.input_invalidated_operation_ids
  !stale.contains operation.operation_id
    && (match operation.verification_of_operation_id with
      | some subject => subject == "" || !stale.contains subject
      | none => true)

end revit_operator.assignment_kernel

open checked

namespace revit_operator.assignment_kernel

def OPERATION_SCOPE_SCHEMA : String := "revit-operator.interpreted-operation-scope/v1"

/-- Why an interpreted scope is not valid, and where. -/
structure OperationScopeIssue where
  code : String
  path : String
  message : String
deriving DecidableEq, Repr

/-- A non-blank text of at most 1200 characters. -/
def boundedScopeText (value : String) : Bool := text.nonBlank value && text.length value ≤ 1200

def prerequisiteValueSatisfied (kind : PrerequisiteKind) (value : Option Json) : Bool :=
  match kind, value with
  | .approval, value => value == some (.bool true)
  | .information, none | .information, some .null => false
  | .information, some (.str answer) => text.nonBlank answer
  | .information, some (.arr items) => !items.isEmpty
  | .information, some (.obj members) => !members.isEmpty
  | .information, some (.bool _) | .information, some (.num _) => true

/-- Report an issue below `$.operation_scope` unless the condition holds. -/
abbrev scopeCheck (condition : Prop) [Decidable condition] (code path message : String) :
    Except OperationScopeIssue Unit :=
  require condition ⟨code, "$.operation_scope" ++ path, message⟩

/-- Check the protected clauses from the `i`-th on. -/
def protectedClauseIssues (source : String) : Nat → List String → Except OperationScopeIssue Unit
  | _, [] => .ok ()
  | i, clause :: rest => do
    scopeCheck (boundedScopeText clause) "protected_clause_length" s!".protected_clauses[{i}]"
      "Each clause must be a nonempty string of at most 1200 characters."
    scopeCheck (text.includes source clause) "protected_clause_not_exact" s!".protected_clauses[{i}]"
      "The protected clause must be an exact substring of the original user text."
    protectedClauseIssues source (i + 1) rest

/-- Check the prerequisites from the `i`-th on against the identifiers seen. -/
def prerequisiteIssues (source : String) :
    Nat → List String → List InterpretedPrerequisiteV1 → Except OperationScopeIssue Unit
  | _, _, [] => .ok ()
  | i, seen, prerequisite :: rest => do
    let at_ := s!".prerequisites[{i}]"
    scopeCheck (isVariableIdentifier prerequisite.variable_id) "prerequisite_id" (at_ ++ ".variable_id")
      "Use a lowercase variable identifier of at most 160 characters."
    scopeCheck (prerequisite.variable_id ∉ seen) "prerequisite_duplicate_id" (at_ ++ ".variable_id")
      "Prerequisite identifiers must be unique."
    scopeCheck (boundedScopeText prerequisite.question) "prerequisite_question" (at_ ++ ".question")
      "Use a nonempty question of at most 1200 characters."
    scopeCheck (boundedScopeText prerequisite.source_quote) "prerequisite_quote_length"
      (at_ ++ ".source_quote") "Use a nonempty source quote of at most 1200 characters."
    scopeCheck (text.includes source prerequisite.source_quote) "prerequisite_quote_not_exact"
      (at_ ++ ".source_quote") "The source quote must be an exact substring of the original user text."
    prerequisiteIssues source (i + 1) (prerequisite.variable_id :: seen) rest

/-- The first issue of an interpreted scope over the user text it was read
    from. -/
def operationScopeIssues (scope : InterpretedOperationScopeV1) (source : String) :
    Except OperationScopeIssue Unit := do
  scopeCheck (scope.schema = OPERATION_SCOPE_SCHEMA) "scope_schema" ".schema"
    "Use the declared operation scope schema."
  scopeCheck (EFFECT_RANK scope.model_effect ≤ EFFECT_RANK scope.requested_effect)
    "model_effect_exceeds_scope" ".model_effect"
    "The model effect cannot exceed the overall authorized effect."
  scopeCheck (scope.protected_clauses.length ≤ 8) "protected_clauses_shape" ".protected_clauses"
    "Use at most eight exact source clauses."
  protectedClauseIssues source 0 scope.protected_clauses
  scopeCheck (scope.prerequisites.length ≤ 8) "prerequisites_shape" ".prerequisites"
    "Use at most eight prerequisites."
  prerequisiteIssues source 0 [] scope.prerequisites

def validOperationScope (scope : InterpretedOperationScopeV1) (source : String) : Bool :=
  (operationScopeIssues scope source).isOk

/-- The prerequisite is a required open input of every work unit that edits. -/
def prerequisiteBound (spec : AssignmentSpecV2) (prerequisite : InterpretedPrerequisiteV1) : Bool :=
  spec.input_variables.any (fun variable_ => variable_.variable_id == prerequisite.variable_id
      && variable_.required && variable_.value_state == .needs_input)
    && spec.work_units.all fun unit => unit.requested_effect == .read
      || unit.input_variable_ids.contains prerequisite.variable_id

/-- The interpreted scope is bound to the exact request it was read from. -/
def validBoundOperationScope (host : JavaScriptHost) (spec : AssignmentSpecV2) : Bool :=
  match spec.interpreted_scope with
  | none => false
  | some bound => text.nonBlank bound.source_message_id && text.length bound.source_message_id ≤ 200
      && bound.source_request_sha256 == host.utf8TextSha256V2 spec.source_user_request
      && validOperationScope bound.scope spec.source_user_request
      && bound.scope.requested_effect == spec.requested_effect
      && bound.scope.prerequisites.all (prerequisiteBound spec)

end revit_operator.assignment_kernel
