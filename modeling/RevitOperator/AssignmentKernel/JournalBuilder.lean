import RevitOperator.AssignmentKernel.Reducer

/-! Plain events to build journals from: an operation and a result as they are
    submitted with every optional member left out, consecutive events of one
    run, and a small assignment to run them on. -/

namespace revit_operator.assignment_kernel

/-- An operation as it is submitted for admission. -/
def submittedOperation (binding : AssignmentBindingV2) (id workUnitId capabilityId : String)
    (effect : RequestedEffectV2) (criterionIds : List String) (openedAt : String) : OperationV2 where
  operation_id := id
  binding
  work_unit_id := workUnitId
  capability_id := capabilityId
  requested_effect := effect
  purpose := .work
  operation_role := some .root
  fulfillment_role := none
  delegation_authority_id := none
  parent_operation_id := none
  root_operation_id := none
  blocks_parent_settlement := none
  request_identity := none
  advances_criterion_ids := criterionIds
  eligible_criterion_ids := none
  resolves_gap_ids := []
  target := ⟨some id, none, binding.document_fingerprint, none⟩
  input := .obj []
  admission_state := .admitted
  dispatch_state := .not_dispatched
  persistent_effect := .none
  settlement_state := .open_
  result := none
  native_completion_reconciliation := none
  native_failure_context := none
  native_inventory_workload := none
  observation_commit := none
  observation_commit_attempts := none
  observation_ids := []
  verification_operation_ids := []
  verification_of_operation_id := none
  retry_of_operation_id := none
  retry_basis := none
  retry_after_operation_id := none
  checkpoint_of_operation_id := none
  checkpoint_after_operation_id := none
  native_template_state := none
  reassignment_of_operation_id := none
  reassignment_after_operation_id := none
  native_schedule_filter_state := none
  filter_restoration_of_operation_id := none
  filter_restoration_after_operation_id := none
  admitted_assignment_version := none
  settled_assignment_version := none
  reconciliation_of_operation_id := none
  opened_at := openedAt
  dispatch_started_at := none
  dispatched_at := none
  dispatch_authority := none
  deadline_at := openedAt
  settled_at := none
  observation_retention_error := none

/-- The operation submitted as a child of another one. -/
def OperationV2.childOf (operation parent : OperationV2) : OperationV2 :=
  { operation with
    operation_role := some .child
    parent_operation_id := some parent.operation_id
    root_operation_id := some (parent.root_operation_id.getD parent.operation_id) }

/-- A result that repeats the identities of its operation. -/
def submittedResult (operation : OperationV2) (status : OperationResultStatusV2)
    (dispatch : OperationDispatchStateV2) (effect : PersistentEffectV2)
    (transaction : NativeTransactionStateV2) (authority : String) (observationRequired : Bool)
    (completedAt : String) : OperationResultV2 where
  result_id := "result:" ++ operation.operation_id
  operation_id := operation.operation_id
  binding := operation.binding
  status
  dispatch_state := dispatch
  persistent_effect := effect
  native_transaction_state := transaction
  native_artifact_receipt := none
  authority
  result_schema_id := "operator-native/result/v2"
  observation_required := observationRequired
  raw_payload_hash := some "payload-hash"
  affected_target_identities := none
  receipt_id := none
  native_correlation_id := none
  completed_at := completedAt
  error_code := none
  request_identity := operation.request_identity
  input_schema_gap := none
  result_semantic_gap := none

/-- The observation of a recorded result. -/
def submittedObservation (operation : OperationV2) (result : OperationResultV2) (facts : List SemanticFactV2) :
    ObservationV2 where
  observation_id := "observation:" ++ operation.operation_id
  operation_id := operation.operation_id
  fulfillment_role := operation.fulfillment_role
  evidence_class := operation.fulfillment_role.map evidenceClassForFulfillmentRoleV2
  capability_id := some operation.capability_id
  eligible_criterion_ids := operation.eligible_criterion_ids
  binding := operation.binding
  authority := result.authority
  result_schema_id := result.result_schema_id
  raw_payload_ref := "payload:" ++ operation.operation_id
  raw_payload_hash := result.raw_payload_hash.getD ""
  facts
  freshness_deadline := none

/-- Consecutive events of one run, each with its actor and body. -/
def journalFrom (binding : AssignmentBindingV2) (occurredAt : String) :
    Nat → List (String × AssignmentEventBodyV2) → List AssignmentEventV2
  | _, [] => []
  | version, (actor, body) :: rest =>
    { event_id := "event-" ++ toString version
      assignment_id := binding.assignment_id
      assignment_version := version
      binding
      occurred_at := occurredAt
      actor
      body } :: journalFrom binding occurredAt (version + 1) rest

def sampleBinding : AssignmentBindingV2 :=
  ⟨"assignment-1", "run-1", 1, "session-1", "principal-1", some "document-1"⟩

def sampleTime : String := "2026-07-20T00:00:00.000Z"

def sampleCriterion : AssignmentCriterionSpecV2 where
  criterion_id := "criterion-1"
  required := true
  semantic_fact_requirements := ["wall.moved"]
  accepted_evaluator_authority_ids := ["criterion-evaluator"]
  accepted_observation_authority_ids := ["native-host"]
  evidence_policy := none
  desired_state_comparisons := none

def sampleUnit (id : String) (effect : RequestedEffectV2) : AssignmentWorkUnitSpecV2 where
  work_unit_id := id
  requested_effect := effect
  dependency_ids := []
  criterion_ids := ["criterion-1"]
  input_variable_ids := []
  independently_useful := true
  safe_to_retain := true

/-- An edit with one criterion and a unit of each effect. -/
def sampleSpec : AssignmentSpecV2 where
  binding := sampleBinding
  source_user_request := "Move the wall."
  requested_effect := .apply
  semantic_evidence_contract := none
  interpreted_scope := none
  result_delivery_required := false
  result_assessment_required := false
  work_plan_required := false
  work_plan_min_items := none
  execution_policy := none
  criteria := [sampleCriterion]
  input_variables := []
  work_units := [sampleUnit "work-edit" .apply, sampleUnit "work-preview" .preview,
    sampleUnit "work-inspect" .read]
  created_at := sampleTime

/-- A bounded advisory policy of the trusted local host. -/
def samplePolicy : AssignmentExecutionPolicyV1 where
  mode := .local_advisory_v1
  selected_by := "trusted_local_host"
  principal_id := none
  session_id := "session-1"
  document_fingerprint := "document-1"
  max_turns := 8
  max_provider_calls := 32
  max_operations := 128
  max_total_tokens := 4000000
  max_wall_clock_ms := 1800000
  ready_work_handoff := none
  source_work_allowance := none
  native_scope_planning := none
  progress_allowance := none

def advisorySpec : AssignmentSpecV2 := { sampleSpec with execution_policy := some samplePolicy }

def sampleDirection : String := "user_direction_0123456789abcdef0123456789abcdef"

def sampleEdit (id : String) : OperationV2 :=
  submittedOperation sampleBinding id "work-edit" "move_wall" .apply ["criterion-1"] sampleTime

def sampleRead (id : String) : OperationV2 :=
  submittedOperation sampleBinding id "work-inspect" "read_wall" .read ["criterion-1"] sampleTime

/-- A fact that holds. -/
def sampleFact (id : String) (factClass : SemanticFactClassV2) : SemanticFactV2 where
  fact_id := id
  fact_class := some factClass
  value := .scalar (.bool true)
  cardinality := none
  dimensions := none
  identity_dimensions := none
  target_id := none

/-- The events of the sample assignment after its creation. -/
def sampleJournal (rest : List (String × AssignmentEventBodyV2)) : List AssignmentEventV2 :=
  journalFrom sampleBinding sampleTime 1 (("assignment-kernel", .assignment_created sampleSpec) :: rest)

/-- The number a run of decimal digits at a position of a text writes. -/
def digitsAt (s : String) (start length : Nat) : Option Nat :=
  let part := (s.toList.drop start).take length
  if part.length = length ∧ part.all text.isDigit then some (text.decimalValue (.ofList part)) else none

/-- The days from the epoch to a date of the civil calendar. -/
def daysFromCivil (year month day : Nat) : Int :=
  let shifted : Int := if month ≤ 2 then (year : Int) - 1 else year
  let monthIndex : Int := if month ≤ 2 then (month : Int) + 9 else (month : Int) - 3
  365 * shifted + shifted / 4 - shifted / 100 + shifted / 400 + (153 * monthIndex + 2) / 5 + day - 719469

/-- `Date.parse` on the timestamps the kernel writes, `none` on any other
    text. -/
def parseIsoInstant (s : String) : Option Int := do
  let year ← digitsAt s 0 4
  let month ← digitsAt s 5 2
  let day ← digitsAt s 8 2
  let hour ← digitsAt s 11 2
  let minute ← digitsAt s 14 2
  let second ← digitsAt s 17 2
  let milli ← digitsAt s 20 3
  if s.toList.length ≠ 24 ∨ ¬ text.endsWith s "Z" then none
  else
    some (((daysFromCivil year month day * 24 + hour) * 60 + minute) * 60000 + second * 1000 + milli)

mutual
/-- The JSON text of a value whose numbers are integers and whose texts need no
    escapes. -/
def plainJson : Json → String
  | .null => "null"
  | .bool flag => if flag then "true" else "false"
  | .num number => toString number.num
  | .str text => "\"" ++ text ++ "\""
  | .arr items => "[" ++ plainItems items ++ "]"
  | .obj members => "\x7b" ++ plainMembers members ++ "\x7d"

def plainItems : List Json → String
  | [] => ""
  | [item] => plainJson item
  | item :: rest => plainJson item ++ "," ++ plainItems rest

def plainMembers : List (String × Json) → String
  | [] => ""
  | [(key, value)] => "\"" ++ key ++ "\":" ++ plainJson value
  | (key, value) :: rest => "\"" ++ key ++ "\":" ++ plainJson value ++ "," ++ plainMembers rest
end

/-- A host that is right on plain ASCII texts without compatibility forms and
    on integers. Its hash is one to one, as the kernel expects of a digest. -/
def asciiHost : JavaScriptHost where
  parseDate := parseIsoInstant
  toLowerCase s := .ofList (s.toList.map Char.toLower)
  toUpperCase s := .ofList (s.toList.map Char.toUpper)
  stringOf
    | .str s => s
    | _ => ""
  normalizeNFKC s := s
  stringify := plainJson
  utf8TextSha256V2 s := s

end revit_operator.assignment_kernel
