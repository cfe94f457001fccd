import RevitOperator.Contracts.PayloadDigest
import RevitOperator.Library.Checked

open checked
open revit_operator.contracts

/-! The native calls of one tool run: how a call is reserved in the operation scope,
    and how its dispatch, its result and its failure are recorded. -/

namespace revit_operator.mcp_server

inductive ClassifiedEffect where
  | read
  | preview
  | apply
  deriving DecidableEq

def ClassifiedEffect.name : ClassifiedEffect → String
  | .read => "read"
  | .preview => "preview"
  | .apply => "apply"

def classifiedEffect? (value : String) : Option ClassifiedEffect :=
  [ClassifiedEffect.read, .preview, .apply].find? fun effect => effect.name = value

inductive FulfillmentRole where
  | supporting_control
  | prerequisite
  | delegated_task_execution
  | verification
  | reconciliation
  | telemetry
  deriving DecidableEq

inductive ChildRole where
  | prerequisite
  | child
  deriving DecidableEq

inductive OperationRole where
  | root
  | of (role : ChildRole)
  deriving DecidableEq

structure RequestIdentity where
  capability_id : String
  method : Option String
  path : Option String
  request_signature : String
  deriving DecidableEq

def RequestIdentity.toJson (identity : RequestIdentity) : Json :=
  .obj ([("capability_id", .str identity.capability_id)] ++ identity.method.toList.map (fun method => ("method", .str method))
    ++ identity.path.toList.map (fun path => ("path", .str path))
    ++ [("request_signature", .str identity.request_signature)])

/-- The part of an operation context the native calls read. -/
structure Context where
  binding : Json
  operation_id : String
  parent_operation_id : Option String
  capability_id : String
  requested_effect : ClassifiedEffect
  delegation_authority_id : Option String
  eligible_criterion_ids : List String
  request_identity : RequestIdentity

structure ChildAdmissionInput where
  parent_operation_id : String
  child_ordinal : Nat
  operation_role : ChildRole
  capability_id : String
  classified_effect : ClassifiedEffect
  method : String
  path : String
  body : Json
  blocks_parent_settlement : Bool
  fulfillment_role : FulfillmentRole
  delegation_authority_id : Option String
  eligible_criterion_ids : List String

inductive NativeCallState where
  | reserved
  | dispatching
  | completed
  deriving DecidableEq

structure NativeCall where
  request_id : String
  operation_id : String
  parent_operation_id : Option String
  operation_role : OperationRole
  classified_effect : ClassifiedEffect
  lease : Context
  method : String
  path : String
  body : Option Json
  state : NativeCallState
  payload : Option Json
  settlement : Option Json
  settlement_error : Option String

structure Scope where
  context : Context
  native_calls : List NativeCall
  parent_claimed : Bool

structure AssignmentKernelNativeRequestV2 where
  request_id : String
  operation_id : String
  operation_role : OperationRole
  parent_operation_id : Option String
  deriving DecidableEq

structure NativeRequestOptions where
  operation_role : Option ChildRole
  fulfillment_role : Option FulfillmentRole
  classified_effect : Option String
  blocks_parent_settlement : Option Bool

/-- What the native calls use of their surroundings: digests, and how a settled call
    is presented and retained. -/
structure KernelHost where
  numbers : Json.NumberText
  sha256 : ByteArray → String
  toUpperCase : String → String
  operationResult : NativeCall → Bool → Except String Json
  retain : Context → Json → Except String Unit
  failurePayload : Json → Json

variable (host : KernelHost)

/-- `payloadDigestV2(value).digest` -/
def sha256 (value : Json) : String := host.sha256 (canonicalPayloadBytesV2 host.numbers value)

/-- What is signed of a request to one capability. -/
def signedRequest (capabilityId method path : String) (body : Option Json) : String :=
  sha256 host (.obj [("capability_id", .str capabilityId), ("method", .str method), ("path", .str path),
    ("body", body.getD .null)])

def nativeRequestIdentity (method path : String) (body : Option Json) : RequestIdentity :=
  let capabilityId := "native:" ++ method ++ ":" ++ path
  { capability_id := capabilityId
    method := some method
    path := some path
    request_signature := signedRequest host capabilityId method path body }

def nativeChildFulfillmentRole (topology : ChildRole) (explicit : Option FulfillmentRole) : FulfillmentRole :=
  match topology with
  | .prerequisite => .prerequisite
  | .child => explicit.getD .supporting_control

def operationMatchesNativeRequest (context : Context) (request : RequestIdentity) (body : Option Json)
    (effect : ClassifiedEffect) : Bool :=
  let expected := context.request_identity
  if context.requested_effect ≠ effect ∨ (expected.method.all fun method => method = "")
      ∨ (expected.path.all fun path => path = "") ∨ expected.method ≠ request.method ∨ expected.path ≠ request.path then
    false
  else if context.capability_id = "revit_call_tool" then
    expected.request_signature
      = signedRequest host context.capability_id (request.method.getD "") (request.path.getD "") body
  else
    context.capability_id = request.capability_id ∧ expected.request_signature = request.request_signature

/-- A child that is being opened: what is known of its call before it has a lease. -/
structure Opening where
  role : ChildRole
  effect : ClassifiedEffect
  method : String
  path : String
  body : Option Json

def requestId (operationId method path : String) (body : Option Json) (index : Nat) : String :=
  sha256 host (.obj [("operation_id", .str operationId),
    ("request_identity", (nativeRequestIdentity host method path body).toJson), ("native_call_index", .num index)])

/-- Enter a call into the scope. -/
def Scope.reserve (scope : Scope) (lease : Context) (role : OperationRole) (effect : ClassifiedEffect)
    (method path : String) (body : Option Json) : Scope × AssignmentKernelNativeRequestV2 :=
  let id := requestId host lease.operation_id method path body scope.native_calls.length
  let parent := if role = .root then none else some scope.context.operation_id
  ({ scope with
      native_calls := scope.native_calls ++ [{
        request_id := id
        operation_id := lease.operation_id
        parent_operation_id := parent
        operation_role := role
        classified_effect := effect
        lease
        method
        path
        body
        state := .reserved
        payload := none
        settlement := none
        settlement_error := none }] },
    { request_id := id, operation_id := lease.operation_id, operation_role := role, parent_operation_id := parent })

/-- What a call comes to before it waits: it claims the parent operation, or a
    child is opened for it. -/
inductive Begun where
  | reserved (scope : Scope) (request : AssignmentKernelNativeRequestV2)
  | opening (admission : ChildAdmissionInput) (call : Opening)

/-- The first part of `beginAssignmentKernelNativeRequestV2`. -/
def beginAssignmentKernelNativeRequestV2 (scope : Scope) (methodValue pathValue : String) (body : Option Json)
    (options : NativeRequestOptions) : Except String Begun := do
  let method := host.toUpperCase (text.trim methodValue)
  require (method = "GET" ∨ method = "POST") "assignment_kernel_v2_native_request_method_invalid"
  let path := text.trim pathValue
  require (text.startsWith path "/") "assignment_kernel_v2_native_request_path_invalid"
  let identity := nativeRequestIdentity host method path body
  match classifiedEffect? (options.classified_effect.getD scope.context.requested_effect.name) with
  | none => throw "assignment_kernel_v2_native_effect_classification_invalid"
  | some effect =>
    let parentMatches := operationMatchesNativeRequest host scope.context identity body effect
    if options.operation_role.isNone ∧ ¬ scope.parent_claimed ∧ parentMatches then
      let (reserved, request) :=
        { scope with parent_claimed := true }.reserve host scope.context .root effect method path body
      return .reserved reserved request
    else
      let role := options.operation_role.getD .child
      let taskFulfillment := options.fulfillment_role = some .delegated_task_execution
        ∨ options.fulfillment_role = some .verification
      let fulfillment := nativeChildFulfillmentRole role
        (if taskFulfillment ∧ effect ≠ scope.context.requested_effect then none else options.fulfillment_role)
      let carriesTask : Bool := fulfillment = .delegated_task_execution ∨ fulfillment = .verification
      return .opening
        { parent_operation_id := scope.context.operation_id
          child_ordinal := scope.native_calls.length
          operation_role := role
          capability_id := identity.capability_id
          classified_effect := effect
          method
          path
          body := body.getD .null
          blocks_parent_settlement := options.blocks_parent_settlement ≠ some false
          fulfillment_role := fulfillment
          delegation_authority_id := if carriesTask then
            scope.context.delegation_authority_id.filter fun authority => authority ≠ "" else none
          eligible_criterion_ids := if carriesTask then scope.context.eligible_criterion_ids else [] }
        { role, effect, method, path, body }

/-- The second part, once the child is opened. -/
def openedChild (scope : Scope) (call : Opening) (lease : Context) :
    Except String (Scope × AssignmentKernelNativeRequestV2) := do
  require (lease.operation_id ≠ scope.context.operation_id
      ∧ lease.parent_operation_id = some scope.context.operation_id)
    "assignment_kernel_v2_child_operation_identity_invalid"
  require (lease.requested_effect = call.effect) "assignment_kernel_v2_child_effect_classification_mismatch"
  return scope.reserve host lease (.of call.role) call.effect call.method call.path call.body

/-- The place of the call a request was issued for. -/
def nativeCall (scope : Scope) (request : Option AssignmentKernelNativeRequestV2) : Except String (Option Nat) :=
  match request with
  | none => .ok none
  | some request =>
    match scope.native_calls.findIdx? fun candidate => candidate.request_id = request.request_id with
    | none => .error "assignment_kernel_v2_native_request_unknown"
    | some index =>
      if (scope.native_calls[index]?.any fun call => call.operation_id = request.operation_id) then .ok (some index)
      else .error "assignment_kernel_v2_native_request_unknown"

/-- Write to the call at a place. -/
def Scope.write (scope : Scope) (index : Nat) (change : NativeCall → NativeCall) : Scope :=
  { scope with native_calls := scope.native_calls.modify index change }

/-- What a part of a call's record comes to: the scope, and the place of the call
    that now waits for the backend, if one does. -/
abbrev Recorded := Scope × Except String (Option Nat)

def markAssignmentKernelNativeRequestDispatchingV2 (scope : Scope) (request : Option AssignmentKernelNativeRequestV2) :
    Recorded :=
  match nativeCall scope request with
  | .error fault => (scope, .error fault)
  | .ok none => (scope, .ok none)
  | .ok (some index) =>
    match scope.native_calls[index]? with
    | none => (scope, .ok none)
    | some call =>
      match call.state with
      | .completed => (scope, .error "assignment_kernel_v2_native_request_already_completed")
      | .dispatching => (scope, .ok none)
      | .reserved =>
        if call.operation_role ≠ .root then (scope, .ok (some index))
        else (scope.write index fun call => { call with state := .dispatching }, .ok none)

/-- The dispatch of a child was marked. -/
def markedDispatching (scope : Scope) (index : Nat) : Scope :=
  scope.write index fun call => { call with state := .dispatching }

/-- Settle a call that has its payload: a child waits for the backend. -/
def settleCall (scope : Scope) (index : Nat) (failed : Bool) : Recorded :=
  match scope.native_calls[index]? with
  | none => (scope, .ok none)
  | some call =>
    if call.operation_role ≠ .root then
      match host.operationResult call failed with
      | .error fault => (scope, .error fault)
      | .ok envelope =>
        match host.retain call.lease envelope with
        | .error fault => (scope.write index fun call => { call with settlement_error := some fault }, .error fault)
        | .ok () => (scope, .ok (some index))
    else (scope.write index fun call => { call with state := .completed }, .ok none)

def recordAssignmentKernelNativeResultV2 (scope : Scope) (method path : String) (payload : Json)
    (request : Option AssignmentKernelNativeRequestV2) : Recorded :=
  match nativeCall scope request with
  | .error fault => (scope, .error fault)
  | .ok none => (scope, .error "assignment_kernel_v2_native_result_request_mismatch")
  | .ok (some index) =>
    match scope.native_calls[index]? with
    | none => (scope, .ok none)
    | some call =>
      if call.method ≠ host.toUpperCase method ∨ call.path ≠ path then
        (scope, .error "assignment_kernel_v2_native_result_request_mismatch")
      else if call.state = .completed then (scope, .ok none)
      else settleCall host (scope.write index fun call => { call with payload := some payload }) index false

def recordAssignmentKernelNativeFailureV2 (scope : Scope) (request : Option AssignmentKernelNativeRequestV2)
    (error : Json) : Recorded :=
  match nativeCall scope request with
  | .error fault => (scope, .error fault)
  | .ok none => (scope, .ok none)
  | .ok (some index) =>
    match scope.native_calls[index]? with
    | none => (scope, .ok none)
    | some call =>
      if call.state = .completed then (scope, .ok none)
      else
        match call.settlement_error with
        | some fault => (scope, .error fault)
        | none => settleCall host (scope.write index fun call => { call with payload := some (host.failurePayload error) })
            index true

/-- The settlement of a child arrived, or failed. -/
def settledCall (scope : Scope) (index : Nat) (answer : Except String Json) : Scope :=
  scope.write index fun call =>
    match answer with
    | .ok settlement => { call with settlement := some settlement, state := .completed }
    | .error fault => { call with settlement_error := some fault }

end revit_operator.mcp_server
