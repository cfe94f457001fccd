import RevitOperator.McpServer.NativeCalls
import RevitOperator.Library.Run

open checked
open revit_operator.contracts

/-! Native calls that overlap: any number of them wait for the backend at a time and
    go on in any order. -/

namespace revit_operator.mcp_server

open checked_run

/-- A call that waits for the backend. A call that is marked or settled keeps the
    place its request was found at. -/
inductive Suspended where
  | opening (call : Opening)
  | marking (request : AssignmentKernelNativeRequestV2) (index : Nat)
  | settling (request : AssignmentKernelNativeRequestV2) (index : Nat)

/-- A tool run: its scope, what waits under which ticket, the admissions sent to
    `openChild`, and the requests issued with the places of their calls. -/
structure ToolRun where
  scope : Scope
  suspended : Nat → Option Suspended
  admissions : List ChildAdmissionInput
  issued : List (AssignmentKernelNativeRequestV2 × Nat)

/-- What happens next: a call starts, or one that waits goes on. -/
inductive RunEvent where
  | begin (ticket : Nat) (method path : String) (body : Option Json) (options : NativeRequestOptions)
  | opened (ticket : Nat) (answer : Except String Context)
  | mark (ticket : Nat) (request : AssignmentKernelNativeRequestV2)
  | marked (ticket : Nat) (answer : Except String Unit)
  | result (ticket : Nat) (method path : String) (payload : Json) (request : AssignmentKernelNativeRequestV2)
  | failure (ticket : Nat) (request : AssignmentKernelNativeRequestV2) (error : Json)
  | settled (ticket : Nat) (answer : Except String Json)

namespace ToolRun

variable (host : KernelHost)

def suspend (run : ToolRun) (ticket : Nat) (call : Suspended) : ToolRun :=
  { run with suspended := Function.update run.suspended ticket (some call) }

def resume (run : ToolRun) (ticket : Nat) : ToolRun :=
  { run with suspended := Function.update run.suspended ticket none }

/-- A call was entered at the end of the list. -/
def issue (run : ToolRun) (reserved : Scope × AssignmentKernelNativeRequestV2) : ToolRun :=
  { run with
    scope := reserved.1
    issued := run.issued ++ [(reserved.2, run.scope.native_calls.length)] }

/-- A part of a call's record was made; the call goes on to wait, or is done. -/
def record (run : ToolRun) (ticket : Nat) (recorded : Recorded) (waiting : Nat → Suspended) : ToolRun :=
  match recorded.2 with
  | .ok (some index) => { run with scope := recorded.1 }.suspend ticket (waiting index)
  | _ => { run with scope := recorded.1 }

/-- One event. It is refused where nothing waits under its ticket, or something
    else does. -/
def step (run : ToolRun) : RunEvent → Except String ToolRun
  | .begin ticket method path body options =>
    if (run.suspended ticket).isSome then .error "busy"
    else
      match beginAssignmentKernelNativeRequestV2 host run.scope method path body options with
      | .error _ => .ok run
      | .ok (.reserved scope request) => .ok (run.issue (scope, request))
      | .ok (.opening admission call) =>
        .ok ({ run with admissions := run.admissions ++ [admission] }.suspend ticket (.opening call))
  | .opened ticket answer =>
    match run.suspended ticket with
    | some (.opening call) =>
      match answer >>= openedChild host run.scope call with
      | .error _ => .ok (run.resume ticket)
      | .ok reserved => .ok ((run.issue reserved).resume ticket)
    | _ => .error "not waiting"
  | .mark ticket request =>
    if (run.suspended ticket).isSome then .error "busy"
    else .ok (run.record ticket (markAssignmentKernelNativeRequestDispatchingV2 run.scope (some request))
      (.marking request))
  | .marked ticket answer =>
    match run.suspended ticket with
    | some (.marking _ index) =>
      match answer with
      | .error _ => .ok (run.resume ticket)
      | .ok () => .ok ({ run with scope := markedDispatching run.scope index }.resume ticket)
    | _ => .error "not waiting"
  | .result ticket method path payload request =>
    if (run.suspended ticket).isSome then .error "busy"
    else .ok (run.record ticket (recordAssignmentKernelNativeResultV2 host run.scope method path payload (some request))
      (.settling request))
  | .failure ticket request error =>
    if (run.suspended ticket).isSome then .error "busy"
    else .ok (run.record ticket (recordAssignmentKernelNativeFailureV2 host run.scope (some request) error)
      (.settling request))
  | .settled ticket answer =>
    match run.suspended ticket with
    | some (.settling _ index) => .ok ({ run with scope := settledCall run.scope index answer }.resume ticket)
    | _ => .error "not waiting"

/-- A run that starts. -/
def initial (context : Context) : ToolRun := ⟨⟨context, [], false⟩, fun _ => none, [], []⟩

/-- The request on whose behalf an event acts. -/
def actsFor (run : ToolRun) : RunEvent → Option AssignmentKernelNativeRequestV2
  | .mark _ request => some request
  | .result _ _ _ _ request => some request
  | .failure _ request _ => some request
  | .marked ticket _ =>
    match run.suspended ticket with
    | some (.marking request _) => some request
    | _ => none
  | .settled ticket _ =>
    match run.suspended ticket with
    | some (.settling request _) => some request
    | _ => none
  | _ => none

/-- The native calls of a run are told apart: one of them at most is the parent
    operation, the ordinals of the children and the ids of the requests differ, and
    every request issued finds its own call. -/
structure ToldApart (run : ToolRun) : Prop where
  parent : (run.scope.native_calls.filter fun call => call.operation_role = .root).length ≤ 1
  ordinals : (run.admissions.map fun admission => admission.child_ordinal).Nodup
  requests : (run.scope.native_calls.map fun call => call.request_id).Nodup
  places : (run.issued.map Prod.snd).Nodup
  found : ∀ request index, (request, index) ∈ run.issued → nativeCall run.scope (some request) = .ok (some index)

/-- What is done for a request changes no call but the one it was issued for. -/
def ReachesOwn (run : ToolRun) (event : RunEvent) (next : ToolRun) : Prop :=
  ∀ request index, run.actsFor event = some request → (request, index) ∈ run.issued →
    ∀ other, other ≠ index → next.scope.native_calls[other]? = run.scope.native_calls[other]?

/-- A child that is opened was preceded, since the last one, by a call that was
    entered. -/
def Spaced (run : ToolRun) (event : RunEvent) : Prop :=
  ∀ ticket method path body options admission call, event = .begin ticket method path body options →
    beginAssignmentKernelNativeRequestV2 host run.scope method path body options = .ok (.opening admission call) →
    ∀ earlier ∈ run.admissions, earlier.child_ordinal < run.scope.native_calls.length

end ToolRun

/-- What tells a call from the others; it is fixed when the call is entered. -/
structure CallIdentity where
  request_id : String
  operation_id : String
  operation_role : OperationRole
  method : String
  path : String
  body : Option Json

def NativeCall.identity (call : NativeCall) : CallIdentity where
  request_id := call.request_id
  operation_id := call.operation_id
  operation_role := call.operation_role
  method := call.method
  path := call.path
  body := call.body

def Scope.identities (scope : Scope) : List CallIdentity := scope.native_calls.map NativeCall.identity

section writes

variable {host : KernelHost} {scope : Scope} {request : AssignmentKernelNativeRequestV2} {index : Nat}

theorem write_identities {change : NativeCall → NativeCall} (h : ∀ call, (change call).identity = call.identity) :
    (scope.write index change).identities = scope.identities := by
  rw [Scope.identities, Scope.identities, Scope.write]
  refine List.ext_getElem? fun place => ?_
  rw [List.getElem?_map, List.getElem?_map, List.getElem?_modify]
  cases scope.native_calls[place]? with
  | none => rfl
  | some call =>
    by_cases hplace : index = place
    · simp [hplace, h]
    · simp [hplace]

theorem write_other {change : NativeCall → NativeCall} {other : Nat} (h : other ≠ index) :
    (scope.write index change).native_calls[other]? = scope.native_calls[other]? := by
  rw [Scope.write, List.getElem?_modify]
  simp [Ne.symm h]

/-- A part of a call's record keeps what tells the calls apart, changes the call of
    the request only, and has only that call go on to wait. -/
structure Records (scope : Scope) (request : AssignmentKernelNativeRequestV2) (recorded : Recorded) : Prop where
  identities : recorded.1.identities = scope.identities
  claimed : recorded.1.parent_claimed = scope.parent_claimed
  waits : ∀ index, recorded.2 = .ok (some index) → nativeCall scope (some request) = .ok (some index)
  others : ∀ index, nativeCall scope (some request) = .ok (some index) → ∀ other, other ≠ index →
    recorded.1.native_calls[other]? = scope.native_calls[other]?

theorem Records.unchanged {answer : Except String (Option Nat)}
    (h : ∀ index, answer = .ok (some index) → nativeCall scope (some request) = .ok (some index)) :
    Records scope request (scope, answer) :=
  ⟨rfl, rfl, h, fun _ _ _ _ => rfl⟩

theorem Records.written {change : NativeCall → NativeCall} {answer : Except String (Option Nat)}
    (hfound : nativeCall scope (some request) = .ok (some index))
    (hidentity : ∀ call, (change call).identity = call.identity)
    (h : ∀ waiting, answer = .ok (some waiting) → waiting = index) :
    Records scope request (scope.write index change, answer) where
  identities := write_identities hidentity
  claimed := rfl
  waits waiting hwaiting := by rw [h waiting hwaiting, hfound]
  others found hsame other hother := by
    obtain rfl : index = found := by simpa using hfound.symm.trans hsame
    exact write_other hother

theorem mark_records : Records scope request (markAssignmentKernelNativeRequestDispatchingV2 scope (some request)) := by
  rw [markAssignmentKernelNativeRequestDispatchingV2]
  split
  · exact .unchanged (by simp)
  · exact .unchanged (by simp)
  · next index hfound =>
    split
    · exact .unchanged (by simp)
    · next call _ =>
      split
      · exact .unchanged (by simp)
      · exact .unchanged (by simp)
      · split_ifs
        · exact .unchanged (by simpa using hfound)
        · exact .written hfound (fun _ => rfl) (by simp)

theorem settleCall_records {failed : Bool} {change : NativeCall → NativeCall}
    (hfound : nativeCall scope (some request) = .ok (some index))
    (hidentity : ∀ call, (change call).identity = call.identity) :
    Records scope request (settleCall host (scope.write index change) index failed) := by
  have hagain : ∀ second : NativeCall → NativeCall, (scope.write index change).write index second
      = scope.write index (second ∘ change) := fun second => by
    rw [Scope.write, Scope.write, Scope.write, List.modify_modify_eq]
  rw [settleCall]
  split
  · exact .written hfound hidentity (by simp)
  · split_ifs
    · split
      · exact .written hfound hidentity (by simp)
      · split
        · rw [hagain]
          exact .written hfound (fun call => hidentity call) (by simp)
        · exact .written hfound hidentity (by simp)
    · rw [hagain]
      exact .written hfound (fun call => hidentity call) (by simp)

theorem result_records {method path : String} {payload : Json} :
    Records scope request (recordAssignmentKernelNativeResultV2 host scope method path payload (some request)) := by
  rw [recordAssignmentKernelNativeResultV2]
  split
  · exact .unchanged (by simp)
  · exact .unchanged (by simp)
  · next index hfound =>
    split
    · exact .unchanged (by simp)
    · split_ifs
      · exact .unchanged (by simp)
      · exact .unchanged (by simp)
      · exact settleCall_records hfound fun _ => rfl

theorem failure_records {error : Json} :
    Records scope request (recordAssignmentKernelNativeFailureV2 host scope (some request) error) := by
  rw [recordAssignmentKernelNativeFailureV2]
  split
  · exact .unchanged (by simp)
  · exact .unchanged (by simp)
  · next index hfound =>
    split
    · exact .unchanged (by simp)
    · split_ifs
      · exact .unchanged (by simp)
      · split
        · exact .unchanged (by simp)
        · exact settleCall_records hfound fun _ => rfl

end writes

section identities

variable {host : KernelHost}

/-- The digest takes no two texts to one value. -/
def KernelHost.Tells (host : KernelHost) : Prop := Function.Injective host.sha256

theorem identity_proper (identity : RequestIdentity) : identity.toJson.Proper := by
  rw [RequestIdentity.toJson, Json.Proper, Json.everyObject_obj]
  cases identity.method <;> cases identity.path <;>
    simp [Json.EveryObject]

/-- The value whose digest the id of a request is. -/
def requestValue (host : KernelHost) (identity : CallIdentity) (index : Nat) : Json :=
  .obj [("operation_id", .str identity.operation_id),
    ("request_identity", (nativeRequestIdentity host identity.method identity.path identity.body).toJson),
    ("native_call_index", .num index)]

theorem requestValue_proper (identity : CallIdentity) (index : Nat) : (requestValue host identity index).Proper := by
  rw [requestValue, Json.Proper, Json.everyObject_obj]
  refine ⟨by simp, ?_⟩
  simp only [List.forall_mem_cons, List.not_mem_nil, false_imp_iff, implies_true, and_true]
  exact ⟨trivial, identity_proper _, trivial⟩

theorem requestValue_inj (hsha : host.Tells) {first second : CallIdentity} {i j : Nat}
    (h : sha256 host (requestValue host first i) = sha256 host (requestValue host second j)) : i = j := by
  have hbytes := hsha h
  have hdigest : payloadDigestV2 host.numbers host.sha256 (requestValue host first i)
      = payloadDigestV2 host.numbers host.sha256 (requestValue host second j) := by
    rw [payloadDigestV2, payloadDigestV2, hbytes]
  have hsame := (canonicalPayloadJsonV2_eq_iff (requestValue_proper first i) (requestValue_proper second j)).1
    ((payloadDigestV2_eq_iff hsha).1 hdigest)
  obtain ⟨other, hother, hnumber⟩ := hsame.member? (requestValue_proper second j)
    (rfl : (requestValue host first i).member? "native_call_index" = some (.num i))
  obtain rfl : Json.num j = other := Option.some.inj hother
  simpa [Json.Same] using hnumber

end identities

end revit_operator.mcp_server
