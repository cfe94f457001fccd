import RevitOperator.Library.Record
import RevitOperator.NativeTransport.OpenRequest

open checked
open revit_operator.native_transport

/-! Native completions: what one epoch keeps of the requests that it dispatched, and what a
    lookup says about them. -/

namespace revit_operator.native_completion

def LookupPath : String := "/revit/operator-completions/v1/read"

def LookupAlias : String := "operator_recover_native_completion"

def LookupSchema : String := "revit-operator.native-completion-lookup/v1"

def MaximumRecords : Nat := 4096

def MaximumStoredBytes : Nat := 256 * 1024 * 1024

def MaximumRecordBytes : Nat := 64 * 1024 * 1024

def MaximumResponseBodyUtf8Bytes : Nat := 16 * 1024 * 1024

structure OperatorNativeCompletionDocument where
  Fingerprint : String
  SessionId : String
deriving DecidableEq

structure OperatorNativeCompletionReply where
  StatusCode : Int
  BodyJson : String
deriving DecidableEq

/-- The identity of a request as its record keeps it. -/
structure RequestIdentity where
  server_epoch : String
  request_id : String
  request_nonce_sha256 : String
  method : String
  path : String
  body_present : Bool
  source_body_sha256 : String
  authorized_body_sha256 : String
  dispatched_body_sha256 : String
  channel : String
  alias_ : String
deriving DecidableEq

structure Header where
  request : RequestIdentity
  authorization_hash : String
  exposure_profile : String
  authorized_at_utc : String
  document : OperatorNativeCompletionDocument
  dispatch_started_at_utc : String
deriving DecidableEq

/-- The terminal record of a request. -/
structure TerminalRecord where
  header : Header
  after : Option OperatorNativeCompletionDocument
  completed_at_utc : String
  reply : OperatorNativeCompletionReply
deriving DecidableEq

/-- A signed record in its file; `Json` are the texts of records. -/
structure StoredRecord (Json : Type) where
  record_json : Json
  signature : String
deriving DecidableEq

/-- The platform of the store: the texts of its records can be read again. -/
structure CompletionHost (Json : Type) where
  parse : String → Option JsonElement
  Hash : String → String
  HashRecord : Json → String
  Sign : Json → String
  sourceBodySha256 : OperatorNativeHttpRequest → String
  writeRecord : TerminalRecord → Json
  readRecord : Json → Option TerminalRecord
  read_write : ∀ record, readRecord (writeRecord record) = some record
  storedLength : StoredRecord Json → Nat
  handlerException : String → String → String → String → String
  isLetterOrDigit : Char → Bool
  hex_isLetterOrDigit : ∀ c, text.isHex c = true → isLetterOrDigit c = true

/-- A request context that the transport opened. -/
structure OpenedContext extends OperatorNativeTransportRequestContext where
  request_id_hex : Request.RequestId.toList.all text.isHex = true
  request_id_length : text.length Request.RequestId = 32 ∨ text.length Request.RequestId = 64

structure OperatorNativeHttpAuthorizationReceipt where
  RequestId : String
  Method : String
  Path : String
  BodyPresent : Bool
  Channel : String
  Alias : String
  SourceBodySha256 : String
  BodySha256 : String
  ExposureProfile : String
  AuthorizedAtUtc : String
  AuthorizationHash : String

/-- The member of an object under a name, the last of several. -/
def property (name : String) (value : JsonElement) : Option JsonElement :=
  ((objectProperties value).reverse.find? fun entry => entry.1 = some name).map Prod.snd

section scope

variable {Json : Type} (host : CompletionHost Json)

/-- A flag that is given and neither false nor null. -/
def flagged (name : String) (body : JsonElement) : Bool :=
  match property name body with
  | none => false
  | some (.bool false) => false
  | some .null => false
  | some _ => true

/-- A member that names another document than the active one. -/
def namesDocument (isSelector : String → Bool) (entry : Option String × JsonElement) : Bool :=
  match entry with
  | (some name, .null) => isSelector name && false
  | (some name, .string (some value)) => isSelector name && !text.isBlank value
  | (some name, _) => isSelector name
  | (none, _) => false

def supportedPaths : List String :=
  ["/revit/move-elements", "/revit/rotate-elements", "/revit/delete", "/revit/set-parameter", "/revit/create-text",
    "/revit/place-families", "/revit/set-text-note-text", "/revit/replace-text-note", "/revit/tag-elements"]

/-- `isSelector` compares a name with `docId` and `familyDocumentId`, ignoring case. -/
def SupportsActiveDocument (isSelector : String → Bool) (method path bodyJson : String) : Bool :=
  decide (method = "POST" ∧ path ∈ supportedPaths) &&
    match host.parse bodyJson with
    | some (.object properties) =>
      !(path = "/revit/tag-elements" && (flagged "autoLoadTagFamily" (.object properties)
          || flagged "inspectTagFamilyElements" (.object properties)))
        && !properties.any (namesDocument isSelector)
    | _ => false

end scope

section reserve

/-- A reservation in the memory of the store. `serial` stands for the object. -/
structure Reservation (Json : Type) where
  serial : Nat
  Header : Header
  RecordJson : Option Json
deriving DecidableEq

/-- What a caller holds of a reservation. -/
structure ReservationRef where
  RequestId : String
  serial : Nat
deriving DecidableEq

/-- The memory and the directory of a store. -/
structure Store (Json : Type) where
  pending : Record (Reservation Json)
  files : Record (StoredRecord Json)
  serials : Nat

def IOException : Fault := .runtime "IOException"

def JsonException : Fault := .runtime "JsonException"

variable {Json : Type} (host : CompletionHost Json) (Epoch : String)

def RecordPath (requestId : String) : String := text.dropFirst 7 (host.Hash requestId) ++ ".json"

/-- The number of reservations without a record. -/
def pendingCount (s : Store Json) : Nat := s.pending.values.countP fun item => item.RecordJson.isNone

def storedBytes (s : Store Json) : Nat := (s.files.values.map host.storedLength).sum

/-- The arguments of one `Reserve` call and the clock within it. -/
structure ReserveCall where
  transport : OpenedContext
  authorization : OperatorNativeHttpAuthorizationReceipt
  IsDeploymentGeneralAgent : Bool
  dispatchedBody : String
  document : OperatorNativeCompletionDocument
  utcNow : String

def ReserveCall.header (call : ReserveCall) : Header where
  request :=
    { server_epoch := Epoch
      request_id := call.transport.Request.RequestId
      request_nonce_sha256 := host.Hash call.transport.RequestNonce
      method := call.transport.Request.Method
      path := call.transport.Request.Path
      body_present := call.transport.Request.BodyPresent
      source_body_sha256 := host.sourceBodySha256 call.transport.Request
      authorized_body_sha256 := call.authorization.BodySha256
      dispatched_body_sha256 := host.Hash call.dispatchedBody
      channel := call.transport.Request.Channel
      alias_ := call.transport.Request.Alias }
  authorization_hash := call.authorization.AuthorizationHash
  exposure_profile := call.authorization.ExposureProfile
  authorized_at_utc := call.authorization.AuthorizedAtUtc
  document := call.document
  dispatch_started_at_utc := call.utcNow

def Reserve (isSelector : String → Bool) (s : Store Json) (call : ReserveCall) :
    Except Fault (Store Json × ReservationRef) := do
  let request := call.transport.Request
  require (call.transport.ServerEpoch = Epoch ∧ request.CertificationEnvelope.isNone
      ∧ call.transport.LaboratoryEvidence.isNone ∧ call.transport.LaboratoryMoveEvidenceAdmission.isNone
      ∧ call.IsDeploymentGeneralAgent = true
      ∧ SupportsActiveDocument host isSelector request.Method request.Path call.dispatchedBody = true)
    InvalidOperationException
  require (call.authorization.RequestId = request.RequestId ∧ call.authorization.Method = request.Method
      ∧ call.authorization.Path = request.Path
      ∧ call.authorization.SourceBodySha256 = host.sourceBodySha256 request
      ∧ call.dispatchedBody = request.BodyJson ∧ call.authorization.Channel = request.Channel
      ∧ call.authorization.Alias = request.Alias ∧ call.authorization.BodyPresent = request.BodyPresent)
    InvalidOperationException
  require (s.pending.get? request.RequestId = none ∧ s.files.get? (RecordPath host request.RequestId) = none)
    InvalidOperationException
  require (s.files.values.length + pendingCount s < MaximumRecords
      ∧ storedBytes host s + (pendingCount s + 1) * MaximumRecordBytes ≤ MaximumStoredBytes) IOException
  let reservation : Reservation Json := ⟨s.serials, call.header host Epoch, none⟩
  return ({ pending := s.pending.set request.RequestId reservation, files := s.files, serials := s.serials + 1 },
    ⟨request.RequestId, s.serials⟩)

end reserve

section complete

variable {Json : Type} (host : CompletionHost Json)

/-- How the file-system steps of one `Complete` call end. In the last case the write or the
    move failed, and so did the deletion of the `.pending` file, which no call reads. -/
inductive Publication where
  | succeeds
  | writeFails
  | moveFails
  | cleanupFails
deriving DecidableEq

structure CompleteCall where
  reservation : ReservationRef
  reply : OperatorNativeCompletionReply
  after : Option OperatorNativeCompletionDocument
  utcNow : String
  publication : Publication

/-- The signed record of a reply. -/
def storedRecord (header : Header) (call : CompleteCall) : StoredRecord Json :=
  let recordJson := host.writeRecord ⟨header, call.after, call.utcNow, call.reply⟩
  ⟨recordJson, host.Sign recordJson⟩

/-- A repeated call may only repeat the reply and the document that are retained. -/
def repeatComplete (recordJson : Json) (call : CompleteCall) : Except Fault Unit :=
  match host.readRecord recordJson with
  | none => .error JsonException
  | some previous =>
    require (previous.reply.StatusCode = call.reply.StatusCode ∧ previous.reply.BodyJson = call.reply.BodyJson
        ∧ previous.after.map (·.Fingerprint) = call.after.map (·.Fingerprint)
        ∧ previous.after.map (·.SessionId) = call.after.map (·.SessionId)) InvalidOperationException

/-- Write the record beside its place and move it there; a move never replaces a file. -/
def publish (s : Store Json) (owned : Reservation Json) (call : CompleteCall) : Except Fault (Store Json) := do
  let stored := storedRecord host owned.Header call
  let target := RecordPath host call.reservation.RequestId
  require (host.storedLength stored ≤ MaximumRecordBytes) IOException
  require (call.publication ≠ .writeFails ∧ call.publication ≠ .cleanupFails) IOException
  require (call.publication ≠ .moveFails ∧ s.files.get? target = none) IOException
  return { s with
    pending := s.pending.set call.reservation.RequestId { owned with RecordJson := some stored.record_json }
    files := s.files.set target stored }

def Complete (s : Store Json) (call : CompleteCall) : Except Fault (Store Json) := do
  require (100 ≤ call.reply.StatusCode ∧ call.reply.StatusCode ≤ 599
    ∧ text.utf8ByteLength call.reply.BodyJson ≤ MaximumResponseBodyUtf8Bytes) IOException
  require ((host.parse call.reply.BodyJson).isSome = true) JsonException
  match s.pending.get? call.reservation.RequestId with
  | none => throw InvalidOperationException
  | some owned =>
    require (owned.serial = call.reservation.serial) InvalidOperationException
    match owned.RecordJson with
    | some recordJson => do
      repeatComplete host recordJson call
      return s
    | none => publish host s owned call

def SupportsRequestedEffect (requestedEffect : String) : Bool :=
  requestedEffect = "apply" || requestedEffect = "preview"

def ArgumentException : Fault := .runtime "ArgumentException"

def OperatorNativeCompletionUncertainException : Fault := .runtime "OperatorNativeCompletionUncertainException"

/-- `OperatorNativeCompletionCapture.Execute`: `action` and `readAfter` are what the
    handler and the document identity came to. -/
def Execute (s : Store Json) (reservation : ReservationRef) (action : Except Fault OperatorNativeCompletionReply)
    (readAfter : Except Fault (Option OperatorNativeCompletionDocument))
    (method path correlationId requestedEffect utcNow : String) (publication : Publication) :
    Store Json × Except Fault OperatorNativeCompletionReply :=
  if SupportsRequestedEffect requestedEffect then
    let after := readAfter.toOption.join
    match action with
    | .error _ =>
      let failed := ⟨500, host.handlerException requestedEffect method path correlationId⟩
      match Complete host s ⟨reservation, failed, after, utcNow, publication⟩ with
      | .ok s' => (s', .error OperatorNativeCompletionUncertainException)
      | .error _ => (s, .error OperatorNativeCompletionUncertainException)
    | .ok reply =>
      match Complete host s ⟨reservation, reply, after, utcNow, publication⟩ with
      | .ok s' => (s', .ok reply)
      | .error _ => (s, .error OperatorNativeCompletionUncertainException)
  else (s, .error ArgumentException)

end complete

section lookup

structure LookupRefusal where
  status : Nat
  code : String
deriving DecidableEq

/-- The answer to a lookup. -/
inductive LookupReply (Json : Type) where
  | completed (record_json : Json) (record_sha256 : String)
  | state (status : Nat) (state : String)
  | unavailable (refusal : LookupRefusal)
deriving DecidableEq

def pendingState {Json : Type} : LookupReply Json := .state 202 "pending"

def notFound {Json : Type} : LookupReply Json := .state 404 "not_found"

def identityInvalid : LookupRefusal := ⟨409, "native_completion_lookup_identity_invalid"⟩

def identityMismatch : LookupRefusal := ⟨409, "native_completion_lookup_identity_mismatch"⟩

/-- The answer to a lookup whose text cannot be read. -/
def lookupInvalid : LookupRefusal := ⟨409, "native_completion_lookup_invalid"⟩

def storageUnavailable : LookupRefusal := ⟨503, "native_completion_storage_unavailable"⟩

variable {Json : Type} (host : CompletionHost Json) (Epoch : String)

/-- `OperatorCorrelationId.IsValid`. -/
def IsValid (value : String) : Bool :=
  let candidate := (value.toList.dropWhile text.isWhiteSpace).rdropWhile text.isWhiteSpace
  candidate ≠ [] && decide (text.length (.ofList candidate) ≤ 160)
    && candidate.all fun ch => host.isLetterOrDigit ch || ch = '.' || ch = '_' || ch = ':' || ch = '-'

def names : List String :=
  ["schema", "request_id", "request_nonce_sha256", "server_epoch", "method", "path", "body_present",
    "source_body_sha256", "expected_document_fingerprint"]

/-- The names of the members of an object. -/
def propertyNames : JsonElement → Except LookupRefusal (List String)
  | .object properties => properties.mapM fun entry => entry.1.elim (.error lookupInvalid) .ok
  | _ => .error lookupInvalid

/-- `GetProperty(name).GetString()`. -/
def stringOf (name : String) (query : JsonElement) : Except LookupRefusal (Option String) :=
  match property name query with
  | some (.string (some value)) => .ok (some value)
  | some .null => .ok none
  | _ => .error lookupInvalid

/-- `GetProperty(name).GetBoolean()`. -/
def booleanOf (name : String) (query : JsonElement) : Except LookupRefusal Bool :=
  match property name query with
  | some (.bool value) => .ok value
  | _ => .error lookupInvalid

/-- The strings of a query that are compared with a record. -/
def identityStrings (request : RequestIdentity) : List (String × String) :=
  [("request_id", request.request_id), ("request_nonce_sha256", request.request_nonce_sha256),
    ("server_epoch", request.server_epoch), ("method", request.method), ("path", request.path),
    ("source_body_sha256", request.source_body_sha256)]

def stringsMatch (query : JsonElement) : List (String × String) → Except LookupRefusal Bool
  | [] => .ok true
  | (name, expected) :: rest => do
    let value ← stringOf name query
    if value = some expected then stringsMatch query rest else return false

def Matches (query : JsonElement) (header : Header) : Except LookupRefusal Bool := do
  let strings ← stringsMatch query (identityStrings header.request)
  if strings then
    let present ← booleanOf "body_present" query
    if present = header.request.body_present then
      let fingerprint ← stringOf "expected_document_fingerprint" query
      return decide (fingerprint = some header.document.Fingerprint)
    else return false
  else return false

/-- The query of a lookup and the request it asks for. -/
def openLookup (lookup : OperatorNativeTransportRequestContext) : Except LookupRefusal (JsonElement × String) := do
  require (lookup.ServerEpoch = Epoch ∧ lookup.Request.Method = "POST" ∧ lookup.Request.Path = LookupPath
      ∧ lookup.Request.Channel = "typed_mcp" ∧ lookup.Request.Alias = LookupAlias
      ∧ lookup.Request.CertificationEnvelope.isNone ∧ lookup.LaboratoryEvidence.isNone
      ∧ lookup.LaboratoryMoveEvidenceAdmission.isNone) identityInvalid
  match host.parse lookup.Request.BodyJson with
  | none => throw lookupInvalid
  | some query =>
    let actual ← propertyNames query
    require (actual.length = names.length ∧ actual.Nodup ∧ ∀ name ∈ actual, name ∈ names) identityInvalid
    let schema ← stringOf "schema" query
    require (schema = some LookupSchema) identityInvalid
    let epoch ← stringOf "server_epoch" query
    require (epoch = some Epoch) identityInvalid
    let requestId ← stringOf "request_id" query
    match requestId with
    | none => throw identityInvalid
    | some requestId =>
      require (IsValid host requestId = true) identityInvalid
      return (query, requestId)

def ReadVerified (stored : StoredRecord Json) : Except LookupRefusal Json := do
  require (host.storedLength stored ≤ MaximumRecordBytes) storageUnavailable
  require (stored.signature = host.Sign stored.record_json) storageUnavailable
  return stored.record_json

/-- The answer from a record on disk. -/
def answerStored (query : JsonElement) (stored : StoredRecord Json) : Except LookupRefusal (LookupReply Json) := do
  let recordJson ← ReadVerified host stored
  match host.readRecord recordJson with
  | none => throw lookupInvalid
  | some record =>
    let matched ← Matches query record.header
    return if matched then .completed recordJson (host.HashRecord recordJson) else .unavailable identityMismatch

/-- The answer from a reservation in memory. -/
def answerPending (query : JsonElement) (pending : Reservation Json) : Except LookupRefusal (LookupReply Json) := do
  let matched ← Matches query pending.Header
  return if matched then (if pending.RecordJson.isNone then pendingState else .unavailable storageUnavailable)
    else .unavailable identityMismatch

def answer (s : Store Json) (query : JsonElement) (requestId : String) : Except LookupRefusal (LookupReply Json) :=
  match s.files.get? (RecordPath host requestId) with
  | some stored => answerStored host query stored
  | none =>
    match s.pending.get? requestId with
    | some pending => answerPending query pending
    | none => .ok notFound

def Lookup (s : Store Json) (lookup : OperatorNativeTransportRequestContext) : LookupReply Json :=
  match openLookup host Epoch lookup >>= fun (query, requestId) => answer host s query requestId with
  | .ok reply => reply
  | .error refusal => .unavailable refusal

end lookup

section runs

variable {Json : Type} (host : CompletionHost Json) (Epoch : String) (isSelector : String → Bool)

inductive Call where
  | reserve (call : ReserveCall)
  | complete (call : CompleteCall)
  | lookup (context : OperatorNativeTransportRequestContext)

inductive Outcome (Json : Type) where
  | reserved (reservation : ReservationRef)
  | completed
  | looked (reply : LookupReply Json)
  | fault (fault : Fault)

/-- One call under the gate of the store. -/
def step (s : Store Json) : Call → Store Json × Outcome Json
  | .reserve call =>
    match Reserve host Epoch isSelector s call with
    | .ok (s', reservation) => (s', .reserved reservation)
    | .error fault => (s, .fault fault)
  | .complete call =>
    match Complete host s call with
    | .ok s' => (s', .completed)
    | .error fault => (s, .fault fault)
  | .lookup context => (s, .looked (Lookup host Epoch s context))

def newStore {Json : Type} : Store Json := ⟨∅, ∅, 0⟩

def after (calls : List Call) : Store Json :=
  calls.foldl (fun s call => (step host Epoch isSelector s call).1) newStore

/-- What a call returns after the calls before it. -/
def outcome (earlier : List Call) (call : Call) : Outcome Json :=
  (step host Epoch isSelector (after host Epoch isSelector earlier) call).2

end runs

end revit_operator.native_completion
