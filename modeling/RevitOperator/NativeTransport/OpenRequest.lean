import RevitOperator.NativeTransport.HttpAdmission

open checked

/-! The host side of the protected transport: an envelope is opened, its fields
    are checked, and its identity is entered into the replay cache. Times are
    ticks of 100 nanoseconds. -/

namespace revit_operator.native_transport

def TransportMethod : String := "POST"

def TransportPath : String := "/revit/operator-transport/v1"

def MaximumRequestEnvelopeUtf8Bytes : Nat := 8 * 1024 * 1024

def MaximumWriteGrantUtf8Bytes : Nat := 16 * 1024

def MaximumReplayEntries : Nat := 4096

def ticksPerSecond : Int := 10000000

def MaximumMessageAge : Int := 30 * ticksPerSecond

def MaximumFutureSkew : Int := 10 * ticksPerSecond

def Failure (code message : String) (status : Nat) (retryable : Bool) : Fault :=
  .admission code message status retryable (if retryable then "unavailable" else "healthy") retryable

def AuthFailure : Fault :=
  Failure "NATIVE_TRANSPORT_AUTHENTICATION_FAILED" "Protected native transport authentication failed." 401 false

def FormatException : Fault := .runtime "FormatException"

/-- The last instant a `DateTimeOffset` can hold. -/
def MaxTicks : Int := 3155378975999999999

/-- A time moved by a span; it may not leave the range of `DateTimeOffset`. -/
def plus (time span : Int) : Except Fault Int :=
  if 0 ≤ time + span ∧ time + span ≤ MaxTicks then .ok (time + span)
  else .error (.runtime "ArgumentOutOfRangeException")

section base64Url

def base64UrlDigit (value : Nat) : Char :=
  if value < 26 then Char.ofNat ('A'.toNat + value)
  else if value < 52 then Char.ofNat ('a'.toNat + (value - 26))
  else if value < 62 then Char.ofNat ('0'.toNat + (value - 52))
  else if value = 62 then '-' else '_'

def base64UrlValue (c : Char) : Option Nat :=
  if text.isUpper c then some (c.toNat - 'A'.toNat)
  else if text.isLower c then some (c.toNat - 'a'.toNat + 26)
  else if text.isDigit c then some (c.toNat - '0'.toNat + 52)
  else if c = '-' then some 62
  else if c = '_' then some 63
  else none

def base64UrlEncode : List Nat → List Char
  | a :: b :: c :: rest =>
    base64UrlDigit (a / 4) :: base64UrlDigit (a % 4 * 16 + b / 16) :: base64UrlDigit (b % 16 * 4 + c / 64)
      :: base64UrlDigit (c % 64) :: base64UrlEncode rest
  | [a, b] => [base64UrlDigit (a / 4), base64UrlDigit (a % 4 * 16 + b / 16), base64UrlDigit (b % 16 * 4)]
  | [a] => [base64UrlDigit (a / 4), base64UrlDigit (a % 4 * 16)]
  | [] => []

def base64UrlBytes : List Nat → Option (List Nat)
  | p :: q :: r :: s :: rest => do
    let bytes ← base64UrlBytes rest
    return (p * 4 + q / 16) :: (q % 16 * 16 + r / 4) :: (r % 4 * 64 + s) :: bytes
  | [p, q, r] => some [p * 4 + q / 16, q % 16 * 16 + r / 4]
  | [p, q] => some [p * 4 + q / 16]
  | [_] => none
  | [] => some []

/-- Canonical base64url without padding, of the given number of bytes. -/
def decodeBase64Url (value : String) (exactBytes : Nat) : Except Fault (List Nat) := do
  require (value ≠ "") FormatException
  match (value.toList.mapM base64UrlValue).bind base64UrlBytes with
  | none => throw FormatException
  | some bytes =>
    require (bytes.length = exactBytes) FormatException
    require (base64UrlEncode bytes = value.toList) FormatException
    return bytes

end base64Url

section fields

/-- The members of the inner object of a request. -/
abbrev Fields := List (String × JsonElement)

def RequestInnerFields : List String :=
  ["request_id", "request_nonce", "issued_at_unix_ms", "method", "path", "body_present", "body_json", "channel",
    "alias", "write_grant"]

def OptionalInnerFields : List String :=
  ["certification_envelope", "laboratory_evidence", "laboratory_move_evidence_admission"]

/-- The members of an object in order, each one expected and none twice. -/
def collectFields (expected : List String) (fields : Fields) :
    List (Option String × JsonElement) → Except Fault Fields
  | [] => .ok fields
  | (none, _) :: _ => .error InvalidOperationException
  | (some name, value) :: rest => do
    require (name ∈ expected ∧ fields.lookup name = none) AuthFailure
    collectFields expected (fields ++ [(name, value)]) rest

def exactObject (expected : List String) : JsonElement → Except Fault Fields
  | .object properties => do
    let fields ← collectFields expected [] properties
    require (fields.length = expected.length) AuthFailure
    return fields
  | _ => .error AuthFailure

def objectProperties : JsonElement → List (Option String × JsonElement)
  | .object properties => properties
  | _ => []

def parseRequestInner (host : TransportHost) (plaintext : List UInt8) : Except Fault Fields :=
  match host.parse 8 plaintext with
  | none => .error AuthFailure
  | some root =>
    let present := OptionalInnerFields.filter fun name =>
      (objectProperties root).any fun property => property.1 = some name
    exactObject (RequestInnerFields ++ present) root

def requireStringAllowEmpty (fields : Fields) (name : String) (maximumUtf8Bytes : Nat) : Except Fault String :=
  match fields.lookup name with
  | some (.string (some value)) => do
    require (text.utf8ByteLength value ≤ maximumUtf8Bytes) AuthFailure
    return value
  | some (.string none) => .error InvalidOperationException
  | _ => .error AuthFailure

def requireString (fields : Fields) (name : String) (maximumChars : Nat) : Except Fault String := do
  let value ← requireStringAllowEmpty fields name maximumChars
  require (text.length value ≠ 0) AuthFailure
  return value

/-- `TryGetInt64` of the source text of a number. -/
def tryGetInt64 (raw : String) : Option Int :=
  let negative := text.startsWith raw "-"
  let digits := if negative then text.dropFirst 1 raw else raw
  let value : Int := if negative then -text.decimalValue digits else text.decimalValue digits
  if digits ≠ "" ∧ digits.toList.all text.isDigit ∧ -9223372036854775808 ≤ value ∧ value ≤ 9223372036854775807 then
    some value
  else none

def requireInt64 (fields : Fields) (name : String) : Except Fault Int :=
  match fields.lookup name with
  | some (.number raw) =>
    match tryGetInt64 raw with
    | some value => .ok value
    | none => .error AuthFailure
  | _ => .error AuthFailure

def requireBoolean (fields : Fields) (name : String) : Except Fault Bool :=
  match fields.lookup name with
  | some (.bool value) => .ok value
  | _ => .error AuthFailure

end fields

/-- The tick of a Unix time in milliseconds. -/
def fromUnixMilliseconds (value : Int) : Except Fault Int :=
  if -62135596800000 ≤ value ∧ value ≤ 253402300799999 then .ok (621355968000000000 + value * 10000)
  else .error (Failure "NATIVE_TRANSPORT_TIMESTAMP_INVALID" "Protected native transport timestamp is invalid." 400 false)

def validateFreshness (issuedAtUtc nowUtc : Int) : Except Fault Unit := do
  let fault := Failure "NATIVE_TRANSPORT_REQUEST_EXPIRED"
    "Protected native request timestamp is outside the accepted window." 409 false
  let latest ← plus nowUtc MaximumFutureSkew
  require (issuedAtUtc ≤ latest) fault
  let earliest ← plus nowUtc (-MaximumMessageAge)
  require (earliest ≤ issuedAtUtc) fault

/-- The accepted requests with the time until which each is remembered. -/
abbrev ReplayCache := List (String × Int)

def RequestReplay : Fault :=
  Failure "NATIVE_TRANSPORT_REQUEST_REPLAY" "The protected native request was already accepted." 409 false

def ReplayCacheFull : Fault :=
  Failure "NATIVE_TRANSPORT_REPLAY_CACHE_FULL"
    "The protected native request replay cache is full; retry with a fresh request." 503 true

/-- `OperatorNativeTransportReplayCache.Accept`: the cache afterwards, and the
    fault of a refusal. -/
def accept (requestId requestNonce : String) (nowUtc : Int) (cache : ReplayCache) : Except Fault Unit × ReplayCache :=
  let key := requestId ++ ":" ++ requestNonce
  let live := cache.filter fun entry => ¬ entry.2 ≤ nowUtc
  if live.any fun entry => entry.1 = key then (.error RequestReplay, live)
  else if MaximumReplayEntries ≤ live.length then (.error ReplayCacheFull, live)
  else
    match plus nowUtc MaximumMessageAge >>= (plus · MaximumFutureSkew) >>= (plus · 1) with
    | .error fault => (.error fault, live)
    | .ok expiry => (.ok (), live ++ [(key, expiry)])

/-- The arguments of one `OpenRequest` call. `created` is the identity the call
    draws should the request name none. -/
structure Call where
  operatorToken : String
  expectedServerEpoch : String
  envelopeUtf8 : List UInt8
  outerMethod : String
  outerPath : String
  hasQuery : Bool
  nowUtc : Int
  created : String
deriving DecidableEq

structure OperatorNativeTransportRequestContext where
  Request : OperatorNativeHttpRequest
  RequestNonce : String
  ServerEpoch : String
  WriteGrant : String
  IssuedAtUtc : Int
  LaboratoryEvidence : Option JsonElement
  LaboratoryMoveEvidenceAdmission : Option JsonElement

variable (host : TransportHost) (call : Call)

/-- The fields of the request an envelope protects. -/
def openFields : Except Fault Fields := do
  require (call.outerMethod = TransportMethod ∧ call.outerPath = TransportPath ∧ call.hasQuery = false)
    (Failure "NATIVE_TRANSPORT_OUTER_ROUTE_INVALID" "Certified native transport requires its exact fixed outer route."
      400 false)
  require (call.envelopeUtf8 ≠ [] ∧ call.envelopeUtf8.length ≤ MaximumRequestEnvelopeUtf8Bytes)
    (Failure "NATIVE_TRANSPORT_ENVELOPE_SIZE_INVALID" "Protected native request envelope size is invalid." 400 false)
  let _ ← decodeBase64Url call.expectedServerEpoch 32
  let plaintext ← host.openEnvelope call.operatorToken call.expectedServerEpoch call.envelopeUtf8
  parseRequestInner host plaintext

/-- The attachments of a request, each verified where it is present. -/
def verifyAttachments (fields : Fields) (method path body channel alias_ : String) (bodyPresent : Bool) :
    Except Fault Unit := do
  match fields.lookup "certification_envelope" with
  | some (.object properties) =>
    host.verifyDirectEnvelope (.object properties) method path bodyPresent body channel alias_
  | some _ => throw AuthFailure
  | none => pure ()
  match fields.lookup "laboratory_evidence" with
  | some evidence => host.parseLaboratoryEvidence evidence
  | none => pure ()
  match fields.lookup "laboratory_move_evidence_admission" with
  | some move =>
    match fields.lookup "laboratory_evidence" with
    | some evidence => host.parseMoveEvidenceAdmission move evidence
    | none => throw AuthFailure
  | none => pure ()

/-- A request checked up to its entry into the replay cache. -/
def checkRequest (fields : Fields) : Except Fault OperatorNativeTransportRequestContext := do
  let requestId ← requireString fields "request_id" 64
  let nonce ← requireString fields "request_nonce" 64
  let _ ← decodeBase64Url nonce 32
  let issuedAt ← requireInt64 fields "issued_at_unix_ms" >>= fromUnixMilliseconds
  validateFreshness issuedAt call.nowUtc
  let method ← requireString fields "method" 8
  let path ← requireString fields "path" 512
  let bodyPresent ← requireBoolean fields "body_present"
  let body ← requireStringAllowEmpty fields "body_json" MaximumBodyUtf8Bytes
  let channel ← requireString fields "channel" 32
  let alias_ ← requireString fields "alias" 128
  let writeGrant ← requireStringAllowEmpty fields "write_grant" MaximumWriteGrantUtf8Bytes
  verifyAttachments host fields method path body channel alias_ bodyPresent
  let request ← prepare host call.created method path false bodyPresent (utf8.encode body.toList) requestId channel
    alias_ (fields.lookup "certification_envelope")
  let evidence := fields.lookup "laboratory_evidence"
  let move := fields.lookup "laboratory_move_evidence_admission"
  match evidence with
  | some evidence =>
    host.requireLaboratoryEvidenceAuthorized evidence request.Method request.Path request.Channel request.Alias move
  | none => pure ()
  return ⟨request, nonce, call.expectedServerEpoch, writeGrant, issuedAt, evidence, move⟩

/-- `OperatorNativeTransportCodec.OpenRequest`: its outcome and the cache
    afterwards. -/
def openRequest (cache : ReplayCache) : Except Fault OperatorNativeTransportRequestContext × ReplayCache :=
  match openFields host call >>= checkRequest host call with
  | .error fault => (.error fault, cache)
  | .ok context =>
    match accept context.Request.RequestId context.RequestNonce call.nowUtc cache with
    | (.error fault, cache) => (.error fault, cache)
    | (.ok _, cache) => (.ok context, cache)

end revit_operator.native_transport
