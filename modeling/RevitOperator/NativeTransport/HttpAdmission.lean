import RevitOperator.Library.Checked
import RevitOperator.Library.Utf

open checked
open text (isBlank)

/-! The fence every certified request to the Revit host passes: its method, path,
    channel and body, and the identity it is admitted under. -/

namespace revit_operator.native_transport

/-- A parsed JSON value of the host. A number keeps its source text; a string is
    `none` where it escapes an unpaired surrogate, which no read can return. -/
inductive JsonElement where
  | null
  | bool (value : Bool)
  | number (raw : String)
  | string (value : Option String)
  | array (items : List JsonElement)
  | object (properties : List (Option String × JsonElement))
deriving Inhabited

/-- What a call of the host throws. -/
inductive Fault where
  | admission (code message : String) (httpStatusCode : Nat) (retryable : Bool) (hostHealth : String)
      (opensCircuit : Bool)
  | runtime (exception : String)
deriving DecidableEq, Repr

def InvalidRequest (message : String) : Fault :=
  .admission "CERTIFICATION_DIRECT_REQUEST_MALFORMED" message 400 false "healthy" false

def InvalidOperationException : Fault := .runtime "InvalidOperationException"

/-- The parts of the platform the host calls. `parse` reads a document of at most
    the given depth. -/
structure TransportHost where
  parse : Nat → List UInt8 → Option JsonElement
  normalizeFormC : String → String
  openEnvelope : String → String → List UInt8 → Except Fault (List UInt8)
  verifyDirectEnvelope : JsonElement → String → String → Bool → String → String → String → Except Fault Unit
  parseLaboratoryEvidence : JsonElement → Except Fault Unit
  parseMoveEvidenceAdmission : JsonElement → JsonElement → Except Fault Unit
  requireLaboratoryEvidenceAuthorized :
    JsonElement → String → String → String → String → Option JsonElement → Except Fault Unit

/-- The strict UTF-8 text of a buffer. -/
def strictText (bytes : List UInt8) : Option String :=
  if bytes.toByteArray.validateUTF8 then some (.ofList (utf8.decode bytes)) else none

/-- A pattern between `^` and `$`, where `$` also stands before a final line
    feed. -/
def matchesLine (pattern : List Char → Bool) (value : String) : Bool :=
  pattern value.toList || (value.toList.getLast? = some '\n' && pattern value.toList.dropLast)

/-- A path under `/revit/` of lower-case letters, digits and a few marks, the
    first one no mark. -/
def canonicalPath (path : List Char) : Bool :=
  "/revit/".toList.isPrefixOf path &&
    match path.drop "/revit/".toList.length with
    | [] => false
    | c :: rest => (text.isLower c || text.isDigit c)
        && rest.all fun c => text.isLower c || text.isDigit c || c ∈ ['.', '_', '~', '/', '-']

/-- A lower-case letter, then lower-case letters, digits and underscores. -/
def toolAlias : List Char → Bool
  | [] => false
  | c :: rest => text.isLower c && rest.all fun c => text.isLower c || text.isDigit c || c = '_'

def hasDotSegment (path : String) : Bool :=
  (path.toList.splitOn '/').any fun segment => segment = ['.'] || segment = ['.', '.']

def MaximumBodyUtf8Bytes : Nat := 2 * 1024 * 1024

def MaximumJsonDepth : Nat := 64

variable (host : TransportHost)

def requirePolicyNormalized (value location : String) : Except Fault Unit :=
  require (value = host.normalizeFormC value)
    (InvalidRequest s!"Certified native Revit request {location} must already use NFC normalization.")

mutual
def rejectNormalizationChangesAndDuplicateKeys (location : String) : JsonElement → Except Fault Unit
  | .object properties => rejectProperties location [] properties
  | .array items => rejectItems location 0 items
  | .string (some value) => requirePolicyNormalized host value (location ++ " string")
  | .string none => .error InvalidOperationException
  | _ => .ok ()

def rejectItems (location : String) (index : Nat) : List JsonElement → Except Fault Unit
  | [] => .ok ()
  | item :: rest => do
    rejectNormalizationChangesAndDuplicateKeys (location ++ "[" ++ toString index ++ "]") item
    rejectItems location (index + 1) rest

def rejectProperties (location : String) (keys : List String) :
    List (Option String × JsonElement) → Except Fault Unit
  | [] => .ok ()
  | (none, _) :: _ => .error InvalidOperationException
  | (some name, value) :: rest => do
    requirePolicyNormalized host name (location ++ " key")
    require (host.normalizeFormC name ∉ keys)
      (InvalidRequest "Certified native Revit request body contains duplicate or normalization-colliding object keys.")
    rejectNormalizationChangesAndDuplicateKeys (location ++ "." ++ name) value
    rejectProperties location (host.normalizeFormC name :: keys) rest
end

structure OperatorNativeHttpRequest where
  RequestId : String
  Method : String
  Path : String
  BodyPresent : Bool
  BodyJson : String
  Channel : String
  Alias : String
  CertificationEnvelope : Option JsonElement
deriving Inhabited

/-- The identity of a request: the one it names, or a new one (`created`) where it
    names none or only white space. -/
def validateOrCreateRequestId (created requestId : String) : Except Fault String := do
  let value := if isBlank requestId then created else requestId
  require (text.length value = 32 ∨ text.length value = 64)
    (InvalidRequest "Certified native Revit request_id must be 32 or 64 lowercase hexadecimal characters.")
  require (value.toList.all text.isHex)
    (InvalidRequest "Certified native Revit request_id must be 32 or 64 lowercase hexadecimal characters.")
  return value

/-- `OperatorNativeHttpRequestFence.Prepare`. -/
def prepare (created method path : String) (hasQuery hasEntityBody : Bool) (bytes : List UInt8)
    (requestId channel alias_ : String) (certificationEnvelope : Option JsonElement) :
    Except Fault OperatorNativeHttpRequest := do
  require (method = "GET" ∨ method = "POST")
    (InvalidRequest "Certified native Revit requests require canonical GET or POST.")
  require (matchesLine canonicalPath path ∧ ¬ text.endsWith path "/" ∧ ¬ text.includes path "//" ∧ ¬ hasDotSegment path)
    (InvalidRequest "Certified native Revit requests require an exact lowercase canonical /revit path.")
  require (hasQuery = false)
    (InvalidRequest "Certified native Revit requests cannot include an unsigned query string.")
  require ((channel = "search" ∨ channel = "generic_call" ∨ channel = "typed_mcp") ∧ matchesLine toolAlias alias_
      ∧ ¬ (channel = "generic_call" ∧ alias_ ≠ "revit_call_tool")
      ∧ ¬ (channel ≠ "generic_call" ∧ alias_ = "revit_call_tool"))
    (InvalidRequest "Certified native Revit request channel or alias is invalid.")
  require (bytes.length ≤ MaximumBodyUtf8Bytes)
    (InvalidRequest "Certified native Revit request body exceeds the 2 MiB UTF-8 limit.")
  if method = "GET" then
    require (hasEntityBody = false ∧ bytes = [])
      (InvalidRequest "Certified native Revit GET requests cannot include a body.")
    require (certificationEnvelope.isNone)
      (InvalidRequest "Parameterized certification envelopes require a POST body.")
    let id ← validateOrCreateRequestId created requestId
    return ⟨id, method, path, false, "", channel, alias_, none⟩
  else
    require (hasEntityBody = true ∧ bytes ≠ [])
      (InvalidRequest "Certified native Revit POST requests require a present JSON body.")
    match strictText bytes with
    | none => throw (InvalidRequest "Certified native Revit request body is not strict UTF-8.")
    | some bodyJson =>
      require ('\r' ∉ bodyJson.toList)
        (InvalidRequest "Certified native Revit request body must use LF-only JSON source bytes.")
      match host.parse MaximumJsonDepth bytes with
      | none =>
        throw (InvalidRequest "Certified native Revit request body must be strict JSON with depth at most 64.")
      | some root =>
        rejectNormalizationChangesAndDuplicateKeys host "body" root
        let id ← validateOrCreateRequestId created requestId
        return ⟨id, method, path, true, bodyJson, channel, alias_, certificationEnvelope⟩

theorem validateOrCreateRequestId_named {created requestId id : String} (hnamed : isBlank requestId = false)
    (h : validateOrCreateRequestId created requestId = .ok id) : id = requestId := by
  simp only [validateOrCreateRequestId, hnamed, Bool.false_eq_true, if_false, check_bind_eq_ok, pure_eq_ok] at h
  exact h.2.2.symm

theorem validateOrCreateRequestId_hex {created requestId id : String}
    (h : validateOrCreateRequestId created requestId = .ok id) :
    id.toList.all text.isHex = true ∧ (text.length id = 32 ∨ text.length id = 64) := by
  simp only [validateOrCreateRequestId, check_bind_eq_ok, require_eq_ok, pure_eq_ok] at h
  obtain ⟨hlength, hhex, rfl⟩ := h
  exact ⟨hhex, hlength⟩

theorem prepare_validated {created method path : String} {hasQuery hasEntityBody : Bool} {bytes : List UInt8}
    {requestId channel alias_ : String} {certificationEnvelope : Option JsonElement}
    {request : OperatorNativeHttpRequest}
    (h : prepare host created method path hasQuery hasEntityBody bytes requestId channel alias_
      certificationEnvelope = .ok request) :
    validateOrCreateRequestId created requestId = .ok request.RequestId := by
  simp only [prepare, check_bind_eq_ok] at h
  obtain ⟨-, -, -, -, -, h⟩ := h
  split at h
  · simp only [bind_eq_ok, pure_eq_ok] at h
    obtain ⟨-, -, -, -, id, hid, rfl⟩ := h
    exact hid
  · simp only [check_bind_eq_ok] at h
    obtain ⟨-, h⟩ := h
    split at h
    · cases h
    · simp only [check_bind_eq_ok] at h
      obtain ⟨-, h⟩ := h
      split at h
      · cases h
      · simp only [bind_eq_ok, pure_eq_ok] at h
        obtain ⟨-, -, id, hid, rfl⟩ := h
        exact hid

theorem prepare_requestId {created method path : String} {hasQuery hasEntityBody : Bool} {bytes : List UInt8}
    {requestId channel alias_ : String} {certificationEnvelope : Option JsonElement}
    {request : OperatorNativeHttpRequest} (hnamed : isBlank requestId = false)
    (h : prepare host created method path hasQuery hasEntityBody bytes requestId channel alias_
      certificationEnvelope = .ok request) :
    request.RequestId = requestId :=
  validateOrCreateRequestId_named hnamed (prepare_validated host h)

end revit_operator.native_transport
