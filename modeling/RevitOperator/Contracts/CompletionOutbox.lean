import RevitOperator.Contracts.PayloadDigest
import RevitOperator.Library.Checked
import RevitOperator.Library.JsValue

open checked

/-! The durable handoff of a completed operation: the result is retained under a
    signature, delivered in full or by reference, and restored by the host. -/

namespace revit_operator.contracts.completion_outbox

def SCHEMA : String := "revit-operator.assignment-completion-outbox/v2"

def RESULT_SCHEMA : String := "revit-operator.assignment-kernel-mcp-result/v2"

def DELIVERY_SCHEMA : String := "revit-operator.assignment-completion-delivery/v2"

def LIMIT : Nat := 64 * 1024 * 1024

def COMPLETION_DELIVERY_BUDGET_V2 : Nat := 8 * 1024 * 1024

/-- The digests the outbox computes: of a text, and of a text under a key. -/
structure OutboxHost where
  numbers : Json.NumberText
  sha256 : String → String
  hmac : String → String → String
  sha256_hex : ∀ message, text.isHexText 64 (sha256 message) = true
  hmac_hex : ∀ key message, text.isHexText 64 (hmac key message) = true

def fault (code : String) : String := "assignment_completion_outbox_" ++ code

/-- Texts joined by commas. -/
def joined : List (List Char) → List Char
  | [] => []
  | [part] => part
  | part :: rest => part ++ ',' :: joined rest

mutual
/-- `canonical` of a value in memory. `undefined` has no text: it joins as an empty
    item of an array and is spelled out as a member. -/
def canonicalText (numbers : Json.NumberText) : JsValue → Option (List Char)
  | .undefined => none
  | .arr items => some ('[' :: joined (itemTexts numbers items) ++ [']'])
  | .obj members => some ('\x7b' :: joined ((Json.sortMembers (memberTexts numbers members)).map fun entry =>
      Json.quote entry.1 ++ ':' :: entry.2) ++ ['\x7d'])
  | .null => some (Json.chars numbers .null)
  | .nonFinite => some (Json.chars numbers .null)
  | .bool value => some (Json.chars numbers (.bool value))
  | .num value => some (Json.chars numbers (.num value))
  | .str value => some (Json.chars numbers (.str value))

def itemTexts (numbers : Json.NumberText) : List JsValue → List (List Char)
  | [] => []
  | item :: rest => (canonicalText numbers item).getD [] :: itemTexts numbers rest

def memberTexts (numbers : Json.NumberText) : List (String × JsValue) → List (String × List Char)
  | [] => []
  | (key, value) :: rest => (key, (canonicalText numbers value).getD "undefined".toList) :: memberTexts numbers rest
end

section identity

def hasText (value : JsValue) (key : String) : Bool :=
  match value.field key with
  | .str value => 0 < text.length value
  | _ => false

/-- `Number.isSafeInteger(value) && value > 0`. -/
def isSafePositive : JsValue → Bool
  | .num value => value.den = 1 && 0 < value && value ≤ 9007199254740991
  | _ => false

/-- The identity of a lease or of a result. -/
def identity (lease : JsValue) : Except String Json := do
  let binding := lease.field "binding"
  require ((["assignment_id", "run_id", "session_id", "principal_id"].all (hasText binding))
      ∧ isSafePositive (binding.field "generation") ∧ hasText lease "operation_id"
      ∧ ((lease.field "request_identity").field "request_signature").asString?.isSome)
    (fault "identity_invalid")
  return JsValue.reparsed (.obj [("binding", binding), ("operation_id", lease.field "operation_id"),
    ("request_identity", lease.field "request_identity")])

end identity

/-- The file of a record: its size, and the value its text parses as. -/
structure RecordFile where
  size : Nat
  content : Option Json

/-- The records of a workspace by their names. -/
abbrev Disk := String → Option RecordFile

variable (host : OutboxHost)

/-- The digest of a value in memory. -/
def digest (value : JsValue) : Except String String :=
  match canonicalText host.numbers value with
  | some message => .ok (host.sha256 (.ofList message))
  | none => .error "TypeError"

def recordName (identity : Json) : String := host.sha256 (canonical host.numbers identity)

/-- `signature(key, payload)`. -/
def signature (key : String) (payload : Json) : Except String String := do
  require (text.isHexText 64 key) (fault "key_invalid")
  return host.hmac key (canonical host.numbers payload)

/-- The value counts as true. -/
def isTruthy : Json → Bool
  | .null => false
  | .bool value => value
  | .num value => value ≠ 0
  | .str value => value ≠ ""
  | .arr _ => true
  | .obj _ => true

def readCompletionOutboxV2 (disk : Disk) (key : String) (lease : JsValue) : Except String (Option Json) := do
  let leaseIdentity ← identity lease
  match disk (recordName host leaseIdentity) with
  | none => return none
  | some file =>
    require (file.size ≤ LIMIT) (fault "record_too_large")
    match file.content with
    | none => throw "SyntaxError"
    | some record =>
      require ((record.field "schema").isText SCHEMA
        ∧ ((record.field "signature").asString?.any fun value => text.isHexText 64 value)) (fault "record_invalid")
      match record.member? "payload" with
      | none => throw "TypeError"
      | some payload =>
        let expected ← signature host key payload
        require ((record.field "signature").isText expected) (fault "signature_invalid")
        require (canonical host.numbers (payload.field "identity") = canonical host.numbers leaseIdentity)
          (fault "binding_mismatch")
        let envelope := payload.field "envelope"
        let result := (envelope.field "structuredContent").field "operation_result_v2"
        require (isTruthy result) (fault "result_mismatch")
        let resultIdentity ← identity (.ofJson result)
        require (canonical host.numbers resultIdentity = canonical host.numbers leaseIdentity) (fault "result_mismatch")
        return some envelope

/-- The envelope as it is retained. -/
def retainedEnvelope (structured : JsValue) : Json :=
  JsValue.reparsed (.obj [("content", .arr []), ("structuredContent", structured)])

def retainedPayload (leaseIdentity : Json) (structured : JsValue) : Json :=
  .obj [("identity", leaseIdentity), ("envelope", retainedEnvelope structured)]

def retainedRecord (payload : Json) (signed : String) : Json :=
  .obj [("schema", .str SCHEMA), ("payload", payload), ("signature", .str signed)]

/-- `Buffer.byteLength(JSON.stringify(value))` -/
def textSize (value : Json) : Nat := text.utf8ByteLength (Json.stringify host.numbers value)

def retainCompletionOutboxV2 (disk : Disk) (key : String) (lease envelope : JsValue) : Except String Disk := do
  let structured := envelope.field "structuredContent"
  require ((structured.field "schema").asString? = some RESULT_SCHEMA) (fault "envelope_invalid")
  let resultIdentity ← identity (structured.field "operation_result_v2")
  let leaseIdentity ← identity lease
  require (canonical host.numbers resultIdentity = canonical host.numbers leaseIdentity) (fault "result_mismatch")
  let payload := retainedPayload leaseIdentity structured
  let signed ← signature host key payload
  let record := retainedRecord payload signed
  require (textSize host record ≤ LIMIT) (fault "record_too_large")
  match disk (recordName host leaseIdentity) with
  | none =>
    return Function.update disk (recordName host leaseIdentity) (some ⟨textSize host record, some record.enumerated⟩)
  | some _ =>
    let previous ← readCompletionOutboxV2 host disk key lease
    require (canonical host.numbers (previous.getD .null) = canonical host.numbers (retainedEnvelope structured))
      (fault "result_conflict")
    return disk

/-- `{ ...value, [key]: member }` -/
def withMember (value : JsValue) (key : String) (member : JsValue) : JsValue :=
  match value with
  | .obj members =>
    if members.any fun entry => entry.1 = key then
      .obj (members.map fun entry => if entry.1 = key then (key, member) else entry)
    else .obj (members ++ [(key, member)])
  | _ => .obj [(key, member)]

/-- The reference that stands for a retained result. -/
def deliveryReference (identitySha256 structuredSha256 : String) : JsValue :=
  .obj [("schema", .str DELIVERY_SCHEMA), ("identity_sha256", .str identitySha256),
    ("structured_sha256", .str structuredSha256)]

/-- What is delivered when not even the presentation fits. -/
def withoutPresentation (envelope reference : JsValue) : JsValue :=
  let notice := JsValue.obj [("type", .str "text"), ("text", .str ("Presentation unavailable: this result exceeds the MCP"
    ++ " delivery budget. Full canonical observation retained; no image was delivered. Use a smaller scoped capture for"
    ++ " visual review."))]
  match envelope.field "isError" with
  | .bool true => .obj [("isError", .bool true), ("content", .arr [notice]), ("structuredContent", reference)]
  | _ => .obj [("content", .arr [notice]), ("structuredContent", reference)]

def deliverCompletionOutboxV2 (disk : Disk) (key : String) (lease envelope : JsValue) :
    Except String (JsValue × Disk) := do
  let disk ← retainCompletionOutboxV2 host disk key lease envelope
  if textSize host envelope.toJson ≤ COMPLETION_DELIVERY_BUDGET_V2 then return (envelope, disk)
  else
    let leaseIdentity ← identity lease
    let structuredSha256 ← digest host (envelope.field "structuredContent")
    let reference := deliveryReference (recordName host leaseIdentity) structuredSha256
    let delivery := withMember envelope "structuredContent" reference
    if textSize host delivery.toJson ≤ COMPLETION_DELIVERY_BUDGET_V2 then return (delivery, disk)
    else return (withoutPresentation envelope reference, disk)

/-- A member that is a digest in hexadecimal. -/
def isDigest (value : JsValue) : Bool := value.asString?.any (text.isHexText 64)

def keysOf : JsValue → List String
  | .obj members => members.map Prod.fst
  | _ => []

def hydrateCompletionDeliveryV2 (disk : Disk) (key : String) (lease envelope : JsValue) : Except String JsValue := do
  let reference := envelope.field "structuredContent"
  if (reference.field "schema").asString? ≠ some DELIVERY_SCHEMA then return envelope
  else
    require (isTruthy lease.toJson) (fault "delivery_lease_missing")
    require (text.joinWith "," (text.sorted (keysOf reference)) = "identity_sha256,schema,structured_sha256"
      ∧ isDigest (reference.field "identity_sha256") ∧ isDigest (reference.field "structured_sha256"))
      (fault "delivery_reference_invalid")
    let leaseIdentity ← identity lease
    require ((reference.field "identity_sha256").asString? = some (recordName host leaseIdentity))
      (fault "delivery_identity_mismatch")
    match ← readCompletionOutboxV2 host disk key lease with
    | none => throw (fault "delivery_record_missing")
    | some retained =>
      let structured := JsValue.ofJson (retained.field "structuredContent")
      let restored ← digest host structured
      require ((reference.field "structured_sha256").asString? = some restored) (fault "delivery_digest_mismatch")
      return withMember envelope "structuredContent" structured

end revit_operator.contracts.completion_outbox
