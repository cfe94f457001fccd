import RevitOperator.Evidence.ScalarItemPage

open checked
open revit_operator.contracts

/-! The evidence store: retained objects, the paths that select from them, and
    the retrieval of one bounded selection. -/

namespace revit_operator.evidence

/-- What a retrieval selects: the value, whether it is the whole of it, and the
    members that describe the selection. -/
structure EvidenceSelection where
  selection : Json
  complete : Bool
  members : List (String × Json)

/-- What the store relies on and does not decide itself. `selectOther` answers
    the selectors that return no page of rows or of text. -/
structure EvidenceHost where
  numbers : Json.NumberText
  parseJson : String → Option Json
  sha256 : List UInt8 → String
  selectOther : EvidenceRetrievalSelectorV1 → List UInt8 → Nat → Except String EvidenceSelection

/-- A retained object with its reference. The reference was parsed, so no key
    occurs twice, and a buffer has a length JavaScript represents exactly. -/
structure RetainedEvidence where
  ref : Json
  bytes : List UInt8
  proper : ref.Proper
  bounded : bytes.length ≤ 9007199254740991

def EvidenceStore : Type := String → Option RetainedEvidence

/-- Own members of a value, as a path finds them. -/
def ownProperty (value : Json) (key : String) : Option Json :=
  match value with
  | .obj _ => value.member? key
  | .arr items =>
    if key = "length" then some (ofCount items.length) else (Json.arrayIndex? key).bind fun index => items[index]?
  | _ => none

def isContainer : Json → Bool
  | .obj _ | .arr _ => true
  | _ => false

/-- The array slots of a path segment after its key: groups of an index in
    brackets. `read` holds the digits of a group that is not closed yet. -/
def slots (read : Option (List Char)) : List Char → Option (List Nat)
  | [] => if read.isNone then some [] else none
  | c :: rest =>
    match read with
    | none => if c = '[' then slots (some []) rest else none
    | some digits =>
      if text.isDigit c then slots (some (digits ++ [c])) rest
      else if c = ']' ∧ (digits = ['0'] ∨ digits.head?.any (· ≠ '0')) then
        let index := text.decimalValue (.ofList digits)
        if index ≤ 9007199254740991 then (slots none rest).map (index :: ·) else none
      else none

structure PathToken where
  key : String
  indices : List Nat

/-- A segment of a path, `none` when it can only name a key. -/
def pathToken (segment : List Char) : Option PathToken :=
  let key := segment.takeWhile fun c => c ≠ '[' && c ≠ ']'
  (slots none (segment.drop key.length)).map fun indices => ⟨.ofList key, indices⟩

def segmentAllowed (segment : List Char) : Bool :=
  segment ≠ [] && !(["__proto__", "constructor", "prototype"].contains (String.ofList (segment.takeWhile (· ≠ '['))))

/-- A path without the root it may start with. -/
def withoutRoot : List Char → List Char
  | '$' :: '.' :: rest => rest
  | '$' :: rest => rest
  | path => path

/-- The segments of a dotted path. -/
def pathSegments (dottedPath : String) : Except String (List (List Char)) := do
  require (dottedPath ≠ "" ∧ dottedPath ≠ "$" ∧ text.includes dottedPath ".." = false
    ∧ (dottedPath.toList.any fun c => c = '\\' || c = '/' || c = Char.ofNat 0) = false) "Invalid typed field path."
  require (((withoutRoot dottedPath.toList).splitOn '.').all segmentAllowed = true) "Invalid typed field path."
  return (withoutRoot dottedPath.toList).splitOn '.'

/-- The longest run of segments that names a member, with the number of its
    segments. -/
def longestKey (row : Json) (segments : List (List Char)) : Nat → Option (Json × Nat)
  | 0 => none
  | count + 1 =>
    match ownProperty row (text.joinWith "." ((segments.take (count + 1)).map String.ofList)) with
    | some value => some (value, count + 1)
    | none => longestKey row segments count

/-- Follow array slots. -/
def followSlots : Json → List Nat → Option Json
  | value, [] => some value
  | .arr items, slot :: rest => items[slot]?.bind fun value => followSlots value rest
  | _, _ => none

/-- Read one segment with slots. -/
def followToken (row : Json) (token : PathToken) : Option Json :=
  if token.indices = [] then none
  else if token.key = "" then followSlots row token.indices
  else (ownProperty row token.key).bind fun value => followSlots value token.indices

/-- Walk the segments that follow the ones already read. -/
def walk (value : Json) : Nat → List (List Char) → Except String (Option Json)
  | _, [] => .ok (some value)
  | read + 1, _ :: rest => walk value read rest
  | 0, segment :: rest =>
    if isContainer value = false then .ok none
    else match longestKey value (segment :: rest) (rest.length + 1) with
      | some (member, count) => walk member (count - 1) rest
      | none =>
        match pathToken segment with
        | none => .error "Invalid typed field path."
        | some token =>
          match followToken value token with
          | some member => walk member 0 rest
          | none => .ok none

/-- The value at a dotted path, `none` when it is missing. -/
def selectPath : RowReader := fun root dottedPath => do
  let segments ← pathSegments dottedPath
  walk root 0 segments

/-- `/(?:^|\+|\/)json(?:$|;)/i`. -/
def mentionsJson (starts : Bool) : List Char → Bool
  | [] => false
  | c :: rest =>
    (starts && ((c :: rest).take 4).map Char.toLower = "json".toList
      && (match (c :: rest).drop 4 with
        | [] => true
        | next :: _ => next = ';'))
      || mentionsJson (c = '+' || c = '/') rest

def isJsonMedia (mediaType : String) : Bool := mentionsJson true mediaType.toList

def bufferText (bytes : List UInt8) : String := .ofList (utf8.decode bytes)

def parseRaw (host : EvidenceHost) (bytes : List UInt8) (mediaType : String) : Except String Json :=
  if isJsonMedia mediaType then
    match host.parseJson (bufferText bytes) with
    | some value => .ok value
    | none => .error "SyntaxError"
  else if (mediaType.toList.take 5).map Char.toLower = "text/".toList then .ok (.str (bufferText bytes))
  else .ok .null

/-- A container, or the container a text writes. -/
def parseBoundedStructuredJson (host : EvidenceHost) (value : Json) : Option Json :=
  match value with
  | .str raw =>
    let trimmed := text.trim raw
    if (text.startsWith trimmed "\x7b" || text.startsWith trimmed "[") && text.utf8ByteLength trimmed ≤ 4194304 then
      (host.parseJson trimmed).filter isContainer
    else none
  | .obj _ | .arr _ => some value
  | _ => none

/-- The text items of the content of a tool result. -/
def textItems (content : Json) : List Json :=
  match content with
  | .arr items => (items.filter fun item => (item.field "type").isText "text").filterMap fun item =>
    match item.field "text" with
    | .str text => some (.str text)
    | _ => none
  | _ => []

/-- The payload of a tool result, when everything that carries one agrees. -/
def extractMcpStructuredPayload (host : EvidenceHost) (row : Json) : Option Json :=
  if (row.field "isError").isBool true || 1 < (textItems (row.field "content")).length then none
  else
    let candidates := ((row.member? "structuredContent").toList ++ textItems (row.field "content")).filterMap
      (parseBoundedStructuredJson host)
    match candidates with
    | [] => none
    | first :: rest => if rest.all fun other => other.canonicalValue == first.canonicalValue then some first else none

/-- The value that paths select from. -/
def retrievalRoot (host : EvidenceHost) (value : Json) : Json :=
  match value with
  | .obj members =>
    if (value.field "content").asArray?.isSome || (value.member? "structuredContent").isSome then
      let envelope := members.filter fun entry => entry.1 ≠ "payload"
      match extractMcpStructuredPayload host value with
      | some payload => .obj (envelope ++ [("payload", payload)])
      | none => .obj envelope
    else if (value.member? "payload").isSome then value
    else .obj (members ++ [("payload", value)])
  | _ => value

def safeBounded (value : Json) (max : Nat) (field : String) (required : Bool) : Except String String := do
  let bounded := text.trim ((value.asString?).getD "")
  require (required = true → bounded ≠ "") (field ++ " is required.")
  require (text.length bounded ≤ max) (field ++ " exceeds " ++ toString max ++ " characters.")
  require (hasControl bounded = false) (field ++ " contains control characters.")
  return bounded

def isSafeId (s : String) : Bool :=
  s.toList ≠ [] && s.toList.length ≤ 240
    && s.toList.all fun c => text.isLower c || text.isUpper c || text.isDigit c || c ∈ ['.', '_', ':', '-']

/-- A part of a scope, `null` when it is not set. -/
def scopePart (value : Json) (field : String) (required : Bool) : Except String Json := do
  let part ← safeBounded value 240 field required
  if part = "" then return .null
  else do
    require (isSafeId part = true) (field ++ " must be a bounded identifier.")
    return .str part

/-- A part the request names agrees with the reference. -/
def scopePartAgrees (ref scope : Json) (key : String) (reason : String) : Except String Unit :=
  if scope.isNullish key then .ok ()
  else do
    let part ← scopePart (scope.field key) ("scope." ++ key) false
    require (ref.field key = part) reason

def assertScope (ref request : Json) : Except String Unit := do
  let scope := request.field "scope"
  let sessionId ← scopePart (scope.field "session_id") "scope.session_id" true
  let assignmentId ← scopePart (scope.field "assignment_id") "scope.assignment_id" false
  require (ref.field "session_id" = sessionId) "Evidence is outside the requested session scope."
  require (ref.field "assignment_id" = assignmentId) "Evidence is outside the requested Assignment scope."
  scopePartAgrees ref scope "run_id" "Evidence is outside the requested run scope."
  scopePartAgrees ref scope "attempt_id" "Evidence is outside the requested attempt scope."
  require (scope.isNullish "generation" ∨ ref.field "generation" = scope.field "generation")
    "Evidence is outside the requested Assignment generation."

/-- `/^ev1_[A-Za-z0-9_-]{32}$/`. -/
def isEvidenceId (s : String) : Bool :=
  text.startsWith s "ev1_" && (s.toList.drop 4).length = 32
    && (s.toList.drop 4).all fun c => text.isLower c || text.isUpper c || text.isDigit c || c = '_' || c = '-'

def readRef (store : EvidenceStore) (evidenceId : Json) : Except String RetainedEvidence :=
  match evidenceId with
  | .str id => do
    require (isEvidenceId id = true) "Invalid evidence_id."
    match store id with
    | none => .error "Evidence not found."
    | some retained => do
      require ((retained.ref.field "schema").isText "revit-operator.evidence-ref.v1" = true
        ∧ retained.ref.field "evidence_id" = evidenceId) "Invalid evidence reference."
      return retained
  | _ => .error "Invalid evidence_id."

/-- The bytes of a retained object, when they are still the ones its reference
    was written for. -/
def readSettledEvidenceBytes (host : EvidenceHost) (retained : RetainedEvidence) : Except String (List UInt8) := do
  require ((retained.ref.field "content_hash").isText ("sha256:" ++ host.sha256 retained.bytes) = true
    ∧ retained.ref.field "byte_count" = ofCount retained.bytes.length) "Evidence content hash verification failed."
  return retained.bytes

/-- A purpose that asks for everything is refused. -/
def isFocusedPurpose (purpose : String) : Bool :=
  !(["all", "all evidence", "everything", "dump all evidence"].contains (String.ofList (purpose.toList.map Char.toLower)))

def isImage : EvidenceRetrievalSelectorV1 → Bool
  | .image => true
  | _ => false

def MAX_RETAINED_IMAGE_BYTES_V1 : Nat := 5 * 1024 * 1024

/-- The byte budget of a retrieval. -/
def retrievalBudget (request : Json) (image : Bool) : Nat :=
  let limit := if image then MAX_RETAINED_IMAGE_BYTES_V1 else 1048576
  let requested := ((request.field "max_bytes").asSafeInt?).getD (if image then limit else 16384)
  max 64 (min requested.toNat limit)

/-- Select from a retained value. -/
def selectEvidence (host : EvidenceHost) (selector : EvidenceRetrievalSelectorV1) (bytes : List UInt8) (selectable : Json)
    (maxBytes : Nat) : Except String EvidenceSelection :=
  match selector with
  | .text_range ⟨start, length, some path⟩ => do
    let value ← selectPath selectable path
    let (selection, pagination) ← selectFieldTextRange host.numbers (value.getD .null) path start length maxBytes
    return ⟨.str selection, false, [("text_pagination", pagination.toJson)]⟩
  | .item_range range =>
    if range.filters.isSome ∨ range.orderBy.isSome then do
      let value ← selectPath selectable range.path
      match value with
      | some (.arr array) => do
        let (selection, pagination) ← selectScalarEvidenceItemPage host.numbers array range maxBytes selectPath
        return ⟨.arr selection, false, [("pagination", pagination)]⟩
      | _ => .error "item_range.path must select an array."
    else host.selectOther selector bytes maxBytes
  | _ => host.selectOther selector bytes maxBytes

/-- Retrieve one focused selection of a retained object. -/
def retrieveEvidence (host : EvidenceHost) (store : EvidenceStore) (request : Json) : Except String Json := do
  let purpose ← safeBounded (request.field "purpose") 300 "purpose" true
  require (isFocusedPurpose purpose = true) "Focused evidence retrieval purpose is required."
  let selector ← parseEvidenceRetrievalSelectorV1 request
  let maxBytes := retrievalBudget request (isImage selector)
  let retained ← readRef store (request.field "evidence_id")
  assertScope retained.ref request
  let bytes ← readSettledEvidenceBytes host retained
  let parsed ← parseRaw host bytes ((retained.ref.field "media_type").asString?.getD "")
  let selected ← selectEvidence host selector bytes (retrievalRoot host parsed) maxBytes
  require (isImage selector = true ∨ jsonBytes host.numbers selected.selection ≤ maxBytes) ("Focused evidence selection exceeds "
    ++ toString maxBytes ++ "-byte limit.")
  return .obj ([("schema", .str "revit-operator.evidence-retrieval.v1"), ("evidence_ref", retained.ref),
    ("selection", selected.selection), ("returned_bytes", ofCount (jsonBytes host.numbers selected.selection)),
    ("complete", .bool selected.complete)] ++ selected.members)

end revit_operator.evidence
