import RevitOperator.Library.Checked
import RevitOperator.Library.JsonText
import RevitOperator.Library.Utf

open checked

namespace revit_operator.contracts

/-- A count JavaScript represents exactly. -/
def count? (value : Json) : Option Nat :=
  (value.asSafeInt?.filter fun count => 0 ≤ count).map Int.toNat

/-- A number of the wire. -/
def ofCount (count : Nat) : Json := .num count

inductive ScalarOp where
  | eq
  | ne
  | lt
  | lte
  | gt
  | gte
deriving DecidableEq

def ScalarOp.name : ScalarOp → String
  | .eq => "eq"
  | .ne => "ne"
  | .lt => "lt"
  | .lte => "lte"
  | .gt => "gt"
  | .gte => "gte"

def ScalarOp.all : List ScalarOp := [.eq, .ne, .lt, .lte, .gt, .gte]

structure EvidenceScalarFilterV1 where
  field : String
  op : ScalarOp
  value : Json
deriving DecidableEq

def EvidenceScalarFilterV1.toJson (filter : EvidenceScalarFilterV1) : Json :=
  .obj [("field", .str filter.field), ("op", .str filter.op.name), ("value", filter.value)]

inductive OrderDirection where
  | asc
  | desc
deriving DecidableEq

def OrderDirection.name : OrderDirection → String
  | .asc => "asc"
  | .desc => "desc"

structure EvidenceNumericOrderV1 where
  field : String
  direction : OrderDirection
deriving DecidableEq

def EvidenceNumericOrderV1.toJson (order : EvidenceNumericOrderV1) : Json :=
  .obj [("field", .str order.field), ("direction", .str order.direction.name)]

structure ItemPageRange where
  path : String
  start : Nat
  count : Nat
  fields : Option (List String)
  filters : Option (List EvidenceScalarFilterV1)
  orderBy : Option EvidenceNumericOrderV1

def fieldsJson (fields : List String) : Json := .arr (fields.map .str)

def filtersJson (filters : List EvidenceScalarFilterV1) : Json := .arr (filters.map EvidenceScalarFilterV1.toJson)

def optional (key : String) (value : Option Json) : List (String × Json) := (value.map fun value => (key, value)).toList

def ItemPageRange.toJson (range : ItemPageRange) : Json :=
  .obj ([("path", .str range.path), ("start", ofCount range.start), ("count", ofCount range.count)]
    ++ optional "fields" (range.fields.map fieldsJson) ++ optional "filters" (range.filters.map filtersJson)
    ++ optional "orderBy" (range.orderBy.map EvidenceNumericOrderV1.toJson))

structure TextRange where
  start : Nat
  length : Nat
  path : Option String

inductive EvidenceRetrievalSelectorV1 where
  | fields (fields : List String)
  | item_range (item_range : ItemPageRange)
  | text_range (text_range : TextRange)
  | target_subset (target_subset : List String)
  | image

def evidenceSelectorInvalid {α : Type} (reason : String) : Except String α :=
  .error ("evidence_retrieval_selector_invalid:" ++ reason)

/-- A check of the selector contract. -/
def valid (condition : Prop) [Decidable condition] (reason : String) : Except String Unit :=
  require condition ("evidence_retrieval_selector_invalid:" ++ reason)

def hasControl (s : String) : Bool := text.hasUnitIn 0 0x1F s

def boundedSelectorString (value : Json) (maximum : Nat) (field : String) : Except String String :=
  match value with
  | .str raw => do
    valid (text.trim raw ≠ "") (field ++ " must not be empty")
    valid (text.length (text.trim raw) ≤ maximum) (field ++ " exceeds " ++ toString maximum ++ " characters")
    valid (hasControl (text.trim raw) = false) (field ++ " contains control characters")
    return text.trim raw
  | _ => evidenceSelectorInvalid (field ++ " must be a string")

/-- A text without surrounding white space or control characters. -/
def isCleanPath : Json → Bool
  | .str raw => text.trim raw = raw && !hasControl raw
  | _ => false

def scalarSelectorField (value : Json) (label : String) : Except String String := do
  valid (isCleanPath value = true) "invalid scalar field path"
  boundedSelectorString value 512 label

/-- The results of a check on every entry, which is told the position of the
    entry. -/
def collect {α β : Type} (check : Nat → α → Except String β) : Nat → List α → Except String (List β)
  | _, [] => .ok []
  | index, entry :: rest => do
    let value ← check index entry
    let values ← collect check (index + 1) rest
    return value :: values

def indexed (label : String) (index : Nat) : String := label ++ "[" ++ toString index ++ "]"

def textHasControl : Json → Bool
  | .str raw => hasControl raw
  | _ => false

def parseItemField (index : Nat) (value : Json) : Except String String := do
  valid (textHasControl value = false) "item_range.fields must not contain control characters"
  boundedSelectorString value 512 (indexed "item_range.fields" index)

/-- The entries of an array of a bounded positive length. -/
def boundedEntries (value : Json) (maximum : Nat) (reason : String) : Except String (List Json) :=
  match value with
  | .arr entries => do
    valid (1 ≤ entries.length ∧ entries.length ≤ maximum) reason
    return entries
  | _ => evidenceSelectorInvalid reason

def parseItemFields (value : Json) : Except String (List String) := do
  let entries ← boundedEntries value 64 "item_range.fields must contain 1..64 paths"
  let fields ← collect parseItemField 0 entries
  valid fields.Nodup "item_range.fields must be unique"
  return fields

/-- A scalar a filter may compare with. -/
def boundedScalar : Json → Bool
  | .null | .bool _ | .num _ => true
  | .str value => text.length value ≤ 512 && !hasControl value
  | _ => false

def parseScalarFilter (index : Nat) (input : Json) : Except String EvidenceScalarFilterV1 :=
  match input.member? "value", ScalarOp.all.find? fun op => (input.field "op").isText op.name with
  | some value, some op => do
    valid (input.onlyKeys ["field", "op", "value"] = true) "invalid scalar filter"
    valid (boundedScalar value = true) "filter value must be a bounded finite scalar"
    valid (op = .eq ∨ op = .ne ∨ value.asNumber?.isSome = true) "ordered filter value must be numeric"
    let field ← scalarSelectorField (input.field "field") (indexed "item_range.filters" index ++ ".field")
    return { field, op, value }
  | _, _ => evidenceSelectorInvalid "invalid scalar filter"

def parseScalarFilters (value : Json) : Except String (List EvidenceScalarFilterV1) := do
  let entries ← boundedEntries value 8 "item_range.filters must contain 1..8 predicates"
  collect parseScalarFilter 0 entries

def parseNumericOrder (value : Json) : Except String EvidenceNumericOrderV1 :=
  match [OrderDirection.asc, .desc].find? fun direction => (value.field "direction").isText direction.name with
  | some direction => do
    valid (value.onlyKeys ["field", "direction"] = true) "orderBy requires field and asc|desc direction"
    let field ← scalarSelectorField (value.field "field") "item_range.orderBy.field"
    return { field, direction }
  | none => evidenceSelectorInvalid "orderBy requires field and asc|desc direction"

/-- Parse a member that is set. -/
def ifPresent {α : Type} (value : Json) (key : String) (parse : Json → Except String α) : Except String (Option α) :=
  match value.member? key with
  | none => .ok none
  | some member => do
    let parsed ← parse member
    return some parsed

def parseItemRange (itemRange : Json) : Except String ItemPageRange :=
  match count? (itemRange.field "start"), count? (itemRange.field "count") with
  | some start, some count => do
    valid (1 ≤ count ∧ count ≤ 256) "item_range requires path, start >= 0, and count 1..256"
    let fields ← ifPresent itemRange "fields" parseItemFields
    valid ((itemRange.member? "filters").isSome ∨ (itemRange.member? "orderBy").isSome → fields.isSome)
      "scalar selection requires item_range.fields"
    let filters ← ifPresent itemRange "filters" parseScalarFilters
    let orderBy ← ifPresent itemRange "orderBy" parseNumericOrder
    let path ← boundedSelectorString (itemRange.field "path") 512 "item_range.path"
    return { path, start, count, fields, filters, orderBy }
  | _, _ => evidenceSelectorInvalid "item_range requires path, start >= 0, and count 1..256"

def parseTextPath (value : Json) : Except String String := do
  let path ← boundedSelectorString value 512 "text_range.path"
  valid (value = .str path) "text_range.path must not contain surrounding whitespace"
  valid (hasControl path = false) "text_range.path contains control characters"
  return path

def parseTextRange (textRange : Json) : Except String TextRange :=
  match count? (textRange.field "start"), count? (textRange.field "length") with
  | some start, some length => do
    valid (1 ≤ length ∧ length ≤ 1048576) "text_range requires start >= 0 and length 1..1048576"
    let path ← ifPresent textRange "path" parseTextPath
    return { start, length, path }
  | _, _ => evidenceSelectorInvalid "text_range requires start >= 0 and length 1..1048576"

def parseFields (value : Json) : Except String (List String) := do
  let entries ← boundedEntries value 64 "fields must contain 1..64 paths"
  collect (fun index entry => boundedSelectorString entry 512 (indexed "fields" index)) 0 entries

def parseTargetSubset (value : Json) : Except String (List String) := do
  let entries ← boundedEntries value 64 "target_subset must contain 1..64 target identities"
  let targets ← collect (fun index entry => boundedSelectorString entry 160 (indexed "target_subset" index)) 0 entries
  return targets.eraseDups

def parseImage (value : Json) : Except String Unit :=
  valid (value = .bool true) "image must be true when supplied"

def soleSelector : List EvidenceRetrievalSelectorV1 → Except String EvidenceRetrievalSelectorV1
  | [active] => .ok active
  | _ => evidenceSelectorInvalid
    "exactly one active selector is required: fields, item_range, text_range, target_subset, or image=true"

/-- The one selector of a request. Members that are set are checked rather
    than ignored. -/
def parseEvidenceRetrievalSelectorV1 (request : Json) : Except String EvidenceRetrievalSelectorV1 := do
  valid (request.isObject = true) "request must be an object"
  let fields ← ifPresent request "fields" parseFields
  let item_range ← ifPresent request "item_range" parseItemRange
  let text_range ← ifPresent request "text_range" parseTextRange
  let target_subset ← ifPresent request "target_subset" parseTargetSubset
  let image ← ifPresent request "image" parseImage
  soleSelector [fields.map .fields, item_range.map .item_range, text_range.map .text_range,
    target_subset.map .target_subset, image.map fun _ => .image].reduceOption

end revit_operator.contracts
