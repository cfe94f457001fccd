import RevitOperator.Contracts.EvidenceSelector

open checked

/-! What a peer checks of a page of retained evidence before it relies on
    it. -/

namespace revit_operator.contracts

/-- `Object.hasOwn(value, key)` of an object. -/
def hasOwn (value : Json) (key : String) : Bool := (value.member? key).isSome

/-- The result an envelope carries, or the envelope itself. -/
def carriedResult (envelope : Json) : Json :=
  if envelope.isNullish "result" then envelope else envelope.field "result"

/-- A member, or a default in place of a missing one. -/
def fieldOr (value : Json) (key : String) (default : Json) : Json :=
  if value.isNullish key then default else value.field key

/-- The page names the requested range and the coverage of the whole retained
    source. -/
def coversSource (numbers : Json.NumberText) (range : ItemPageRange) (r p q : Json) (rows : List Json)
    (total matched nonComparable unavailable : Nat) : Bool :=
  (r.field "schema").isText "revit-operator.evidence-retrieval.v1" && (r.field "complete").isBool false
    && (p.field "path").isText range.path && (p.field "start").isNumber range.start
    && (p.field "requested_count").isNumber range.count && (p.field "returned_count").isNumber rows.length
    && rows.length ≤ range.count && (q.field "cursor_basis").isText "selected_rank" && total ≤ 5000
    && (p.field "total_items").isNumber total && matched ≤ total && (q.field "scanned_retained_rows").isNumber total
    && (q.field "retained_scan_complete").isBool true && (p.field "source_rows_exhausted").isBool false
    && (p.field "row_projection").isText "selected_fields"
    && Json.stringify numbers (p.field "fields") = Json.stringify numbers ((range.fields.map fieldsJson).getD .null)
    && Json.stringify numbers (fieldOr q "filters" (.arr []))
      = Json.stringify numbers ((range.filters.map filtersJson).getD (.arr []))
    && Json.stringify numbers (fieldOr q "orderBy" .null)
      = Json.stringify numbers ((range.orderBy.map EvidenceNumericOrderV1.toJson).getD .null)
    && nonComparable ≤ total && unavailable ≤ matched
    && (range.filters.isSome || (nonComparable = 0 && matched = total)) && (range.orderBy.isSome || unavailable = 0)

/-- The position of the page agrees with the rows it returns. -/
def continues (range : ItemPageRange) (p q : Json) (rows : List Json) (matched : Nat) : Bool :=
  let available := matched - range.start
  let more : Bool := range.start + rows.length < matched
  let limited : Bool := rows.length < min range.count available
  rows.length ≤ available && (p.field "has_more").isBool more
    && p.member? "next_start" == some (if more then ofCount (range.start + rows.length) else .null)
    && (q.field "selected_rows_exhausted").isBool (!more) && (p.field "byte_limited").isBool limited
    && (p.field "requested_rows_complete").isBool (!limited) && !(more && rows.isEmpty)

/-- A row carries every requested field once. -/
def projectsFields (fields : List String) (total : Nat) (row : Json) : Bool :=
  row.isObject && (row.field "values").isObject
    && (match row.field "missing_fields" with
      | .arr missing => missing.all (fields.map Json.str).contains && decide missing.Nodup
      | _ => false)
    && (row.field "values").members.length = fields.length && fields.all (hasOwn (row.field "values"))
    && (match count? (row.field "row_index") with
      | some index => index < total
      | none => false)

/-- The rows are projections of distinct rows of the source. -/
def distinctRows (fields : List String) (total : Nat) (rows : List Json) : Bool :=
  rows.all (projectsFields fields total) && decide (rows.map fun row => row.field "row_index").Nodup

def scalarPageInvalid : String :=
  "scalar_evidence_response_invalid: peer must return the exact partial scalar-selection coverage"

/-- Refuse a response that does not carry out the requested selection. -/
def assertScalarPage (numbers : Json.NumberText) (range : ItemPageRange) (r : Json) : Except String Unit :=
  let p := r.field "pagination"
  let q := p.field "selection_query"
  match r.field "selection", count? (q.field "source_total_items"), count? (q.field "matched_total_items"),
      count? (q.field "non_comparable_filter_rows"), count? (q.field "unavailable_numeric_order_rows") with
  | .arr rows, some total, some matched, some nonComparable, some unavailable => do
    require (coversSource numbers range r p q rows total matched nonComparable unavailable = true) scalarPageInvalid
    require (continues range p q rows matched = true) scalarPageInvalid
    require (distinctRows (range.fields.getD []) total rows = true) scalarPageInvalid
  | _, _, _, _, _ => .error scalarPageInvalid

def assertScalarEvidencePageV1 (numbers : Json.NumberText) (request envelope : Json) : Except String Unit := do
  let selector ← parseEvidenceRetrievalSelectorV1 request
  match selector with
  | .item_range range =>
    if range.filters.isSome ∨ range.orderBy.isSome then assertScalarPage numbers range (carriedResult envelope)
    else .ok ()
  | _ => .ok ()

/-- The page of a text carries whole characters and agrees with its position in
    the text. -/
def textPageAgrees (path : Json) (start length : Nat) (result p : Json) (selection : String) (total source : Nat) :
    Bool :=
  let encoded := utf8.encode selection.toList
  let n := encoded.length
  let more : Bool := start + n < total
  (result.field "complete").isBool false && p.field "path" == path && (p.field "start").isNumber start
    && (p.field "requested_length").isNumber length && utf8.decodeFatal encoded = some selection.toList
    && start ≤ total && total ≤ source && (p.field "returned_utf8_bytes").isNumber n && n ≤ length && n ≤ total - start
    && (p.field "has_more").isBool more
    && p.member? "next_start" == some (if more then ofCount (start + n) else .null) && !(more && n = 0)
    && (p.field "field_complete").isBool (start = 0 && !more)
    && (p.field "byte_limited").isBool (n < min length (total - start))

def textPageInvalid : String := "focused_evidence_text_pagination_invalid"

def assertEvidenceTextRangePageV1 (selector response : Json) : Except String Unit :=
  let range := selector.field "text_range"
  let result := response.field "result"
  match range.member? "path" with
  | none => require (result.member? "text_pagination" = none) "focused_evidence_unexpected_text_pagination"
  | some path =>
    let p := result.field "text_pagination"
    match path, count? (range.field "start"), count? (range.field "length"), result.field "selection",
        count? (p.field "total_utf8_bytes"), count? ((result.field "evidence_ref").field "byte_count") with
    | .str named, some start, some length, .str selection, some total, some source =>
      require (named ≠ "" ∧ 1 ≤ length
        ∧ textPageAgrees path start length result p selection total source = true) textPageInvalid
    | _, _, _, _, _, _ => .error textPageInvalid

end revit_operator.contracts
