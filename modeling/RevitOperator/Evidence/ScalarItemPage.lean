import RevitOperator.Contracts.EvidenceReparse
import RevitOperator.Evidence.FieldTextRange

open checked
open revit_operator.contracts

/-! A page of the rows of one retained array that pass scalar filters, in the
    order of a numeric field. -/

namespace revit_operator.evidence

/-- A row of the source and its position there. -/
structure SourceRow where
  raw : Json
  row_index : Nat

/-- Read a field of a row, `none` when it is missing. -/
def RowReader : Type := Json → String → Except String (Option Json)

def comparable : Json → Bool
  | .null | .bool _ | .str _ | .num _ => true
  | _ => false

/-- `typeof a === typeof b` of two values that are not `null`. -/
def sameType : Json → Json → Bool
  | .bool _, .bool _ | .str _, .str _ | .num _, .num _ => true
  | _, _ => false

/-- Compare two numbers. -/
def compareNumbers (holds : ℚ → ℚ → Bool) (value expected : Json) : Bool :=
  match value, expected with
  | .num a, .num b => holds a b
  | _, _ => false

def ScalarOp.holds : ScalarOp → Json → Json → Bool
  | .eq, value, expected => value == expected
  | .ne, value, expected => value != expected
  | .lt, value, expected => compareNumbers (fun a b => a < b) value expected
  | .lte, value, expected => compareNumbers (fun a b => a ≤ b) value expected
  | .gt, value, expected => compareNumbers (fun a b => b < a) value expected
  | .gte, value, expected => compareNumbers (fun a b => b ≤ a) value expected

/-- Whether a value passes a filter, `none` when the two cannot be compared. -/
def filterValue (filter : EvidenceScalarFilterV1) (value : Option Json) : Option Bool :=
  match value with
  | none => none
  | some value =>
    if comparable value && (filter.value == .null || (value != .null && sameType value filter.value)) then
      some (ScalarOp.holds filter.op value filter.value)
    else none

structure RowVerdict where
  unavailable : Bool
  matching : Bool

/-- Apply every filter to a row. -/
def filterRow (selectPath : RowReader) (raw : Json) : List EvidenceScalarFilterV1 → Except String RowVerdict
  | [] => .ok ⟨false, true⟩
  | filter :: rest => do
    let value ← selectPath raw filter.field
    let verdict ← filterRow selectPath raw rest
    match filterValue filter value with
    | none => return ⟨true, false⟩
    | some holds => return { verdict with matching := holds && verdict.matching }

/-- The rows that pass every filter, and how many rows could not be
    compared. -/
def matchingRows (selectPath : RowReader) (filters : List EvidenceScalarFilterV1) :
    List SourceRow → Except String (List SourceRow × Nat)
  | [] => .ok ([], 0)
  | row :: rest => do
    let verdict ← filterRow selectPath row.raw filters
    let (rows, nonComparable) ← matchingRows selectPath filters rest
    return (if verdict.matching then row :: rows else rows, if verdict.unavailable then nonComparable + 1 else nonComparable)

/-- A row with the number it is ordered by, `none` when the field holds no
    number. -/
structure KeyedRow where
  row : SourceRow
  key : Option ℚ

def keyedRows (selectPath : RowReader) (field : String) : List SourceRow → Except String (List KeyedRow)
  | [] => .ok []
  | row :: rest => do
    let value ← selectPath row.raw field
    let rows ← keyedRows selectPath field rest
    return ⟨row, value.bind Json.asNumber?⟩ :: rows

/-- The first row does not come after the second. Rows without a number come
    last, and the source order breaks ties. -/
def orderLe (direction : OrderDirection) (a b : KeyedRow) : Bool :=
  match a.key, b.key with
  | none, none => a.row.row_index ≤ b.row.row_index
  | none, some _ => false
  | some _, none => true
  | some x, some y =>
    if x = y then a.row.row_index ≤ b.row.row_index
    else match direction with
      | .asc => x < y
      | .desc => y < x

/-- The rows in the requested order, and how many have no number to be ordered
    by. -/
def orderedRows (selectPath : RowReader) (orderBy : Option EvidenceNumericOrderV1) (rows : List SourceRow) :
    Except String (List SourceRow × Nat) :=
  match orderBy with
  | none => .ok (rows, 0)
  | some order => do
    let keyed ← keyedRows selectPath order.field rows
    return ((keyed.insertionSort fun a b => orderLe order.direction a b = true).map KeyedRow.row,
      (keyed.filter fun entry => entry.key.isNone).length)

/-- The requested fields of a row. -/
def rowCells (selectPath : RowReader) (raw : Json) : List String → Except String (List (String × Option Json))
  | [] => .ok []
  | field :: rest => do
    let value ← selectPath raw field
    let cells ← rowCells selectPath raw rest
    return (field, value) :: cells

def pageItem (row_index : Nat) (cells : List (String × Option Json)) : Json :=
  .obj [("row_index", ofCount row_index), ("values", .obj (cells.map fun cell => (cell.1, cell.2.getD .null))),
    ("missing_fields", fieldsJson ((cells.filter fun cell => cell.2.isNone).map Prod.fst))]

/-- Take rows until the page is full. One row that does not fit alone is an
    error. -/
def takeRows (numbers : Json.NumberText) (selectPath : RowReader) (fields : List String) (maxBytes : Nat) :
    Nat → List Json → List SourceRow → Except String (List Json)
  | _, selection, [] => .ok selection
  | used, selection, row :: rest => do
    let cells ← rowCells selectPath row.raw fields
    let size := jsonBytes numbers (pageItem row.row_index cells) + if selection.isEmpty then 0 else 1
    if maxBytes < used + size then
      if selection.isEmpty then .error ("One evidence row exceeds " ++ toString maxBytes
        ++ "-byte limit. Request fewer itemRange.fields or a larger authorized max_bytes.")
      else .ok selection
    else takeRows numbers selectPath fields maxBytes (used + size) (selection ++ [pageItem row.row_index cells]) rest

/-- What the page covers of the source. -/
def selectionQuery (range : ItemPageRange) (total matched nonComparable unavailable : Nat) (more : Bool) : Json :=
  .obj ([("cursor_basis", .str "selected_rank"), ("source_total_items", ofCount total),
    ("matched_total_items", ofCount matched), ("scanned_retained_rows", ofCount total),
    ("retained_scan_complete", .bool true), ("non_comparable_filter_rows", ofCount nonComparable),
    ("unavailable_numeric_order_rows", ofCount unavailable), ("selected_rows_exhausted", .bool (!more))]
    ++ optional "filters" (range.filters.map filtersJson)
    ++ optional "orderBy" (range.orderBy.map EvidenceNumericOrderV1.toJson))

/-- Where a page of `returned` rows stands among the selected rows. -/
def scalarPagination (range : ItemPageRange) (fields : List String)
    (returned total matched nonComparable unavailable : Nat) : Json :=
  let more : Bool := range.start + returned < matched
  let limited : Bool := returned < min range.count (matched - range.start)
  .obj [("path", .str range.path), ("start", ofCount range.start), ("requested_count", ofCount range.count),
    ("returned_count", ofCount returned), ("total_items", ofCount total), ("has_more", .bool more),
    ("next_start", if more then ofCount (range.start + returned) else .null), ("byte_limited", .bool limited),
    ("requested_rows_complete", .bool (!limited)), ("source_rows_exhausted", .bool false),
    ("fields", fieldsJson fields), ("row_projection", .str "selected_fields"),
    ("selection_query", selectionQuery range total matched nonComparable unavailable more)]

/-- Pure selection over the rows of one retained array. -/
def selectScalarEvidenceItemPage (numbers : Json.NumberText) (array : List Json) (input : ItemPageRange) (maxBytes : Nat)
    (selectPath : RowReader) : Except String (List Json × Json) := do
  let selector ← parseEvidenceRetrievalSelectorV1 (.obj [("item_range", input.toJson)])
  match selector with
  | .item_range range =>
    match range.fields with
    | none => .error "Scalar selection requires fields"
    | some fields => do
      require (array.length ≤ 5000) "Scalar selection source exceeds 5000 retained rows; narrow the original evidence scope"
      let (rows, nonComparable) ← matchingRows selectPath (range.filters.getD [])
        (array.zipIdx.map fun entry => ⟨entry.1, entry.2⟩)
      let (rows, unavailable) ← orderedRows selectPath range.orderBy rows
      let selection ← takeRows numbers selectPath fields maxBytes 2 [] ((rows.drop range.start).take range.count)
      return (selection,
        scalarPagination range fields selection.length array.length rows.length nonComparable unavailable)
  | _ => .error "Scalar selection requires fields"

section spec

variable {numbers : Json.NumberText} {selectPath : RowReader}

/-- Filtering keeps rows of the source in order, and without filters keeps them
    all. -/
theorem matchingRows_ok {filters : List EvidenceScalarFilterV1} {rows kept : List SourceRow} {nonComparable : Nat}
    (h : matchingRows selectPath filters rows = .ok (kept, nonComparable)) :
    kept.Sublist rows ∧ nonComparable ≤ rows.length ∧ (filters = [] → kept = rows ∧ nonComparable = 0) := by
  induction rows generalizing kept nonComparable with
  | nil =>
    cases h
    exact ⟨List.Sublist.refl _, le_rfl, fun _ => ⟨rfl, rfl⟩⟩
  | cons row rest ih =>
    simp only [matchingRows, bind_eq_ok, pure_eq_ok] at h
    obtain ⟨verdict, hverdict, ⟨others, count⟩, hrest, hpair⟩ := h
    obtain ⟨hsub, hcount, hnone⟩ := ih hrest
    cases hpair
    refine ⟨?_, ?_, ?_⟩
    · split
      · exact hsub.cons_cons row
      · exact hsub.cons row
    · rw [List.length_cons]
      split <;> omega
    · rintro rfl
      obtain ⟨rfl, rfl⟩ := hnone rfl
      cases hverdict
      exact ⟨rfl, rfl⟩

theorem keyedRows_ok {field : String} {rows : List SourceRow} {keyed : List KeyedRow}
    (h : keyedRows selectPath field rows = .ok keyed) : keyed.map KeyedRow.row = rows := by
  induction rows generalizing keyed with
  | nil =>
    cases h
    rfl
  | cons row rest ih =>
    simp only [keyedRows, bind_eq_ok, pure_eq_ok] at h
    obtain ⟨value, -, others, hrest, rfl⟩ := h
    rw [List.map_cons, ih hrest]

/-- Ordering rearranges the rows, and without an order leaves them as they
    are. -/
theorem orderedRows_ok {orderBy : Option EvidenceNumericOrderV1} {rows ordered : List SourceRow} {unavailable : Nat}
    (h : orderedRows selectPath orderBy rows = .ok (ordered, unavailable)) :
    ordered.Perm rows ∧ unavailable ≤ rows.length ∧ (orderBy = none → unavailable = 0) := by
  cases orderBy with
  | none =>
    cases h
    exact ⟨List.Perm.refl _, Nat.zero_le _, fun _ => rfl⟩
  | some order =>
    simp only [orderedRows, bind_eq_ok, pure_eq_ok] at h
    obtain ⟨keyed, hkeyed, hpair⟩ := h
    cases hpair
    have hrows := keyedRows_ok hkeyed
    refine ⟨?_, ?_, fun hnone => by cases hnone⟩
    · rw [← hrows]
      exact (List.perm_insertionSort _ keyed).map KeyedRow.row
    · rw [← hrows, List.length_map]
      exact List.length_filter_le _ _

theorem rowCells_ok {raw : Json} {fields : List String} {cells : List (String × Option Json)}
    (h : rowCells selectPath raw fields = .ok cells) : cells.map Prod.fst = fields := by
  induction fields generalizing cells with
  | nil =>
    cases h
    rfl
  | cons field rest ih =>
    simp only [rowCells, bind_eq_ok, pure_eq_ok] at h
    obtain ⟨value, -, others, hrest, rfl⟩ := h
    rw [List.map_cons, ih hrest]

/-- An item of a page shows the fields of a row. -/
def Shows (fields : List String) (row : SourceRow) (item : Json) : Prop :=
  ∃ cells : List (String × Option Json), cells.map Prod.fst = fields ∧ item = pageItem row.row_index cells

theorem takeRows_ok {fields : List String} {maxBytes used : Nat} {selection page : List Json} {rows : List SourceRow}
    (h : takeRows numbers selectPath fields maxBytes used selection rows = .ok page) :
    ∃ shown items, shown <+: rows ∧ page = selection ++ items ∧ List.Forall₂ (Shows fields) shown items
      ∧ (rows ≠ [] → page ≠ []) := by
  induction rows generalizing used selection with
  | nil =>
    cases h
    exact ⟨[], [], List.prefix_rfl, (List.append_nil _).symm, .nil, fun hne => absurd rfl hne⟩
  | cons row rest ih =>
    simp only [takeRows, bind_eq_ok] at h
    obtain ⟨cells, hcells, h⟩ := h
    generalize jsonBytes numbers (pageItem row.row_index cells) + _ = size at h
    split at h
    · split at h
      · cases h
      · next hselection =>
        cases h
        refine ⟨[], [], List.nil_prefix, (List.append_nil _).symm, .nil, fun _ hnil => ?_⟩
        rw [hnil] at hselection
        exact hselection rfl
    · obtain ⟨shown, items, ⟨after, rfl⟩, rfl, hshown, -⟩ := ih h
      refine ⟨row :: shown, pageItem row.row_index cells :: items, ⟨after, rfl⟩, by simp,
        .cons ⟨cells, rowCells_ok hcells, rfl⟩ hshown, fun _ hnil => ?_⟩
      simp at hnil

/-- What a page holds: items for distinct rows of the source, counted against
    the rows that were selected. -/
structure SelectedPage (array : List Json) (range : ItemPageRange) (fields : List String)
    (page : List Json × Json) (matched nonComparable unavailable : Nat) : Prop where
  source : array.length ≤ 5000
  matched_le : matched ≤ array.length
  nonComparable_le : nonComparable ≤ array.length
  unavailable_le : unavailable ≤ matched
  unfiltered : range.filters = none → matched = array.length ∧ nonComparable = 0
  unordered : range.orderBy = none → unavailable = 0
  count_le : page.1.length ≤ range.count
  within : page.1.length ≤ matched - range.start
  advances : range.start < matched → 1 ≤ range.count → page.1 ≠ []
  items : ∃ shown : List SourceRow, List.Forall₂ (Shows fields) shown page.1
    ∧ (shown.map SourceRow.row_index).Nodup ∧ ∀ row ∈ shown, row.row_index < array.length
  pagination : page.2
    = scalarPagination range fields page.1.length array.length matched nonComparable unavailable

theorem selectScalarEvidenceItemPage_ok {array : List Json} {itemRange : Json} {range : ItemPageRange} {maxBytes : Nat}
    {page : List Json × Json} (hrange : parseItemRange itemRange = .ok range)
    (h : selectScalarEvidenceItemPage numbers array range maxBytes selectPath = .ok page) :
    ∃ fields matched nonComparable unavailable, range.fields = some fields
      ∧ SelectedPage array range fields page matched nonComparable unavailable := by
  rw [selectScalarEvidenceItemPage, selector_again hrange, ok_bind] at h
  dsimp only at h
  split at h
  · cases h
  · next fields hfields =>
    simp only [bind_eq_ok, require_eq_ok, exists_const, pure_eq_ok] at h
    obtain ⟨hsource, ⟨kept, nonComparable⟩, hkept, ⟨ordered, unavailable⟩, hordered, selection, hselection, rfl⟩ := h
    dsimp only at hordered hselection
    obtain ⟨hsub, hnonComparable, hall⟩ := matchingRows_ok hkept
    obtain ⟨hperm, hunavailable, hnone⟩ := orderedRows_ok hordered
    obtain ⟨shown, items, hleading, hselected, hshown, hadvances⟩ := takeRows_ok hselection
    obtain rfl : selection = items := hselected
    have hcount := hleading.length_le
    rw [List.length_take, List.length_drop] at hcount
    have hlength := hshown.length_eq
    have hrows : shown.Sublist ordered := (hleading.sublist.trans (List.take_sublist _ _)).trans (List.drop_sublist _ _)
    have hindices : (array.zipIdx.map fun entry => (⟨entry.1, entry.2⟩ : SourceRow)).map SourceRow.row_index
        = List.range array.length := by
      rw [List.map_map]
      have hcompose : (SourceRow.row_index ∘ fun entry : Json × Nat => (⟨entry.1, entry.2⟩ : SourceRow)) = Prod.snd := rfl
      rw [hcompose, List.zipIdx_map_snd, List.range_eq_range']
    have hkeptIndices : (kept.map SourceRow.row_index).Sublist (List.range array.length) := by
      rw [← hindices]
      exact hsub.map _
    have horderedIndices : (ordered.map SourceRow.row_index).Nodup :=
      (hperm.map SourceRow.row_index).nodup_iff.2 (hkeptIndices.nodup List.nodup_range)
    have hkeptLength := hsub.length_le
    rw [List.length_map, List.length_zipIdx] at hkeptLength hnonComparable
    have hlengths := hperm.length_eq
    have hfull : selection.length ≤ range.count := by omega
    have hwithin : selection.length ≤ ordered.length - range.start := by omega
    refine ⟨fields, ordered.length, nonComparable, unavailable, hfields, ?_⟩
    refine ⟨hsource, by omega, hnonComparable, by omega, ?_, hnone, hfull, hwithin, ?_, ?_, rfl⟩
    · intro hfilters
      rw [hfilters] at hall
      obtain ⟨rfl, hzero⟩ := hall rfl
      refine ⟨?_, hzero⟩
      rw [hlengths, List.length_map, List.length_zipIdx]
    · intro hstart hpositive
      apply hadvances
      intro hnil
      have hempty := congrArg List.length hnil
      rw [List.length_take, List.length_drop, List.length_nil] at hempty
      omega
    · refine ⟨shown, hshown, (hrows.map SourceRow.row_index).nodup horderedIndices, ?_⟩
      intro row hrow
      have hindex := hkeptIndices.subset
        (List.mem_map_of_mem (f := SourceRow.row_index) (hperm.subset (hrows.subset hrow)))
      exact List.mem_range.1 hindex

end spec

end revit_operator.evidence
