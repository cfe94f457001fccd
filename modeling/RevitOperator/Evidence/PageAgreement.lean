import RevitOperator.Contracts.EvidencePages
import RevitOperator.Library.JsonWire
import RevitOperator.Evidence.EvidenceStore

open checked
open revit_operator.contracts

/-! A page the store returns against the check its peer makes of it. -/

namespace revit_operator.evidence

/-- The response to a retrieval as the peer parses it. -/
def response (result : Json) : Json := (Json.obj [("ok", .bool true), ("result", result)]).enumerated

/-- The peer accepts the page it asked for. -/
def PageAccepted (host : EvidenceHost) (request result : Json) : Prop :=
  (∀ range, parseEvidenceRetrievalSelectorV1 request = .ok (.item_range range) →
      range.filters.isSome ∨ range.orderBy.isSome →
      assertScalarEvidencePageV1 host.numbers request (response result) = .ok ())
    ∧ ∀ range, parseEvidenceRetrievalSelectorV1 request = .ok (.text_range range) → range.path.isSome →
      assertEvidenceTextRangePageV1 request (response result) = .ok ()

/-- A text the peer accepts pages of: no character at the start of the page that
    a decoder drops, and no more bytes than the retained object has. -/
def TransmissibleText (host : EvidenceHost) (store : EvidenceStore) (request : Json) : Prop :=
  ∀ range path retained value text, parseEvidenceRetrievalSelectorV1 request = .ok (.text_range range) →
    range.path = some path → readRef store (request.field "evidence_id") = .ok retained →
    parseRaw host retained.bytes ((retained.ref.field "media_type").asString?.getD "") = .ok value →
    selectPath (retrievalRoot host value) path = .ok (some (.str text)) →
    (utf8.encode text.toList).length ≤ retained.bytes.length
      ∧ ¬ [0xEF, 0xBB, 0xBF] <+: (utf8.encode text.toList).drop range.start

theorem enumerated_fieldsJson (fields : List String) : (fieldsJson fields).enumerated = fieldsJson fields := by
  rw [fieldsJson, Json.enumerated_arr, List.map_map]
  rfl

@[simp]
theorem enumerated_ofCount (count : Nat) : (ofCount count).enumerated = ofCount count :=
  rfl

@[simp]
theorem isNumber_ofCount (count other : Nat) : (ofCount count).isNumber other = decide (count = other) := by
  simp [ofCount, Json.isNumber]

section envelope

variable {result : Json}

theorem response_result (result : Json) : (response result).field "result" = result.enumerated := by
  rw [response, Json.field_enumerated]
  · rfl
  · exact (by decide : ["ok", "result"].Nodup)

theorem carriedResult_response {members : List (String × Json)} (hresult : result = .obj members) :
    carriedResult (response result) = result.enumerated := by
  have hmember : (response result).member? "result" = some result.enumerated := by
    rw [response, Json.member?_enumerated]
    · rfl
    · exact (by decide : ["ok", "result"].Nodup)
  have hpresent : (response result).isNullish "result" = false := by
    rw [Json.isNullish, hmember, hresult, Json.enumerated_obj]
  rw [carriedResult, hpresent, if_neg (by simp), response_result]

end envelope

section scalar

variable {array : List Json} {range : ItemPageRange} {fields : List String} {page : List Json × Json}
  {matched nonComparable unavailable : Nat}

theorem pagination_keys (range : ItemPageRange) (fields : List String)
    (returned total matched nonComparable unavailable : Nat) :
    (scalarPagination range fields returned total matched nonComparable unavailable).KeysDistinct :=
  (by decide : ["path", "start", "requested_count", "returned_count", "total_items", "has_more", "next_start", "byte_limited",
    "requested_rows_complete", "source_rows_exhausted", "fields", "row_projection", "selection_query"].Nodup)

theorem optional_keys (key : String) (value : Option Json) : ((optional key value).map Prod.fst).Sublist [key] := by
  cases value with
  | none => exact List.nil_sublist _
  | some value => exact List.Sublist.refl _

theorem query_keys (range : ItemPageRange) (total matched nonComparable unavailable : Nat) (more : Bool) :
    (selectionQuery range total matched nonComparable unavailable more).KeysDistinct := by
  have hall : (["cursor_basis", "source_total_items", "matched_total_items", "scanned_retained_rows",
    "retained_scan_complete", "non_comparable_filter_rows", "unavailable_numeric_order_rows", "selected_rows_exhausted"]
    ++ ["filters"] ++ ["orderBy"]).Nodup := by decide
  refine List.Sublist.nodup ?_ hall
  rw [selectionQuery, Json.members, List.map_append, List.map_append]
  exact ((List.Sublist.refl _).append (optional_keys _ _)).append (optional_keys _ _)

theorem pageItem_keys (row_index : Nat) (cells : List (String × Option Json)) : (pageItem row_index cells).KeysDistinct :=
  (by decide : ["row_index", "values", "missing_fields"].Nodup)

theorem projectsFields_of_shows {row : SourceRow} {item : Json} (hnodup : fields.Nodup) (hshows : Shows fields row item)
    (hlt : row.row_index < array.length) (hsource : array.length ≤ 5000) :
    projectsFields fields array.length item.enumerated = true
      ∧ item.enumerated.field "row_index" = ofCount row.row_index := by
  obtain ⟨cells, rfl, rfl⟩ := hshows
  have hread := Json.field_enumerated (pageItem_keys row.row_index cells)
  have hindex : (pageItem row.row_index cells).enumerated.field "row_index" = ofCount row.row_index := hread "row_index"
  have hvalues : (pageItem row.row_index cells).enumerated.field "values"
      = (Json.obj (cells.map fun cell => (cell.1, cell.2.getD .null))).enumerated := hread "values"
  have hmissing : (pageItem row.row_index cells).enumerated.field "missing_fields"
      = fieldsJson ((cells.filter fun cell => cell.2.isNone).map Prod.fst) := by
    rw [hread, ← enumerated_fieldsJson]
    rfl
  have hkeys : (Json.obj (cells.map fun cell => (cell.1, cell.2.getD .null))).members.map Prod.fst
      = cells.map Prod.fst := by
    simp [Json.members, Function.comp_def]
  have hdistinct : (Json.obj (cells.map fun cell => (cell.1, cell.2.getD .null))).KeysDistinct := by
    rw [Json.KeysDistinct, hkeys]
    exact hnodup
  have habsent : ((cells.filter fun cell => cell.2.isNone).map Prod.fst).Sublist (cells.map Prod.fst) :=
    List.filter_sublist.map Prod.fst
  refine ⟨?_, hindex⟩
  rw [projectsFields, hvalues, hmissing, hindex, fieldsJson]
  simp only [Bool.and_eq_true, decide_eq_true_eq, Json.isObject_enumerated]
  refine ⟨⟨⟨⟨⟨rfl, rfl⟩, ?_, ?_⟩, ?_⟩, ?_⟩, ?_⟩
  · rw [List.all_eq_true]
    intro value hvalue
    obtain ⟨field, hfield, rfl⟩ := List.mem_map.1 hvalue
    simpa using habsent.subset hfield
  · exact (habsent.nodup hnodup).map fun _ _ h => Json.str.inj h
  · have hlength := ((Json.keys_enumerated (Json.obj (cells.map fun cell => (cell.1, cell.2.getD .null)))).trans
      (List.Perm.of_eq hkeys)).length_eq
    simpa using hlength
  · rw [List.all_eq_true]
    intro field hfield
    obtain ⟨cell, hcell, rfl⟩ := List.mem_map.1 hfield
    rw [hasOwn, Json.member?_enumerated hdistinct,
      (Json.member?_eq_some_iff hdistinct).2 (List.mem_map.2 ⟨cell, hcell, rfl⟩)]
    rfl
  · rw [count?_ofCount (by omega)]
    simpa using hlt

theorem distinctRows_of_page (hnodup : fields.Nodup)
    (hpage : SelectedPage array range fields page matched nonComparable unavailable) :
    distinctRows fields array.length (page.1.map Json.enumerated) = true := by
  obtain ⟨shown, hshown, hindices, hlt⟩ := hpage.items
  have hsource := hpage.source
  clear hpage
  obtain ⟨items, pagination⟩ := page
  dsimp only at hshown ⊢
  have hrows : (∀ item ∈ items.map Json.enumerated, projectsFields fields array.length item = true)
      ∧ (items.map Json.enumerated).map (fun row => row.field "row_index")
        = (shown.map SourceRow.row_index).map ofCount := by
    clear hindices
    induction hshown with
    | nil => exact ⟨List.forall_mem_nil _, rfl⟩
    | cons hshows hrest ih =>
      obtain ⟨hall, hmap⟩ := ih fun row hrow => hlt row (List.mem_cons_of_mem _ hrow)
      obtain ⟨hfirst, hindex⟩ := projectsFields_of_shows hnodup hshows (hlt _ List.mem_cons_self) hsource
      refine ⟨?_, ?_⟩
      · rw [List.map_cons]
        exact List.forall_mem_cons.2 ⟨hfirst, hall⟩
      · rw [List.map_cons, List.map_cons, hmap, hindex]
        rfl
  rw [distinctRows, Bool.and_eq_true, List.all_eq_true, decide_eq_true_eq, hrows.2]
  refine ⟨hrows.1, hindices.map fun a b hab => ?_⟩
  simpa [ofCount] using hab

theorem query_members (range : ItemPageRange) (total matched nonComparable unavailable : Nat) (more : Bool) :
    (selectionQuery range total matched nonComparable unavailable more).member? "filters" = range.filters.map filtersJson
    ∧ (selectionQuery range total matched nonComparable unavailable more).member? "orderBy"
      = range.orderBy.map EvidenceNumericOrderV1.toJson := by
  obtain ⟨path, start, count, fields, filters, orderBy⟩ := range
  cases filters <;> cases orderBy <;> exact ⟨rfl, rfl⟩

theorem stringify_fieldOr (numbers : Json.NumberText) {value : Json} (default : Json) {key : String} {member : Option Json}
    (hmember : value.member? key = member.map Json.enumerated) (hnull : ∀ present, member = some present → present ≠ .null) :
    Json.stringify numbers (fieldOr value key default) = Json.stringify numbers (member.getD default) := by
  cases member with
  | none => rw [fieldOr, Json.isNullish, hmember, Option.map_none, if_pos rfl, Option.getD_none]
  | some present =>
    have hpresent : value.isNullish key = false := by
      rw [Json.isNullish, hmember, Option.map_some]
      cases present with
      | null => exact absurd rfl (hnull _ rfl)
      | _ => rfl
    rw [fieldOr, hpresent, if_neg (by simp), Json.field, hmember]
    simp

theorem coversSource_of_page (numbers : Json.NumberText) {r : Json} (hfields : range.fields = some fields)
    (hschema : r.field "schema" = .str "revit-operator.evidence-retrieval.v1") (hcomplete : r.field "complete" = .bool false)
    (hpage : SelectedPage array range fields page matched nonComparable unavailable) :
    coversSource numbers range r page.2.enumerated (page.2.enumerated.field "selection_query")
      (page.1.map Json.enumerated) array.length matched nonComparable unavailable = true := by
  have hread := Json.field_enumerated
    (pagination_keys range fields page.1.length array.length matched nonComparable unavailable)
  rw [← hpage.pagination] at hread
  have hquery : page.2.enumerated.field "selection_query" = (selectionQuery range array.length matched nonComparable unavailable
      (range.start + page.1.length < matched)).enumerated := by
    rw [hread, hpage.pagination]
    rfl
  have hkeys := query_keys range array.length matched nonComparable unavailable (range.start + page.1.length < matched)
  obtain ⟨hfilters, horder⟩ :=
    query_members range array.length matched nonComparable unavailable (range.start + page.1.length < matched)
  have hfilters := stringify_fieldOr numbers (.arr []) (by rw [Json.member?_enumerated hkeys, hfilters])
    (fun present hpresent => by
      obtain ⟨filters, -, rfl⟩ := Option.map_eq_some_iff.1 hpresent
      rintro ⟨⟩)
  have horder := stringify_fieldOr numbers .null (by rw [Json.member?_enumerated hkeys, horder])
    (fun present hpresent => by
      obtain ⟨order, -, rfl⟩ := Option.map_eq_some_iff.1 hpresent
      rintro ⟨⟩)
  rw [coversSource, hquery, hfilters, horder]
  simp only [hread, Json.field_enumerated hkeys, hschema, hcomplete, Json.stringify_enumerated, hfields]
  rw [hpage.pagination]
  have hunfiltered : range.filters.isSome = true ∨ nonComparable = 0 ∧ matched = array.length := by
    cases hnone : range.filters with
    | none => exact .inr (hpage.unfiltered hnone).symm
    | some filters => exact .inl rfl
  have hunordered : range.orderBy.isSome = true ∨ unavailable = 0 := by
    cases hnone : range.orderBy with
    | none => exact .inr (hpage.unordered hnone)
    | some order => exact .inl rfl
  simp [scalarPagination, selectionQuery, Json.field, Json.member?, Json.members, Json.isText, Json.isBool,
    hpage.count_le, hpage.source, hpage.matched_le, hpage.nonComparable_le, hpage.unavailable_le, hunfiltered, hunordered]

theorem continues_of_page (hcount : 1 ≤ range.count)
    (hpage : SelectedPage array range fields page matched nonComparable unavailable) :
    continues range page.2.enumerated (page.2.enumerated.field "selection_query") (page.1.map Json.enumerated) matched
      = true := by
  have hkeys := pagination_keys range fields page.1.length array.length matched nonComparable unavailable
  have hread := Json.field_enumerated hkeys
  have hnext : page.2.enumerated.member? "next_start" = some
      (if range.start + page.1.length < matched then ofCount (range.start + page.1.length) else .null) := by
    rw [hpage.pagination, Json.member?_enumerated hkeys]
    by_cases hmore : range.start + page.1.length < matched <;>
      simp [scalarPagination, Json.member?, Json.members, hmore]
  have hquery : page.2.enumerated.field "selection_query" = (selectionQuery range array.length matched nonComparable unavailable
      (range.start + page.1.length < matched)).enumerated := by
    rw [hpage.pagination, hread]
    rfl
  have hexhausted := Json.field_enumerated
    (query_keys range array.length matched nonComparable unavailable (range.start + page.1.length < matched))
    "selected_rows_exhausted"
  have hadvances : matched ≤ range.start + page.1.length ∨ page.1 ≠ [] := by
    by_cases hmore : matched ≤ range.start + page.1.length
    · exact .inl hmore
    · exact .inr (hpage.advances (by omega) hcount)
  rw [continues, hnext, hquery, hexhausted, hpage.pagination]
  simp only [hread]
  simp [scalarPagination, selectionQuery, Json.field, Json.member?, Json.members, Json.isBool, hpage.within, hadvances]

/-- A response that carries a page of selected rows. -/
def pageResult (ref selection : Json) (bytes : Nat) (complete : Bool) (key : String) (page : Json) : Json :=
  .obj ([("schema", .str "revit-operator.evidence-retrieval.v1"), ("evidence_ref", ref), ("selection", selection),
    ("returned_bytes", ofCount bytes), ("complete", .bool complete)] ++ [(key, page)])

theorem pageResult_keys (ref selection : Json) (bytes : Nat) (complete : Bool) {key : String} (page : Json)
    (hkey : key ∈ ["pagination", "text_pagination"]) : (pageResult ref selection bytes complete key page).KeysDistinct := by
  simp only [List.mem_cons, List.not_mem_nil, or_false] at hkey
  obtain rfl | rfl := hkey
  · exact (by decide : ["schema", "evidence_ref", "selection", "returned_bytes", "complete", "pagination"].Nodup)
  · exact (by decide : ["schema", "evidence_ref", "selection", "returned_bytes", "complete", "text_pagination"].Nodup)

theorem assertScalarPage_of_page (numbers : Json.NumberText) {ref : Json} {bytes : Nat} (hfields : range.fields = some fields)
    (hnodup : fields.Nodup) (hcount : 1 ≤ range.count)
    (hpage : SelectedPage array range fields page matched nonComparable unavailable) :
    assertScalarPage numbers range (pageResult ref (.arr page.1) bytes false "pagination" page.2).enumerated = .ok () := by
  have hread := Json.field_enumerated
    (pageResult_keys ref (.arr page.1) bytes false page.2 (show "pagination" ∈ _ from List.mem_cons_self))
  have hrows : (pageResult ref (.arr page.1) bytes false "pagination" page.2).enumerated.field "selection"
      = .arr (page.1.map Json.enumerated) := by
    rw [hread, ← Json.enumerated_arr]
    rfl
  have hpagination : (pageResult ref (.arr page.1) bytes false "pagination" page.2).enumerated.field "pagination"
      = page.2.enumerated := hread "pagination"
  have hquery : page.2.enumerated.field "selection_query" = (selectionQuery range array.length matched nonComparable unavailable
      (range.start + page.1.length < matched)).enumerated := by
    rw [hpage.pagination, Json.field_enumerated
      (pagination_keys range fields page.1.length array.length matched nonComparable unavailable)]
    rfl
  have hcounts := Json.field_enumerated
    (query_keys range array.length matched nonComparable unavailable (range.start + page.1.length < matched))
  have htotal : (page.2.enumerated.field "selection_query").field "source_total_items" = ofCount array.length := by
    rw [hquery, hcounts]
    rfl
  have hmatched : (page.2.enumerated.field "selection_query").field "matched_total_items" = ofCount matched := by
    rw [hquery, hcounts]
    rfl
  have hnonComparable : (page.2.enumerated.field "selection_query").field "non_comparable_filter_rows"
      = ofCount nonComparable := by
    rw [hquery, hcounts]
    rfl
  have hunavailable : (page.2.enumerated.field "selection_query").field "unavailable_numeric_order_rows"
      = ofCount unavailable := by
    rw [hquery, hcounts]
    rfl
  have hsource := hpage.source
  have hmatched_le := hpage.matched_le
  have hnonComparable_le := hpage.nonComparable_le
  have hunavailable_le := hpage.unavailable_le
  rw [assertScalarPage, hrows, hpagination, htotal, hmatched, hnonComparable, hunavailable, count?_ofCount (by omega),
    count?_ofCount (by omega), count?_ofCount (by omega), count?_ofCount (by omega), hfields]
  simp only [check_bind_eq_ok, require_eq_ok]
  exact ⟨coversSource_of_page numbers hfields (hread "schema") (hread "complete") hpage, continues_of_page hcount hpage,
    distinctRows_of_page hnodup hpage⟩

end scalar

section text

variable {cs before middle after : List Char}

/-- A page begins with the character a decoder drops when the text goes on with
    it. -/
theorem mark_iff_of_page (hadvances : after ≠ [] → middle ≠ []) :
    [0xEF, 0xBB, 0xBF] <+: utf8.encode middle ↔ [0xEF, 0xBB, 0xBF] <+: utf8.encode (middle ++ after) := by
  rw [utf8.mark_prefix_iff, utf8.mark_prefix_iff]
  cases middle with
  | nil =>
    by_cases hafter : after = []
    · rw [hafter, List.append_nil]
    · exact absurd rfl (hadvances hafter)
  | cons c middle => rfl

theorem textPagination_keys (path : String) (start length returned total : Nat) :
    (textPagination path start length returned total).toJson.KeysDistinct :=
  (by decide : ["path", "start", "requested_length", "returned_utf8_bytes", "total_utf8_bytes", "next_start", "has_more",
    "field_complete", "byte_limited"].Nodup)

/-- The page of a text agrees with its position exactly when the peer can decode
    it and the text is no longer than its source. -/
theorem textPageAgrees_iff {path : String} {start length source : Nat} {result : Json}
    (hcs : cs = before ++ (middle ++ after)) (hstart : (utf8.encode before).length = start)
    (hlength : (utf8.encode middle).length ≤ length) (hadvances : after ≠ [] → middle ≠ [])
    (hcomplete : result.field "complete" = .bool false) :
    textPageAgrees (.str path) start length result
        (textPagination path start length (utf8.encode middle).length (utf8.encode cs).length).toJson.enumerated
        (.ofList middle) (utf8.encode cs).length source = true
      ↔ (utf8.encode cs).length ≤ source ∧ ¬ [0xEF, 0xBB, 0xBF] <+: (utf8.encode cs).drop start := by
  have hkeys := textPagination_keys path start length (utf8.encode middle).length (utf8.encode cs).length
  have hread := Json.field_enumerated hkeys
  have hdrop : (utf8.encode cs).drop start = utf8.encode (middle ++ after) := by
    rw [hcs, utf8.encode_append, ← hstart, List.drop_left]
  have htotal : (utf8.encode cs).length = start + ((utf8.encode middle).length + (utf8.encode after).length) := by
    rw [hcs, utf8.encode_append, utf8.encode_append, List.length_append, List.length_append, hstart]
  have hnext : (textPagination path start length (utf8.encode middle).length (utf8.encode cs).length).toJson.enumerated.member?
      "next_start" = some (if start + (utf8.encode middle).length < (utf8.encode cs).length
        then ofCount (start + (utf8.encode middle).length) else .null) := by
    rw [Json.member?_enumerated hkeys]
    by_cases hmore : start + (utf8.encode middle).length < (utf8.encode cs).length <;>
      simp [textPagination, TextPagination.toJson, Json.member?, Json.members, hmore]
  have hnonempty : (utf8.encode cs).length ≤ start + (utf8.encode middle).length ∨ utf8.encode middle ≠ [] := by
    by_cases hafter : after = []
    · left
      rw [htotal, hafter]
      simp
    · right
      intro hnil
      exact hadvances hafter (utf8.encode_injective hnil)
  have hlimited : decide (start + (utf8.encode middle).length < min (utf8.encode cs).length (start + length))
      = decide ((utf8.encode middle).length < min length ((utf8.encode cs).length - start)) :=
    decide_eq_decide.2 (by omega)
  rw [hdrop, ← mark_iff_of_page hadvances, ← utf8.decodeFatal_encode_eq_some, textPageAgrees, hnext]
  simp only [hread, hcomplete, String.toList_ofList]
  have hbegins : start ≤ (utf8.encode cs).length := by omega
  have hfits : (utf8.encode middle).length ≤ (utf8.encode cs).length - start := by omega
  simp [textPagination, TextPagination.toJson, Json.field, Json.member?, Json.members, Json.isBool, hbegins, hfits, hlength,
    hnonempty, hlimited, and_comm, -lt_inf_iff]

theorem parseTextRange_ok {member : Json} {range : TextRange} (h : parseTextRange member = .ok range) :
    count? (member.field "start") = some range.start ∧ count? (member.field "length") = some range.length
      ∧ 1 ≤ range.length ∧ ∀ path, range.path = some path → member.member? "path" = some (.str path) ∧ path ≠ "" := by
  rw [parseTextRange] at h
  split at h
  · next start length hstart hlength =>
    simp only [bind_eq_ok, valid_eq_ok, pure_eq_ok, exists_const] at h
    obtain ⟨hbounds, path, hpath, rfl⟩ := h
    refine ⟨hstart, hlength, hbounds.1, ?_⟩
    rintro path rfl
    obtain ⟨value, hmember, hparsed⟩ := member_of_ifPresent hpath
    simp only [parseTextPath, bind_eq_ok, valid_eq_ok, pure_eq_ok, exists_const] at hparsed
    obtain ⟨parsed, hbounded, hsame, -, rfl⟩ := hparsed
    obtain ⟨raw, -, -, hne, -, -⟩ := boundedSelectorString_eq_ok.1 hbounded
    exact ⟨by rw [hmember, hsame], hne⟩
  · cases h

end text

section retrieve

variable {host : EvidenceHost} {store : EvidenceStore} {request result : Json}

theorem retrieveEvidence_ok (h : retrieveEvidence host store request = .ok result) :
    ∃ selector retained value selected, parseEvidenceRetrievalSelectorV1 request = .ok selector
      ∧ readRef store (request.field "evidence_id") = .ok retained
      ∧ retained.ref.field "byte_count" = ofCount retained.bytes.length
      ∧ parseRaw host retained.bytes ((retained.ref.field "media_type").asString?.getD "") = .ok value
      ∧ selectEvidence host selector retained.bytes (retrievalRoot host value)
        (retrievalBudget request (isImage selector)) = .ok selected
      ∧ result = .obj ([("schema", .str "revit-operator.evidence-retrieval.v1"), ("evidence_ref", retained.ref),
        ("selection", selected.selection), ("returned_bytes", ofCount (jsonBytes host.numbers selected.selection)),
        ("complete", .bool selected.complete)] ++ selected.members) := by
  simp only [retrieveEvidence, bind_eq_ok, require_eq_ok, exists_const, pure_eq_ok] at h
  obtain ⟨_, -, -, selector, hselector, retained, hretained, ⟨⟩, -, bytes, hbytes,
    value, hvalue, selected, hselected, -, rfl⟩ := h
  simp only [readSettledEvidenceBytes, bind_eq_ok, require_eq_ok, exists_const, pure_eq_ok] at hbytes
  obtain ⟨⟨-, hcount⟩, rfl⟩ := hbytes
  exact ⟨selector, retained, value, selected, hselector, hretained, hcount, hvalue, hselected, rfl⟩

theorem scalar_page_accepted {range : ItemPageRange} (h : retrieveEvidence host store request = .ok result)
    (hselector : parseEvidenceRetrievalSelectorV1 request = .ok (.item_range range))
    (hscalar : range.filters.isSome ∨ range.orderBy.isSome) :
    assertScalarEvidencePageV1 host.numbers request (response result) = .ok () := by
  obtain ⟨selector, retained, value, selected, hparsed, -, -, -, hselected, rfl⟩ := retrieveEvidence_ok h
  obtain rfl : selector = .item_range range := Except.ok.inj (hparsed.symm.trans hselector)
  obtain ⟨member, -, hmember⟩ := (selector_of_request hselector).1 range rfl
  simp only [selectEvidence, if_pos hscalar, bind_eq_ok] at hselected
  obtain ⟨found, -, hselected⟩ := hselected
  split at hselected
  · next array =>
    simp only [bind_eq_ok, pure_eq_ok] at hselected
    obtain ⟨page, hpage, rfl⟩ := hselected
    obtain ⟨fields, matched, nonComparable, unavailable, hfields, hpage⟩ := selectScalarEvidenceItemPage_ok hmember hpage
    obtain ⟨hnodup, hcount⟩ := parseItemRange_bounds hmember
    rw [assertScalarEvidencePageV1, hselector, ok_bind]
    simp only [if_pos hscalar]
    rw [carriedResult_response rfl]
    exact assertScalarPage_of_page host.numbers hfields (hnodup fields hfields) hcount hpage
  · cases hselected

theorem text_page_accepted_iff {range : TextRange} {path : String} (h : retrieveEvidence host store request = .ok result)
    (hselector : parseEvidenceRetrievalSelectorV1 request = .ok (.text_range range)) (hpath : range.path = some path) :
    assertEvidenceTextRangePageV1 request (response result) = .ok () ↔ TransmissibleText host store request := by
  obtain ⟨selector, retained, value, selected, hparsed, hretained, hcount, hvalue, hselected, rfl⟩ := retrieveEvidence_ok h
  obtain rfl : selector = .text_range range := Except.ok.inj (hparsed.symm.trans hselector)
  obtain ⟨member, hmember, hrange⟩ := (selector_of_request hselector).2 range rfl
  obtain ⟨hstart, hlength, hpositive, hnamed⟩ := parseTextRange_ok hrange
  obtain ⟨hpathMember, hpathNonempty⟩ := hnamed path hpath
  obtain ⟨start, length, path'⟩ := range
  obtain rfl : path' = some path := hpath
  simp only [selectEvidence, bind_eq_ok, pure_eq_ok] at hselected
  obtain ⟨found, hfound, page, hpage, rfl⟩ := hselected
  obtain ⟨text, before, middle, after, htext, hsplit, hbefore, hmiddle, hadvances, rfl⟩ := selectFieldTextRange_ok hpage
  obtain rfl : found = some (.str text) := by
    cases found with
    | none => cases htext
    | some found => rw [← htext, Option.getD_some]
  have hcondition : TransmissibleText host store request ↔ (utf8.encode text.toList).length ≤ retained.bytes.length
      ∧ ¬ [0xEF, 0xBB, 0xBF] <+: (utf8.encode text.toList).drop start := by
    constructor
    · intro hall
      exact hall _ path retained value text hselector rfl hretained hvalue hfound
    · intro hheld range other kept parsed selected' hrange hother hkept hparsed' hselected'
      cases hselector.symm.trans hrange
      cases hother
      cases hretained.symm.trans hkept
      cases hvalue.symm.trans hparsed'
      cases hfound.symm.trans hselected'
      exact hheld
  rw [hcondition]
  have hrequest : request.field "text_range" = member := by
    rw [Json.field, hmember, Option.getD_some]
  have hread := Json.field_enumerated (pageResult_keys retained.ref (.str (.ofList middle))
    (jsonBytes host.numbers (.str (.ofList middle))) false
    (textPagination path start length (utf8.encode middle).length (utf8.encode text.toList).length).toJson
    (show "text_pagination" ∈ _ from List.mem_cons_of_mem _ List.mem_cons_self))
  have hsource := Json.field_enumerated retained.proper.keysDistinct "byte_count"
  rw [hcount, enumerated_ofCount] at hsource
  have htotal := Json.field_enumerated
    (textPagination_keys path start length (utf8.encode middle).length (utf8.encode text.toList).length) "total_utf8_bytes"
  generalize hresult : (pageResult retained.ref (.str (.ofList middle)) (jsonBytes host.numbers (.str (.ofList middle))) false
    "text_pagination" (textPagination path start length (utf8.encode middle).length
      (utf8.encode text.toList).length).toJson).enumerated = arrived at hread
  have harrived : (response (pageResult retained.ref (.str (.ofList middle))
      (jsonBytes host.numbers (.str (.ofList middle))) false "text_pagination"
      (textPagination path start length (utf8.encode middle).length (utf8.encode text.toList).length).toJson)).field "result"
        = arrived := by
    rw [response_result, hresult]
  have hselection : arrived.field "selection" = .str (.ofList middle) := hread "selection"
  have hpagination : arrived.field "text_pagination" = (textPagination path start length (utf8.encode middle).length
      (utf8.encode text.toList).length).toJson.enumerated := hread "text_pagination"
  have hreference : arrived.field "evidence_ref" = retained.ref.enumerated := hread "evidence_ref"
  have hguard : assertEvidenceTextRangePageV1 request (response (pageResult retained.ref (.str (.ofList middle))
      (jsonBytes host.numbers (.str (.ofList middle))) false "text_pagination"
      (textPagination path start length (utf8.encode middle).length (utf8.encode text.toList).length).toJson)) = .ok ()
      ↔ (utf8.encode text.toList).length ≤ 9007199254740991 ∧ textPageAgrees (.str path) start length arrived
        (textPagination path start length (utf8.encode middle).length (utf8.encode text.toList).length).toJson.enumerated
        (.ofList middle) (utf8.encode text.toList).length retained.bytes.length = true := by
    rw [assertEvidenceTextRangePageV1]
    simp only [hrequest, harrived, hpathMember, hstart, hlength, hselection, hpagination, hreference, hsource,
      count?_ofCount retained.bounded]
    rw [show _ = ofCount (utf8.encode text.toList).length from htotal]
    by_cases hsafe : (utf8.encode text.toList).length ≤ 9007199254740991
    · rw [count?_ofCount hsafe]
      simp only [require_eq_ok]
      exact ⟨fun h => ⟨hsafe, h.2.2⟩, fun h => ⟨hpathNonempty, hpositive, h.2⟩⟩
    · rw [count?_ofCount_of_lt (by omega)]
      simp [hsafe]
  have hbounded := retained.bounded
  refine hguard.trans ?_
  rw [textPageAgrees_iff hsplit hbefore hmiddle hadvances (hread "complete")]
  constructor
  · exact fun h => h.2
  · exact fun h => ⟨h.1.trans hbounded, h⟩

/-- A retrieved page is accepted by the peer exactly when it is a page of rows
    or of a text that can be transmitted. -/
theorem evidence_page_accepted_iff (h : retrieveEvidence host store request = .ok result) :
    PageAccepted host request result ↔ TransmissibleText host store request := by
  constructor
  · intro haccepted range path retained value text hselector hpath
    exact (text_page_accepted_iff h hselector hpath).1 (haccepted.2 range hselector (by rw [hpath]; rfl)) range path
      retained value text hselector hpath
  · intro htext
    refine ⟨fun range hselector hscalar => scalar_page_accepted h hselector hscalar, fun range hselector hpath => ?_⟩
    obtain ⟨path, hpath⟩ := Option.isSome_iff_exists.1 hpath
    exact (text_page_accepted_iff h hselector hpath).2 htext

end retrieve

section sample

/-- A host that parses one text. -/
def sampleHost (written : String) (value : Json) : EvidenceHost where
  numbers := Json.integerText
  parseJson := fun other => if other = written then some value else none
  sha256 := fun _ => ""
  selectOther := fun _ _ _ => .error "unsupported"

def sampleId : String := "ev1_0123456789abcdef0123456789abcdef"

def sampleRef (bytes : List UInt8) : Json :=
  .obj [("schema", .str "revit-operator.evidence-ref.v1"), ("evidence_id", .str sampleId), ("content_hash", .str "sha256:"),
    ("byte_count", ofCount bytes.length), ("media_type", .str "application/json"), ("session_id", .str "session"),
    ("assignment_id", .null)]

/-- A store that retains one short text. -/
def sampleStore (written : String) (hshort : (utf8.encode written.toList).length ≤ 9007199254740991) : EvidenceStore :=
  fun _ => some {
    ref := sampleRef (utf8.encode written.toList)
    bytes := utf8.encode written.toList
    proper := by
      rw [sampleRef, Json.Proper, Json.everyObject_obj]
      refine ⟨(by decide : ["schema", "evidence_id", "content_hash", "byte_count", "media_type", "session_id",
        "assignment_id"].Nodup), ?_⟩
      simp [Json.EveryObject, ofCount]
    bounded := hshort }

def sampleRequest (selector : String × Json) : Json :=
  .obj [("evidence_id", .str sampleId), ("purpose", .str "read"), ("scope", .obj [("session_id", .str "session")]), selector]

def markedText : String := "\x7b\"a\":\"\uFEFFx\"\x7d"

def markedRequest : Json :=
  sampleRequest ("text_range", .obj [("path", .str "a"), ("start", ofCount 0), ("length", ofCount 16)])

/-- The range of a selector for a text. -/
def textRange? : EvidenceRetrievalSelectorV1 → Option TextRange
  | .text_range range => some range
  | _ => none

theorem textRange?_eq_some {selector : EvidenceRetrievalSelectorV1} {range : TextRange} :
    textRange? selector = some range ↔ selector = .text_range range := by
  cases selector <;> simp [textRange?]

/-- A page of a text that begins with a byte order mark is refused. -/
theorem marked_page_refused : ∃ host store request result, retrieveEvidence host store request = .ok result
    ∧ ¬ PageAccepted host request result := by
  have hrun : (retrieveEvidence (sampleHost markedText (.obj [("a", .str "\uFEFFx")]))
      (sampleStore markedText (by decide +kernel)) markedRequest).toOption.any (fun result =>
        !(assertEvidenceTextRangePageV1 markedRequest (response result)).isOk) = true := by
    decide +kernel
  have hselector : ((parseEvidenceRetrievalSelectorV1 markedRequest).toOption.bind textRange?).any
      (fun range => range.path.isSome) = true := by
    decide +kernel
  simp only [Option.any_eq_true, Option.bind_eq_some_iff, toOption_eq_some, textRange?_eq_some, Bool.not_eq_true']
    at hrun hselector
  obtain ⟨result, hresult, hrefused⟩ := hrun
  refine ⟨_, _, _, result, hresult, fun haccepted => ?_⟩
  obtain ⟨range, ⟨selector, hparsed, rfl⟩, hpath⟩ := hselector
  rw [haccepted.2 range hparsed hpath] at hrefused
  cases hrefused

def countsText : String := "\x7b\"a\":[\x7b\"n\":1\x7d,\x7b\"n\":2\x7d]\x7d"

def countsValue : Json := .obj [("a", .arr [.obj [("n", ofCount 1)], .obj [("n", ofCount 2)]])]

def countsRequest : Json :=
  sampleRequest ("item_range", .obj [("path", .str "a"), ("start", ofCount 0), ("count", ofCount 4),
    ("fields", .arr [.str "n"]), ("filters", .arr [.obj [("field", .str "n"), ("op", .str "gt"), ("value", ofCount 1)]])])

def accentText : String := "\x7b\"a\":\"déjà vu\"\x7d"

def accentRequest : Json :=
  sampleRequest ("text_range", .obj [("path", .str "a"), ("start", ofCount 3), ("length", ofCount 4)])

/-- A page of filtered rows is accepted, and so is a page from the middle of a text. -/
theorem filtered_page_accepted :
    (∃ host store result, retrieveEvidence host store countsRequest = .ok result ∧ PageAccepted host countsRequest result)
      ∧ ∃ host store result, retrieveEvidence host store accentRequest = .ok result
        ∧ PageAccepted host accentRequest result := by
  constructor
  · have hrun : (retrieveEvidence (sampleHost countsText countsValue) (sampleStore countsText (by decide +kernel))
        countsRequest).isOk = true := by
      decide +kernel
    have hselector : (parseEvidenceRetrievalSelectorV1 countsRequest).toOption.bind textRange? = none := by
      decide +kernel
    obtain ⟨result, hresult⟩ := exists_of_isOk hrun
    refine ⟨_, _, result, hresult, (evidence_page_accepted_iff hresult).2 ?_⟩
    intro range path retained value text hrange
    simp [hrange, Except.toOption, textRange?] at hselector
  · let host := sampleHost accentText (.obj [("a", .str "déjà vu")])
    let store := sampleStore accentText (by decide +kernel)
    have hrun : (retrieveEvidence host store accentRequest).isOk = true := by decide +kernel
    have hselector : ((parseEvidenceRetrievalSelectorV1 accentRequest).toOption.bind textRange?).map
        (fun range => (range.path, range.start)) = some (some "a", 3) := by
      decide +kernel
    have htext : (readRef store (accentRequest.field "evidence_id")).toOption.bind (fun retained =>
        (parseRaw host retained.bytes ((retained.ref.field "media_type").asString?.getD "")).toOption.bind fun value =>
          (selectPath (retrievalRoot host value) "a").toOption.bind fun found =>
            (found.bind Json.asString?).map fun text => (text, retained.bytes.length)) = some ("déjà vu", 17) := by
      decide +kernel
    obtain ⟨result, hresult⟩ := exists_of_isOk hrun
    refine ⟨host, store, result, hresult, (evidence_page_accepted_iff hresult).2 ?_⟩
    intro range path retained value text hrange hpath hretained hvalue hfound
    simp only [hrange, Except.toOption, textRange?, hpath, Option.bind_some, Option.map_some, Option.some.injEq,
      Prod.mk.injEq] at hselector
    obtain ⟨rfl, hstart⟩ := hselector
    simp only [Option.bind_eq_some_iff, Option.map_eq_some_iff, toOption_eq_some, Prod.mk.injEq] at htext
    obtain ⟨kept, hkept, parsed, hparsed, selected, hselected, string, ⟨found, hstring, htext⟩, rfl, hlength⟩ := htext
    cases hretained.symm.trans hkept
    cases hvalue.symm.trans hparsed
    cases hfound.symm.trans hselected
    cases hstring
    cases htext
    rw [hlength, hstart]
    decide +kernel

end sample

end revit_operator.evidence
