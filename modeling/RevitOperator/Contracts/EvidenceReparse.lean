import Mathlib.Data.List.ReduceOption
import RevitOperator.Contracts.EvidenceSelector

open checked

/-! What the selector parser accepts it accepts again: a parsed range selects
    itself. -/

namespace revit_operator.contracts

variable {reason : String}

@[simp]
theorem valid_eq_ok {condition : Prop} [Decidable condition] {done : Unit} :
    valid condition reason = .ok done ↔ condition :=
  require_eq_ok

variable {α : Type}

@[simp]
theorem evidenceSelectorInvalid_ne_ok {value : α} :
    evidenceSelectorInvalid reason ≠ .ok value := by
  rintro ⟨⟩

variable {value : Json}

theorem count?_eq_some {count : Nat} (h : count? value = some count) :
    value = ofCount count ∧ count ≤ 9007199254740991 := by
  obtain ⟨integer, hinteger, rfl⟩ := Option.map_eq_some_iff.1 h
  obtain ⟨hinteger, hpos⟩ := Option.filter_eq_some_iff.1 hinteger
  cases value with
  | num q =>
    rw [Json.asSafeInt?] at hinteger
    split at hinteger
    · next hsafe =>
      cases hinteger
      obtain ⟨hden, hbound⟩ := hsafe
      have hnonneg : 0 ≤ q.num := by simpa using hpos
      refine ⟨?_, by omega⟩
      have hcast : ((q.num.toNat : Nat) : ℤ) = q.num := Int.toNat_of_nonneg hnonneg
      rw [ofCount, ← Int.cast_natCast q.num.toNat, hcast, Rat.den_eq_one_iff q |>.1 hden]
    · cases hinteger
  | _ => cases hinteger

theorem count?_ofCount {count : Nat} (h : count ≤ 9007199254740991) : count? (ofCount count) = some count := by
  have hsafe : (ofCount count).asSafeInt? = some (count : Int) := by
    rw [ofCount, Json.asSafeInt?, if_pos]
    · simp
    · simpa using h
  rw [count?, hsafe]
  simp

theorem count?_ofCount_of_lt {count : Nat} (h : 9007199254740991 < count) : count? (ofCount count) = none := by
  rw [Option.eq_none_iff_forall_ne_some]
  intro other hother
  obtain ⟨hsame, hle⟩ := count?_eq_some hother
  have heq : (count : ℚ) = other := Json.num.inj hsame
  have hcount : count = other := by exact_mod_cast heq
  omega

variable {result : String}

theorem boundedSelectorString_eq_ok {maximum : Nat} {label : String} :
    boundedSelectorString value maximum label = .ok result ↔ ∃ raw, value = .str raw ∧ text.trim raw = result
      ∧ result ≠ "" ∧ text.length result ≤ maximum ∧ hasControl result = false := by
  cases value with
  | str raw =>
    simp only [boundedSelectorString, check_bind_eq_ok, valid_eq_ok, pure_eq_ok]
    constructor
    · rintro ⟨hne, hlength, hcontrol, rfl⟩
      exact ⟨raw, rfl, rfl, hne, hlength, hcontrol⟩
    · rintro ⟨_, hraw, rfl, hne, hlength, hcontrol⟩
      cases hraw
      exact ⟨hne, hlength, hcontrol, rfl⟩
  | _ => simp [boundedSelectorString]

theorem boundedSelectorString_again {maximum : Nat} {label : String}
    (h : boundedSelectorString value maximum label = .ok result) (other : String) :
    boundedSelectorString (.str result) maximum other = .ok result := by
  obtain ⟨raw, rfl, rfl, hne, hlength, hcontrol⟩ := boundedSelectorString_eq_ok.1 h
  exact boundedSelectorString_eq_ok.2 ⟨_, rfl, text.trim_trim raw, hne, hlength, hcontrol⟩

theorem scalarSelectorField_again {label : String}
    (h : scalarSelectorField value label = .ok result) (other : String) :
    scalarSelectorField (.str result) other = .ok result := by
  simp only [scalarSelectorField, check_bind_eq_ok, valid_eq_ok] at h ⊢
  obtain ⟨-, hbounded⟩ := h
  refine ⟨?_, boundedSelectorString_again hbounded other⟩
  obtain ⟨raw, rfl, rfl, -, -, hcontrol⟩ := boundedSelectorString_eq_ok.1 hbounded
  simp [isCleanPath, hcontrol]

variable {index : Nat}

theorem parseItemField_again
    (h : parseItemField index value = .ok result) (other : Nat) :
    parseItemField other (.str result) = .ok result := by
  simp only [parseItemField, check_bind_eq_ok, valid_eq_ok] at h ⊢
  obtain ⟨-, hbounded⟩ := h
  refine ⟨?_, boundedSelectorString_again hbounded _⟩
  obtain ⟨raw, rfl, rfl, -, -, hcontrol⟩ := boundedSelectorString_eq_ok.1 hbounded
  exact hcontrol

theorem collect_cons_eq_ok {β : Type} {check : Nat → α → Except String β} {entry : α} {rest : List α}
    {values : List β} : collect check index (entry :: rest) = .ok values ↔ ∃ value others, check index entry = .ok value
      ∧ collect check (index + 1) rest = .ok others ∧ value :: others = values := by
  simp only [collect, bind_eq_ok, pure_eq_ok, exists_and_left]

theorem collect_again {β : Type} {check : Nat → α → Except String β} {entries : List α}
    {values : List β} (h : collect check index entries = .ok values) (encode : β → α)
    (hagain : ∀ {index entry value}, check index entry = .ok value → ∀ other, check other (encode value) = .ok value)
    (other : Nat) :
    collect check other (values.map encode) = .ok values ∧ values.length = entries.length := by
  induction entries generalizing index values other with
  | nil =>
    cases h
    exact ⟨rfl, rfl⟩
  | cons entry rest ih =>
    obtain ⟨value, others, hvalue, hothers, rfl⟩ := collect_cons_eq_ok.1 h
    obtain ⟨hrest, hlength⟩ := ih hothers (other + 1)
    refine ⟨?_, by simp [hlength]⟩
    rw [List.map_cons]
    exact collect_cons_eq_ok.2 ⟨value, others, hagain hvalue other, hrest, rfl⟩

theorem boundedEntries_eq_ok {maximum : Nat} {entries : List Json} :
    boundedEntries value maximum reason = .ok entries ↔ value = .arr entries ∧ 1 ≤ entries.length
      ∧ entries.length ≤ maximum := by
  cases value with
  | arr items =>
    simp only [boundedEntries, check_bind_eq_ok, valid_eq_ok, pure_eq_ok]
    constructor
    · rintro ⟨hlength, rfl⟩
      exact ⟨rfl, hlength⟩
    · rintro ⟨heq, hlength⟩
      cases heq
      exact ⟨hlength, rfl⟩
  | _ => simp [boundedEntries]

theorem parseItemFields_again {fields : List String} (h : parseItemFields value = .ok fields) :
    parseItemFields (fieldsJson fields) = .ok fields ∧ fields.Nodup := by
  simp only [parseItemFields, bind_eq_ok, boundedEntries_eq_ok, valid_eq_ok, pure_eq_ok, exists_const] at h ⊢
  obtain ⟨entries, ⟨rfl, hlow, hhigh⟩, _, hcollect, hnodup, rfl⟩ := h
  obtain ⟨hagain, hlength⟩ := collect_again hcollect Json.str parseItemField_again 0
  refine ⟨⟨_, ⟨rfl, ?_, ?_⟩, _, hagain, hnodup, rfl⟩, hnodup⟩
  · simpa [hlength] using hlow
  · simpa [hlength] using hhigh

theorem parseScalarFilter_again {input : Json} {filter : EvidenceScalarFilterV1}
    (h : parseScalarFilter index input = .ok filter) (other : Nat) :
    parseScalarFilter other filter.toJson = .ok filter := by
  rw [parseScalarFilter] at h
  split at h
  · next value op hvalue hop =>
    simp only [bind_eq_ok, valid_eq_ok, pure_eq_ok, exists_const] at h
    obtain ⟨-, hscalar, hordered, field, hfield, rfl⟩ := h
    have hmember : (EvidenceScalarFilterV1.toJson ⟨field, op, value⟩).member? "value" = some value := rfl
    have hname : (EvidenceScalarFilterV1.toJson ⟨field, op, value⟩).field "field" = .str field := rfl
    have hkeys : (EvidenceScalarFilterV1.toJson ⟨field, op, value⟩).onlyKeys ["field", "op", "value"] = true := rfl
    have hfind : (ScalarOp.all.find? fun candidate =>
        ((EvidenceScalarFilterV1.toJson ⟨field, op, value⟩).field "op").isText candidate.name) = some op := by
      have hop : (EvidenceScalarFilterV1.toJson ⟨field, op, value⟩).field "op" = .str op.name := rfl
      rw [hop]
      cases op <;> decide
    rw [parseScalarFilter, hmember, hfind]
    simp only [bind_eq_ok, valid_eq_ok, pure_eq_ok, hname, exists_const]
    exact ⟨hkeys, hscalar, hordered, field, scalarSelectorField_again hfield _, rfl⟩
  · cases h

theorem parseScalarFilters_again {filters : List EvidenceScalarFilterV1}
    (h : parseScalarFilters value = .ok filters) : parseScalarFilters (filtersJson filters) = .ok filters := by
  simp only [parseScalarFilters, bind_eq_ok, boundedEntries_eq_ok] at h ⊢
  obtain ⟨entries, ⟨rfl, hlow, hhigh⟩, hcollect⟩ := h
  obtain ⟨hagain, hlength⟩ := collect_again hcollect EvidenceScalarFilterV1.toJson
    parseScalarFilter_again 0
  refine ⟨_, ⟨rfl, ?_, ?_⟩, hagain⟩
  · simpa [hlength] using hlow
  · simpa [hlength] using hhigh

theorem parseNumericOrder_again {order : EvidenceNumericOrderV1}
    (h : parseNumericOrder value = .ok order) : parseNumericOrder order.toJson = .ok order := by
  rw [parseNumericOrder] at h
  split at h
  · next direction hdirection =>
    simp only [bind_eq_ok, valid_eq_ok, pure_eq_ok, exists_const] at h
    obtain ⟨-, field, hfield, rfl⟩ := h
    have hname : (EvidenceNumericOrderV1.toJson ⟨field, direction⟩).field "field" = .str field := rfl
    have hkeys : (EvidenceNumericOrderV1.toJson ⟨field, direction⟩).onlyKeys ["field", "direction"] = true := rfl
    have hfind : ([OrderDirection.asc, .desc].find? fun candidate =>
        ((EvidenceNumericOrderV1.toJson ⟨field, direction⟩).field "direction").isText candidate.name)
          = some direction := by
      have hdirection : (EvidenceNumericOrderV1.toJson ⟨field, direction⟩).field "direction" = .str direction.name := rfl
      rw [hdirection]
      cases direction <;> decide
    rw [parseNumericOrder, hfind]
    simp only [bind_eq_ok, valid_eq_ok, pure_eq_ok, hname, exists_const]
    exact ⟨hkeys, field, scalarSelectorField_again hfield _, rfl⟩
  · cases h

variable {key : String}

theorem ifPresent_eq_ok {parse : Json → Except String α} {result : Option α} :
    ifPresent value key parse = .ok result ↔ (value.member? key = none ∧ result = none)
      ∨ ∃ member parsed, value.member? key = some member ∧ parse member = .ok parsed ∧ result = some parsed := by
  rw [ifPresent]
  cases value.member? key with
  | none => simp [eq_comm]
  | some member =>
    simp only [bind_eq_ok, pure_eq_ok]
    constructor
    · rintro ⟨parsed, hparsed, rfl⟩
      exact .inr ⟨member, parsed, rfl, hparsed, rfl⟩
    · rintro (⟨hnone, -⟩ | ⟨_, parsed, hmember, hparsed, rfl⟩)
      · cases hnone
      · cases hmember
        exact ⟨parsed, hparsed, rfl⟩

theorem ifPresent_isSome {parse : Json → Except String α} {result : Option α}
    (h : ifPresent value key parse = .ok result) : result.isSome = (value.member? key).isSome := by
  obtain ⟨hmember, rfl⟩ | ⟨member, parsed, hmember, -, rfl⟩ := ifPresent_eq_ok.1 h <;> simp [hmember]

theorem ifPresent_again {other : Json} {parse : Json → Except String α} {encode : α → Json}
    {result : Option α} (h : ifPresent value key parse = .ok result)
    (hagain : ∀ {member parsed}, parse member = .ok parsed → parse (encode parsed) = .ok parsed)
    (hother : other.member? key = result.map encode) : ifPresent other key parse = .ok result := by
  rw [ifPresent_eq_ok] at h ⊢
  obtain ⟨-, rfl⟩ | ⟨member, parsed, -, hparsed, rfl⟩ := h
  · exact .inl ⟨hother, rfl⟩
  · exact .inr ⟨_, _, hother, hagain hparsed, rfl⟩

theorem member_of_ifPresent {parse : Json → Except String α} {parsed : α}
    (h : ifPresent value key parse = .ok (some parsed)) :
    ∃ member, value.member? key = some member ∧ parse member = .ok parsed := by
  obtain ⟨-, hnone⟩ | ⟨member, _, hmember, hparsed, hsome⟩ := ifPresent_eq_ok.1 h
  · cases hnone
  · cases hsome
    exact ⟨member, hmember, hparsed⟩

variable {itemRange : Json} {range : ItemPageRange}

theorem parseItemRange_again (h : parseItemRange itemRange = .ok range) :
    parseItemRange range.toJson = .ok range := by
  rw [parseItemRange] at h
  split at h
  · next start count hstart hcount =>
    simp only [bind_eq_ok, valid_eq_ok, pure_eq_ok, exists_const] at h
    obtain ⟨hbounds, fields, hfields, hrequired, filters, hfilters, orderBy, horderBy, path, hpath, rfl⟩ := h
    obtain ⟨-, hstart⟩ := count?_eq_some hstart
    obtain ⟨-, hcount⟩ := count?_eq_some hcount
    have hmembers : (ItemPageRange.toJson ⟨path, start, count, fields, filters, orderBy⟩).member? "fields" = fields.map fieldsJson
        ∧ (ItemPageRange.toJson ⟨path, start, count, fields, filters, orderBy⟩).member? "filters" = filters.map filtersJson
        ∧ (ItemPageRange.toJson ⟨path, start, count, fields, filters, orderBy⟩).member? "orderBy"
          = orderBy.map EvidenceNumericOrderV1.toJson := by
      cases fields <;> cases filters <;> cases orderBy <;> exact ⟨rfl, rfl, rfl⟩
    obtain ⟨hfieldsMember, hfiltersMember, horderMember⟩ := hmembers
    have hstartField : (ItemPageRange.toJson ⟨path, start, count, fields, filters, orderBy⟩).field "start" = ofCount start := rfl
    have hcountField : (ItemPageRange.toJson ⟨path, start, count, fields, filters, orderBy⟩).field "count" = ofCount count := rfl
    have hpathField : (ItemPageRange.toJson ⟨path, start, count, fields, filters, orderBy⟩).field "path" = .str path := rfl
    rw [parseItemRange, hstartField, hcountField, count?_ofCount hstart, count?_ofCount hcount]
    simp only [bind_eq_ok, valid_eq_ok, pure_eq_ok, exists_const, hfiltersMember, horderMember, hpathField,
      Option.isSome_map]
    rw [← ifPresent_isSome hfilters, ← ifPresent_isSome horderBy] at hrequired
    exact ⟨hbounds, fields, ifPresent_again hfields (fun h => (parseItemFields_again h).1) hfieldsMember, hrequired,
      filters, ifPresent_again hfilters parseScalarFilters_again hfiltersMember, orderBy,
      ifPresent_again horderBy parseNumericOrder_again horderMember, path, boundedSelectorString_again hpath _, rfl⟩
  · cases h

theorem parseItemRange_bounds (h : parseItemRange itemRange = .ok range) :
    (∀ fields, range.fields = some fields → fields.Nodup) ∧ 1 ≤ range.count := by
  rw [parseItemRange] at h
  split at h
  · simp only [bind_eq_ok, valid_eq_ok, pure_eq_ok, exists_const] at h
    obtain ⟨hbounds, fields, hfields, -, filters, -, orderBy, -, path, -, rfl⟩ := h
    refine ⟨?_, hbounds.1⟩
    rintro fields rfl
    obtain ⟨member, -, hparsed⟩ := member_of_ifPresent hfields
    exact (parseItemFields_again hparsed).2
  · cases h

theorem soleSelector_eq_ok {selectors : List EvidenceRetrievalSelectorV1} {active : EvidenceRetrievalSelectorV1} :
    soleSelector selectors = .ok active ↔ selectors = [active] := by
  match selectors with
  | [] => simp [soleSelector]
  | [only] => simp [soleSelector]
  | first :: second :: rest => simp [soleSelector]

theorem selector_of_request {request : Json} {selector : EvidenceRetrievalSelectorV1}
    (h : parseEvidenceRetrievalSelectorV1 request = .ok selector) :
    (∀ range, selector = .item_range range → ∃ member, request.member? "item_range" = some member
      ∧ parseItemRange member = .ok range)
    ∧ ∀ range, selector = .text_range range → ∃ member, request.member? "text_range" = some member
      ∧ parseTextRange member = .ok range := by
  simp only [parseEvidenceRetrievalSelectorV1, bind_eq_ok, valid_eq_ok, exists_const, soleSelector_eq_ok] at h
  obtain ⟨-, fields, -, item_range, hitem, text_range, htext, target_subset, -, image, -, hsole⟩ := h
  have hmem : some selector ∈ [fields.map .fields, item_range.map .item_range, text_range.map .text_range,
      target_subset.map .target_subset, image.map fun _ => .image] := by
    rw [← List.reduceOption_mem_iff, hsole]
    exact List.mem_singleton_self _
  simp only [List.mem_cons, List.not_mem_nil, or_false, eq_comm (a := some selector), Option.map_eq_some_iff] at hmem
  constructor
  · rintro range rfl
    obtain ⟨_, _, heq⟩ | ⟨_, hrange, heq⟩ | ⟨_, _, heq⟩ | ⟨_, _, heq⟩ | ⟨_, _, heq⟩ := hmem <;> cases heq
    rw [hrange] at hitem
    exact member_of_ifPresent hitem
  · rintro range rfl
    obtain ⟨_, _, heq⟩ | ⟨_, _, heq⟩ | ⟨_, hrange, heq⟩ | ⟨_, _, heq⟩ | ⟨_, _, heq⟩ := hmem <;> cases heq
    rw [hrange] at htext
    exact member_of_ifPresent htext

theorem selector_again (h : parseItemRange itemRange = .ok range) :
    parseEvidenceRetrievalSelectorV1 (.obj [("item_range", range.toJson)]) = .ok (.item_range range) := by
  have hrange : ifPresent (.obj [("item_range", range.toJson)]) "item_range" parseItemRange = .ok (some range) :=
    ifPresent_eq_ok.2 (.inr ⟨_, _, rfl, parseItemRange_again h, rfl⟩)
  simp only [parseEvidenceRetrievalSelectorV1, bind_eq_ok, valid_eq_ok, exists_const]
  exact ⟨rfl, none, rfl, some range, hrange, none, rfl, none, rfl, none, rfl, rfl⟩

end revit_operator.contracts
