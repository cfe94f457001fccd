import RevitOperator.Contracts.EvidenceSelector

open checked
open revit_operator.contracts

/-! A page of one retained string, cut at characters and held under a byte
    budget. -/

namespace revit_operator.evidence

/-- The bytes `JSON.stringify` writes for a value. -/
def jsonBytes (numbers : Json.NumberText) (value : Json) : Nat := text.utf8ByteLength (Json.stringify numbers value)

/-- The last offset up to this one at which no byte stands inside a
    character. -/
def boundary (bytes : List UInt8) (start : Nat) : Nat → Nat
  | 0 => 0
  | stop + 1 =>
    if start < stop + 1 ∧ stop + 1 < bytes.length ∧ bytes[stop + 1]?.any utf8.isContinuation then
      boundary bytes start stop
    else stop + 1

/-- `bytes.subarray(start, stop).toString('utf8')`. -/
def subtext (bytes : List UInt8) (start stop : Nat) : String :=
  .ofList (utf8.decode ((bytes.drop start).take (stop - start)))

/-- Binary search for the widest page that fits, among the offsets stepped back
    to. `past` is one more than the upper end of the search. -/
def widestEnd (back : Nat → Nat) (fits : Nat → Bool) (lo past stop : Nat) : Nat :=
  if lo < past then
    let mid := (lo + (past - 1)) / 2
    if fits (back mid) then widestEnd back fits (mid + 1) past (max stop (back mid))
    else widestEnd back fits lo mid stop
  else stop
termination_by past - lo

structure TextPagination where
  path : String
  start : Nat
  requested_length : Nat
  returned_utf8_bytes : Nat
  total_utf8_bytes : Nat
  next_start : Option Nat
  has_more : Bool
  field_complete : Bool
  byte_limited : Bool

def TextPagination.toJson (page : TextPagination) : Json :=
  .obj [("path", .str page.path), ("start", ofCount page.start), ("requested_length", ofCount page.requested_length),
    ("returned_utf8_bytes", ofCount page.returned_utf8_bytes), ("total_utf8_bytes", ofCount page.total_utf8_bytes),
    ("next_start", (page.next_start.map ofCount).getD .null), ("has_more", .bool page.has_more),
    ("field_complete", .bool page.field_complete), ("byte_limited", .bool page.byte_limited)]

/-- Where a page of `returned` bytes stands in a text. -/
def textPagination (path : String) (start length returned total : Nat) : TextPagination where
  path := path
  start := start
  requested_length := length
  returned_utf8_bytes := returned
  total_utf8_bytes := total
  next_start := if start + returned < total then some (start + returned) else none
  has_more := start + returned < total
  field_complete := start = 0 && !decide (start + returned < total)
  byte_limited := start + returned < min total (start + length)

/-- A text is a list of characters, so that no text has the lone surrogate that the first
    check refuses. -/
def selectFieldTextRange (numbers : Json.NumberText) (value : Json) (path : String) (start length maxBytes : Nat) :
    Except String (String × TextPagination) :=
  match value with
  | .str text => do
    let bytes := utf8.encode text.toList
    require (utf8.decode bytes = text.toList) "text_range.path contains an invalid Unicode scalar"
    require (start ≤ bytes.length) "text_range.start exceeds selected string byte length"
    require (¬ (start < bytes.length ∧ bytes[start]?.any utf8.isContinuation))
      "text_range.start must be a UTF-8 character boundary"
    let stop := widestEnd (boundary bytes start)
      (fun stop => jsonBytes numbers (.str (subtext bytes start stop)) ≤ maxBytes)
      start (min bytes.length (start + length) + 1) start
    require (¬ (start < bytes.length ∧ stop = start))
      "text_range.length cannot hold the next UTF-8 character within the unchanged byte budget"
    return (subtext bytes start stop, textPagination path start length (stop - start) bytes.length)
  | _ => .error "text_range.path must select an existing string, not missing/null/object/array"

section spec

variable {numbers : Json.NumberText} {cs : List Char} {start maxBytes : Nat}

/-- An offset inside the text is a character's when its byte does not stand
    inside one. -/
theorem boundary_of_not_inside {offset : Nat} (hlt : offset < (utf8.encode cs).length)
    (hlead : ¬ (utf8.encode cs)[offset]?.any utf8.isContinuation = true) : utf8.Boundary cs offset := by
  have hbyte := List.getElem?_eq_getElem hlt
  apply utf8.boundary_of_lead hbyte
  simpa [hbyte] using hlead

theorem boundary_spec (hstart : utf8.Boundary cs start) {stop : Nat} (hlow : start ≤ stop)
    (hhigh : stop ≤ (utf8.encode cs).length) : utf8.Boundary cs (boundary (utf8.encode cs) start stop)
      ∧ start ≤ boundary (utf8.encode cs) start stop ∧ boundary (utf8.encode cs) start stop ≤ stop := by
  induction stop with
  | zero =>
    rw [boundary]
    exact ⟨utf8.boundary_zero cs, hlow, le_rfl⟩
  | succ stop ih =>
    rw [boundary]
    split
    · next hinside =>
      obtain ⟨hboundary, hle, hge⟩ := ih (by omega) (by omega)
      exact ⟨hboundary, hle, by omega⟩
    · next hlead =>
      refine ⟨?_, hlow, le_rfl⟩
      by_cases hfirst : start = stop + 1
      · rwa [← hfirst]
      · by_cases hlast : stop + 1 = (utf8.encode cs).length
        · rw [hlast]
          exact utf8.boundary_end cs
        · have hlt : stop + 1 < (utf8.encode cs).length := by omega
          exact boundary_of_not_inside hlt fun hinside => hlead ⟨by omega, hlt, hinside⟩

theorem widestEnd_spec {P : Nat → Prop} {back : Nat → Nat} {fits : Nat → Bool} {lo past stop : Nat} (hstop : P stop)
    (hback : ∀ mid, lo ≤ mid → mid < past → P (back mid)) : P (widestEnd back fits lo past stop) := by
  fun_induction widestEnd back fits lo past stop with
  | case1 lo past stop hlt mid hfits ih =>
    apply ih
    · obtain hmax | hmax := max_choice stop (back mid)
      · rwa [hmax]
      · rw [hmax]
        exact hback mid (by omega) (by omega)
    · intro other hlow hhigh
      exact hback other (by omega) hhigh
  | case2 lo past stop hlt mid hfits ih =>
    apply ih hstop
    intro other hlow hhigh
    exact hback other hlow (by omega)
  | case3 lo past stop hlt => exact hstop

theorem widestEnd_boundary (hstart : utf8.Boundary cs start) (cap : Nat) (hlow : start ≤ cap)
    (hhigh : cap ≤ (utf8.encode cs).length) (fits : Nat → Bool) :
    utf8.Boundary cs (widestEnd (boundary (utf8.encode cs) start) fits start (cap + 1) start)
      ∧ start ≤ widestEnd (boundary (utf8.encode cs) start) fits start (cap + 1) start
      ∧ widestEnd (boundary (utf8.encode cs) start) fits start (cap + 1) start ≤ cap := by
  apply widestEnd_spec (P := fun stop => utf8.Boundary cs stop ∧ start ≤ stop ∧ stop ≤ cap)
  · exact ⟨hstart, le_rfl, hlow⟩
  · intro mid hmid hcap
    obtain ⟨hboundary, hge, hle⟩ := boundary_spec hstart hmid (by omega)
    exact ⟨hboundary, hge, by omega⟩

/-- A page is a run of whole characters of the string from the start on, and is
    empty only at the end of the string. -/
theorem selectFieldTextRange_ok {value : Json} {path : String} {length : Nat} {page : String × TextPagination}
    (h : selectFieldTextRange numbers value path start length maxBytes = .ok page) :
    ∃ text before middle after, value = .str text ∧ text.toList = before ++ (middle ++ after)
      ∧ (utf8.encode before).length = start ∧ (utf8.encode middle).length ≤ length ∧ (after ≠ [] → middle ≠ [])
      ∧ page = (String.ofList middle, textPagination path start length (utf8.encode middle).length
        (utf8.encode text.toList).length) := by
  unfold selectFieldTextRange at h
  split at h
  · next text =>
    simp only [check_bind_eq_ok, require_eq_ok, pure_eq_ok] at h
    obtain ⟨-, hle, hlead, hnonempty, rfl⟩ := h
    have hstart : utf8.Boundary text.toList start := by
      by_cases hlast : start = (utf8.encode text.toList).length
      · rw [hlast]
        exact utf8.boundary_end _
      · have hlt : start < (utf8.encode text.toList).length := by omega
        exact boundary_of_not_inside hlt fun hinside => hlead ⟨hlt, hinside⟩
    have hstop := widestEnd_boundary hstart (min (utf8.encode text.toList).length (start + length))
      (by omega) (by omega) fun stop => decide (jsonBytes numbers (.str (subtext (utf8.encode text.toList) start stop)) ≤ maxBytes)
    generalize widestEnd _ _ start _ start = stop at hstop hnonempty ⊢
    obtain ⟨hboundary, hge, hcap⟩ := hstop
    obtain ⟨before, middle, after, htext, hbefore, hmiddle⟩ := utf8.exists_between hstart hboundary hge
    refine ⟨text, before, middle, after, rfl, htext, hbefore, by omega, ?_, ?_⟩
    · rintro hafter rfl
      have htotal := congrArg (fun cs => (utf8.encode cs).length) htext
      have hrest : utf8.encode after ≠ [] := fun hnil => hafter (utf8.encode_injective hnil)
      have hpos := List.length_pos_iff.2 hrest
      simp only [utf8.encode_append, List.length_append, utf8.encode_nil, List.length_nil] at htotal hmiddle
      exact hnonempty ⟨by omega, by omega⟩
    · rw [subtext, utf8.slice_between htext hbefore hmiddle, utf8.decode_encode, ← hmiddle]
  · cases h

end spec

section paging

variable {numbers : Json.NumberText} {value : Json} {path : String} {length maxBytes start : Nat} {cs : List Char}

/-- The selections from an offset on, following `next_start` until it is null,
    with at most so many calls. -/
def followTextPages (numbers : Json.NumberText) (value : Json) (path : String) (length maxBytes : Nat) :
    Nat → Nat → Option (List String)
  | 0, _ => none
  | calls + 1, start =>
    match selectFieldTextRange numbers value path start length maxBytes with
    | .error _ => none
    | .ok (selection, page) =>
      match page.next_start with
      | none => some [selection]
      | some next => (followTextPages numbers value path length maxBytes calls next).map (selection :: ·)

theorem le_boundary {bytes : List UInt8} {offset stop : Nat} (hlead : ¬ bytes[offset]?.any utf8.isContinuation = true)
    (hle : offset ≤ stop) : offset ≤ boundary bytes start stop := by
  induction stop with
  | zero => exact hle
  | succ stop ih =>
    rw [boundary]
    split
    · next hinside =>
      have hne : offset ≠ stop + 1 := by
        rintro rfl
        exact hlead hinside.2.2
      exact ih (by omega)
    · exact hle

theorem le_widestEnd {first : Nat} {back : Nat → Nat} {fits : Nat → Bool} {lo past stop : Nat}
    (hfits : ∀ mid, lo ≤ mid → mid ≤ first → fits (back mid) = true) (hback : ∀ mid, first ≤ mid → first ≤ back mid)
    (hreach : first ≤ stop ∨ lo ≤ first ∧ first < past) : first ≤ widestEnd back fits lo past stop := by
  fun_induction widestEnd back fits lo past stop with
  | case1 lo past stop hlt mid hmid ih =>
    apply ih fun other hlow hhigh => hfits other (by omega) hhigh
    obtain hstop | ⟨hlow, hhigh⟩ := hreach
    · exact .inl (by omega)
    · by_cases hfirst : first ≤ mid
      · have hreached := hback mid hfirst
        exact .inl (by omega)
      · exact .inr ⟨by omega, hhigh⟩
  | case2 lo past stop hlt mid hmid ih =>
    apply ih hfits
    obtain hstop | ⟨hlow, hhigh⟩ := hreach
    · exact .inl hstop
    · have hpast : ¬ mid ≤ first := fun hle => hmid (hfits mid (by omega) hle)
      exact .inr ⟨hlow, by omega⟩
  | case3 lo past stop hlt => omega

theorem jsonBytes_le (hshort : cs.length ≤ 1) : jsonBytes numbers (.str (String.ofList cs)) ≤ 32 := by
  have hescape : ∀ c : Char, (Json.escape c).length ≤ 6 := by
    intro c
    rw [Json.escape]
    split
    · simp
    · split <;> simp
  have hlength : (cs.flatMap Json.escape).length ≤ 6 := by
    cases cs with
    | nil => simp
    | cons c rest =>
      obtain rfl : rest = [] := List.eq_nil_of_length_eq_zero (by simpa using hshort)
      simpa using hescape c
  have hbound := (text.utf8ByteLength_bounds (Json.stringify numbers (.str (String.ofList cs)))).2
  have htext : (Json.stringify numbers (.str (String.ofList cs))).toList.length ≤ 8 := by
    rw [List.length_flatMap] at hlength
    simp [Json.stringify, Json.enumerated, Json.chars, Json.quote]
    omega
  rw [jsonBytes]
  omega

theorem cut_unique {before after before' after' : List Char} (h : before ++ after = before' ++ after')
    (hoffset : (utf8.encode before).length = (utf8.encode before').length) : before = before' ∧ after = after' := by
  have hbytes := congrArg utf8.encode h
  rw [utf8.encode_append, utf8.encode_append] at hbytes
  obtain ⟨hbefore, hafter⟩ := List.append_inj hbytes hoffset
  exact ⟨utf8.encode_injective hbefore, utf8.encode_injective hafter⟩

theorem selectFieldTextRange_isOk {text : String} {before after : List Char} (htext : text.toList = before ++ after)
    (hstart : (utf8.encode before).length = start) (hlength : 4 ≤ length) (hbytes : 32 ≤ maxBytes) :
    ∃ page, selectFieldTextRange numbers (.str text) path start length maxBytes = .ok page := by
  have hboundary : utf8.Boundary text.toList start := ⟨before, after, htext, hstart⟩
  have htotal : (utf8.encode text.toList).length = start + (utf8.encode after).length := by
    rw [htext, utf8.encode_append, List.length_append, hstart]
  have hlead : ∀ {before after : List Char}, text.toList = before ++ after →
      ¬ (utf8.encode text.toList)[(utf8.encode before).length]?.any utf8.isContinuation = true := by
    intro before after htext
    rw [htext, utf8.encode_append, List.getElem?_append_right le_rfl, Nat.sub_self]
    cases after with
    | nil => simp
    | cons c rest =>
      obtain ⟨lead, others, hchar, -, hfirst, -⟩ := utf8.exists_lead c
      simp [hchar, hfirst]
  have hprogress : start < (utf8.encode text.toList).length →
      start < widestEnd (boundary (utf8.encode text.toList) start)
        (fun stop => decide (jsonBytes numbers (.str (subtext (utf8.encode text.toList) start stop)) ≤ maxBytes))
        start (min (utf8.encode text.toList).length (start + length) + 1) start := by
    intro hlt
    cases after with
    | nil => simp [htotal] at hlt
    | cons c rest =>
      have hchar : 1 ≤ (String.utf8EncodeChar c).length ∧ (String.utf8EncodeChar c).length ≤ 4 := by
        rw [String.length_utf8EncodeChar]
        exact ⟨c.utf8Size_pos, c.utf8Size_le_four⟩
      rw [utf8.encode_cons, List.length_append] at htotal
      have hfirst := @hlead (before ++ [c]) rest (by simpa using htext)
      rw [utf8.encode_append, List.length_append, hstart, utf8.encode_cons, utf8.encode_nil, List.append_nil] at hfirst
      refine lt_of_lt_of_le (b := start + (String.utf8EncodeChar c).length) (by omega) (le_widestEnd ?_ ?_ ?_)
      · intro mid hlow hhigh
        obtain ⟨hcut, hge, hle⟩ := boundary_spec hboundary hlow (by omega)
        obtain ⟨before', middle, after', hsplit, hbefore, hmiddle⟩ := utf8.exists_between hboundary hcut hge
        obtain ⟨rfl, hrest⟩ := cut_unique (htext.symm.trans hsplit) (hstart.trans hbefore.symm)
        rw [subtext, utf8.slice_between hsplit hbefore hmiddle, utf8.decode_encode]
        have hshort : middle.length ≤ 1 := by
          cases middle with
          | nil => simp
          | cons d more =>
            obtain ⟨rfl, -⟩ := List.cons.inj hrest
            rw [utf8.encode_cons, List.length_append] at hmiddle
            have hmore : utf8.encode more = [] := List.eq_nil_of_length_eq_zero (by omega)
            simp [utf8.encode_injective (hmore.trans utf8.encode_nil.symm)]
        exact decide_eq_true ((jsonBytes_le hshort).trans hbytes)
      · exact fun mid hmid => le_boundary hfirst hmid
      · exact .inr ⟨by omega, by omega⟩
  simp only [selectFieldTextRange, check_bind_eq_ok, require_eq_ok, pure_eq_ok]
  refine ⟨_, utf8.decode_encode _, by omega, fun hinside => hlead htext ?_, fun hstuck => ?_, rfl⟩
  · rw [hstart]
    exact hinside.2
  · exact absurd hstuck.2 (hprogress hstuck.1).ne'

/-- Whatever a string of characters holds, following `next_start` from its start ends, at the
    latest after one page for each character, and the selections on the way are
    the string. -/
theorem text_pages_whole (numbers : Json.NumberText) (text path : String) {length maxBytes : Nat}
    (hlength : 4 ≤ length) (hbytes : 32 ≤ maxBytes) :
    ∃ pages, followTextPages numbers (.str text) path length maxBytes (text.toList.length + 1) 0 = some pages
      ∧ String.join pages = text := by
  have hpages : ∀ calls before after, after.length < calls → text.toList = before ++ after →
      ∃ pages, followTextPages numbers (.str text) path length maxBytes calls (utf8.encode before).length = some pages
        ∧ String.join pages = String.ofList after := by
    intro calls
    induction calls with
    | zero => intro before after hcalls; omega
    | succ calls ih =>
      intro before after hcalls htext
      obtain ⟨page, hpage⟩ : ∃ page, selectFieldTextRange numbers (.str text) path _ length maxBytes = .ok page :=
        selectFieldTextRange_isOk htext rfl hlength hbytes
      obtain ⟨_, before', middle, after', hvalue, hsplit, hbefore, -, hnonempty, rfl⟩ := selectFieldTextRange_ok hpage
      obtain rfl := Json.str.inj hvalue
      obtain ⟨rfl, rfl⟩ := cut_unique (htext.symm.trans hsplit) hbefore.symm
      rw [followTextPages, hpage]
      cases after' with
      | nil => exact ⟨[.ofList middle], by simp [textPagination, hsplit], by simp [String.join]⟩
      | cons c rest =>
        have hpositive := List.length_pos_iff.2 (hnonempty (List.cons_ne_nil c rest))
        rw [List.length_append] at hcalls
        obtain ⟨pages, hrest, hjoin⟩ := ih (before ++ middle) (c :: rest) (by omega) (by rw [hsplit, List.append_assoc])
        refine ⟨.ofList middle :: pages, ?_, by rw [String.join_cons, hjoin, String.ofList_append]⟩
        have hmore : (utf8.encode before).length + (utf8.encode middle).length < (utf8.encode text.toList).length := by
          have hchar := c.utf8Size_pos
          simp [hsplit]
          omega
        rw [utf8.encode_append, List.length_append] at hrest
        simp [textPagination, hmore, hrest]
  obtain ⟨pages, hfollow, hjoin⟩ := hpages (text.toList.length + 1) [] text.toList (Nat.lt_succ_self _) rfl
  exact ⟨pages, hfollow, by rw [hjoin, String.ofList_toList]⟩

theorem text_pages_whole_accented :
    ∃ pages, followTextPages Json.integerText (.str "déjà vu") "title" 4 64 8 0 = some pages
      ∧ String.join pages = "déjà vu" :=
  text_pages_whole Json.integerText "déjà vu" "title" (by decide) (by decide)

end paging

end revit_operator.evidence
