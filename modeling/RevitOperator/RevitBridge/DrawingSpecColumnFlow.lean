import Mathlib.Algebra.Order.Field.Rat
import Mathlib.Data.List.GetD
import Mathlib.Tactic.Linarith
import RevitOperator.Library.Run
import RevitOperator.Library.Text

open checked

/-! The flow of specification blocks through the columns of sheets, by the heights that the
    caller measures. -/

namespace revit_operator.revit_bridge

inductive DrawingSpecFlowBreak where
  | None
  | Column
  | Page
deriving DecidableEq

/-- A block; its text is a sequence of UTF-16 units. -/
structure DrawingSpecFlowItem where
  SourceId : String
  Text : List UInt16
  KeepWithNext : Bool
  KeepTogether : Bool
  BreakBefore : DrawingSpecFlowBreak
  SpaceBeforeInches : ℚ
  SpaceAfterInches : ℚ

structure DrawingSpecFlowGeometry where
  Columns : Nat
  ColumnWidthInches : ℚ
  ColumnHeightInches : ℚ
  GutterInches : ℚ
  MaximumPages : Nat

structure DrawingSpecFlowPlacement where
  SourceId : String
  Start : Nat
  Length : Nat
  Page : Nat
  Column : Nat
  LeftInches : ℚ
  TopInches : ℚ
  HeightInches : ℚ
deriving DecidableEq

/-- Where the text elements of a text start: `StringInfo.ParseCombiningCharacters`. The
    text behind the start of an element has the elements that are left. -/
structure TextElements where
  parse : List UInt16 → List Nat
  nil : parse [] = []
  first : ∀ text, text ≠ [] → 0 ∈ parse text
  sorted : ∀ text, (parse text).Pairwise (· < ·)
  inside : ∀ text, ∀ i ∈ parse text, i < text.length
  behind : ∀ text cut, cut ∈ parse text → ∀ i, i ∈ parse (text.drop cut) ↔ cut + i ∈ parse text

/-- The text before the start of an element has the elements that start there, too. -/
structure CutTextElements extends TextElements where
  before : ∀ text cut, cut ∈ parse text → ∀ i, i ∈ parse (text.take cut) → i ∈ parse text

/-- An exception that the planner throws, or a loop that did not come to its end. -/
inductive FlowFault where
  | thrown (message : String)
  | outOfTurns
deriving DecidableEq

def MaximumTextNoteCharacters : Nat := 29999

def Epsilon : ℚ := 1 / 1000000

def thrown {α : Type} (message : String) : Except FlowFault α := .error (.thrown message)

/-- A check of the planner. -/
def expect (condition : Prop) [Decidable condition] (message : String) : Except FlowFault Unit :=
  require condition (.thrown message)

def Validate (items : List DrawingSpecFlowItem) (geometry : DrawingSpecFlowGeometry) : Except FlowFault Unit := do
  expect (items.length ≤ 10000) "Missing or excessive specification blocks/geometry."
  expect (1 ≤ geometry.Columns ∧ geometry.Columns ≤ 24 ∧ 1 ≤ geometry.MaximumPages ∧ geometry.MaximumPages ≤ 128
      ∧ 0 < geometry.ColumnWidthInches ∧ geometry.ColumnWidthInches ≤ 96
      ∧ 0 < geometry.ColumnHeightInches ∧ geometry.ColumnHeightInches ≤ 192
      ∧ 0 ≤ geometry.GutterInches ∧ geometry.GutterInches ≤ 12) "Invalid printed column geometry."
  expect ((∀ item ∈ items, text.isBlank item.SourceId = false ∧ 12 ∉ item.Text
      ∧ 0 ≤ item.SpaceBeforeInches ∧ item.SpaceBeforeInches ≤ 192
      ∧ 0 ≤ item.SpaceAfterInches ∧ item.SpaceAfterInches ≤ 192)
      ∧ (items.map DrawingSpecFlowItem.SourceId).Nodup)
    "Invalid/duplicate source blocks, spacing or unsplit hard breaks. Retain explicit breaks as flow boundaries."

/-- Where the planner is, with the block that is pinned to a kept one. -/
structure Flow where
  page : Nat
  column : Nat
  top : ℚ
  pinnedFollowing : Option Nat
  placements : List DrawingSpecFlowPlacement

/-- A fragment to be placed, with the space behind it. -/
structure Fragment where
  length : Nat
  height : ℚ
  after : ℚ

section planning

variable (elements : TextElements) (items : List DrawingSpecFlowItem) (geometry : DrawingSpecFlowGeometry)
  (measureHeightInches : DrawingSpecFlowItem → Nat → Nat → ℚ → ℚ)

def Advance (flow : Flow) (kind : DrawingSpecFlowBreak) : Except FlowFault Flow := do
  let next :=
    if kind = .Page then { flow with page := flow.page + 1, column := 0, top := 0 }
    else if flow.column + 1 = geometry.Columns then { flow with page := flow.page + 1, column := 0, top := 0 }
    else { flow with column := flow.column + 1, top := 0 }
  expect (next.page < geometry.MaximumPages)
    "Specification exceeds the configured page limit. No complete layout plan was returned."
  return next

/-- The measured height. The measurement is a function and the identities of the blocks are
    distinct, so that its cache changes nothing. -/
def Measure (item : DrawingSpecFlowItem) (start length : Nat) : Except FlowFault ℚ := do
  let height := measureHeightInches item start length geometry.ColumnWidthInches
  expect (0 < height) "Native text measurement must return a finite positive printed height."
  return height

/-- The last start of an element up to the end, or the end of the text. -/
def SafeEnd (text : List UInt16) (start length : Nat) : Nat :=
  if start + length = text.length ∨ length = 0 then start + length
  else ((elements.parse text).filter (· ≤ start + length)).max?.getD start

def isWhiteSpaceUnit (c : UInt16) : Bool := text.isWhiteSpace (.ofNat c.toNat)

/-- The loop of `LastWordBoundary`, down from `start + length`. -/
def LastWordBoundary (text : List UInt16) (start : Nat) : Nat → Nat
  | 0 => start
  | length + 1 =>
    if start + (length + 1) ∈ elements.parse text ++ [text.length]
        ∧ (text[start + length]?).any isWhiteSpaceUnit then
      start + (length + 1)
    else LastWordBoundary text start length

/-- The binary search of `FindFit`; `past` is one more than its upper end, and every turn
    takes at least one place from it. -/
def fitSearch (fits : Nat → Except FlowFault Bool) (boundaries : List Nat) :
    Nat → Nat → Nat → Nat → Except FlowFault Nat
  | 0, lo, past, best => if lo < past then .error .outOfTurns else .ok best
  | turns + 1, lo, past, best =>
    if lo < past then do
      let mid := lo + (past - 1 - lo) / 2
      let length := boundaries.getD mid 0
      if ← fits length then fitSearch fits boundaries turns (mid + 1) past length
      else fitSearch fits boundaries turns lo mid best
    else .ok best

def FindFit (item : DrawingSpecFlowItem) (offset maximum : Nat) (available : ℚ) : Except FlowFault Nat :=
  let boundaries := (elements.parse ((item.Text.drop offset).take maximum) ++ [maximum]).drop 1
  let fits := fun length => do
    let height ← Measure geometry measureHeightInches item offset length
    let after := if offset + length = item.Text.length then item.SpaceAfterInches else 0
    return decide (height + after ≤ available + Epsilon)
  fitSearch fits boundaries boundaries.length 0 boundaries.length 0

/-- The block is kept with the next one. -/
def keepsFollowing (index : Nat) (item : DrawingSpecFlowItem) : Bool :=
  item.KeepWithNext && (items[index + 1]?).any fun next => next.BreakBefore = .None

/-- The height of a kept chain with all of the block behind it, without a bound where a
    member is longer than a text note. -/
def wholeGroup : List DrawingSpecFlowItem → ℚ → Except FlowFault (Option ℚ)
  | [], group => .ok (some group)
  | member :: rest, group =>
    if member.BreakBefore ≠ .None then .ok (some group)
    else if MaximumTextNoteCharacters < member.Text.length then .ok none
    else do
      let height ← Measure geometry measureHeightInches member 0 member.Text.length
      let group := group + (member.SpaceBeforeInches + height + member.SpaceAfterInches)
      if member.KeepWithNext = false ∨ geometry.ColumnHeightInches < group then return some group
      else wholeGroup rest group

/-- The height of a kept chain with the first element of the block behind it. -/
def firstGroup : List DrawingSpecFlowItem → ℚ → Except FlowFault ℚ
  | [], group => .ok group
  | next :: rest, group =>
    if next.BreakBefore ≠ .None then .ok group
    else if next.KeepWithNext = true ∧ rest ≠ [] then do
      expect (next.Text.length ≤ MaximumTextNoteCharacters)
        "An oversized kept heading requires an explicit split policy before native measurement."
      let height ← Measure geometry measureHeightInches next 0 next.Text.length
      firstGroup rest (group + (next.SpaceBeforeInches + height + next.SpaceAfterInches))
    else do
      let first := ((elements.parse next.Text)[1]?).getD next.Text.length
      expect (first ≤ MaximumTextNoteCharacters) "A source grapheme exceeds the native text-note character limit."
      let height ← Measure geometry measureHeightInches next 0 first
      return group + (next.SpaceBeforeInches + height)

/-- The height that a kept block needs in one column. -/
def headingGroup (index : Nat) (before : ℚ) (fragment : Fragment) : Except FlowFault ℚ := do
  let own := before + fragment.height + fragment.after
  let group ← wholeGroup geometry measureHeightInches (items.drop (index + 1)) own
  match group with
  | some group =>
    if group ≤ geometry.ColumnHeightInches then return group
    else firstGroup elements geometry measureHeightInches (items.drop (index + 1)) own
  | none => firstGroup elements geometry measureHeightInches (items.drop (index + 1)) own

def spaceBefore (item : DrawingSpecFlowItem) (offset : Nat) : ℚ := if offset = 0 then item.SpaceBeforeInches else 0

def spaceAfter (item : DrawingSpecFlowItem) (offset length : Nat) : ℚ :=
  if length = item.Text.length - offset then item.SpaceAfterInches else 0

/-- The longest fragment, as far as a text note goes. -/
def longestFragment (item : DrawingSpecFlowItem) (offset : Nat) : Except FlowFault Fragment := do
  let remaining := item.Text.length - offset
  let length := SafeEnd elements item.Text offset (min remaining MaximumTextNoteCharacters) - offset
  expect (¬ (0 < remaining ∧ length = 0)) "A source grapheme exceeds the native text-note character limit."
  let height ← Measure geometry measureHeightInches item offset length
  return ⟨length, height, spaceAfter item offset length⟩

/-- A kept block goes to the next column where its group does not fit under the last one. -/
def keepHeading (flow : Flow) (index : Nat) (item : DrawingSpecFlowItem) (offset : Nat) (fragment : Fragment) :
    Except FlowFault Flow :=
  if fragment.length = item.Text.length - offset ∧ keepsFollowing items index item = true then do
    let group ← headingGroup elements items geometry measureHeightInches index (spaceBefore item offset) fragment
    expect (group ≤ geometry.ColumnHeightInches + Epsilon)
      "Keep-with-next heading group cannot fit a full column at its requested text size."
    if Epsilon < flow.top ∧ geometry.ColumnHeightInches + Epsilon < flow.top + group then
      Advance geometry flow .Column
    else return flow
  else return flow

def available (flow : Flow) (item : DrawingSpecFlowItem) (offset : Nat) : ℚ :=
  geometry.ColumnHeightInches - flow.top - spaceBefore item offset

/-- A block that fits a column of its own goes to the next one, unless it is pinned. -/
def keepWhole (flow : Flow) (index : Nat) (item : DrawingSpecFlowItem) (offset : Nat) (empty : Bool)
    (fragment : Fragment) : Except FlowFault Flow :=
  if available geometry flow item offset + Epsilon < fragment.height + fragment.after ∧ Epsilon < flow.top
      ∧ (empty = true ∨ (item.KeepTogether = true ∧ flow.pinnedFollowing ≠ some index
        ∧ fragment.height + spaceBefore item offset + fragment.after ≤ geometry.ColumnHeightInches + Epsilon)) then
    Advance geometry flow .Column
  else return flow

/-- The part of the fragment that fits the column, or none where the next one is to be
    tried. -/
def fitted (flow : Flow) (item : DrawingSpecFlowItem) (offset : Nat) (empty : Bool) (fragment : Fragment) :
    Except FlowFault (Option Fragment) :=
  let available := available geometry flow item offset
  if fragment.height + fragment.after ≤ available + Epsilon then .ok (some fragment)
  else if empty then
    if Epsilon < flow.top then .ok none else thrown "Empty paragraph spacing exceeds the full column height."
  else do
    let fitting ← FindFit elements geometry measureHeightInches item offset fragment.length available
    if fitting = 0 then
      if Epsilon < flow.top then return none
      else
        thrown ("A source grapheme does not fit the full column at its requested text size;"
          ++ " no content was omitted or reduced.")
    else do
      let wordBoundary := LastWordBoundary elements item.Text offset fitting
      let length :=
        if fitting < item.Text.length - offset ∧ offset < wordBoundary then wordBoundary - offset else fitting
      let height ← Measure geometry measureHeightInches item offset length
      let after := spaceAfter item offset length
      expect (height + after ≤ available + Epsilon)
        "Text measurement changed during layout; no complete plan was returned."
      return some ⟨length, height, after⟩

/-- The placement of a fragment where the flow is. -/
def placement (flow : Flow) (item : DrawingSpecFlowItem) (offset : Nat) (fragment : Fragment) :
    DrawingSpecFlowPlacement where
  SourceId := item.SourceId
  Start := offset
  Length := fragment.length
  Page := flow.page
  Column := flow.column
  LeftInches := flow.column * (geometry.ColumnWidthInches + geometry.GutterInches)
  TopInches := flow.top + spaceBefore item offset
  HeightInches := fragment.height

def place (flow : Flow) (index : Nat) (item : DrawingSpecFlowItem) (offset : Nat) (fragment : Fragment) :
    Except FlowFault Flow := do
  let placements := flow.placements ++ [placement geometry flow item offset fragment]
  expect (placements.length ≤ 100000) "Specification fragment limit exceeded; no complete plan was returned."
  let placed := { flow with
    placements, top := flow.top + (spaceBefore item offset + fragment.height + fragment.after) }
  if offset + fragment.length < item.Text.length then Advance geometry placed .Column
  else if keepsFollowing items index item then return { placed with pinnedFollowing := some (index + 1) }
  else return placed

/-- One turn of the loop over the fragments of a block: the flow behind it, with the next
    offset where a fragment was placed. -/
def turn (flow : Flow) (index : Nat) (item : DrawingSpecFlowItem) (offset : Nat) (empty : Bool) :
    Except FlowFault (Flow × Option Nat) := do
  let longest ← longestFragment elements geometry measureHeightInches item offset
  let flow ← keepHeading elements items geometry measureHeightInches flow index item offset longest
  let flow ← keepWhole geometry flow index item offset empty longest
  match ← fitted elements geometry measureHeightInches flow item offset empty longest with
  | none => do
    let flow ← Advance geometry flow .Column
    return (flow, none)
  | some fragment => do
    let flow ← place items geometry flow index item offset fragment
    return (flow, some (offset + fragment.length))

/-- The loop over the fragments of a block, for so many turns. -/
def placeFragments (index : Nat) (item : DrawingSpecFlowItem) : Nat → Flow → Nat → Bool → Except FlowFault Flow
  | 0, flow, offset, empty => if empty = true ∨ offset < item.Text.length then .error .outOfTurns else .ok flow
  | turns + 1, flow, offset, empty =>
    if empty = true ∨ offset < item.Text.length then do
      let (flow, placed) ← turn elements items geometry measureHeightInches flow index item offset empty
      placeFragments index item turns flow (placed.getD offset) (empty && placed.isNone)
    else .ok flow

def enterBlock (flow : Flow) (item : DrawingSpecFlowItem) : Except FlowFault Flow :=
  if item.BreakBefore ≠ .None ∧ (flow.page ≠ 0 ∨ flow.column ≠ 0 ∨ Epsilon < flow.top) then
    Advance geometry flow item.BreakBefore
  else .ok flow

/-- The loop over the blocks, at one of them. -/
def placeBlock (flow : Flow) (index : Nat) : Except FlowFault Flow :=
  match items[index]? with
  | some item => do
    let flow ← enterBlock geometry flow item
    placeFragments elements items geometry measureHeightInches index item (2 * item.Text.length + 3) flow 0
      item.Text.isEmpty
  | none => .ok flow

def emptyFlow : Flow := ⟨0, 0, 0, none, []⟩

def Plan : Except FlowFault (List DrawingSpecFlowPlacement) := do
  Validate items geometry
  let flow ← checked_run.feed (placeBlock elements items geometry measureHeightInches) emptyFlow
    (List.range items.length)
  return flow.placements

end planning

section ends

variable {α β : Type}

/-- The computation does not run out of turns. -/
def Ends (computed : Except FlowFault α) : Prop := computed ≠ .error .outOfTurns

theorem Ends.ok (value : α) : Ends (.ok value) := by
  rintro ⟨⟩

theorem Ends.pure (value : α) : Ends (Pure.pure value) := Ends.ok value

theorem Ends.thrown (message : String) : Ends (thrown message : Except FlowFault α) := by
  rintro ⟨⟩

theorem Ends.bind {first : Except FlowFault α} {rest : α → Except FlowFault β} (hfirst : Ends first)
    (hrest : ∀ value, first = .ok value → Ends (rest value)) : Ends (first >>= rest) := by
  intro h
  rcases bind_eq_error.1 h with h | ⟨value, hvalue, h⟩
  · exact hfirst h
  · exact hrest value hvalue h

theorem Ends.expect (condition : Prop) [Decidable condition] (message : String) :
    Ends (expect condition message) := by
  intro h
  have hfault := (require_eq_error.1 h).2
  cases hfault

theorem Ends.check {condition : Prop} [Decidable condition] {message : String} {rest : Unit → Except FlowFault α}
    (hrest : condition → Ends (rest ())) : Ends (revit_bridge.expect condition message >>= rest) :=
  (Ends.expect condition message).bind fun _ h => hrest (require_eq_ok.1 h)

theorem Ends.ite {condition : Prop} [Decidable condition] {first second : Except FlowFault α} (hfirst : Ends first)
    (hsecond : Ends second) : Ends (if condition then first else second) := by
  split_ifs
  · exact hfirst
  · exact hsecond

end ends

section turns

variable {elements : TextElements} {items : List DrawingSpecFlowItem} {geometry : DrawingSpecFlowGeometry}
  {measureHeightInches : DrawingSpecFlowItem → Nat → Nat → ℚ → ℚ} {flow next : Flow} {index : Nat}
  {item : DrawingSpecFlowItem} {offset : Nat} {empty : Bool} {fragment : Fragment}

theorem Advance_ends (kind : DrawingSpecFlowBreak) : Ends (Advance geometry flow kind) :=
  Ends.check fun _ => Ends.pure _

theorem Measure_ends (start length : Nat) : Ends (Measure geometry measureHeightInches item start length) :=
  Ends.check fun _ => Ends.pure _

theorem fitSearch_ends {fits : Nat → Except FlowFault Bool} {boundaries : List Nat}
    (hfits : ∀ length, Ends (fits length)) (turns lo past best : Nat) (hturns : past ≤ lo + turns) :
    Ends (fitSearch fits boundaries turns lo past best) := by
  induction turns generalizing lo past best with
  | zero =>
    rw [fitSearch, if_neg (by omega)]
    exact Ends.ok best
  | succ turns ih =>
    rw [fitSearch]
    split_ifs with hopen
    · refine (hfits _).bind fun fitting _ => ?_
      cases fitting with
      | true => exact ih _ _ _ (by omega)
      | false => exact ih _ _ _ (by omega)
    · exact Ends.ok best

theorem FindFit_ends (maximum : Nat) (available : ℚ) :
    Ends (FindFit elements geometry measureHeightInches item offset maximum available) :=
  fitSearch_ends (fun _ => (Measure_ends _ _).bind fun _ _ => Ends.pure _) _ _ _ _ (by omega)

theorem wholeGroup_ends (members : List DrawingSpecFlowItem) (group : ℚ) :
    Ends (wholeGroup geometry measureHeightInches members group) := by
  induction members generalizing group with
  | nil => exact Ends.ok _
  | cons member rest ih =>
    rw [wholeGroup]
    refine Ends.ite (Ends.ok _) (Ends.ite (Ends.ok _) ?_)
    exact (Measure_ends _ _).bind fun height _ => Ends.ite (Ends.pure _) (ih _)

theorem firstGroup_ends (members : List DrawingSpecFlowItem) (group : ℚ) :
    Ends (firstGroup elements geometry measureHeightInches members group) := by
  induction members generalizing group with
  | nil => exact Ends.ok _
  | cons next rest ih =>
    rw [firstGroup]
    refine Ends.ite (Ends.ok _) (Ends.ite ?_ ?_)
    · exact Ends.check fun _ => (Measure_ends _ _).bind fun height _ => ih _
    · exact Ends.check fun _ => (Measure_ends _ _).bind fun height _ => Ends.pure _

theorem headingGroup_ends (before : ℚ) :
    Ends (headingGroup elements items geometry measureHeightInches index before fragment) := by
  refine (wholeGroup_ends _ _).bind fun group _ => ?_
  cases group with
  | some group => exact Ends.ite (Ends.pure _) (firstGroup_ends _ _)
  | none => exact firstGroup_ends _ _

theorem turn_ends : Ends (turn elements items geometry measureHeightInches flow index item offset empty) := by
  refine Ends.bind (Ends.check fun _ => (Measure_ends _ _).bind fun _ _ => Ends.pure _) fun longest _ => ?_
  refine Ends.bind (Ends.ite ((headingGroup_ends _).bind fun group _ => Ends.check fun _ =>
    Ends.ite (Advance_ends _) (Ends.pure _)) (Ends.pure _)) fun kept _ => ?_
  refine Ends.bind (Ends.ite (Advance_ends _) (Ends.pure _)) fun moved _ => ?_
  refine Ends.bind (Ends.ite (Ends.ok _) (Ends.ite (Ends.ite (Ends.ok _) (Ends.thrown _)) ?_)) fun fitting _ => ?_
  · refine (FindFit_ends _ _).bind fun fitting _ => ?_
    refine Ends.ite (Ends.ite (Ends.pure _) (Ends.thrown _)) ?_
    exact (Measure_ends _ _).bind fun height _ => Ends.check fun _ => Ends.pure _
  · cases fitting with
    | none => exact (Advance_ends _).bind fun _ _ => Ends.pure _
    | some fragment =>
      refine Ends.bind (Ends.check fun _ => ?_) fun _ _ => Ends.pure _
      exact Ends.ite (Advance_ends _) (Ends.ite (Ends.pure _) (Ends.pure _))

end turns

/-- Behind all of a column. -/
def LaterColumn (page column : Nat) (page' column' : Nat) : Prop := page < page' ∨ page = page' ∧ column < column'

theorem LaterColumn.trans {page column page' column' page'' column'' : Nat}
    (h : LaterColumn page column page' column') (h' : LaterColumn page' column' page'' column'') :
    LaterColumn page column page'' column'' := by
  unfold LaterColumn at *
  omega

/-- In a later column, or in the same one and at or below the end of the first. -/
def Follows (first second : DrawingSpecFlowPlacement) : Prop :=
  LaterColumn first.Page first.Column second.Page second.Column
    ∨ first.Page = second.Page ∧ first.Column = second.Column
      ∧ first.TopInches + first.HeightInches ≤ second.TopInches

/-- The placement ends before the place where the flow is. -/
def Flow.Behind (flow : Flow) (placement : DrawingSpecFlowPlacement) : Prop :=
  LaterColumn placement.Page placement.Column flow.page flow.column
    ∨ placement.Page = flow.page ∧ placement.Column = flow.column
      ∧ placement.TopInches + placement.HeightInches ≤ flow.top

/-- What holds of the flow between two turns. -/
structure Flow.Sound (geometry : DrawingSpecFlowGeometry) (flow : Flow) : Prop where
  page_lt : flow.page < geometry.MaximumPages
  column_lt : flow.column < geometry.Columns
  top_nonneg : 0 ≤ flow.top
  inside : ∀ placement ∈ flow.placements, placement.Page < geometry.MaximumPages
    ∧ placement.TopInches + placement.HeightInches ≤ geometry.ColumnHeightInches + Epsilon
  behind : ∀ placement ∈ flow.placements, flow.Behind placement
  ordered : flow.placements.Pairwise Follows

/-- The start of a later column of a flow. -/
structure Flow.Advanced (geometry : DrawingSpecFlowGeometry) (flow next : Flow) : Prop where
  later : LaterColumn flow.page flow.column next.page next.column
  top : next.top = 0
  pinnedFollowing : next.pinnedFollowing = flow.pinnedFollowing
  placements : next.placements = flow.placements
  page_lt : next.page < geometry.MaximumPages
  column_lt : flow.column < geometry.Columns → next.column < geometry.Columns

section motion

variable {elements : TextElements} {items : List DrawingSpecFlowItem} {geometry : DrawingSpecFlowGeometry}
  {measureHeightInches : DrawingSpecFlowItem → Nat → Nat → ℚ → ℚ} {flow next : Flow} {index : Nat}
  {item : DrawingSpecFlowItem} {offset : Nat} {empty : Bool} {fragment : Fragment}

theorem Advance_ok {kind : DrawingSpecFlowBreak} (h : Advance geometry flow kind = .ok next) :
    flow.Advanced geometry next := by
  simp only [Advance, expect, check_bind_eq_ok, require_eq_ok, pure_eq_ok] at h
  obtain ⟨hpage, rfl⟩ := h
  split_ifs at hpage ⊢ with hkind hlast
  · exact ⟨.inl (Nat.lt_succ_self _), rfl, rfl, rfl, hpage, fun hcolumn => Nat.zero_lt_of_lt hcolumn⟩
  · exact ⟨.inl (Nat.lt_succ_self _), rfl, rfl, rfl, hpage, fun hcolumn => Nat.zero_lt_of_lt hcolumn⟩
  · exact ⟨.inr ⟨rfl, Nat.lt_succ_self _⟩, rfl, rfl, rfl, hpage, fun hcolumn => by
      have hnext : flow.column + 1 < geometry.Columns := by omega
      exact hnext⟩

theorem Flow.Advanced.trans {last : Flow} (h : flow.Advanced geometry next) (h' : next.Advanced geometry last) :
    flow.Advanced geometry last :=
  ⟨h.later.trans h'.later, h'.top, h'.pinnedFollowing.trans h.pinnedFollowing, h'.placements.trans h.placements,
    h'.page_lt, fun hcolumn => h'.column_lt (h.column_lt hcolumn)⟩

theorem Flow.Advanced.new (h : flow.Advanced geometry next) : ¬ Epsilon < next.top := by
  rw [h.top, Epsilon]
  norm_num

theorem Flow.Advanced.behind (h : flow.Advanced geometry next) {placement : DrawingSpecFlowPlacement}
    (hbehind : flow.Behind placement) : LaterColumn placement.Page placement.Column next.page next.column := by
  obtain hlater | ⟨hpage, hcolumn, _⟩ := hbehind
  · exact hlater.trans h.later
  · rw [hpage, hcolumn]
    exact h.later

theorem Flow.Sound.advanced (hsound : flow.Sound geometry) (h : flow.Advanced geometry next) :
    next.Sound geometry where
  page_lt := h.page_lt
  column_lt := h.column_lt hsound.column_lt
  top_nonneg := by rw [h.top]
  inside := by
    rw [h.placements]
    exact hsound.inside
  behind := by
    rw [h.placements]
    exact fun placement hplacement => .inl (h.behind (hsound.behind placement hplacement))
  ordered := by
    rw [h.placements]
    exact hsound.ordered

theorem keepHeading_ok
    (h : keepHeading elements items geometry measureHeightInches flow index item offset fragment = .ok next) :
    next = flow ∨ flow.Advanced geometry next := by
  rw [keepHeading] at h
  split_ifs at h
  · simp only [bind_eq_ok] at h
    obtain ⟨group, _, _, _, h⟩ := h
    split_ifs at h
    · exact .inr (Advance_ok h)
    · exact .inl (pure_eq_ok.1 h).symm
  · exact .inl (pure_eq_ok.1 h).symm

theorem keepWhole_ok (h : keepWhole geometry flow index item offset empty fragment = .ok next) :
    next = flow ∨ flow.Advanced geometry next := by
  rw [keepWhole] at h
  split_ifs at h
  · exact .inr (Advance_ok h)
  · exact .inl (pure_eq_ok.1 h).symm

theorem enterBlock_ok (h : enterBlock geometry flow item = .ok next) :
    next = flow ∨ flow.Advanced geometry next := by
  rw [enterBlock] at h
  split_ifs at h
  · exact .inr (Advance_ok h)
  · exact .inl (Except.ok.inj h).symm

theorem Measure_ok {start length : Nat} {height : ℚ}
    (h : Measure geometry measureHeightInches item start length = .ok height) : 0 < height := by
  simp only [Measure, expect, check_bind_eq_ok, require_eq_ok, pure_eq_ok] at h
  obtain ⟨hpositive, rfl⟩ := h
  exact hpositive

theorem Flow.Sound.place (hsound : flow.Sound geometry) (hbefore : 0 ≤ item.SpaceBeforeInches)
    (hheight : 0 ≤ fragment.height) (hafter : 0 ≤ fragment.after)
    (hfits : fragment.height + fragment.after ≤ available geometry flow item offset + Epsilon)
    (h : place items geometry flow index item offset fragment = .ok next) :
    next.Sound geometry ∧ next.placements = flow.placements ++ [placement geometry flow item offset fragment] := by
  have hspace : 0 ≤ spaceBefore item offset := by
    rw [spaceBefore]
    split_ifs
    · exact hbefore
    · exact le_refl 0
  have hplaced : ∀ pinnedFollowing, Flow.Sound geometry { flow with
      pinnedFollowing
      placements := flow.placements ++ [placement geometry flow item offset fragment]
      top := flow.top + (spaceBefore item offset + fragment.height + fragment.after) } := by
    intro pinnedFollowing
    have htop := hsound.top_nonneg
    refine ⟨hsound.page_lt, hsound.column_lt, ?_, ?_, ?_, ?_⟩
    · change 0 ≤ flow.top + _
      linarith
    · intro other hother
      rcases List.mem_append.1 hother with hother | hother
      · exact hsound.inside other hother
      · obtain rfl := List.mem_singleton.1 hother
        refine ⟨hsound.page_lt, ?_⟩
        rw [available] at hfits
        change flow.top + spaceBefore item offset + fragment.height ≤ _
        linarith
    · intro other hother
      rcases List.mem_append.1 hother with hother | hother
      · obtain hlater | ⟨hpage, hcolumn, hend⟩ := hsound.behind other hother
        · exact .inl hlater
        · refine .inr ⟨hpage, hcolumn, hend.trans ?_⟩
          change flow.top ≤ flow.top + _
          linarith
      · obtain rfl := List.mem_singleton.1 hother
        refine .inr ⟨rfl, rfl, ?_⟩
        change flow.top + spaceBefore item offset + fragment.height ≤ flow.top + _
        linarith
    · refine List.pairwise_append.2 ⟨hsound.ordered, List.pairwise_singleton _ _, ?_⟩
      intro first hfirst second hsecond
      obtain rfl := List.mem_singleton.1 hsecond
      obtain hlater | ⟨hpage, hcolumn, hend⟩ := hsound.behind first hfirst
      · exact .inl hlater
      · refine .inr ⟨hpage, hcolumn, hend.trans ?_⟩
        change flow.top ≤ flow.top + spaceBefore item offset
        linarith
  simp only [revit_bridge.place, expect, check_bind_eq_ok] at h
  obtain ⟨_, h⟩ := h
  split_ifs at h
  · have hadvanced := Advance_ok h
    exact ⟨(hplaced flow.pinnedFollowing).advanced hadvanced, hadvanced.placements⟩
  · obtain rfl := pure_eq_ok.1 h
    exact ⟨hplaced _, rfl⟩
  · obtain rfl := pure_eq_ok.1 h
    exact ⟨hplaced _, rfl⟩

/-- What a turn does: a kept or whole block may go to the next column, and then a fragment
    is placed or the next column is tried. -/
theorem turn_ok {placed : Option Nat}
    (h : turn elements items geometry measureHeightInches flow index item offset empty = .ok (next, placed)) :
    ∃ longest kept moved,
      longestFragment elements geometry measureHeightInches item offset = .ok longest
        ∧ keepHeading elements items geometry measureHeightInches flow index item offset longest = .ok kept
        ∧ keepWhole geometry kept index item offset empty longest = .ok moved
        ∧ (fitted elements geometry measureHeightInches moved item offset empty longest = .ok none
            ∧ Advance geometry moved .Column = .ok next ∧ placed = none
          ∨ ∃ fragment,
            fitted elements geometry measureHeightInches moved item offset empty longest = .ok (some fragment)
            ∧ place items geometry moved index item offset fragment = .ok next
            ∧ placed = some (offset + fragment.length)) := by
  simp only [turn, bind_eq_ok] at h
  obtain ⟨longest, hlongest, kept, hkept, moved, hmoved, fitting, hfitting, h⟩ := h
  refine ⟨longest, kept, moved, hlongest, hkept, hmoved, ?_⟩
  cases fitting with
  | none =>
    obtain ⟨advanced, hadvanced, h⟩ := bind_eq_ok.1 h
    obtain ⟨rfl, rfl⟩ := Prod.mk.inj (pure_eq_ok.1 h)
    exact .inl ⟨hfitting, hadvanced, rfl⟩
  | some fragment =>
    obtain ⟨after, hafter, h⟩ := bind_eq_ok.1 h
    obtain ⟨rfl, rfl⟩ := Prod.mk.inj (pure_eq_ok.1 h)
    exact .inr ⟨fragment, hfitting, hafter, rfl⟩

theorem turn_of {longest : Fragment} {kept moved : Flow}
    (hlongest : longestFragment elements geometry measureHeightInches item offset = .ok longest)
    (hkept : keepHeading elements items geometry measureHeightInches flow index item offset longest = .ok kept)
    (hmoved : keepWhole geometry kept index item offset empty longest = .ok moved)
    (hfitted : fitted elements geometry measureHeightInches moved item offset empty longest = .ok (some fragment))
    (hplace : place items geometry moved index item offset fragment = .ok next) :
    turn elements items geometry measureHeightInches flow index item offset empty
      = .ok (next, some (offset + fragment.length)) := by
  rw [turn, hlongest, ok_bind, hkept, ok_bind, hmoved, ok_bind, hfitted, ok_bind]
  exact bind_eq_ok.2 ⟨next, hplace, rfl⟩

end motion

section fragments

variable {elements : TextElements} {items : List DrawingSpecFlowItem} {geometry : DrawingSpecFlowGeometry}
  {measureHeightInches : DrawingSpecFlowItem → Nat → Nat → ℚ → ℚ} {flow next : Flow} {index : Nat}
  {item : DrawingSpecFlowItem} {offset : Nat} {empty : Bool} {fragment longest : Fragment}

theorem longestFragment_ok (h : longestFragment elements geometry measureHeightInches item offset = .ok fragment) :
    fragment.length = SafeEnd elements item.Text offset
        (min (item.Text.length - offset) MaximumTextNoteCharacters) - offset
      ∧ (offset < item.Text.length → 0 < fragment.length) ∧ 0 < fragment.height
      ∧ fragment.after = spaceAfter item offset fragment.length := by
  simp only [longestFragment, expect, bind_eq_ok, require_eq_ok, pure_eq_ok] at h
  obtain ⟨_, hsome, height, hheight, rfl⟩ := h
  refine ⟨rfl, fun hopen => ?_, Measure_ok hheight, rfl⟩
  by_contra hzero
  exact hsome ⟨by omega, Nat.eq_zero_of_not_pos hzero⟩

/-- What the search finds is among the places that it was given and fits, or it is what it had
    before. -/
theorem fitSearch_ok {fits : Nat → Except FlowFault Bool} {boundaries : List Nat} {turns lo past best found : Nat}
    (hpast : past ≤ boundaries.length) (h : fitSearch fits boundaries turns lo past best = .ok found) :
    found = best ∨ found ∈ boundaries ∧ fits found = .ok true := by
  induction turns generalizing lo past best with
  | zero =>
    rw [fitSearch] at h
    split_ifs at h
    exact .inl (Except.ok.inj h).symm
  | succ turns ih =>
    rw [fitSearch] at h
    split_ifs at h with hopen
    · obtain ⟨fitting, hfitting, h⟩ := bind_eq_ok.1 h
      cases fitting with
      | true =>
        obtain rfl | hfound := ih hpast h
        · refine .inr ⟨?_, hfitting⟩
          have hmid : lo + (past - 1 - lo) / 2 < boundaries.length := by omega
          rw [List.getD_eq_getElem _ _ hmid]
          exact List.getElem_mem hmid
        · exact .inr hfound
      | false => exact ih (by omega) h
    · exact .inl (Except.ok.inj h).symm

theorem LastWordBoundary_cases (elements : TextElements) (text : List UInt16) (start length : Nat) :
    LastWordBoundary elements text start length = start
      ∨ start < LastWordBoundary elements text start length
        ∧ LastWordBoundary elements text start length ≤ start + length
        ∧ LastWordBoundary elements text start length ∈ elements.parse text ++ [text.length] := by
  induction length with
  | zero => exact .inl rfl
  | succ length ih =>
    rw [LastWordBoundary]
    split_ifs with hboundary
    · exact .inr ⟨by omega, le_refl _, hboundary.1⟩
    · obtain hsame | ⟨hlt, hle, hmem⟩ := ih
      · exact .inl hsame
      · exact .inr ⟨hlt, by omega, hmem⟩

/-- What is placed of a fragment is all of it, or as much as the search or the word boundary
    before it says. -/
theorem fitted_some (hlongest : longestFragment elements geometry measureHeightInches item offset = .ok longest)
    (h : fitted elements geometry measureHeightInches flow item offset empty longest = .ok (some fragment)) :
    fragment.height + fragment.after ≤ available geometry flow item offset + Epsilon ∧ 0 < fragment.height
      ∧ fragment.after = spaceAfter item offset fragment.length
      ∧ (fragment = longest ∨ 0 < fragment.length ∧ ∃ fitting,
          FindFit elements geometry measureHeightInches item offset longest.length
              (available geometry flow item offset) = .ok fitting
            ∧ fitting ≠ 0
            ∧ (fragment.length = fitting
              ∨ fragment.length = LastWordBoundary elements item.Text offset fitting - offset)) := by
  obtain ⟨_, _, hpositive, hafter⟩ := longestFragment_ok hlongest
  simp only [fitted] at h
  by_cases hfits : longest.height + longest.after ≤ available geometry flow item offset + Epsilon
  · rw [if_pos hfits] at h
    obtain rfl := Option.some.inj (Except.ok.inj h)
    exact ⟨hfits, hpositive, hafter, .inl rfl⟩
  rw [if_neg hfits] at h
  cases empty with
  | true =>
    rw [if_pos rfl] at h
    split_ifs at h
    · cases h
    · cases h
  | false =>
    rw [if_neg Bool.false_ne_true] at h
    obtain ⟨fitting, hfitting, h⟩ := bind_eq_ok.1 h
    by_cases hzero : fitting = 0
    · rw [if_pos hzero] at h
      split_ifs at h
      · cases h
      · cases h
    rw [if_neg hzero] at h
    simp only [expect, bind_eq_ok, require_eq_ok, pure_eq_ok] at h
    obtain ⟨height, hheight, _, hroom, h⟩ := h
    obtain rfl := Option.some.inj h
    refine ⟨hroom, Measure_ok hheight, rfl, .inr ⟨?_, fitting, hfitting, hzero, ?_⟩⟩
    · change 0 < if _ then _ else _
      split_ifs with hword
      · exact Nat.sub_pos_of_lt hword.2
      · exact Nat.pos_of_ne_zero hzero
    · change (if _ then _ else _) = _ ∨ (if _ then _ else _) = _
      split_ifs with hword
      · exact .inr rfl
      · exact .inl rfl

/-- The next column is tried only where this one is not new, and where neither the block
    nor an element of it fits. -/
theorem fitted_none (h : fitted elements geometry measureHeightInches flow item offset empty longest = .ok none) :
    Epsilon < flow.top ∧ available geometry flow item offset + Epsilon < longest.height + longest.after
      ∧ (empty = true ∨ FindFit elements geometry measureHeightInches item offset longest.length
        (available geometry flow item offset) = .ok 0) := by
  simp only [fitted] at h
  by_cases hfits : longest.height + longest.after ≤ available geometry flow item offset + Epsilon
  · rw [if_pos hfits] at h
    cases h
  rw [if_neg hfits] at h
  cases empty with
  | true =>
    rw [if_pos rfl] at h
    split_ifs at h with htop
    · exact ⟨htop, lt_of_not_ge hfits, .inl rfl⟩
    · cases h
  | false =>
    rw [if_neg Bool.false_ne_true] at h
    obtain ⟨fitting, hfitting, h⟩ := bind_eq_ok.1 h
    by_cases hzero : fitting = 0
    · rw [if_pos hzero] at h
      rw [hzero] at hfitting
      split_ifs at h with htop
      · exact ⟨htop, lt_of_not_ge hfits, .inr hfitting⟩
      · cases h
    · rw [if_neg hzero] at h
      simp only [expect, bind_eq_ok, require_eq_ok, pure_eq_ok] at h
      obtain ⟨_, _, _, _, h⟩ := h
      cases h

/-- How many turns are left: two for every unit of the text, two for the fragment of an empty
    text, and one where the column is not new. -/
def turnsLeft (item : DrawingSpecFlowItem) (flow : Flow) (offset : Nat) (empty : Bool) : Nat :=
  2 * (item.Text.length - offset) + (if empty = true then 2 else 0) + if Epsilon < flow.top then 1 else 0

theorem moved_of_top {kept moved : Flow}
    (hkept : keepHeading elements items geometry measureHeightInches flow index item offset longest = .ok kept)
    (hmoved : keepWhole geometry kept index item offset empty longest = .ok moved) (htop : Epsilon < moved.top) :
    moved = flow := by
  obtain rfl | hadvanced := keepWhole_ok hmoved
  · obtain rfl | hadvanced := keepHeading_ok hkept
    · rfl
    · exact absurd htop hadvanced.new
  · exact absurd htop hadvanced.new

theorem turn_turnsLeft {placed : Option Nat} (hopen : empty = true ∨ offset < item.Text.length)
    (hempty : empty = true → item.Text = [])
    (h : turn elements items geometry measureHeightInches flow index item offset empty = .ok (next, placed)) :
    turnsLeft item next (placed.getD offset) (empty && placed.isNone) < turnsLeft item flow offset empty := by
  obtain ⟨longest, kept, moved, hlongest, hkept, hmoved, hend⟩ := turn_ok h
  obtain ⟨hnone, hnext, rfl⟩ | ⟨fragment, hsome, hnext, rfl⟩ := hend
  · have htop := (fitted_none hnone).1
    obtain rfl := moved_of_top hkept hmoved htop
    rw [turnsLeft, turnsLeft, if_pos htop, if_neg (Advance_ok hnext).new, Option.getD_none, Option.isNone_none,
      Bool.and_true]
    omega
  · have hprogress : offset < item.Text.length → 0 < fragment.length := by
      obtain ⟨_, _, _, rfl | ⟨hpositive, _⟩⟩ := fitted_some hlongest hsome
      · exact (longestFragment_ok hlongest).2.1
      · exact fun _ => hpositive
    have hcolumn : (if Epsilon < next.top then 1 else 0) ≤ 1 := by
      split_ifs
      · exact Nat.le_refl 1
      · exact Nat.zero_le 1
    rw [turnsLeft, turnsLeft, Option.getD_some, Option.isNone_some, Bool.and_false, if_neg Bool.false_ne_true]
    cases empty with
    | true =>
      rw [hempty rfl, List.length_nil, if_pos rfl]
      omega
    | false =>
      have hinside : offset < item.Text.length := hopen.resolve_left Bool.false_ne_true
      have hpositive := hprogress hinside
      omega

theorem placeFragments_turn {turns : Nat} {placed : Option Nat} (hopen : empty = true ∨ offset < item.Text.length)
    (h : turn elements items geometry measureHeightInches flow index item offset empty = .ok (next, placed)) :
    placeFragments elements items geometry measureHeightInches index item (turns + 1) flow offset empty
      = placeFragments elements items geometry measureHeightInches index item turns next (placed.getD offset)
        (empty && placed.isNone) := by
  rw [placeFragments, if_pos hopen, h, ok_bind]

theorem placeFragments_done {turns : Nat} (hdone : ¬ (empty = true ∨ offset < item.Text.length)) :
    placeFragments elements items geometry measureHeightInches index item turns flow offset empty = .ok flow := by
  cases turns with
  | zero => rw [placeFragments, if_neg hdone]
  | succ turns => rw [placeFragments, if_neg hdone]

theorem placeFragments_ends (turns : Nat) (flow : Flow) (offset : Nat) (empty : Bool)
    (hempty : empty = true → item.Text = []) (hturns : turnsLeft item flow offset empty ≤ turns) :
    Ends (placeFragments elements items geometry measureHeightInches index item turns flow offset empty) := by
  induction turns generalizing flow offset empty with
  | zero =>
    rw [placeFragments, if_neg]
    · exact Ends.ok flow
    · rw [turnsLeft] at hturns
      rintro (rfl | hopen)
      · rw [if_pos rfl] at hturns
        omega
      · omega
  | succ turns ih =>
    rw [placeFragments]
    split_ifs with hopen
    · refine turn_ends.bind fun turned hturned => ?_
      have hless := turn_turnsLeft hopen hempty hturned
      refine ih _ _ _ (fun hkept => hempty ?_) (by omega)
      exact (Bool.and_eq_true_iff.1 hkept).1
    · exact Ends.ok flow

theorem placeBlock_ends (flow : Flow) (index : Nat) :
    Ends (placeBlock elements items geometry measureHeightInches flow index) := by
  rw [placeBlock]
  split
  · rename_i item _
    refine Ends.bind (Ends.ite (Advance_ends _) (Ends.ok _)) fun entered _ => ?_
    refine placeFragments_ends _ _ _ _ List.isEmpty_iff.1 ?_
    rw [turnsLeft]
    split_ifs <;> omega
  · exact Ends.ok flow

theorem feed_ends (indices : List Nat) (flow : Flow) :
    Ends (checked_run.feed (placeBlock elements items geometry measureHeightInches) flow indices) := by
  induction indices generalizing flow with
  | nil => exact Ends.ok flow
  | cons index indices ih =>
    rw [← List.singleton_append, checked_run.feed_append, checked_run.feed_singleton]
    exact (placeBlock_ends flow index).bind fun next _ => ih next

theorem Plan_ends : Ends (Plan elements items geometry measureHeightInches) := by
  refine Ends.bind (Ends.check fun _ => Ends.check fun _ => Ends.expect _ _) fun _ _ => ?_
  exact (feed_ends _ _).bind fun flow _ => Ends.pure _

end fragments

/-- A place where a text may be cut. -/
def AtBoundary (elements : TextElements) (text : List UInt16) (i : Nat) : Prop :=
  i ∈ elements.parse text ∨ i = text.length

/-- The fragments lie one behind the other from the one place to the other. -/
def Contiguous : Nat → List DrawingSpecFlowPlacement → Nat → Prop
  | start, [], final => start = final
  | start, fragment :: rest, final => fragment.Start = start ∧ Contiguous (start + fragment.Length) rest final

/-- A fragment of a block. -/
structure FragmentOf (elements : TextElements) (item : DrawingSpecFlowItem) (fragment : DrawingSpecFlowPlacement) :
    Prop where
  source : fragment.SourceId = item.SourceId
  start : AtBoundary elements item.Text fragment.Start
  final : AtBoundary elements item.Text (fragment.Start + fragment.Length)
  length_le : fragment.Length ≤ MaximumTextNoteCharacters
  length_pos : item.Text ≠ [] → 0 < fragment.Length

/-- The fragments are all of the block. -/
structure CompleteFor (elements : TextElements) (item : DrawingSpecFlowItem)
    (fragments : List DrawingSpecFlowPlacement) : Prop where
  fragment : ∀ fragment ∈ fragments, FragmentOf elements item fragment
  contiguous : Contiguous 0 fragments item.Text.length
  single : item.Text = [] → fragments.length = 1

section boundaries

variable {elements : TextElements} {item : DrawingSpecFlowItem} {offset : Nat}

theorem zero_atBoundary (elements : TextElements) (text : List UInt16) : AtBoundary elements text 0 := by
  cases text with
  | nil => exact .inr rfl
  | cons unit rest => exact .inl (elements.first _ (List.cons_ne_nil unit rest))

theorem SafeEnd_atBoundary {length : Nat} (hstart : AtBoundary elements item.Text offset)
    (hlength : offset + length ≤ item.Text.length) :
    AtBoundary elements item.Text (SafeEnd elements item.Text offset length)
      ∧ offset ≤ SafeEnd elements item.Text offset length
      ∧ SafeEnd elements item.Text offset length ≤ offset + length := by
  rw [SafeEnd]
  split_ifs with hend
  · refine ⟨?_, by omega, le_refl _⟩
    obtain hall | rfl := hend
    · exact .inr hall
    · exact hstart
  · obtain hstart | hstart := hstart
    · have hmem : offset ∈ (elements.parse item.Text).filter (· ≤ offset + length) :=
        List.mem_filter.2 ⟨hstart, by simp⟩
      cases hmax : ((elements.parse item.Text).filter (· ≤ offset + length)).max? with
      | none =>
        rw [List.max?_eq_none_iff.1 hmax] at hmem
        cases hmem
      | some last =>
        obtain ⟨hlast, hgreatest⟩ := List.max?_eq_some_iff.1 hmax
        obtain ⟨hparsed, hle⟩ := List.mem_filter.1 hlast
        exact ⟨.inl hparsed, hgreatest offset hmem, of_decide_eq_true hle⟩
    · omega

end boundaries

section completeness

variable {elements : CutTextElements} {items : List DrawingSpecFlowItem} {geometry : DrawingSpecFlowGeometry}
  {measureHeightInches : DrawingSpecFlowItem → Nat → Nat → ℚ → ℚ} {flow next : Flow} {index : Nat}
  {item : DrawingSpecFlowItem} {offset : Nat} {empty : Bool} {fragment longest : Fragment}

theorem FindFit_atBoundary {maximum fitting : Nat} {available : ℚ}
    (hstart : AtBoundary elements.toTextElements item.Text offset)
    (hmaximum : AtBoundary elements.toTextElements item.Text (offset + maximum))
    (hinside : offset + maximum ≤ item.Text.length)
    (h : FindFit elements.toTextElements geometry measureHeightInches item offset maximum available = .ok fitting) :
    AtBoundary elements.toTextElements item.Text (offset + fitting) ∧ fitting ≤ maximum := by
  obtain rfl | ⟨hfound, _⟩ := fitSearch_ok (Nat.le_refl _) h
  · exact ⟨hstart, Nat.zero_le _⟩
  have hpositive : 0 < maximum := by
    by_contra hzero
    obtain rfl := Nat.eq_zero_of_not_pos hzero
    rw [List.take_zero, elements.nil] at hfound
    cases hfound
  have hstart : offset ∈ elements.parse item.Text := hstart.resolve_right (by omega)
  rcases List.mem_append.1 (List.mem_of_mem_drop hfound) with hfound | hfound
  · have hlt := elements.inside _ fitting hfound
    have hbehind : fitting ∈ elements.parse (item.Text.drop offset) := by
      obtain hcut | hall := hmaximum
      · exact elements.before _ maximum ((elements.behind _ _ hstart maximum).2 hcut) fitting hfound
      · rwa [List.take_of_length_le (by rw [List.length_drop]; omega)] at hfound
    refine ⟨.inl ((elements.behind _ _ hstart fitting).1 hbehind), ?_⟩
    rw [List.length_take] at hlt
    omega
  · obtain rfl := List.mem_singleton.1 hfound
    exact ⟨hmaximum, Nat.le_refl _⟩

theorem fragment_cuts (hstart : AtBoundary elements.toTextElements item.Text offset)
    (hoffset : offset ≤ item.Text.length)
    (hlongest : longestFragment elements.toTextElements geometry measureHeightInches item offset = .ok longest)
    (hsome : fitted elements.toTextElements geometry measureHeightInches flow item offset empty longest
      = .ok (some fragment)) :
    AtBoundary elements.toTextElements item.Text (offset + fragment.length)
      ∧ fragment.length ≤ MaximumTextNoteCharacters
      ∧ offset + fragment.length ≤ item.Text.length ∧ (offset < item.Text.length → 0 < fragment.length) := by
  obtain ⟨hlength, hprogress, _, _⟩ := longestFragment_ok hlongest
  obtain ⟨hboundary, hbehind, hlast⟩ := SafeEnd_atBoundary hstart
    (show offset + min (item.Text.length - offset) MaximumTextNoteCharacters ≤ item.Text.length by omega)
  have hend : SafeEnd elements.toTextElements item.Text offset
      (min (item.Text.length - offset) MaximumTextNoteCharacters) = offset + longest.length := by
    omega
  rw [hend] at hboundary hlast
  obtain ⟨_, _, _, rfl | ⟨hpositive, fitting, hfitting, hzero, hcut⟩⟩ := fitted_some hlongest hsome
  · exact ⟨hboundary, by omega, by omega, hprogress⟩
  · obtain ⟨hcutBoundary, hle⟩ := FindFit_atBoundary hstart hboundary (by omega) hfitting
    obtain hfull | hword := hcut
    · rw [hfull]
      exact ⟨hcutBoundary, by omega, by omega, fun _ => Nat.pos_of_ne_zero hzero⟩
    · obtain hsame | ⟨hlt, hwordLe, hmem⟩ := LastWordBoundary_cases elements.toTextElements item.Text offset fitting
      · omega
      · have hlast : offset + fragment.length = LastWordBoundary elements.toTextElements item.Text offset fitting := by
          omega
        rw [hlast]
        refine ⟨?_, by omega, by omega, fun _ => hpositive⟩
        rcases List.mem_append.1 hmem with hmem | hmem
        · exact .inl hmem
        · exact .inr (List.mem_singleton.1 hmem)

theorem turn_sound {placed : Option Nat} (hsound : flow.Sound geometry) (hbefore : 0 ≤ item.SpaceBeforeInches)
    (hafter : 0 ≤ item.SpaceAfterInches) (hstart : AtBoundary elements.toTextElements item.Text offset)
    (hoffset : offset ≤ item.Text.length) (hopen : empty = true ∨ offset < item.Text.length)
    (hempty : empty = true → item.Text = [])
    (h : turn elements.toTextElements items geometry measureHeightInches flow index item offset empty
      = .ok (next, placed)) :
    next.Sound geometry ∧ (placed = none ∧ next.placements = flow.placements
      ∨ ∃ fragment, next.placements = flow.placements ++ [fragment] ∧ fragment.Start = offset
        ∧ placed = some (offset + fragment.Length)
        ∧ FragmentOf elements.toTextElements item fragment ∧ offset + fragment.Length ≤ item.Text.length) := by
  obtain ⟨longest, kept, moved, hlongest, hkept, hmoved, hend⟩ := turn_ok h
  have hkeptSound : kept.Sound geometry ∧ kept.placements = flow.placements := by
    obtain rfl | hadvanced := keepHeading_ok hkept
    · exact ⟨hsound, rfl⟩
    · exact ⟨hsound.advanced hadvanced, hadvanced.placements⟩
  have hmovedSound : moved.Sound geometry ∧ moved.placements = flow.placements := by
    obtain rfl | hadvanced := keepWhole_ok hmoved
    · exact hkeptSound
    · exact ⟨hkeptSound.1.advanced hadvanced, hadvanced.placements.trans hkeptSound.2⟩
  obtain ⟨_, hnext, rfl⟩ | ⟨fragment, hsome, hnext, rfl⟩ := hend
  · have hadvanced := Advance_ok hnext
    exact ⟨hmovedSound.1.advanced hadvanced, .inl ⟨rfl, hadvanced.placements.trans hmovedSound.2⟩⟩
  · obtain ⟨hfits, hheight, hspace, _⟩ := fitted_some hlongest hsome
    obtain ⟨hboundary, hlength, hinside, hprogress⟩ := fragment_cuts hstart hoffset hlongest hsome
    have hspaceAfter : 0 ≤ fragment.after := by
      rw [hspace, spaceAfter]
      split_ifs
      · exact hafter
      · exact le_refl 0
    obtain ⟨hnextSound, hplacements⟩ := hmovedSound.1.place hbefore hheight.le hspaceAfter hfits hnext
    rw [hmovedSound.2] at hplacements
    have hpositive : item.Text ≠ [] → 0 < fragment.length := fun hfilled =>
      hprogress (hopen.resolve_left fun htrue => hfilled (hempty htrue))
    exact ⟨hnextSound, .inr ⟨_, hplacements, rfl, rfl, ⟨rfl, hstart, hboundary, hlength, hpositive⟩, hinside⟩⟩

theorem placeFragments_sound {turns : Nat} {final : Flow} (hsound : flow.Sound geometry)
    (hbefore : 0 ≤ item.SpaceBeforeInches) (hafter : 0 ≤ item.SpaceAfterInches)
    (hstart : AtBoundary elements.toTextElements item.Text offset) (hoffset : offset ≤ item.Text.length)
    (hempty : empty = true → item.Text = [])
    (h : placeFragments elements.toTextElements items geometry measureHeightInches index item turns flow offset empty
      = .ok final) :
    final.Sound geometry ∧ ∃ fragments, final.placements = flow.placements ++ fragments
      ∧ Contiguous offset fragments item.Text.length
      ∧ (∀ fragment ∈ fragments, FragmentOf elements.toTextElements item fragment)
      ∧ (item.Text = [] → fragments.length = if empty = true then 1 else 0) := by
  have hclosed : ∀ {flow : Flow} {offset : Nat} {empty : Bool}, ¬ (empty = true ∨ offset < item.Text.length) →
      offset ≤ item.Text.length → ∃ fragments, flow.placements = flow.placements ++ fragments
        ∧ Contiguous offset fragments item.Text.length
        ∧ (∀ fragment ∈ fragments, FragmentOf elements.toTextElements item fragment)
        ∧ (item.Text = [] → fragments.length = if empty = true then 1 else 0) := by
    intro flow offset empty hdone hoffset
    refine ⟨[], (List.append_nil _).symm, ?_, ?_, fun _ => ?_⟩
    · change offset = item.Text.length
      omega
    · rintro fragment ⟨⟩
    · rw [if_neg fun htrue => hdone (.inl htrue)]
      rfl
  induction turns generalizing flow offset empty with
  | zero =>
    rw [placeFragments] at h
    split_ifs at h with hopen
    obtain rfl := Except.ok.inj h
    exact ⟨hsound, hclosed hopen hoffset⟩
  | succ turns ih =>
    rw [placeFragments] at h
    split_ifs at h with hopen
    · obtain ⟨⟨turned, placed⟩, hturned, h⟩ := bind_eq_ok.1 h
      obtain ⟨hturnedSound, hplaced⟩ := turn_sound hsound hbefore hafter hstart hoffset hopen hempty hturned
      obtain ⟨rfl, hplacements⟩ | ⟨fragment, hplacements, hfragmentStart, rfl, hfragment, hinside⟩ := hplaced
      · simp only [Option.getD_none, Option.isNone_none, Bool.and_true] at h
        rw [← hplacements]
        exact ih hturnedSound hstart hoffset hempty h
      · simp only [Option.getD_some, Option.isNone_some, Bool.and_false] at h
        have hnext := hfragment.final
        rw [hfragmentStart] at hnext
        obtain ⟨hfinal, rest, hrest, hcontiguous, hfragments, hlength⟩ :=
          ih hturnedSound hnext hinside (fun hfalse => absurd hfalse Bool.false_ne_true) h
        refine ⟨hfinal, fragment :: rest, ?_, ⟨hfragmentStart, hcontiguous⟩, ?_, fun hnil => ?_⟩
        · rw [hrest, hplacements, List.append_assoc, List.singleton_append]
        · exact List.forall_mem_cons.2 ⟨hfragment, hfragments⟩
        · have hopenEmpty : empty = true := hopen.resolve_right (by rw [hnil]; exact Nat.not_lt_zero _)
          rw [List.length_cons, hlength hnil, hopenEmpty]
          rfl
    · obtain rfl := Except.ok.inj h
      exact ⟨hsound, hclosed hopen hoffset⟩

theorem placeBlock_sound (hsound : flow.Sound geometry) (hbefore : 0 ≤ item.SpaceBeforeInches)
    (hafter : 0 ≤ item.SpaceAfterInches) (hitem : items[index]? = some item)
    (h : placeBlock elements.toTextElements items geometry measureHeightInches flow index = .ok next) :
    next.Sound geometry ∧ ∃ fragments, next.placements = flow.placements ++ fragments
      ∧ CompleteFor elements.toTextElements item fragments := by
  rw [placeBlock, hitem] at h
  obtain ⟨entered, hentered, h⟩ := bind_eq_ok.1 h
  have henteredSound : entered.Sound geometry ∧ entered.placements = flow.placements := by
    obtain rfl | hadvanced := enterBlock_ok hentered
    · exact ⟨hsound, rfl⟩
    · exact ⟨hsound.advanced hadvanced, hadvanced.placements⟩
  obtain ⟨hfinal, fragments, hplacements, hcontiguous, hfragments, hlength⟩ :=
    placeFragments_sound henteredSound.1 hbefore hafter (zero_atBoundary _ _) (Nat.zero_le _) List.isEmpty_iff.1 h
  rw [henteredSound.2] at hplacements
  refine ⟨hfinal, fragments, hplacements, hfragments, hcontiguous, fun hnil => ?_⟩
  rw [hlength hnil, hnil]
  rfl

theorem feed_sound {count : Nat} (hcount : count ≤ items.length)
    (hspaces : ∀ item ∈ items, 0 ≤ item.SpaceBeforeInches ∧ 0 ≤ item.SpaceAfterInches)
    (hstart : emptyFlow.Sound geometry)
    (h : checked_run.feed (placeBlock elements.toTextElements items geometry measureHeightInches) emptyFlow
      (List.range count) = .ok next) :
    next.Sound geometry ∧ ∃ groups, next.placements = groups.flatten
      ∧ List.Forall₂ (CompleteFor elements.toTextElements) (items.take count) groups := by
  induction count generalizing next with
  | zero =>
    obtain rfl := Except.ok.inj h
    exact ⟨hstart, [], rfl, List.Forall₂.nil⟩
  | succ count ih =>
    rw [List.range_succ, checked_run.feed_snoc_eq_ok] at h
    obtain ⟨flow, hflow, hblock⟩ := h
    obtain ⟨hsound, groups, hgroups, hcomplete⟩ := ih (by omega) hflow
    have hitem : items[count]? = some items[count] := List.getElem?_eq_getElem hcount
    obtain ⟨hbefore, hafter⟩ := hspaces _ (List.getElem_mem hcount)
    obtain ⟨hnext, fragments, hfragments, hblockComplete⟩ := placeBlock_sound hsound hbefore hafter hitem hblock
    refine ⟨hnext, groups ++ [fragments], ?_, ?_⟩
    · rw [hfragments, hgroups, List.flatten_append, List.flatten_singleton]
    · rw [List.take_succ_eq_append_getElem hcount]
      exact List.rel_append hcomplete (List.Forall₂.cons hblockComplete List.Forall₂.nil)

end completeness

/-- The flow comes to its end, and a plan that it returns has all of every block, cut where a
    text may be cut, one placement behind the other and inside of the columns. -/
theorem column_flow_complete (elements : CutTextElements) (items : List DrawingSpecFlowItem)
    (geometry : DrawingSpecFlowGeometry) (measureHeightInches : DrawingSpecFlowItem → Nat → Nat → ℚ → ℚ) :
    Ends (Plan elements.toTextElements items geometry measureHeightInches)
      ∧ ∀ plan, Plan elements.toTextElements items geometry measureHeightInches = .ok plan →
        (∃ groups, plan = groups.flatten
          ∧ List.Forall₂ (CompleteFor elements.toTextElements) items groups)
        ∧ plan.Pairwise Follows
        ∧ ∀ placement ∈ plan, placement.Page < geometry.MaximumPages
          ∧ placement.TopInches + placement.HeightInches ≤ geometry.ColumnHeightInches + Epsilon := by
  refine ⟨Plan_ends, fun plan h => ?_⟩
  simp only [Plan, Validate, expect, bind_eq_ok, require_eq_ok, pure_eq_ok] at h
  obtain ⟨_, ⟨_, _, _, ⟨hcolumns, _, hpages, _⟩, hspaces, _⟩, flow, hflow, rfl⟩ := h
  have hstart : emptyFlow.Sound geometry :=
    ⟨hpages, hcolumns, le_refl 0, List.forall_mem_nil _, List.forall_mem_nil _, List.Pairwise.nil⟩
  obtain ⟨hsound, groups, hgroups, hcomplete⟩ := feed_sound (Nat.le_refl _)
    (fun item hitem => ⟨(hspaces item hitem).2.2.1, (hspaces item hitem).2.2.2.2.1⟩) hstart hflow
  rw [List.take_length] at hcomplete
  exact ⟨⟨groups, hgroups, hcomplete⟩, hsound.ordered, hsound.inside⟩

section sample

/-- The last two units of a text are an element, and those before them are one. -/
def lastPair : TextElements where
  parse text := if text.length = 0 then [] else if text.length ≤ 2 then [0] else [0, text.length - 2]
  nil := rfl
  first text htext := by
    have hlength := List.length_pos_iff.2 htext
    rw [if_neg (by omega)]
    split_ifs <;> exact List.mem_cons_self
  sorted text := by
    split_ifs
    · exact List.Pairwise.nil
    · exact List.pairwise_singleton _ _
    · exact List.pairwise_pair.2 (by omega)
  inside text i hi := by
    split_ifs at hi
    · cases hi
    · obtain rfl := List.mem_singleton.1 hi
      omega
    · obtain rfl | rfl := List.mem_pair.1 hi
      · omega
      · omega
  behind text cut hcut i := by
    rw [List.length_drop]
    split_ifs at hcut ⊢ with hnone hfew
    all_goals simp only [List.mem_cons, List.not_mem_nil, or_false] at hcut ⊢
    all_goals omega

/-- One unit more than two text notes of a text without an end of a word. -/
def longItem : DrawingSpecFlowItem where
  SourceId := "a"
  Text := List.replicate 30001 97
  KeepWithNext := false
  KeepTogether := false
  BreakBefore := .None
  SpaceBeforeInches := 0
  SpaceAfterInches := 0

def longGeometry : DrawingSpecFlowGeometry := ⟨1, 1, 10, 0, 2⟩

def longHeight (_ : DrawingSpecFlowItem) (_ length : Nat) (_ : ℚ) : ℚ := if 29997 < length then 20 else 1

theorem longItem_length : longItem.Text.length = 30001 := List.length_replicate

theorem longItem_source : longItem.SourceId = "a" := rfl

theorem longItem_before : longItem.SpaceBeforeInches = 0 := rfl

theorem parse_lastPair (text : List UInt16) (h : 2 < text.length) : lastPair.parse text = [0, text.length - 2] := by
  change (if text.length = 0 then [] else if text.length ≤ 2 then [0] else [0, text.length - 2]) = _
  rw [if_neg (by omega), if_neg (by omega)]

theorem LastWordBoundary_longItem (start length : Nat) :
    LastWordBoundary lastPair longItem.Text start length = start := by
  induction length with
  | zero => rfl
  | succ length ih =>
    rw [LastWordBoundary, if_neg, ih]
    rintro ⟨_, hspace⟩
    obtain ⟨unit, hunit, hspace⟩ := (Option.any_eq_true _ _).1 hspace
    have hmem : unit ∈ List.replicate 30001 (97 : UInt16) := List.mem_of_getElem? hunit
    rw [(List.mem_replicate.1 hmem).2] at hspace
    revert hspace
    decide

theorem Measure_long (start length : Nat) :
    Measure longGeometry longHeight longItem start length = .ok (if 29997 < length then 20 else 1) := by
  rw [Measure, expect, require_of]
  · rfl
  · rw [longHeight]
    split_ifs <;> norm_num

theorem longestFragment_long : longestFragment lastPair longGeometry longHeight longItem 0 = .ok ⟨29999, 20, 0⟩ := by
  have hparse := parse_lastPair longItem.Text (by rw [longItem_length]; norm_num)
  rw [longItem_length] at hparse
  have hend : SafeEnd lastPair longItem.Text 0 29999 = 29999 := by
    rw [SafeEnd, longItem_length, if_neg (by norm_num), hparse]
    rfl
  have hlength : min (longItem.Text.length - 0) MaximumTextNoteCharacters = 29999 := by
    rw [longItem_length]
    rfl
  have hafter : spaceAfter longItem 0 29999 = 0 := by
    rw [spaceAfter, longItem_length, if_neg (by norm_num)]
  simp only [longestFragment]
  rw [hlength, hend, expect, require_of (by omega), ok_bind, Measure_long, hafter]
  rfl

theorem FindFit_long : FindFit lastPair longGeometry longHeight longItem 0 29999 10 = .ok 29997 := by
  have hparse : lastPair.parse ((longItem.Text.drop 0).take 29999) = [0, 29997] := by
    have hlength : ((longItem.Text.drop 0).take 29999).length = 29999 := by
      rw [List.length_take, List.length_drop, longItem_length]
      rfl
    rw [parse_lastPair _ (by rw [hlength]; norm_num), hlength]
  simp only [FindFit, hparse, List.cons_append, List.nil_append, List.drop_one, List.tail_cons, Measure_long,
    longItem_length]
  norm_num [fitSearch, Epsilon]
  rfl

theorem firstTurn_long : turn lastPair [longItem] longGeometry longHeight emptyFlow 0 longItem 0 false
    = .ok (⟨1, 0, 0, none, [⟨"a", 0, 29997, 0, 0, 0, 0, 1⟩]⟩, some 29997) := by
  have hkept : keepHeading lastPair [longItem] longGeometry longHeight emptyFlow 0 longItem 0 ⟨29999, 20, 0⟩
      = .ok emptyFlow := by
    rw [keepHeading, longItem_length, if_neg (by norm_num)]
    rfl
  have hwhole : keepWhole longGeometry emptyFlow 0 longItem 0 false ⟨29999, 20, 0⟩ = .ok emptyFlow := by
    rw [keepWhole, if_neg]
    · rfl
    · norm_num [emptyFlow, Epsilon]
  have havailable : available longGeometry emptyFlow longItem 0 = 10 := by
    norm_num [available, longGeometry, emptyFlow, spaceBefore, longItem_before]
  have hfitted : fitted lastPair longGeometry longHeight emptyFlow longItem 0 false ⟨29999, 20, 0⟩
      = .ok (some ⟨29997, 1, 0⟩) := by
    simp only [fitted]
    rw [havailable, if_neg (by norm_num [Epsilon]), if_neg Bool.false_ne_true, FindFit_long, ok_bind,
      if_neg (by norm_num), LastWordBoundary_longItem, if_neg (by omega), Measure_long, if_neg (by norm_num), ok_bind,
      spaceAfter, longItem_length, if_neg (by norm_num), expect, require_of (by norm_num [Epsilon])]
    rfl
  have hplacement : placement longGeometry emptyFlow longItem 0 ⟨29997, 1, 0⟩ = ⟨"a", 0, 29997, 0, 0, 0, 0, 1⟩ := by
    simp [placement, emptyFlow, spaceBefore, longItem_source, longItem_before]
  have hplace : place [longItem] longGeometry emptyFlow 0 longItem 0 ⟨29997, 1, 0⟩
      = .ok ⟨1, 0, 0, none, [⟨"a", 0, 29997, 0, 0, 0, 0, 1⟩]⟩ := by
    simp only [place]
    rw [longItem_length, hplacement, expect, require_of (by decide), ok_bind, if_pos (by norm_num), Advance,
      if_neg (by decide), if_pos (by decide), expect, require_of (by decide)]
    rfl
  have hturn := turn_of longestFragment_long hkept hwhole hfitted hplace
  rwa [Nat.zero_add] at hturn

theorem secondTurn_long {flow : Flow} (hpage : flow.page = 1) (hcolumn : flow.column = 0) (htop : flow.top = 0)
    (hfew : flow.placements.length ≤ 1) :
    ∃ next, turn lastPair [longItem] longGeometry longHeight flow 0 longItem 29997 false = .ok (next, some 30001)
      ∧ next.placements = flow.placements ++ [⟨"a", 29997, 4, 1, 0, 0, 0, 1⟩] := by
  have hlongest : longestFragment lastPair longGeometry longHeight longItem 29997 = .ok ⟨4, 1, 0⟩ := by
    have hend : SafeEnd lastPair longItem.Text 29997 4 = 30001 := by
      rw [SafeEnd, longItem_length, if_pos (by norm_num)]
    have hlength : min (longItem.Text.length - 29997) MaximumTextNoteCharacters = 4 := by
      rw [longItem_length]
      rfl
    simp only [longestFragment]
    rw [hlength, hend, expect, require_of (by omega), ok_bind, Measure_long, if_neg (by norm_num), ok_bind,
      spaceAfter, longItem_length, if_pos (by norm_num)]
    rfl
  have hkept : keepHeading lastPair [longItem] longGeometry longHeight flow 0 longItem 29997 ⟨4, 1, 0⟩
      = .ok flow := by
    rw [keepHeading, if_neg]
    · rfl
    · rintro ⟨_, hkeeps⟩
      cases hkeeps
  have havailable : available longGeometry flow longItem 29997 = 10 := by
    norm_num [available, longGeometry, htop, spaceBefore]
  have hwhole : keepWhole longGeometry flow 0 longItem 29997 false ⟨4, 1, 0⟩ = .ok flow := by
    rw [keepWhole, havailable, if_neg]
    · rfl
    · norm_num [Epsilon]
  have hfitted : fitted lastPair longGeometry longHeight flow longItem 29997 false ⟨4, 1, 0⟩
      = .ok (some ⟨4, 1, 0⟩) := by
    simp only [fitted]
    rw [havailable, if_pos (by norm_num [Epsilon])]
  have hplacement : placement longGeometry flow longItem 29997 ⟨4, 1, 0⟩ = ⟨"a", 29997, 4, 1, 0, 0, 0, 1⟩ := by
    simp [placement, hpage, hcolumn, htop, spaceBefore, longItem_source]
  have hplace : ∃ next, place [longItem] longGeometry flow 0 longItem 29997 ⟨4, 1, 0⟩ = .ok next
      ∧ next.placements = flow.placements ++ [⟨"a", 29997, 4, 1, 0, 0, 0, 1⟩] := by
    simp only [place]
    rw [longItem_length, hplacement, expect, require_of, ok_bind, if_neg (by norm_num), if_neg (by decide)]
    · exact ⟨_, rfl, rfl⟩
    · rw [List.length_append, List.length_singleton]
      omega
  obtain ⟨next, hnext, hplacements⟩ := hplace
  refine ⟨next, ?_, hplacements⟩
  exact turn_of hlongest hkept hwhole hfitted hnext

theorem Plan_long : Plan lastPair [longItem] longGeometry longHeight
    = .ok [⟨"a", 0, 29997, 0, 0, 0, 0, 1⟩, ⟨"a", 29997, 4, 1, 0, 0, 0, 1⟩] := by
  have hvalid : Validate [longItem] longGeometry = .ok () := by
    have hbreak : (12 : UInt16) ∉ longItem.Text := by
      intro hmem
      have hunit := (List.mem_replicate.1 hmem).2
      revert hunit
      decide
    simp only [Validate, expect]
    rw [require_of (by decide), ok_bind, require_of, ok_bind, require_of]
    · refine ⟨List.forall_mem_singleton.2 ⟨?_, hbreak, ?_⟩, List.nodup_singleton _⟩
      · decide
      · norm_num [longItem_before, show longItem.SpaceAfterInches = 0 from rfl]
    · norm_num [longGeometry]
  obtain ⟨next, hsecond, hplacements⟩ := @secondTurn_long
    ⟨1, 0, 0, none, [⟨"a", 0, 29997, 0, 0, 0, 0, 1⟩]⟩ rfl rfl rfl (Nat.le_refl 1)
  have hblock : placeBlock lastPair [longItem] longGeometry longHeight emptyFlow 0 = .ok next := by
    change (enterBlock longGeometry emptyFlow longItem >>= fun flow => placeFragments lastPair [longItem] longGeometry
      longHeight 0 longItem (2 * longItem.Text.length + 3) flow 0 longItem.Text.isEmpty) = .ok next
    rw [show enterBlock longGeometry emptyFlow longItem = .ok emptyFlow from rfl, ok_bind, longItem_length,
      show longItem.Text.isEmpty = false from rfl, show 2 * 30001 + 3 = 60003 + 1 + 1 by norm_num,
      placeFragments_turn (.inr (by rw [longItem_length]; norm_num)) firstTurn_long]
    exact (placeFragments_turn (.inr (by rw [longItem_length]; norm_num)) hsecond).trans
      (placeFragments_done (by rw [longItem_length]; decide))
  rw [Plan, hvalid, ok_bind, List.length_singleton, List.range_one, checked_run.feed_singleton, hblock, ok_bind,
    hplacements]
  rfl

/-- Where the elements before a cut may change, a cut may be inside of one. -/
theorem suffixes_not_enough : ¬ ∀ (elements : TextElements) (items : List DrawingSpecFlowItem)
    (geometry : DrawingSpecFlowGeometry) (measureHeightInches : DrawingSpecFlowItem → Nat → Nat → ℚ → ℚ),
    (∀ item start length width, 0 < measureHeightInches item start length width) →
    ∀ plan, Plan elements items geometry measureHeightInches = .ok plan →
      ∃ groups, plan = groups.flatten ∧ List.Forall₂ (CompleteFor elements) items groups := by
  intro h
  have hpositive : ∀ item start length width, 0 < longHeight item start length width := by
    intro item start length width
    rw [longHeight]
    split_ifs <;> norm_num
  obtain ⟨groups, hplan, hcomplete⟩ := h lastPair [longItem] longGeometry longHeight hpositive _ Plan_long
  cases hcomplete with
  | cons hfirst hnil =>
    cases hnil
    rename_i fragments
    rw [List.flatten_singleton] at hplan
    have hcut := (hfirst.fragment ⟨"a", 0, 29997, 0, 0, 0, 0, 1⟩ (hplan ▸ List.mem_cons_self)).final
    rw [AtBoundary, parse_lastPair _ (by rw [longItem_length]; norm_num), longItem_length] at hcut
    revert hcut
    decide

end sample

end revit_operator.revit_bridge
