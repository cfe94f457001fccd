import RevitOperator.RevitBridge.DrawingSpecColumnFlow

open checked

/-! Headings and the column of what follows them. -/

namespace revit_operator.revit_bridge

/-- The place is not before the one where the flow is. -/
def Flow.NotBefore (flow : Flow) (page column : Nat) : Prop :=
  page = flow.page ∧ column = flow.column ∨ LaterColumn flow.page flow.column page column

/-- The placements of a block. -/
def fragmentsOf (plan : List DrawingSpecFlowPlacement) (item : DrawingSpecFlowItem) : List DrawingSpecFlowPlacement :=
  plan.filter fun placement => placement.SourceId = item.SourceId

/-- Every block that is kept with the next one ends in the column where that one starts. -/
def NoOrphan (items : List DrawingSpecFlowItem) (plan : List DrawingSpecFlowPlacement) : Prop :=
  ∀ (i : Nat) (item following : DrawingSpecFlowItem), items[i]? = some item → items[i + 1]? = some following →
    item.KeepWithNext = true → following.BreakBefore = .None →
    ∃ last first, (fragmentsOf plan item).getLast? = some last ∧ (fragmentsOf plan following).head? = some first
      ∧ first.Page = last.Page ∧ first.Column = last.Column

section condition

variable (elements : TextElements) (items : List DrawingSpecFlowItem) (geometry : DrawingSpecFlowGeometry)
  (measureHeightInches : DrawingSpecFlowItem → Nat → Nat → ℚ → ℚ)

/-- The first place of `FindFit`. -/
def firstPlace (item : DrawingSpecFlowItem) (length : Nat) : Nat :=
  ((elements.parse (item.Text.take length) ++ [length]).drop 1).headD 0

/-- The block starts in the column where the flow is: its group fits there, where it is kept
    with the next block, and its longest fragment fits there or else its first element. -/
structure StaysInColumn (flow : Flow) (index : Nat) (item : DrawingSpecFlowItem) (longest : Fragment) : Prop where
  heading : longest.length = item.Text.length → keepsFollowing items index item = true →
    ∀ group,
      headingGroup elements items geometry measureHeightInches index item.SpaceBeforeInches longest = .ok group →
      flow.top ≤ Epsilon ∨ flow.top + group ≤ geometry.ColumnHeightInches + Epsilon
  room : longest.height + longest.after ≤ available geometry flow item 0 + Epsilon
    ∨ item.Text ≠ [] ∧
      measureHeightInches item 0 (firstPlace elements item longest.length) geometry.ColumnWidthInches
        + spaceAfter item 0 (firstPlace elements item longest.length) ≤ available geometry flow item 0 + Epsilon

/-- A block behind one that is kept with it stays in the column. -/
def KeepsColumn (flow : Flow) (index : Nat) : Prop :=
  ∀ item, items[index]? = some item → flow.pinnedFollowing = some index →
    ∀ longest, longestFragment elements geometry measureHeightInches item 0 = .ok longest →
      StaysInColumn elements items geometry measureHeightInches flow index item longest

end condition

section motion

variable {elements : TextElements} {items : List DrawingSpecFlowItem} {geometry : DrawingSpecFlowGeometry}
  {measureHeightInches : DrawingSpecFlowItem → Nat → Nat → ℚ → ℚ} {flow next : Flow} {index : Nat}
  {item : DrawingSpecFlowItem} {offset : Nat} {empty : Bool} {fragment longest : Fragment}

theorem Flow.NotBefore.refl (flow : Flow) : flow.NotBefore flow.page flow.column :=
  .inl ⟨rfl, rfl⟩

theorem Flow.Advanced.notBefore {page column : Nat} (h : flow.Advanced geometry next)
    (hnext : next.NotBefore page column) : LaterColumn flow.page flow.column page column := by
  obtain ⟨rfl, rfl⟩ | hlater := hnext
  · exact h.later
  · exact h.later.trans hlater

/-- The pin behind a block. -/
def pinBehind (items : List DrawingSpecFlowItem) (index : Nat) (item : DrawingSpecFlowItem) (pinned : Option Nat) :
    Option Nat :=
  if keepsFollowing items index item = true then some (index + 1) else pinned

theorem place_columns (h : place items geometry flow index item offset fragment = .ok next) :
    next.placements = flow.placements ++ [placement geometry flow item offset fragment]
      ∧ (offset + fragment.length < item.Text.length
          ∧ flow.Advanced geometry { next with placements := flow.placements }
        ∨ ¬ offset + fragment.length < item.Text.length ∧ next.page = flow.page ∧ next.column = flow.column
          ∧ next.pinnedFollowing = pinBehind items index item flow.pinnedFollowing) := by
  simp only [place, expect, check_bind_eq_ok] at h
  obtain ⟨_, h⟩ := h
  split_ifs at h with hmore hkeeps
  · have hadvanced := Advance_ok h
    exact ⟨hadvanced.placements, .inl ⟨hmore, hadvanced.later, hadvanced.top, hadvanced.pinnedFollowing, rfl,
      hadvanced.page_lt, hadvanced.column_lt⟩⟩
  · obtain rfl := pure_eq_ok.1 h
    exact ⟨rfl, .inr ⟨hmore, rfl, rfl, (if_pos hkeeps).symm⟩⟩
  · obtain rfl := pure_eq_ok.1 h
    exact ⟨rfl, .inr ⟨hmore, rfl, rfl, (if_neg hkeeps).symm⟩⟩

theorem Flow.Advanced.ne (h : flow.Advanced geometry next) : next ≠ flow := by
  rintro rfl
  have hlater := h.later
  unfold LaterColumn at hlater
  omega

theorem keepHeading_iff
    (hkept : keepHeading elements items geometry measureHeightInches flow index item 0 longest = .ok next) :
    next = flow ↔ (longest.length = item.Text.length → keepsFollowing items index item = true →
      ∀ group,
        headingGroup elements items geometry measureHeightInches index item.SpaceBeforeInches longest = .ok group →
        flow.top ≤ Epsilon ∨ flow.top + group ≤ geometry.ColumnHeightInches + Epsilon) := by
  rw [keepHeading, Nat.sub_zero, show spaceBefore item 0 = item.SpaceBeforeInches from if_pos rfl] at hkept
  split_ifs at hkept with hwhole
  · simp only [bind_eq_ok] at hkept
    obtain ⟨group, hgroup, _, _, hkept⟩ := hkept
    split_ifs at hkept with hmoves
    · refine iff_of_false (Advance_ok hkept).ne fun h => ?_
      obtain htop | hroom := h hwhole.1 hwhole.2 group hgroup
      · exact absurd hmoves.1 (not_lt_of_ge htop)
      · exact absurd hmoves.2 (not_lt_of_ge hroom)
    · refine iff_of_true (pure_eq_ok.1 hkept).symm fun _ _ other hother => ?_
      obtain rfl := Except.ok.inj (hgroup.symm.trans hother)
      by_contra hneither
      obtain ⟨htop, hroom⟩ := not_or.1 hneither
      exact hmoves ⟨lt_of_not_ge htop, lt_of_not_ge hroom⟩
  · exact iff_of_true (pure_eq_ok.1 hkept).symm fun hlength hkeeps => absurd ⟨hlength, hkeeps⟩ hwhole

theorem keepWhole_pinned (hpinned : flow.pinnedFollowing = some index)
    (hmoved : keepWhole geometry flow index item offset empty longest = .ok next) :
    next = flow ↔ ¬ (available geometry flow item offset + Epsilon < longest.height + longest.after
      ∧ Epsilon < flow.top ∧ empty = true) := by
  rw [keepWhole] at hmoved
  split_ifs at hmoved with hmoves
  · obtain ⟨hroom, htop, hempty | ⟨_, hunpinned, _⟩⟩ := hmoves
    · exact iff_of_false (Advance_ok hmoved).ne fun h => h ⟨hroom, htop, hempty⟩
    · exact absurd hpinned hunpinned
  · exact iff_of_true (pure_eq_ok.1 hmoved).symm fun hall => hmoves ⟨hall.1, hall.2.1, .inl hall.2.2⟩

theorem fitSearch_first {fits : Nat → Except FlowFault Bool} {boundaries : List Nat} {turns past : Nat}
    (hpast : past ≤ boundaries.length) (hpositive : ∀ boundary ∈ boundaries, 0 < boundary) (hsome : 0 < past)
    (h : fitSearch fits boundaries turns 0 past 0 = .ok 0) : fits (boundaries.headD 0) = .ok false := by
  induction turns generalizing past with
  | zero =>
    rw [fitSearch, if_pos hsome] at h
    cases h
  | succ turns ih =>
    rw [fitSearch, if_pos hsome] at h
    obtain ⟨fitting, hfitting, h⟩ := bind_eq_ok.1 h
    have hmid : 0 + (past - 1 - 0) / 2 < boundaries.length := by omega
    cases fitting with
    | true =>
      have hfound := fitSearch_ok hpast h
      rw [List.getD_eq_getElem _ _ hmid] at hfound
      obtain hzero | ⟨hzero, _⟩ := hfound
      · have hmember := hpositive _ (List.getElem_mem hmid)
        omega
      · exact absurd (hpositive 0 hzero) (Nat.lt_irrefl 0)
    | false =>
      by_cases hfirst : 0 + (past - 1 - 0) / 2 = 0
      · rw [hfirst] at hfitting
        cases boundaries with
        | nil => exact absurd hmid (Nat.not_lt_zero _)
        | cons boundary rest => exact hfitting
      · exact ih (by omega) (by omega) h

end motion

section search

variable {elements : TextElements} {geometry : DrawingSpecFlowGeometry}
  {measureHeightInches : DrawingSpecFlowItem → Nat → Nat → ℚ → ℚ} {item : DrawingSpecFlowItem}

theorem boundaries_cases (elements : TextElements) (text : List UInt16) {maximum : Nat} (hmaximum : 0 < maximum)
    (hinside : maximum ≤ text.length) :
    ∃ first rest, (elements.parse (text.take maximum) ++ [maximum]).drop 1 = first :: rest ∧ 0 < first
      ∧ ∀ place ∈ first :: rest, first ≤ place ∧ place ≤ maximum := by
  have htake : (text.take maximum).length = maximum := by
    rw [List.length_take]
    omega
  have hbelow : ∀ place ∈ elements.parse (text.take maximum), place < maximum := by
    intro place hplace
    have hlt := elements.inside _ place hplace
    omega
  have hsorted : (elements.parse (text.take maximum) ++ [maximum]).Pairwise (· < ·) := by
    refine List.pairwise_append.2 ⟨elements.sorted _, List.pairwise_singleton _ _, fun place hplace last hlast => ?_⟩
    rw [List.mem_singleton.1 hlast]
    exact hbelow place hplace
  have hsome : 0 ∈ elements.parse (text.take maximum) := by
    refine elements.first _ fun hnil => ?_
    rw [hnil, List.length_nil] at htake
    omega
  cases hparse : elements.parse (text.take maximum) with
  | nil =>
    rw [hparse] at hsome
    cases hsome
  | cons earliest places =>
    rw [hparse, List.cons_append] at hsorted
    rw [hparse] at hbelow
    obtain ⟨habove, hrest⟩ := List.pairwise_cons.1 hsorted
    have hlast : ∀ place ∈ places ++ [maximum], place ≤ maximum := by
      intro place hplace
      rcases List.mem_append.1 hplace with hplace | hplace
      · exact (hbelow place (List.mem_cons_of_mem _ hplace)).le
      · exact (List.mem_singleton.1 hplace).le
    cases hplaces : places ++ [maximum] with
    | nil => exact absurd (List.append_eq_nil_iff.1 hplaces).2 (List.cons_ne_nil _ _)
    | cons first rest =>
      rw [hplaces] at habove hrest hlast
      refine ⟨first, rest, ?_, Nat.zero_lt_of_lt (habove first List.mem_cons_self), fun place hplace => ?_⟩
      · rw [List.cons_append, List.drop_one, List.tail_cons, hplaces]
      · rcases List.mem_cons.1 hplace with rfl | hmember
        · exact ⟨le_refl _, hlast _ hplace⟩
        · exact ⟨((List.pairwise_cons.1 hrest).1 place hmember).le, hlast place hplace⟩

/-- A height that grows with the fragment makes the search fail only where its first place
    does not fit. -/
theorem FindFit_zero_iff {maximum fitting : Nat} {room : ℚ}
    (hpositive : ∀ start length, 0 < measureHeightInches item start length geometry.ColumnWidthInches)
    (hmonotone : ∀ start length length', length ≤ length' →
      measureHeightInches item start length geometry.ColumnWidthInches
        ≤ measureHeightInches item start length' geometry.ColumnWidthInches)
    (hafter : 0 ≤ item.SpaceAfterInches) (hmaximum : 0 < maximum) (hinside : maximum ≤ item.Text.length)
    (h : FindFit elements geometry measureHeightInches item 0 maximum room = .ok fitting) :
    fitting = 0 ↔ ¬ measureHeightInches item 0 (firstPlace elements item maximum) geometry.ColumnWidthInches
      + spaceAfter item 0 (firstPlace elements item maximum) ≤ room + Epsilon := by
  obtain ⟨first, rest, hplaces, hfirst, hrange⟩ := boundaries_cases elements item.Text hmaximum hinside
  have hfirstPlace : firstPlace elements item maximum = first := by
    rw [firstPlace, hplaces, List.headD_cons]
  have hfits : ∀ length, (do
      let height ← Measure geometry measureHeightInches item 0 length
      let after := if 0 + length = item.Text.length then item.SpaceAfterInches else 0
      return decide (height + after ≤ room + Epsilon) : Except FlowFault Bool)
        = .ok (decide (measureHeightInches item 0 length geometry.ColumnWidthInches + spaceAfter item 0 length
          ≤ room + Epsilon)) := by
    intro length
    simp only [Measure, expect, require_of (hpositive 0 length), spaceAfter, Nat.zero_add, Nat.sub_zero]
    rfl
  rw [hfirstPlace]
  simp only [FindFit, List.drop_zero, hplaces, hfits] at h
  constructor
  · rintro rfl
    have hnone := fitSearch_first (Nat.le_refl _) (fun place hplace => hfirst.trans_le (hrange place hplace).1)
      (Nat.zero_lt_succ _) h
    exact of_decide_eq_false (Except.ok.inj hnone)
  · intro hroom
    obtain hzero | ⟨hfound, hfound'⟩ := fitSearch_ok (Nat.le_refl _) h
    · exact hzero
    · obtain ⟨hle, hlast⟩ := hrange fitting hfound
      have hfitting := of_decide_eq_true (Except.ok.inj hfound')
      have hheight := hmonotone 0 first fitting hle
      have hspace : spaceAfter item 0 first ≤ spaceAfter item 0 fitting := by
        rw [spaceAfter, spaceAfter]
        split_ifs with hend hshort
        · exact le_refl _
        · omega
        · exact hafter
        · exact le_refl _
      exact absurd (by linarith) hroom

end search

section blocks

variable {elements : TextElements} {items : List DrawingSpecFlowItem} {geometry : DrawingSpecFlowGeometry}
  {measureHeightInches : DrawingSpecFlowItem → Nat → Nat → ℚ → ℚ} {flow next kept moved : Flow} {index : Nat}
  {item : DrawingSpecFlowItem} {offset : Nat} {empty : Bool} {fragment longest : Fragment}
  {fitting : Option Fragment} {placed : Option Nat}

variable (hpositive : ∀ start length, 0 < measureHeightInches item start length geometry.ColumnWidthInches)
  (hmonotone : ∀ start length length', length ≤ length' →
    measureHeightInches item start length geometry.ColumnWidthInches
      ≤ measureHeightInches item start length' geometry.ColumnWidthInches)
  (hafter : 0 ≤ item.SpaceAfterInches)

theorem longestFragment_bounds (hsome : item.Text ≠ [])
    (h : longestFragment elements geometry measureHeightInches item 0 = .ok longest) :
    0 < longest.length ∧ longest.length ≤ item.Text.length := by
  obtain ⟨hlength, hprogress, _, _⟩ := longestFragment_ok h
  refine ⟨hprogress (List.length_pos_iff.2 hsome), ?_⟩
  obtain ⟨_, _, hlast⟩ := SafeEnd_atBoundary (zero_atBoundary elements item.Text)
    (show 0 + min (item.Text.length - 0) MaximumTextNoteCharacters ≤ item.Text.length by omega)
  omega

include hpositive hmonotone hafter in
/-- The block starts in its column exactly where its first turn neither leaves it nor finds
    it full. -/
theorem staysInColumn_iff (hpinned : flow.pinnedFollowing = some index)
    (hlongest : longestFragment elements geometry measureHeightInches item 0 = .ok longest)
    (hkept : keepHeading elements items geometry measureHeightInches flow index item 0 longest = .ok kept)
    (hmoved : keepWhole geometry kept index item 0 item.Text.isEmpty longest = .ok moved)
    (hfitting : fitted elements geometry measureHeightInches moved item 0 item.Text.isEmpty longest = .ok fitting) :
    StaysInColumn elements items geometry measureHeightInches flow index item longest
      ↔ moved = flow ∧ fitting ≠ none := by
  constructor
  · rintro ⟨hheading, hroom⟩
    obtain rfl := (keepHeading_iff hkept).2 hheading
    obtain hroom | ⟨hsome, hroom⟩ := hroom
    · obtain rfl := (keepWhole_pinned hpinned hmoved).2 fun h => absurd h.1 (not_lt_of_ge hroom)
      refine ⟨rfl, ?_⟩
      rintro rfl
      exact absurd (fitted_none hfitting).2.1 (not_lt_of_ge hroom)
    · have hfilled : item.Text.isEmpty ≠ true := fun hempty => hsome (List.isEmpty_iff.1 hempty)
      obtain rfl := (keepWhole_pinned hpinned hmoved).2 fun h => hfilled h.2.2
      refine ⟨rfl, ?_⟩
      rintro rfl
      obtain hempty | hsearch := (fitted_none hfitting).2.2
      · exact hfilled hempty
      · obtain ⟨hlength, hinside⟩ := longestFragment_bounds hsome hlongest
        exact (FindFit_zero_iff hpositive hmonotone hafter hlength hinside hsearch).1 rfl hroom
  · rintro ⟨rfl, hplaced⟩
    obtain rfl : kept = moved := by
      obtain hsame | hadvanced := keepHeading_ok hkept
      · exact hsame
      · obtain rfl | hmore := keepWhole_ok hmoved
        · rfl
        · exact absurd rfl (hadvanced.trans hmore).ne
    refine ⟨(keepHeading_iff hkept).1 rfl, ?_⟩
    obtain ⟨fragment, rfl⟩ := Option.ne_none_iff_exists'.1 hplaced
    obtain ⟨hroom, _, _, rfl | ⟨_, found, hsearch, hfound, _⟩⟩ := fitted_some hlongest hfitting
    · exact .inl hroom
    · have hsome : item.Text ≠ [] := by
        intro hnil
        obtain hzero | ⟨hmember, _⟩ := fitSearch_ok (Nat.le_refl _) hsearch
        · exact hfound hzero
        · rw [hnil, List.drop_nil, List.take_nil, elements.nil] at hmember
          cases hmember
      obtain ⟨hlength, hinside⟩ := longestFragment_bounds hsome hlongest
      refine .inr ⟨hsome, ?_⟩
      by_contra hnone
      exact hfound ((FindFit_zero_iff hpositive hmonotone hafter hlength hinside hsearch).2 hnone)

theorem moved_cases
    (hkept : keepHeading elements items geometry measureHeightInches flow index item offset longest = .ok kept)
    (hmoved : keepWhole geometry kept index item offset empty longest = .ok moved) :
    moved = flow ∨ flow.Advanced geometry moved := by
  obtain rfl | hadvanced := keepHeading_ok hkept
  · exact keepWhole_ok hmoved
  · obtain rfl | hmore := keepWhole_ok hmoved
    · exact .inr hadvanced
    · exact .inr (hadvanced.trans hmore)

/-- A turn tries a later column, or it places a fragment in the column of the flow or in a
    later one. -/
theorem turn_columns
    (h : turn elements items geometry measureHeightInches flow index item offset empty = .ok (next, placed)) :
    placed = none ∧ flow.Advanced geometry next
      ∨ ∃ moved fragment, (moved = flow ∨ flow.Advanced geometry moved)
        ∧ place items geometry moved index item offset fragment = .ok next
        ∧ placed = some (offset + fragment.length) := by
  obtain ⟨longest, kept, moved, _, hkept, hmoved, hend⟩ := turn_ok h
  obtain ⟨hnone, hnext, rfl⟩ | ⟨fragment, _, hnext, rfl⟩ := hend
  · obtain rfl := moved_of_top hkept hmoved (fitted_none hnone).1
    exact .inl ⟨rfl, Advance_ok hnext⟩
  · exact .inr ⟨moved, fragment, moved_cases hkept hmoved, hnext, rfl⟩

/-- The fragments of a block are in the column of the flow or in later ones, and the flow ends
    in the column of the last of them. -/
structure Columns (items : List DrawingSpecFlowItem) (index : Nat) (item : DrawingSpecFlowItem) (flow final : Flow)
    (fragments : List DrawingSpecFlowPlacement) : Prop where
  placements : final.placements = flow.placements ++ fragments
  source : ∀ fragment ∈ fragments, fragment.SourceId = item.SourceId
  notBefore : ∀ fragment ∈ fragments, flow.NotBefore fragment.Page fragment.Column
  last : ∃ last, fragments.getLast? = some last ∧ last.Page = final.page ∧ last.Column = final.column
  pinned : final.pinnedFollowing = pinBehind items index item flow.pinnedFollowing

theorem Columns.advanced {final : Flow} {fragments : List DrawingSpecFlowPlacement} (h : flow.Advanced geometry next)
    (hcolumns : Columns items index item next final fragments) : Columns items index item flow final fragments where
  placements := by rw [hcolumns.placements, h.placements]
  source := hcolumns.source
  notBefore := fun fragment hfragment => .inr (h.notBefore (hcolumns.notBefore fragment hfragment))
  last := hcolumns.last
  pinned := by rw [hcolumns.pinned, h.pinnedFollowing]

theorem placed_columns {turns : Nat} {turned final : Flow}
    (hplace : place items geometry moved index item offset fragment = .ok turned)
    (hrest : offset + fragment.length < item.Text.length → ∃ rest, Columns items index item turned final rest)
    (h : placeFragments elements items geometry measureHeightInches index item turns turned
      (offset + fragment.length) false = .ok final) :
    ∃ rest, Columns items index item moved final (placement geometry moved item offset fragment :: rest) := by
  obtain ⟨hplacements, ⟨hmore, hadvanced⟩ | ⟨hdone, hpage, hcolumn, hpinned⟩⟩ := place_columns hplace
  · obtain ⟨rest, hrest⟩ := hrest hmore
    obtain ⟨last, hlast, hend⟩ := hrest.last
    refine ⟨rest, ?_, ?_, ?_, ⟨last, ?_, hend⟩, ?_⟩
    · rw [hrest.placements, hplacements, List.append_assoc, List.singleton_append]
    · exact List.forall_mem_cons.2 ⟨rfl, hrest.source⟩
    · refine List.forall_mem_cons.2 ⟨Flow.NotBefore.refl moved, fun other hother => .inr ?_⟩
      exact hadvanced.notBefore (hrest.notBefore other hother)
    · rw [List.getLast?_cons, hlast, Option.getD_some]
    · rw [hrest.pinned]
      exact congrArg _ hadvanced.pinnedFollowing
  · rw [placeFragments_done (by simpa using hdone)] at h
    obtain rfl := Except.ok.inj h
    refine ⟨[], hplacements, ?_, ?_, ⟨_, rfl, ?_⟩, hpinned⟩
    · exact List.forall_mem_singleton.2 rfl
    · exact List.forall_mem_singleton.2 (Flow.NotBefore.refl moved)
    · exact ⟨hpage.symm, hcolumn.symm⟩

theorem placeFragments_columns {turns : Nat} {final : Flow} (hopen : empty = true ∨ offset < item.Text.length)
    (h : placeFragments elements items geometry measureHeightInches index item turns flow offset empty = .ok final) :
    ∃ fragments, Columns items index item flow final fragments := by
  induction turns generalizing flow offset empty with
  | zero =>
    rw [placeFragments, if_pos hopen] at h
    cases h
  | succ turns ih =>
    rw [placeFragments, if_pos hopen] at h
    obtain ⟨⟨turned, placed⟩, hturned, h⟩ := bind_eq_ok.1 h
    obtain ⟨rfl, hadvanced⟩ | ⟨moved, fragment, hmoved, hplace, rfl⟩ := turn_columns hturned
    · simp only [Option.getD_none, Option.isNone_none, Bool.and_true] at h
      obtain ⟨fragments, hcolumns⟩ := ih hopen h
      exact ⟨fragments, hcolumns.advanced hadvanced⟩
    · simp only [Option.getD_some, Option.isNone_some, Bool.and_false] at h
      obtain ⟨rest, hcolumns⟩ := placed_columns hplace (fun hmore => ih (.inr hmore) h) h
      obtain rfl | hadvanced := hmoved
      · exact ⟨_, hcolumns⟩
      · exact ⟨_, hcolumns.advanced hadvanced⟩

theorem block_open (item : DrawingSpecFlowItem) : item.Text.isEmpty = true ∨ 0 < item.Text.length := by
  cases item.Text with
  | nil => exact .inl rfl
  | cons unit rest => exact .inr (Nat.zero_lt_succ _)

theorem Flow.Advanced.elsewhere {page column : Nat} (h : flow.Advanced geometry next)
    (hnext : next.NotBefore page column) : ¬ (page = flow.page ∧ column = flow.column) := by
  rintro ⟨rfl, rfl⟩
  have hlater := h.notBefore hnext
  unfold LaterColumn at hlater
  omega

include hpositive hmonotone hafter in
/-- A block behind one that is kept with it starts in the column of the flow exactly where it
    stays there. -/
theorem placeBlock_pinned (hpinned : flow.pinnedFollowing = some index)
    (hitem : items[index]? = some item) (hbreak : item.BreakBefore = .None)
    (h : placeBlock elements items geometry measureHeightInches flow index = .ok next) :
    ∃ first rest, Columns items index item flow next (first :: rest)
      ∧ (first.Page = flow.page ∧ first.Column = flow.column
        ↔ KeepsColumn elements items geometry measureHeightInches flow index) := by
  rw [placeBlock, hitem] at h
  obtain ⟨entered, hentered, h⟩ := bind_eq_ok.1 h
  rw [enterBlock, if_neg fun hmoves => hmoves.1 hbreak] at hentered
  obtain rfl := Except.ok.inj hentered
  rw [show 2 * item.Text.length + 3 = 2 * item.Text.length + 2 + 1 from rfl, placeFragments,
    if_pos (block_open item)] at h
  obtain ⟨⟨turned, placed⟩, hturned, hbehind⟩ := bind_eq_ok.1 h
  obtain ⟨longest, kept, moved, hlongest, hkept, hmoved, hend⟩ := turn_ok hturned
  have hkeeps : KeepsColumn elements items geometry measureHeightInches flow index
      ↔ StaysInColumn elements items geometry measureHeightInches flow index item longest := by
    constructor
    · intro hall
      exact hall item hitem hpinned longest hlongest
    · intro hstays other hother _ longest' hlongest'
      obtain rfl := Option.some.inj (hitem.symm.trans hother)
      obtain rfl := Except.ok.inj (hlongest.symm.trans hlongest')
      exact hstays
  rw [hkeeps]
  obtain ⟨hnone, hnext, rfl⟩ | ⟨fragment, hsome, hplace, rfl⟩ := hend
  · rw [staysInColumn_iff hpositive hmonotone hafter hpinned hlongest hkept hmoved hnone]
    obtain rfl := moved_of_top hkept hmoved (fitted_none hnone).1
    simp only [Option.getD_none, Option.isNone_none, Bool.and_true] at hbehind
    obtain ⟨fragments, hcolumns⟩ := placeFragments_columns (block_open item) hbehind
    cases fragments with
    | nil =>
      obtain ⟨last, hlast, _⟩ := hcolumns.last
      cases hlast
    | cons first rest =>
      refine ⟨first, rest, hcolumns.advanced (Advance_ok hnext), iff_of_false ?_ fun hstays => hstays.2 rfl⟩
      exact (Advance_ok hnext).elsewhere (hcolumns.notBefore first List.mem_cons_self)
  · rw [staysInColumn_iff hpositive hmonotone hafter hpinned hlongest hkept hmoved hsome]
    simp only [Option.getD_some, Option.isNone_some, Bool.and_false] at hbehind
    obtain ⟨rest, hcolumns⟩ :=
      placed_columns hplace (fun hmore => placeFragments_columns (.inr hmore) hbehind) hbehind
    obtain rfl | hadvanced := moved_cases hkept hmoved
    · exact ⟨_, rest, hcolumns, iff_of_true ⟨rfl, rfl⟩ ⟨rfl, Option.some_ne_none _⟩⟩
    · refine ⟨_, rest, hcolumns.advanced hadvanced, iff_of_false ?_ fun hstays => hadvanced.ne hstays.1⟩
      exact hadvanced.elsewhere (Flow.NotBefore.refl moved)

theorem placeBlock_columns (hitem : items[index]? = some item)
    (h : placeBlock elements items geometry measureHeightInches flow index = .ok next) :
    ∃ fragments, Columns items index item flow next fragments := by
  rw [placeBlock, hitem] at h
  obtain ⟨entered, hentered, hbehind⟩ := bind_eq_ok.1 h
  obtain ⟨fragments, hcolumns⟩ := placeFragments_columns (block_open item) hbehind
  obtain rfl | hadvanced := enterBlock_ok hentered
  · exact ⟨fragments, hcolumns⟩
  · exact ⟨fragments, hcolumns.advanced hadvanced⟩

theorem feed_sources {start count : Nat} (hcount : start + count ≤ items.length)
    (h : checked_run.feed (placeBlock elements items geometry measureHeightInches) flow (List.range' start count)
      = .ok next) :
    ∃ added, next.placements = flow.placements ++ added ∧ ∀ fragment ∈ added,
      ∃ j, start ≤ j ∧ j < start + count ∧ (items[j]?).map DrawingSpecFlowItem.SourceId = some fragment.SourceId := by
  induction count generalizing start flow with
  | zero =>
    obtain rfl := Except.ok.inj h
    exact ⟨[], (List.append_nil _).symm, List.forall_mem_nil _⟩
  | succ count ih =>
    rw [List.range'_succ, ← List.singleton_append, checked_run.feed_append, checked_run.feed_singleton] at h
    obtain ⟨mid, hmid, hrest⟩ := bind_eq_ok.1 h
    have hitem : items[start]? = some items[start] := List.getElem?_eq_getElem (by omega)
    obtain ⟨fragments, hcolumns⟩ := placeBlock_columns hitem hmid
    obtain ⟨added, hadded, hsources⟩ := ih (by omega) hrest
    refine ⟨fragments ++ added, ?_, fun fragment hfragment => ?_⟩
    · rw [hadded, hcolumns.placements, List.append_assoc]
    · rcases List.mem_append.1 hfragment with hfragment | hfragment
      · refine ⟨start, le_refl _, by omega, ?_⟩
        rw [hitem, Option.map_some, hcolumns.source fragment hfragment]
      · obtain ⟨j, hstart, hlast, hsource⟩ := hsources fragment hfragment
        exact ⟨j, by omega, by omega, hsource⟩

theorem range_split {i n : Nat} (hi : i < n) :
    List.range n = List.range (i + 1) ++ List.range' (i + 1) (n - (i + 1)) := by
  have hsplit := @List.range'_append_1 0 (i + 1) (n - (i + 1))
  rw [Nat.zero_add, Nat.add_sub_cancel' hi] at hsplit
  rw [List.range_eq_range', List.range_eq_range', hsplit]

theorem block_fragments {final : Flow} (hnodup : (items.map DrawingSpecFlowItem.SourceId).Nodup)
    (h : checked_run.feed (placeBlock elements items geometry measureHeightInches) emptyFlow (List.range items.length)
      = .ok final) (hitem : items[index]? = some item) :
    ∃ flow next fragments,
      checked_run.feed (placeBlock elements items geometry measureHeightInches) emptyFlow (List.range index)
          = .ok flow
        ∧ placeBlock elements items geometry measureHeightInches flow index = .ok next
        ∧ checked_run.feed (placeBlock elements items geometry measureHeightInches) emptyFlow (List.range (index + 1))
          = .ok next
        ∧ Columns items index item flow next fragments ∧ fragmentsOf final.placements item = fragments := by
  obtain ⟨hindex, hget⟩ := List.getElem?_eq_some_iff.1 hitem
  have hrun := h
  rw [range_split hindex, checked_run.feed_append] at hrun
  obtain ⟨next, hnext, hrest⟩ := bind_eq_ok.1 hrun
  have hlast := hnext
  rw [List.range_succ, checked_run.feed_snoc_eq_ok] at hlast
  obtain ⟨flow, hflow, hblock⟩ := hlast
  obtain ⟨fragments, hcolumns⟩ := placeBlock_columns hitem hblock
  refine ⟨flow, next, fragments, hflow, hblock, hnext, hcolumns, ?_⟩
  have hbefore := hflow
  rw [List.range_eq_range'] at hbefore
  obtain ⟨earlier, hearlier, hearlierSources⟩ := feed_sources (by omega) hbefore
  obtain ⟨later, hlater, hlaterSources⟩ := feed_sources (by omega) hrest
  have hother : ∀ {fragment : DrawingSpecFlowPlacement} {j : Nat}, j ≠ index →
      (items[j]?).map DrawingSpecFlowItem.SourceId = some fragment.SourceId → fragment.SourceId ≠ item.SourceId := by
    intro fragment j hj hsource hsame
    rw [← List.getElem?_map, hsame] at hsource
    have hself : (items.map DrawingSpecFlowItem.SourceId)[index]? = some item.SourceId := by
      rw [List.getElem?_map, hitem, Option.map_some]
    have hinside : index < (items.map DrawingSpecFlowItem.SourceId).length := by rwa [List.length_map]
    exact hj ((List.getElem?_inj hinside hnodup).1 (hself.trans hsource.symm)).symm
  have hearlierNone : earlier.filter (fun placement => placement.SourceId = item.SourceId) = [] := by
    refine List.filter_eq_nil_iff.2 fun fragment hfragment => ?_
    obtain ⟨j, _, hj, hsource⟩ := hearlierSources fragment hfragment
    rw [decide_eq_true_eq]
    exact hother (by omega) hsource
  have hlaterNone : later.filter (fun placement => placement.SourceId = item.SourceId) = [] := by
    refine List.filter_eq_nil_iff.2 fun fragment hfragment => ?_
    obtain ⟨j, hj, _, hsource⟩ := hlaterSources fragment hfragment
    rw [decide_eq_true_eq]
    exact hother (by omega) hsource
  have hown : fragments.filter (fun placement => placement.SourceId = item.SourceId) = fragments :=
    List.filter_eq_self.2 fun fragment hfragment => decide_eq_true (hcolumns.source fragment hfragment)
  rw [fragmentsOf, hlater, hcolumns.placements, hearlier, List.filter_append, List.filter_append, List.filter_append,
    hearlierNone, hlaterNone, hown, List.append_nil]
  rfl

theorem pinned_iff {count : Nat} (hcount : count ≤ items.length)
    (h : checked_run.feed (placeBlock elements items geometry measureHeightInches) emptyFlow (List.range count)
      = .ok flow) :
    (∀ pinned, flow.pinnedFollowing = some pinned → pinned ≤ count)
      ∧ (flow.pinnedFollowing = some count ↔ ∃ i item, count = i + 1 ∧ items[i]? = some item
        ∧ keepsFollowing items i item = true) := by
  induction count generalizing flow with
  | zero =>
    obtain rfl := Except.ok.inj h
    refine ⟨fun _ hpinned => (nomatch hpinned), iff_of_false (fun hpinned => (nomatch hpinned)) ?_⟩
    rintro ⟨i, _, hi, _⟩
    omega
  | succ count ih =>
    rw [List.range_succ, checked_run.feed_snoc_eq_ok] at h
    obtain ⟨before, hbefore, hblock⟩ := h
    have hitem : items[count]? = some items[count] := List.getElem?_eq_getElem hcount
    obtain ⟨fragments, hcolumns⟩ := placeBlock_columns hitem hblock
    have hle := (ih (by omega) hbefore).1
    rw [hcolumns.pinned, pinBehind]
    split_ifs with hkeeps
    · refine ⟨fun pinned hpinned => (Option.some.inj hpinned).ge, iff_of_true rfl ?_⟩
      exact ⟨count, _, rfl, hitem, hkeeps⟩
    · refine ⟨fun pinned hpinned => (hle pinned hpinned).trans (Nat.le_succ _), iff_of_false ?_ ?_⟩
      · intro hpinned
        have hlast := hle _ hpinned
        omega
      · rintro ⟨i, other, hi, hother, hkept⟩
        obtain rfl : count = i := by omega
        obtain rfl := Option.some.inj (hitem.symm.trans hother)
        exact hkeeps hkept

end blocks

theorem range_prefix {n index : Nat} {pre : List Nat} (h : pre ++ [index] <+: List.range n) :
    pre = List.range index ∧ index < n := by
  have hlength := h.length_le
  rw [List.length_append, List.length_singleton, List.length_range] at hlength
  have htake := List.prefix_iff_eq_take.1 h
  rw [List.length_append, List.length_singleton, List.take_range, Nat.min_eq_left hlength, List.range_succ] at htake
  obtain ⟨hpre, hlast⟩ := List.append_inj' htake rfl
  obtain rfl : index = pre.length := (List.cons.inj hlast).1
  exact ⟨hpre, hlength⟩

theorem keepsFollowing_iff {items : List DrawingSpecFlowItem} {index : Nat} {item : DrawingSpecFlowItem} :
    keepsFollowing items index item = true ↔ item.KeepWithNext = true
      ∧ ∃ following, items[index + 1]? = some following ∧ following.BreakBefore = .None := by
  rw [keepsFollowing, Bool.and_eq_true, Option.any_eq_true]
  simp only [decide_eq_true_eq]

/-- Every unit of a text is an element. -/
def unitElements : CutTextElements where
  parse text := List.range text.length
  nil := rfl
  first text htext := List.mem_range.2 (List.length_pos_iff.2 htext)
  sorted text := List.pairwise_lt_range
  inside text i hi := List.mem_range.1 hi
  behind text cut hcut i := by
    have hinside := List.mem_range.1 hcut
    rw [List.mem_range, List.mem_range, List.length_drop]
    omega
  before text cut hcut i hi := by
    have hlt := List.mem_range.1 hi
    rw [List.length_take] at hlt
    exact List.mem_range.2 (by omega)

/-- Two headings of three inches and a paragraph of six, each kept with the next. -/
def sampleItems : List DrawingSpecFlowItem := [
  ⟨"h1", [97], true, true, .None, 0, 0⟩,
  ⟨"h2", [97], true, true, .None, 0, 0⟩,
  ⟨"p", List.replicate 6 97, false, true, .None, 0, 0⟩]

def sampleGeometry : DrawingSpecFlowGeometry := ⟨2, 1, 10, 0, 2⟩

def sampleHeight (item : DrawingSpecFlowItem) (_ length : Nat) (_ : ℚ) : ℚ :=
  if item.SourceId = "p" then max 1 (length : ℚ) else 3

def samplePlan : List DrawingSpecFlowPlacement := [
  ⟨"h1", 0, 1, 0, 0, 0, 0, 3⟩,
  ⟨"h2", 0, 1, 0, 1, 1, 0, 3⟩,
  ⟨"p", 0, 6, 0, 1, 1, 3, 6⟩]

theorem sampleHeight_pos (item : DrawingSpecFlowItem) (start length : Nat) (width : ℚ) :
    0 < sampleHeight item start length width := by
  rw [sampleHeight]
  split_ifs
  · exact lt_max_of_lt_left one_pos
  · norm_num

theorem sampleHeight_mono (item : DrawingSpecFlowItem) (start length length' : Nat) (width : ℚ)
    (h : length ≤ length') : sampleHeight item start length width ≤ sampleHeight item start length' width := by
  rw [sampleHeight, sampleHeight]
  split_ifs
  · exact max_le_max_left 1 (Nat.cast_le.2 h)
  · exact le_refl 3

theorem Plan_sample : Plan unitElements.toTextElements sampleItems sampleGeometry sampleHeight = .ok samplePlan := by
  decide +kernel

theorem samplePlan_orphan : ¬ NoOrphan sampleItems samplePlan := by
  intro h
  obtain ⟨last, first, hlast, hfirst, _, hcolumn⟩ := h 0 _ _ rfl rfl rfl rfl
  obtain rfl := Option.some.inj hlast
  obtain rfl := Option.some.inj hfirst
  revert hcolumn
  decide

/-- The same blocks with the first heading not kept. -/
def looseItems : List DrawingSpecFlowItem :=
  ⟨"h1", [97], false, true, .None, 0, 0⟩ :: sampleItems.tail

theorem Plan_loose : Plan unitElements.toTextElements looseItems sampleGeometry sampleHeight = .ok samplePlan := by
  decide +kernel

theorem loosePlan_noOrphan : NoOrphan looseItems samplePlan := by
  intro i item following hitem hfollowing hkeep _
  rcases i with _ | _ | _ | i
  · obtain rfl := Option.some.inj hitem
    cases hkeep
  · obtain rfl := Option.some.inj hitem
    obtain rfl := Option.some.inj hfollowing
    exact ⟨⟨"h2", 0, 1, 0, 1, 1, 0, 3⟩, ⟨"p", 0, 6, 0, 1, 1, 3, 6⟩, by decide +kernel, by decide +kernel, rfl, rfl⟩
  · cases hfollowing
  · cases hitem

end revit_operator.revit_bridge
