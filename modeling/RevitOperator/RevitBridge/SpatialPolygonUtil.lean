import Mathlib.Algebra.Order.Field.Basic
import Mathlib.Algebra.Order.Field.Rat
import Mathlib.Tactic.FieldSimp
import Mathlib.Tactic.Linarith
import Mathlib.Tactic.Ring
import RevitOperator.Library.ClosedPath

/-! Points and closed loops over exact coordinates; distances are taken by their squares. -/

namespace revit_operator.revit_bridge

inductive SpatialPointRelation where
  | Outside
  | Inside
  | Boundary
deriving DecidableEq

structure SpatialPoint2 where
  X : ℚ
  Y : ℚ
deriving DecidableEq

/-- The square of the distance of a point to a segment; a segment that is no longer than
    `1e-9` counts as its start. -/
def DistanceToSegment (px py ax ay bx by' : ℚ) : ℚ :=
  let dx := bx - ax
  let dy := by' - ay
  let lengthSquared := dx * dx + dy * dy
  if lengthSquared ≤ 1 / 10 ^ 18 then
    let pointDx := px - ax
    let pointDy := py - ay
    pointDx * pointDx + pointDy * pointDy
  else
    let t := max 0 (min 1 (((px - ax) * dx + (py - ay) * dy) / lengthSquared))
    let qx := ax + t * dx
    let qy := ay + t * dy
    let resultDx := px - qx
    let resultDy := py - qy
    resultDx * resultDx + resultDy * resultDy

/-- `Math.Min` from an infinite start. -/
def nearer (best : Option ℚ) (distance : ℚ) : Option ℚ :=
  some (best.elim distance fun best => min best distance)

def DistanceToBoundary (x y : ℚ) (loops : List (List SpatialPoint2)) : Option ℚ :=
  loops.foldl (fun best loop => (List.range loop.length).foldl (fun best i =>
    match loop[i]?, loop[(i + 1) % loop.length]? with
    | some a, some b => nearer best (DistanceToSegment x y a.X a.Y b.X b.Y)
    | _, _ => best) best) none

/-- One turn of the loop of `ContainsLoop`. -/
def crosses (x y : ℚ) (a b : SpatialPoint2) : Bool :=
  (decide (y < a.Y) != decide (y < b.Y)) && decide (x < (b.X - a.X) * (y - a.Y) / (b.Y - a.Y) + a.X)

def ContainsLoop (x y : ℚ) (loop : List SpatialPoint2) : Bool :=
  if loop.length < 3 then false
  else
    match loop.getLast? with
    | none => false
    | some last =>
      (loop.foldl (fun (walk : Bool × SpatialPoint2) a =>
        (if crosses x y a walk.2 = true then !walk.1 else walk.1, a)) (false, last)).1

def Classify (x y : ℚ) (loops : List (List SpatialPoint2)) (boundaryTolerance : ℚ) : SpatialPointRelation :=
  if loops = [] then .Outside
  else
    let tolerance := max 0 boundaryTolerance
    if (DistanceToBoundary x y loops).any fun distance => distance ≤ tolerance * tolerance then .Boundary
    else if loops.foldl (fun inside loop => if ContainsLoop x y loop = true then !inside else inside) false = true
    then .Inside
    else .Outside

/-- A point on the segment between two others. -/
def OnSegment (x y : ℚ) (a b : SpatialPoint2) : Prop :=
  ∃ t, 0 ≤ t ∧ t ≤ 1 ∧ x = a.X + t * (b.X - a.X) ∧ y = a.Y + t * (b.Y - a.Y)

/-- An edge that is longer than `1e-9`. -/
def Long (a b : SpatialPoint2) : Prop :=
  1 / 10 ^ 18 < (b.X - a.X) * (b.X - a.X) + (b.Y - a.Y) * (b.Y - a.Y)

section segments

variable {x y : ℚ} {a b : SpatialPoint2}

theorem OnSegment.symm (h : OnSegment x y a b) : OnSegment x y b a := by
  obtain ⟨t, hzero, hone, hx, hy⟩ := h
  refine ⟨1 - t, by linarith, by linarith, ?_, ?_⟩
  · rw [hx]
    ring
  · rw [hy]
    ring

theorem Long.symm (h : Long a b) : Long b a := by
  rw [Long] at h ⊢
  linarith

theorem squares_le_zero {u v : ℚ} (h : u * u + v * v ≤ 0) : u = 0 ∧ v = 0 := by
  have hu := mul_self_nonneg u
  have hv := mul_self_nonneg v
  exact ⟨mul_self_eq_zero.1 (by linarith), mul_self_eq_zero.1 (by linarith)⟩

theorem DistanceToSegment_le_zero_iff : DistanceToSegment x y a.X a.Y b.X b.Y ≤ 0
    ↔ (Long a b ∧ OnSegment x y a b) ∨ (¬ Long a b ∧ x = a.X ∧ y = a.Y) := by
  simp only [DistanceToSegment]
  split_ifs with hshort
  · have hnot : ¬ Long a b := not_lt_of_ge hshort
    constructor
    · intro h
      obtain ⟨hx, hy⟩ := squares_le_zero h
      exact .inr ⟨hnot, sub_eq_zero.1 hx, sub_eq_zero.1 hy⟩
    · rintro (⟨hlong, _⟩ | ⟨_, rfl, rfl⟩)
      · exact absurd hlong hnot
      · simp
  · have hlong : Long a b := lt_of_not_ge hshort
    constructor
    · intro h
      obtain ⟨hx, hy⟩ := squares_le_zero h
      refine .inl ⟨hlong, _, ?_, ?_, sub_eq_zero.1 hx, sub_eq_zero.1 hy⟩
      · exact le_max_left _ _
      · exact max_le zero_le_one (min_le_left _ _)
    · rintro (⟨_, t, hzero, hone, rfl, rfl⟩ | ⟨hnot, _⟩)
      · have hpositive : 0 < (b.X - a.X) * (b.X - a.X) + (b.Y - a.Y) * (b.Y - a.Y) := by
          rw [Long] at hlong
          linarith [show (0 : ℚ) < 1 / 10 ^ 18 by norm_num]
        have hprojected : ((a.X + t * (b.X - a.X) - a.X) * (b.X - a.X) + (a.Y + t * (b.Y - a.Y) - a.Y) * (b.Y - a.Y))
            / ((b.X - a.X) * (b.X - a.X) + (b.Y - a.Y) * (b.Y - a.Y)) = t := by
          rw [div_eq_iff hpositive.ne']
          ring
        rw [hprojected, min_eq_right hone, max_eq_right hzero]
        simp
      · exact absurd hlong hnot

end segments

section boundary

variable {x y : ℚ} {loops : List (List SpatialPoint2)}

theorem nearer_any {best : Option ℚ} {distance bound : ℚ} :
    ((nearer best distance).any fun distance => distance ≤ bound) = true
      ↔ (best.any fun distance => distance ≤ bound) = true ∨ distance ≤ bound := by
  cases best with
  | none => simp [nearer]
  | some best => simp [nearer]

theorem DistanceToBoundary_any {bound : ℚ} :
    ((DistanceToBoundary x y loops).any fun distance => distance ≤ bound) = true
      ↔ ∃ loop ∈ loops, ∃ edge ∈ closed_path.edges loop,
        DistanceToSegment x y edge.1.X edge.1.Y edge.2.X edge.2.Y ≤ bound := by
  have hinner : ∀ (loop : List SpatialPoint2) (indices : List Nat) (best : Option ℚ),
      ((indices.foldl (fun best i => match loop[i]?, loop[(i + 1) % loop.length]? with
        | some a, some b => nearer best (DistanceToSegment x y a.X a.Y b.X b.Y)
        | _, _ => best) best).any fun distance => distance ≤ bound) = true
      ↔ (best.any fun distance => distance ≤ bound) = true ∨ ∃ i ∈ indices, ∃ edge : SpatialPoint2 × SpatialPoint2,
        loop[i]? = some edge.1 ∧ loop[(i + 1) % loop.length]? = some edge.2
          ∧ DistanceToSegment x y edge.1.X edge.1.Y edge.2.X edge.2.Y ≤ bound := by
    intro loop indices
    induction indices with
    | nil => simp
    | cons i indices ih =>
      intro best
      rw [List.foldl_cons, ih]
      simp only [List.mem_cons, exists_eq_or_imp]
      rw [← or_assoc]
      refine or_congr_left ?_
      split
      · rename_i a b ha hb
        rw [nearer_any]
        refine or_congr_right ⟨fun h => ⟨(a, b), ha, hb, h⟩, ?_⟩
        rintro ⟨edge, hfirst, hsecond, h⟩
        obtain rfl := Option.some.inj (ha.symm.trans hfirst)
        obtain rfl := Option.some.inj (hb.symm.trans hsecond)
        exact h
      · rename_i hnone
        refine (or_iff_left ?_).symm
        rintro ⟨edge, hfirst, hsecond, _⟩
        exact hnone _ _ hfirst hsecond
  have houter : ∀ (loops : List (List SpatialPoint2)) (best : Option ℚ),
      ((loops.foldl (fun best loop => (List.range loop.length).foldl (fun best i =>
        match loop[i]?, loop[(i + 1) % loop.length]? with
        | some a, some b => nearer best (DistanceToSegment x y a.X a.Y b.X b.Y)
        | _, _ => best) best) best).any fun distance => distance ≤ bound) = true
      ↔ (best.any fun distance => distance ≤ bound) = true ∨ ∃ loop ∈ loops, ∃ edge ∈ closed_path.edges loop,
        DistanceToSegment x y edge.1.X edge.1.Y edge.2.X edge.2.Y ≤ bound := by
    intro loops
    induction loops with
    | nil => simp
    | cons loop loops ih =>
      intro best
      rw [List.foldl_cons, ih, hinner, or_assoc]
      refine or_congr_right ?_
      simp only [List.mem_cons, exists_eq_or_imp]
      refine or_congr_left ⟨?_, ?_⟩
      · rintro ⟨i, hi, edge, hfirst, hsecond, h⟩
        exact ⟨edge, closed_path.mem_edges_iff.2 ⟨i, List.mem_range.1 hi, hfirst, hsecond⟩, h⟩
      · rintro ⟨edge, hedge, h⟩
        obtain ⟨i, hi, hfirst, hsecond⟩ := closed_path.mem_edges_iff.1 hedge
        exact ⟨i, List.mem_range.2 hi, edge, hfirst, hsecond, h⟩
  rw [DistanceToBoundary, houter]
  exact or_iff_right (by simp)

/-- What counts as the boundary of a loop: its vertices, and the points on its long edges. -/
def LoopBoundary (x y : ℚ) (loop : List SpatialPoint2) : Prop :=
  ⟨x, y⟩ ∈ loop ∨ ∃ edge ∈ closed_path.edges loop, Long edge.1 edge.2 ∧ OnSegment x y edge.1 edge.2

def OnBoundary (x y : ℚ) (loops : List (List SpatialPoint2)) : Prop := ∃ loop ∈ loops, LoopBoundary x y loop

theorem onBoundary_iff :
    ((DistanceToBoundary x y loops).any fun distance => distance ≤ 0) = true ↔ OnBoundary x y loops := by
  rw [DistanceToBoundary_any, OnBoundary]
  refine exists_congr fun loop => and_congr_right fun _ => ?_
  simp only [DistanceToSegment_le_zero_iff]
  constructor
  · rintro ⟨edge, hedge, hlong | ⟨_, rfl, rfl⟩⟩
    · exact .inr ⟨edge, hedge, hlong⟩
    · exact .inl (closed_path.mem_iff_edges.2 ⟨edge.2, hedge⟩)
  · rintro (hvertex | ⟨edge, hedge, hlong⟩)
    · obtain ⟨next, hedge⟩ := closed_path.mem_iff_edges.1 hvertex
      refine ⟨_, hedge, ?_⟩
      by_cases hlong : Long ⟨x, y⟩ next
      · exact .inl ⟨hlong, 0, le_refl 0, zero_le_one, by ring, by ring⟩
      · exact .inr ⟨hlong, rfl, rfl⟩
    · exact ⟨edge, hedge, .inl hlong⟩

end boundary

section parity

variable {x y : ℚ} {a b : SpatialPoint2} {loop : List SpatialPoint2} {loops : List (List SpatialPoint2)}

theorem crosses_self : crosses x y a a = false := by
  simp [crosses]

theorem crosses_comm (x y : ℚ) (a b : SpatialPoint2) : crosses x y a b = crosses x y b a := by
  by_cases hsides : decide (y < a.Y) = decide (y < b.Y)
  · rw [crosses, crosses, hsides]
    simp
  · have hne : a.Y ≠ b.Y := fun hsame => hsides (by rw [hsame])
    have hforth : b.Y - a.Y ≠ 0 := sub_ne_zero.2 hne.symm
    have hback : a.Y - b.Y ≠ 0 := sub_ne_zero.2 hne
    have hplace : (b.X - a.X) * (y - a.Y) / (b.Y - a.Y) + a.X = (a.X - b.X) * (y - b.Y) / (a.Y - b.Y) + b.X := by
      field_simp
      ring
    rw [crosses, crosses, hplace, bne_comm]

/-- An edge as one turn of the loop meets it. -/
def crossesEdge (x y : ℚ) (edge : SpatialPoint2 × SpatialPoint2) : Bool := crosses x y edge.1 edge.2

theorem ContainsLoop_eq_odd :
    ContainsLoop x y loop = closed_path.odd (crossesEdge x y) (closed_path.edges loop) := by
  rw [ContainsLoop]
  split_ifs with hfew
  · match loop, hfew with
    | [], _ => rfl
    | [a], _ => simp [closed_path.edges, closed_path.steps, crossesEdge, crosses_self]
    | [a, b], _ => simp [closed_path.edges, closed_path.steps, crossesEdge, crosses_comm x y b a]
  · obtain rfl | ⟨init, last, rfl⟩ := List.eq_nil_or_concat loop
    · rfl
    · rw [List.concat_eq_append, List.getLast?_concat]
      have hwalk := @closed_path.foldl_previous _ last last init _
        (fun flag a b => if crosses x y a b = true then !flag else flag) false
      refine hwalk.trans ?_
      have hflip := @closed_path.foldl_flip _ (fun step : SpatialPoint2 × SpatialPoint2 => crosses x y step.2 step.1)
        false (closed_path.edges (last :: init))
      refine hflip.trans ?_
      rw [Bool.false_xor, closed_path.odd_congr fun step _ => crosses_comm x y step.2 step.1]
      have hrotated : [last] ++ init ~r init ++ [last] := List.isRotated_append
      exact closed_path.odd_perm (closed_path.edges_perm_of_isRotated hrotated)

/-- The even-odd rule over all loops. -/
def insideLoops (x y : ℚ) (loops : List (List SpatialPoint2)) : Bool := closed_path.odd (ContainsLoop x y) loops

theorem Classify_boundary_iff : Classify x y loops 0 = .Boundary ↔ OnBoundary x y loops := by
  simp only [Classify, max_self, mul_zero]
  split_ifs with hnone hboundary hinside
  · refine iff_of_false not_false ?_
    rintro ⟨loop, hloop, _⟩
    rw [hnone] at hloop
    cases hloop
  · exact iff_of_true rfl (onBoundary_iff.1 hboundary)
  · exact iff_of_false not_false fun h => hboundary (onBoundary_iff.2 h)
  · exact iff_of_false not_false fun h => hboundary (onBoundary_iff.2 h)

theorem Classify_of_not_onBoundary (h : ¬ OnBoundary x y loops) :
    Classify x y loops 0 = if insideLoops x y loops = true then .Inside else .Outside := by
  simp only [Classify, max_self, mul_zero]
  rw [if_neg fun hboundary => h (onBoundary_iff.1 hboundary), closed_path.foldl_flip, Bool.false_xor]
  by_cases hnone : loops = []
  · rw [if_pos hnone, hnone]
    rfl
  · rw [if_neg hnone]
    rfl

theorem Classify_congr {x' y' : ℚ} {others : List (List SpatialPoint2)}
    (hboundary : OnBoundary x y loops ↔ OnBoundary x' y' others)
    (hinside : ¬ OnBoundary x y loops → insideLoops x y loops = insideLoops x' y' others) :
    Classify x y loops 0 = Classify x' y' others 0 := by
  by_cases h : OnBoundary x y loops
  · rw [Classify_boundary_iff.2 h, Classify_boundary_iff.2 (hboundary.1 h)]
  · rw [Classify_of_not_onBoundary h, Classify_of_not_onBoundary fun h' => h (hboundary.2 h'), hinside h]

end parity

section rewriting

variable {x y : ℚ} {loop other : List SpatialPoint2}

/-- Other ways to write the same loops. -/
inductive Rewritten : List (List SpatialPoint2) → List (List SpatialPoint2) → Prop
  | rotate (before after : List (List SpatialPoint2)) (loop : List SpatialPoint2) (n : Nat) :
    Rewritten (before ++ loop :: after) (before ++ loop.rotate n :: after)
  | reverse (before after : List (List SpatialPoint2)) (loop : List SpatialPoint2) :
    Rewritten (before ++ loop :: after) (before ++ loop.reverse :: after)
  | permute {loops others : List (List SpatialPoint2)} (h : loops.Perm others) : Rewritten loops others
  | repeatVertex (before after : List (List SpatialPoint2)) (first rest : List SpatialPoint2)
    (vertex : SpatialPoint2) :
    Rewritten (before ++ (first ++ vertex :: rest) :: after) (before ++ (first ++ vertex :: vertex :: rest) :: after)

theorem Classify_replace (before after : List (List SpatialPoint2))
    (hboundary : LoopBoundary x y loop ↔ LoopBoundary x y other)
    (hinside : ContainsLoop x y loop = ContainsLoop x y other) :
    Classify x y (before ++ loop :: after) 0 = Classify x y (before ++ other :: after) 0 := by
  refine Classify_congr ?_ fun _ => ?_
  · simp only [OnBoundary, List.mem_append, List.mem_cons, or_and_right, exists_or, exists_eq_left, hboundary]
  · rw [insideLoops, insideLoops, closed_path.odd_append, closed_path.odd_append, closed_path.odd_cons,
      closed_path.odd_cons, hinside]

theorem loopBoundary_of_perm (hmem : ∀ vertex, vertex ∈ loop ↔ vertex ∈ other)
    (hedges : (closed_path.edges loop).Perm (closed_path.edges other)) :
    LoopBoundary x y loop ↔ LoopBoundary x y other := by
  simp only [LoopBoundary, hmem, hedges.mem_iff]

theorem Classify_rewritten {loops others : List (List SpatialPoint2)} (h : Rewritten loops others) :
    Classify x y others 0 = Classify x y loops 0 := by
  cases h with
  | rotate before after loop n =>
    have hedges := closed_path.edges_perm_of_isRotated (List.IsRotated.forall loop n)
    refine Classify_replace before after (loopBoundary_of_perm (fun _ => List.mem_rotate) hedges) ?_
    rw [ContainsLoop_eq_odd, ContainsLoop_eq_odd, closed_path.odd_perm hedges]
  | reverse before after loop =>
    have hedges := closed_path.edges_reverse loop
    refine Classify_replace before after ?_ ?_
    · simp only [LoopBoundary, List.mem_reverse, hedges.mem_iff, List.mem_map]
      refine or_congr_right ⟨?_, ?_⟩
      · rintro ⟨_, ⟨edge, hedge, rfl⟩, hlong, hon⟩
        exact ⟨edge, hedge, hlong.symm, hon.symm⟩
      · rintro ⟨edge, hedge, hlong, hon⟩
        exact ⟨_, ⟨edge, hedge, rfl⟩, hlong.symm, hon.symm⟩
    · rw [ContainsLoop_eq_odd, ContainsLoop_eq_odd, closed_path.odd_perm hedges, closed_path.odd_map]
      exact closed_path.odd_congr fun edge _ => crosses_comm x y edge.2 edge.1
  | permute h =>
    refine Classify_congr ?_ fun _ => closed_path.odd_perm h.symm
    simp only [OnBoundary, h.mem_iff]
  | repeatVertex before after first rest vertex =>
    have hedges := closed_path.edges_repeat first rest vertex
    refine Classify_replace before after ?_ ?_
    · have hshort : ¬ Long vertex vertex := by
        rw [Long]
        norm_num
      simp only [LoopBoundary, hedges.mem_iff, List.mem_append, List.mem_cons, exists_eq_or_imp, hshort, false_and,
        false_or, or_self_left]
    · rw [ContainsLoop_eq_odd, ContainsLoop_eq_odd, closed_path.odd_perm hedges, closed_path.odd_cons, crossesEdge,
        crosses_self, Bool.false_xor]

end rewriting

section exchange

variable {x y : ℚ} {a b : SpatialPoint2} {loop : List SpatialPoint2} {loops : List (List SpatialPoint2)}

/-- The point with its axes exchanged. -/
def SpatialPoint2.exchanged (p : SpatialPoint2) : SpatialPoint2 := ⟨p.Y, p.X⟩

/-- Above and to the right of the point. -/
def beyond (x y : ℚ) (p : SpatialPoint2) : Bool := decide (x < p.X) && decide (y < p.Y)

theorem beyond_exchanged (x y : ℚ) (p : SpatialPoint2) : beyond y x p.exchanged = beyond x y p :=
  Bool.and_comm _ _

theorem OnSegment.exchanged (h : OnSegment x y a b) : OnSegment y x a.exchanged b.exchanged := by
  obtain ⟨t, hzero, hone, hx, hy⟩ := h
  exact ⟨t, hzero, hone, hy, hx⟩

theorem long_exchanged : Long a.exchanged b.exchanged ↔ Long a b := by
  rw [Long, Long, add_comm]
  rfl

/-- On which side of the point an edge passes. -/
def turnAt (x y : ℚ) (a b : SpatialPoint2) : ℚ := (b.X - x) * (y - a.Y) + (a.X - x) * (b.Y - y)

theorem turnAt_exchanged : turnAt y x a.exchanged b.exchanged = -turnAt x y a b := by
  simp only [turnAt, SpatialPoint2.exchanged]
  ring

theorem crosses_iff : crosses x y a b = true
    ↔ y < a.Y ∧ b.Y ≤ y ∧ turnAt x y a b < 0 ∨ a.Y ≤ y ∧ y < b.Y ∧ 0 < turnAt x y a b := by
  have hplace : b.Y - a.Y ≠ 0 → (x < (b.X - a.X) * (y - a.Y) / (b.Y - a.Y) + a.X
      ↔ 0 < turnAt x y a b ∧ 0 < b.Y - a.Y ∨ turnAt x y a b < 0 ∧ b.Y - a.Y < 0) := by
    intro hne
    have hturn : (b.X - a.X) * (y - a.Y) / (b.Y - a.Y) + a.X - x = turnAt x y a b / (b.Y - a.Y) := by
      rw [turnAt]
      field_simp
      ring
    rw [← sub_pos, hturn, div_pos_iff]
  rw [crosses, Bool.and_eq_true, decide_eq_true_eq]
  rcases lt_or_ge y a.Y with hya | hya <;> rcases lt_or_ge y b.Y with hyb | hyb
  · simp [hya, hyb, not_le_of_gt hya, not_le_of_gt hyb]
  · have hdown : b.Y - a.Y < 0 := by linarith
    rw [hplace hdown.ne]
    simp [hya, hyb, hdown, not_le_of_gt hya, not_lt_of_ge hyb, not_lt_of_gt hdown]
  · have hup : 0 < b.Y - a.Y := by linarith
    rw [hplace hup.ne']
    simp [hya, hyb, hup, not_lt_of_ge hya, not_lt_of_gt hup]
  · simp [hya, hyb, not_lt_of_ge hya, not_lt_of_ge hyb]

theorem turnAt_ne_zero (h : ¬ OnSegment x y a b) (hsides : y < a.Y ∧ b.Y ≤ y ∨ a.Y ≤ y ∧ y < b.Y) :
    turnAt x y a b ≠ 0 := by
  intro hzero
  have hne : b.Y - a.Y ≠ 0 := by
    rcases hsides with ⟨hya, hyb⟩ | ⟨hya, hyb⟩
    · exact (show b.Y - a.Y < 0 by linarith).ne
    · exact (show 0 < b.Y - a.Y by linarith).ne'
  refine h ⟨(y - a.Y) / (b.Y - a.Y), ?_, ?_, ?_, ?_⟩
  · rcases hsides with ⟨hya, hyb⟩ | ⟨hya, hyb⟩
    · exact div_nonneg_of_nonpos (by linarith) (by linarith)
    · exact div_nonneg (by linarith) (by linarith)
  · rcases hsides with ⟨hya, hyb⟩ | ⟨hya, hyb⟩
    · exact (div_le_one_of_neg (by linarith)).2 (by linarith)
    · exact (div_le_one (by linarith)).2 (by linarith)
  · rw [turnAt] at hzero
    field_simp
    linarith
  · field_simp
    ring

theorem crosses_level (h : y < a.Y ↔ y < b.Y) : crosses x y a b = false := by
  rw [crosses, decide_eq_decide.2 h, bne_self_eq_false, Bool.false_and]

theorem crosses_right (hxa : x < a.X) (hxb : x < b.X) :
    crosses x y a b = xor (decide (y < a.Y)) (decide (y < b.Y)) := by
  have hturn : ∀ {u v : ℚ}, turnAt x y a b = u * (b.X - x) + v * (a.X - x) → 0 ≤ u → 0 < v →
      0 < turnAt x y a b := by
    intro u v heq hu hv
    have hleft : 0 ≤ u * (b.X - x) := mul_nonneg hu (by linarith)
    have hright : 0 < v * (a.X - x) := mul_pos hv (by linarith)
    linarith
  have hback : ∀ {u v : ℚ}, turnAt x y a b = -(u * (b.X - x) + v * (a.X - x)) → 0 < u → 0 ≤ v →
      turnAt x y a b < 0 := by
    intro u v heq hu hv
    have hleft : 0 < u * (b.X - x) := mul_pos hu (by linarith)
    have hright : 0 ≤ v * (a.X - x) := mul_nonneg hv (by linarith)
    linarith
  rcases lt_or_ge y a.Y with hya | hya <;> rcases lt_or_ge y b.Y with hyb | hyb
  · rw [crosses_level (iff_of_true hya hyb), decide_eq_true hya, decide_eq_true hyb]
    rfl
  · have hneg := hback (show turnAt x y a b = -((a.Y - y) * (b.X - x) + (y - b.Y) * (a.X - x)) by rw [turnAt]; ring)
      (by linarith) (by linarith)
    rw [crosses_iff.2 (.inl ⟨hya, hyb, hneg⟩), decide_eq_true hya, decide_eq_false (not_lt_of_ge hyb)]
    rfl
  · have hpos := hturn (show turnAt x y a b = (y - a.Y) * (b.X - x) + (b.Y - y) * (a.X - x) by rw [turnAt]; ring)
      (by linarith) (by linarith)
    rw [crosses_iff.2 (.inr ⟨hya, hyb, hpos⟩), decide_eq_false (not_lt_of_ge hya), decide_eq_true hyb]
    rfl
  · rw [crosses_level (iff_of_false (not_lt_of_ge hya) (not_lt_of_ge hyb)), decide_eq_false (not_lt_of_ge hya),
      decide_eq_false (not_lt_of_ge hyb)]
    rfl

theorem crosses_left (hxa : a.X ≤ x) (hxb : b.X ≤ x) : crosses x y a b = false := by
  rw [← Bool.not_eq_true, crosses_iff]
  rintro (⟨hya, hyb, hturn⟩ | ⟨hya, hyb, hturn⟩)
  · have hfirst : 0 ≤ (x - b.X) * (a.Y - y) := mul_nonneg (by linarith) (by linarith)
    have hsecond : 0 ≤ (x - a.X) * (y - b.Y) := mul_nonneg (by linarith) (by linarith)
    rw [turnAt] at hturn
    linarith
  · have hfirst : 0 ≤ (x - b.X) * (y - a.Y) := mul_nonneg (by linarith) (by linarith)
    have hsecond : 0 ≤ (x - a.X) * (b.Y - y) := mul_nonneg (by linarith) (by linarith)
    rw [turnAt] at hturn
    linarith

theorem crosses_exchanged_of_side (hside : x < a.X ↔ x < b.X) :
    xor (crosses x y a b) (crosses y x a.exchanged b.exchanged) = xor (beyond x y a) (beyond x y b) := by
  have hlevel : crosses y x a.exchanged b.exchanged = false := crosses_level hside
  rw [hlevel, Bool.xor_false, beyond, beyond]
  rcases lt_or_ge x a.X with hxa | hxa
  · rw [crosses_right hxa (hside.1 hxa), decide_eq_true hxa, decide_eq_true (hside.1 hxa), Bool.true_and,
      Bool.true_and]
  · have hxb : ¬ x < b.X := fun hxb => absurd (hside.2 hxb) (not_lt_of_ge hxa)
    rw [crosses_left hxa (le_of_not_gt hxb), decide_eq_false (not_lt_of_ge hxa), decide_eq_false hxb]
    rfl

/-- An edge that does not meet the point crosses the rays to the right and upwards as often as
    its ends change between what is beyond the point and what is not. -/
theorem crosses_exchanged (h : ¬ OnSegment x y a b) :
    xor (crosses x y a b) (crosses y x a.exchanged b.exchanged) = xor (beyond x y a) (beyond x y b) := by
  by_cases hsideX : x < a.X ↔ x < b.X
  · exact crosses_exchanged_of_side hsideX
  by_cases hsideY : y < a.Y ↔ y < b.Y
  · have hother := @crosses_exchanged_of_side y x a.exchanged b.exchanged hsideY
    rw [beyond_exchanged, beyond_exchanged, Bool.xor_comm] at hother
    exact hother
  · -- the edge changes both sides, and it passes the point on one of the other two
    have hright : crosses x y a b
        = decide (y < a.Y ∧ b.Y ≤ y ∧ turnAt x y a b < 0 ∨ a.Y ≤ y ∧ y < b.Y ∧ 0 < turnAt x y a b) := by
      rw [Bool.eq_iff_iff, decide_eq_true_eq]
      exact crosses_iff
    have hup : crosses y x a.exchanged b.exchanged
        = decide (x < a.X ∧ b.X ≤ x ∧ 0 < turnAt x y a b ∨ a.X ≤ x ∧ x < b.X ∧ turnAt x y a b < 0) := by
      rw [Bool.eq_iff_iff, decide_eq_true_eq, crosses_iff, turnAt_exchanged, neg_neg_iff_pos, neg_pos]
      rfl
    have hsides : ∀ {u v w : ℚ}, ¬ (u < v ↔ u < w) → u < v ∧ w ≤ u ∨ v ≤ u ∧ u < w := by
      intro u v w hdiffer
      rcases lt_or_ge u v with hv | hv
      · exact .inl ⟨hv, le_of_not_gt fun hw => hdiffer (iff_of_true hv hw)⟩
      · exact .inr ⟨hv, lt_of_not_ge fun hw => hdiffer (iff_of_false (not_lt_of_ge hv) (not_lt_of_ge hw))⟩
    have hturn := lt_or_gt_of_ne (turnAt_ne_zero h (hsides hsideY))
    rw [hright, hup, beyond, beyond]
    rcases hsides hsideX with ⟨hxa, hxb⟩ | ⟨hxa, hxb⟩ <;> rcases hsides hsideY with ⟨hya, hyb⟩ | ⟨hya, hyb⟩
      <;> rcases hturn with hturn | hturn
    all_goals simp [hxa, hxb, hya, hyb, hturn, not_lt_of_ge, not_le_of_gt, not_lt_of_gt]

theorem ContainsLoop_exchanged (h : ∀ edge ∈ closed_path.edges loop, ¬ OnSegment x y edge.1 edge.2) :
    ContainsLoop y x (loop.map SpatialPoint2.exchanged) = ContainsLoop x y loop := by
  rw [ContainsLoop_eq_odd, ContainsLoop_eq_odd, closed_path.edges_map, closed_path.odd_map]
  have hboth : closed_path.odd (fun edge => xor (crossesEdge x y edge)
      (crossesEdge y x (edge.map SpatialPoint2.exchanged SpatialPoint2.exchanged))) (closed_path.edges loop)
        = false := by
    exact (closed_path.odd_congr fun edge hedge => crosses_exchanged (h edge hedge)).trans
      (closed_path.odd_edges (beyond x y) loop)
  rw [closed_path.odd_xor] at hboth
  exact (bne_eq_false_iff_eq.1 hboth).symm

theorem loopBoundary_exchanged :
    LoopBoundary y x (loop.map SpatialPoint2.exchanged) ↔ LoopBoundary x y loop := by
  have hback : ∀ p : SpatialPoint2, p.exchanged.exchanged = p := fun _ => rfl
  simp only [LoopBoundary, closed_path.edges_map, List.mem_map, exists_exists_and_eq_and]
  refine or_congr ⟨?_, fun h => ⟨_, h, rfl⟩⟩ (exists_congr fun edge => and_congr_right fun _ => ?_)
  · rintro ⟨p, hp, hsame⟩
    rwa [← hback p, hsame] at hp
  · exact and_congr long_exchanged ⟨OnSegment.exchanged, OnSegment.exchanged⟩

/-- The point is on no short edge, but for the vertices. -/
def ClearOfShort (x y : ℚ) (loops : List (List SpatialPoint2)) : Prop :=
  ∀ loop ∈ loops, ∀ edge ∈ closed_path.edges loop, OnSegment x y edge.1 edge.2 →
    Long edge.1 edge.2 ∨ ⟨x, y⟩ ∈ loop

theorem Classify_exchanged (hclear : ClearOfShort x y loops) :
    Classify y x (loops.map (List.map SpatialPoint2.exchanged)) 0 = Classify x y loops 0 := by
  have hboundary : OnBoundary y x (loops.map (List.map SpatialPoint2.exchanged)) ↔ OnBoundary x y loops := by
    simp only [OnBoundary, List.mem_map, exists_exists_and_eq_and, loopBoundary_exchanged]
  refine Classify_congr hboundary fun hoff => ?_
  rw [insideLoops, closed_path.odd_map]
  refine closed_path.odd_congr fun loop hloop => ContainsLoop_exchanged fun edge hedge hon => ?_
  refine hoff (hboundary.2 ⟨loop, hloop, ?_⟩)
  obtain hlong | hvertex := hclear loop hloop edge hedge hon
  · exact .inr ⟨edge, hedge, hlong, hon⟩
  · exact .inl hvertex

end exchange

/-- The relation does not depend on how the loops are written. It is the boundary for the
    vertices and the points on long edges, and off the short edges the axes may be exchanged. -/
theorem classify_invariant :
    (∀ (x y : ℚ) (loops others : List (List SpatialPoint2)), Rewritten loops others →
      Classify x y others 0 = Classify x y loops 0)
    ∧ (∀ (x y : ℚ) (loops : List (List SpatialPoint2)), Classify x y loops 0 = .Boundary
      ↔ ∃ loop ∈ loops, ⟨x, y⟩ ∈ loop
        ∨ ∃ edge ∈ closed_path.edges loop, Long edge.1 edge.2 ∧ OnSegment x y edge.1 edge.2)
    ∧ ∀ (x y : ℚ) (loops : List (List SpatialPoint2)), ClearOfShort x y loops →
      Classify y x (loops.map (List.map SpatialPoint2.exchanged)) 0 = Classify x y loops 0 :=
  ⟨fun _ _ _ _ h => Classify_rewritten h, fun _ _ _ => Classify_boundary_iff, fun _ _ _ h => Classify_exchanged h⟩

def unitSquare : List SpatialPoint2 := [⟨0, 0⟩, ⟨1, 0⟩, ⟨1, 1⟩, ⟨0, 1⟩]

theorem unitSquare_rewritten :
    Classify (1 / 2) (1 / 4) [unitSquare.rotate 1] 0 = Classify (1 / 2) (1 / 4) [unitSquare] 0
      ∧ Classify (1 / 4) (1 / 2) [unitSquare.map SpatialPoint2.exchanged] 0
        = Classify (1 / 2) (1 / 4) [unitSquare] 0 := by
  refine ⟨classify_invariant.1 _ _ _ _ (.rotate [] [] unitSquare 1), classify_invariant.2.2 _ _ [unitSquare] ?_⟩
  intro loop hloop edge hedge _
  obtain rfl := List.mem_singleton.1 hloop
  have hlong : ∀ edge ∈ closed_path.edges unitSquare, Long edge.1 edge.2 := by
    rw [unitSquare, closed_path.edges]
    simp only [closed_path.steps, List.forall_mem_cons, Long]
    norm_num
  exact .inl (hlong edge hedge)

/-- A triangle whose edges are shorter than `1e-9`. -/
def shortTriangle : List SpatialPoint2 := [⟨0, 0⟩, ⟨1 / 10 ^ 10, 0⟩, ⟨1 / 10 ^ 10, 1 / 10 ^ 10⟩]

/-- The middle of its longest edge counts as inside, and as outside with the axes exchanged. -/
theorem short_edge_not_boundary :
    ∃ edge ∈ closed_path.edges shortTriangle, OnSegment (1 / (2 * 10 ^ 10)) (1 / (2 * 10 ^ 10)) edge.1 edge.2
      ∧ Classify (1 / (2 * 10 ^ 10)) (1 / (2 * 10 ^ 10)) [shortTriangle] 0 = .Inside
      ∧ Classify (1 / (2 * 10 ^ 10)) (1 / (2 * 10 ^ 10)) [shortTriangle.map SpatialPoint2.exchanged] 0
        = .Outside := by
  refine ⟨(⟨1 / 10 ^ 10, 1 / 10 ^ 10⟩, ⟨0, 0⟩), ?_, ⟨1 / 2, ?_, ?_, ?_, ?_⟩, ?_, ?_⟩
  · exact List.mem_cons_of_mem _ (List.mem_cons_of_mem _ List.mem_cons_self)
  · norm_num
  · norm_num
  · norm_num
  · norm_num
  · decide +kernel
  · decide +kernel

end revit_operator.revit_bridge
