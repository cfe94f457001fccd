import Mathlib.Data.List.Rotate

/-! Edges of closed paths, and how many of them have a property, modulo two. -/

namespace closed_path

variable {α β : Type}

/-- The edges of a path through a list of vertices. -/
def steps : α → List α → α → List (α × α)
  | start, [], final => [(start, final)]
  | start, next :: rest, final => (start, next) :: steps next rest final

/-- The edges of a closed path, the last of them back to the start. -/
def edges : List α → List (α × α)
  | [] => []
  | start :: rest => steps start rest start

/-- Whether an odd number of the entries has the property. -/
def odd (p : α → Bool) (entries : List α) : Bool :=
  entries.foldr (fun entry others => xor (p entry) others) false

section odd

variable {p q : α → Bool} {entries others : List α}

@[simp]
theorem odd_nil : odd p [] = false :=
  rfl

@[simp]
theorem odd_cons (entry : α) : odd p (entry :: entries) = xor (p entry) (odd p entries) :=
  rfl

theorem odd_append : odd p (entries ++ others) = xor (odd p entries) (odd p others) := by
  induction entries with
  | nil => simp
  | cons entry entries ih => rw [List.cons_append, odd_cons, odd_cons, ih, Bool.xor_assoc]

theorem odd_perm (h : entries.Perm others) : odd p entries = odd p others := by
  induction h with
  | nil => rfl
  | cons entry _ ih => rw [odd_cons, odd_cons, ih]
  | swap first second rest => rw [odd_cons, odd_cons, odd_cons, odd_cons, Bool.xor_left_comm]
  | trans _ _ ih ih' => exact ih.trans ih'

theorem odd_map (f : β → α) (entries : List β) : odd p (entries.map f) = odd (fun entry => p (f entry)) entries := by
  induction entries with
  | nil => rfl
  | cons entry entries ih => rw [List.map_cons, odd_cons, odd_cons, ih]

theorem odd_congr (h : ∀ entry ∈ entries, p entry = q entry) : odd p entries = odd q entries := by
  induction entries with
  | nil => rfl
  | cons entry entries ih =>
    obtain ⟨hentry, hrest⟩ := List.forall_mem_cons.1 h
    rw [odd_cons, odd_cons, hentry, ih hrest]

theorem odd_xor (p q : α → Bool) (entries : List α) :
    odd (fun entry => xor (p entry) (q entry)) entries = xor (odd p entries) (odd q entries) := by
  induction entries with
  | nil => rfl
  | cons entry entries ih =>
    rw [odd_cons, odd_cons, odd_cons, ih]
    cases p entry <;> cases q entry <;> cases odd p entries <;> cases odd q entries <;> rfl

theorem foldl_flip (flag : Bool) (entries : List α) :
    entries.foldl (fun flag entry => if p entry = true then !flag else flag) flag = xor flag (odd p entries) := by
  induction entries generalizing flag with
  | nil => simp
  | cons entry entries ih =>
    rw [List.foldl_cons, ih, odd_cons]
    cases p entry <;> cases flag <;> cases odd p entries <;> rfl

end odd

section steps

variable {start mid final : α} {first rest : List α}

theorem steps_append :
    steps start (first ++ mid :: rest) final = steps start first mid ++ steps mid rest final := by
  induction first generalizing start with
  | nil => rfl
  | cons next first ih => rw [List.cons_append, steps, steps, ih, List.cons_append]

theorem steps_reverse :
    steps final first.reverse start = (steps start first final).reverse.map Prod.swap := by
  induction first generalizing start with
  | nil => rfl
  | cons next first ih =>
    rw [List.reverse_cons, steps_append, ih, steps, steps, List.reverse_cons, List.map_append]
    rfl

theorem steps_map (f : α → β) :
    steps (f start) (first.map f) (f final) = (steps start first final).map (Prod.map f f) := by
  induction first generalizing start with
  | nil => rfl
  | cons next first ih => rw [List.map_cons, steps, steps, List.map_cons, ih]; rfl

theorem steps_eq_zip : steps start first final = (start :: first).zip (first ++ [final]) := by
  induction first generalizing start with
  | nil => rfl
  | cons next first ih => rw [steps, ih, List.cons_append, List.zip_cons_cons]

theorem odd_steps (p : α → Bool) :
    odd (fun step : α × α => xor (p step.1) (p step.2)) (steps start first final) = xor (p start) (p final) := by
  induction first generalizing start with
  | nil => simp [steps]
  | cons next first ih =>
    rw [steps, odd_cons, ih]
    cases p start <;> cases p next <;> cases p final <;> rfl

theorem foldl_previous {State : Type} (visit : State → α → α → State) (state : State) :
    ((first ++ [final]).foldl (fun (walk : State × α) vertex => (visit walk.1 vertex walk.2, vertex))
        (state, start)).1
      = (steps start first final).foldl (fun state step => visit state step.2 step.1) state := by
  induction first generalizing start state with
  | nil => rfl
  | cons next first ih => exact ih (visit state next start)

end steps

section edges

variable {vertices other : List α}

theorem edges_map (f : α → β) (vertices : List α) :
    edges (vertices.map f) = (edges vertices).map (Prod.map f f) := by
  cases vertices with
  | nil => rfl
  | cons start rest => exact steps_map f

theorem edges_perm_of_isRotated (h : vertices ~r other) : (edges vertices).Perm (edges other) := by
  obtain ⟨n, rfl⟩ := h
  induction n with
  | zero => rw [List.rotate_zero]
  | succ n ih =>
    refine ih.trans ?_
    rw [← List.rotate_rotate]
    generalize vertices.rotate n = rotated
    cases rotated with
    | nil => rfl
    | cons start rest =>
      rw [List.rotate_cons_succ, List.rotate_zero]
      cases rest with
      | nil => rfl
      | cons next rest =>
        rw [List.cons_append, edges, edges, steps_append, steps]
        exact (List.perm_append_singleton _ _).symm

theorem edges_reverse (vertices : List α) : (edges vertices.reverse).Perm ((edges vertices).map Prod.swap) := by
  cases vertices with
  | nil => rfl
  | cons start rest =>
    have hrotated : (start :: rest).reverse ~r start :: rest.reverse := by
      rw [List.reverse_cons]
      exact List.isRotated_append
    refine (edges_perm_of_isRotated hrotated).trans ?_
    rw [edges, edges, steps_reverse, List.map_reverse]
    exact List.reverse_perm _

theorem edges_repeat (first rest : List α) (vertex : α) :
    (edges (first ++ vertex :: vertex :: rest)).Perm ((vertex, vertex) :: edges (first ++ vertex :: rest)) := by
  have hfrom : ∀ tail : List α, (edges (first ++ vertex :: tail)).Perm (edges (vertex :: tail ++ first)) :=
    fun tail => edges_perm_of_isRotated List.isRotated_append
  exact (hfrom (vertex :: rest)).trans ((hfrom rest).symm.cons _)

theorem odd_edges (p : α → Bool) (vertices : List α) :
    odd (fun edge : α × α => xor (p edge.1) (p edge.2)) (edges vertices) = false := by
  cases vertices with
  | nil => rfl
  | cons start rest =>
    rw [edges, odd_steps]
    exact Bool.xor_self _

theorem mem_edges_iff {edge : α × α} :
    edge ∈ edges vertices ↔ ∃ i, i < vertices.length ∧ vertices[i]? = some edge.1
      ∧ vertices[(i + 1) % vertices.length]? = some edge.2 := by
  cases vertices with
  | nil =>
    refine iff_of_false List.not_mem_nil ?_
    rintro ⟨i, hi, _⟩
    exact Nat.not_lt_zero i hi
  | cons start rest =>
    have hnext : ∀ i, i < (start :: rest).length →
        (rest ++ [start])[i]? = (start :: rest)[(i + 1) % (start :: rest).length]? := by
      intro i hi
      rw [List.length_cons] at hi ⊢
      by_cases hlast : i + 1 < rest.length + 1
      · rw [Nat.mod_eq_of_lt hlast, List.getElem?_cons_succ, List.getElem?_append_left (by omega)]
      · obtain rfl : i = rest.length := by omega
        rw [Nat.mod_self, List.getElem?_cons_zero, List.getElem?_append_right (Nat.le_refl _), Nat.sub_self]
        rfl
    rw [edges, steps_eq_zip, List.mem_iff_getElem?]
    constructor
    · rintro ⟨i, hi⟩
      obtain ⟨hfirst, hsecond⟩ := List.getElem?_zip_eq_some.1 hi
      have hinside : i < (start :: rest).length := (List.getElem?_eq_some_iff.1 hfirst).1
      exact ⟨i, hinside, hfirst, (hnext i hinside).symm.trans hsecond⟩
    · rintro ⟨i, hi, hfirst, hsecond⟩
      exact ⟨i, List.getElem?_zip_eq_some.2 ⟨hfirst, (hnext i hi).trans hsecond⟩⟩

theorem mem_iff_edges {vertex : α} : vertex ∈ vertices ↔ ∃ next, (vertex, next) ∈ edges vertices := by
  constructor
  · intro h
    obtain ⟨i, hi⟩ := List.mem_iff_getElem?.1 h
    have hinside : i < vertices.length := (List.getElem?_eq_some_iff.1 hi).1
    have hnext : (i + 1) % vertices.length < vertices.length := Nat.mod_lt _ (by omega)
    exact ⟨_, mem_edges_iff.2 ⟨i, hinside, hi, List.getElem?_eq_getElem hnext⟩⟩
  · rintro ⟨next, h⟩
    obtain ⟨i, _, hi, _⟩ := mem_edges_iff.1 h
    exact List.mem_of_getElem? hi

end edges

end closed_path
