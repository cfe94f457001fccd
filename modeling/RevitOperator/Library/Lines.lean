import Mathlib.Data.List.Basic

/-! Texts made of lines that each end with a separator, and of blocks of lines
    joined by one. -/

namespace lines

variable {α : Type} {separator : α}

/-- Every line followed by the separator. -/
def terminated (separator : α) (bodies : List (List α)) : List α := bodies.flatMap fun body => body ++ [separator]

theorem append_separator_inj {left right rest rest' : List α} (hleft : separator ∉ left) (hright : separator ∉ right)
    (h : left ++ separator :: rest = right ++ separator :: rest') : left = right ∧ rest = rest' := by
  induction left generalizing right with
  | nil =>
    cases right with
    | nil => exact ⟨rfl, (List.cons.inj h).2⟩
    | cons b right => exact absurd ((List.cons.inj h).1 ▸ List.mem_cons_self) hright
  | cons a left ih =>
    cases right with
    | nil => exact absurd ((List.cons.inj h).1 ▸ List.mem_cons_self) hleft
    | cons b right =>
      obtain ⟨rfl, hrest⟩ := List.cons.inj h
      obtain ⟨rfl, hends⟩ := ih (List.not_mem_of_not_mem_cons hleft) (List.not_mem_of_not_mem_cons hright) hrest
      exact ⟨rfl, hends⟩

theorem terminated_cons (body : List α) (bodies : List (List α)) :
    terminated separator (body :: bodies) = body ++ separator :: terminated separator bodies := by
  simp [terminated]

theorem terminated_append (first rest : List (List α)) :
    terminated separator (first ++ rest) = terminated separator first ++ terminated separator rest := by
  simp [terminated]

theorem terminated_inj {left right : List (List α)} (hleft : ∀ body ∈ left, separator ∉ body)
    (hright : ∀ body ∈ right, separator ∉ body) (h : terminated separator left = terminated separator right) :
    left = right := by
  induction left generalizing right with
  | nil =>
    cases right with
    | nil => rfl
    | cons body right => simp [terminated] at h
  | cons body left ih =>
    cases right with
    | nil => simp [terminated] at h
    | cons body' right =>
      rw [terminated_cons, terminated_cons] at h
      obtain ⟨rfl, hrest⟩ := append_separator_inj (hleft body List.mem_cons_self) (hright body' List.mem_cons_self) h
      rw [ih (fun other hother => hleft other (List.mem_cons_of_mem _ hother))
        (fun other hother => hright other (List.mem_cons_of_mem _ hother)) hrest]

/-- The blocks' lines in one list, with an empty line between two blocks. -/
def spaced : List (List (List α)) → List (List α)
  | [] => []
  | [block] => block
  | block :: blocks => block ++ [] :: spaced blocks

theorem mem_spaced {body : List α} {blocks : List (List (List α))} (h : body ∈ spaced blocks) :
    body = [] ∨ ∃ block ∈ blocks, body ∈ block := by
  induction blocks using spaced.induct with
  | case1 => cases h
  | case2 block => exact .inr ⟨block, List.mem_cons_self, h⟩
  | case3 block blocks hne ih =>
    rw [spaced] at h
    · rcases List.mem_append.1 h with hblock | hrest
      · exact .inr ⟨block, List.mem_cons_self, hblock⟩
      · rcases List.mem_cons.1 hrest with hempty | hlater
        · exact .inl hempty
        · obtain hempty | ⟨other, hother, hbody⟩ := ih hlater
          · exact .inl hempty
          · exact .inr ⟨other, List.mem_cons_of_mem _ hother, hbody⟩
    · exact hne

theorem intercalate_terminated (blocks : List (List (List α))) :
    [separator].intercalate (blocks.map (terminated separator)) = terminated separator (spaced blocks) := by
  induction blocks using spaced.induct with
  | case1 => rfl
  | case2 block => simp [spaced, List.intercalate]
  | case3 block blocks hne ih =>
    obtain ⟨next, rest, rfl⟩ := List.exists_cons_of_ne_nil hne
    rw [spaced, terminated_append, terminated_cons, ← ih]
    · simp [List.intercalate]
    · exact hne

theorem spaced_inj {left right : List (List (List α))} (hleft : ∀ block ∈ left, block ≠ [] ∧ [] ∉ block)
    (hright : ∀ block ∈ right, block ≠ [] ∧ [] ∉ block) (h : spaced left = spaced right) : left = right := by
  induction left using spaced.induct generalizing right with
  | case1 =>
    match right with
    | [] => rfl
    | [block] => exact absurd h.symm (hright block List.mem_cons_self).1
    | block :: next :: blocks => simp [spaced] at h
  | case2 block =>
    have hblock := hleft block List.mem_cons_self
    match right with
    | [] => exact absurd h hblock.1
    | [block'] => exact congrArg (fun block => [block]) h
    | block' :: next :: blocks =>
      have hempty : ([] : List α) ∈ spaced [block] := by
        rw [h, spaced]
        · simp
        · exact List.cons_ne_nil _ _
      exact absurd hempty hblock.2
  | case3 block blocks hne ih =>
    have hblock := hleft block List.mem_cons_self
    match right with
    | [] =>
      obtain ⟨next, rest, rfl⟩ := List.exists_cons_of_ne_nil hne
      simp [spaced] at h
    | [block'] =>
      have hempty : ([] : List α) ∈ spaced [block'] := by
        rw [← h, spaced]
        · simp
        · exact hne
      exact absurd hempty (hright block' List.mem_cons_self).2
    | block' :: next' :: rest' =>
      rw [spaced, spaced] at h
      · obtain ⟨rfl, hrest⟩ := append_separator_inj hblock.2 (hright block' List.mem_cons_self).2 h
        rw [ih (fun other hother => hleft other (List.mem_cons_of_mem _ hother))
          (fun other hother => hright other (List.mem_cons_of_mem _ hother)) hrest]
      · exact List.cons_ne_nil _ _
      · exact hne

end lines
