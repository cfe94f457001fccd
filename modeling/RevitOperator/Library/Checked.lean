import Mathlib.Data.List.Basic

namespace checked

variable {ε α β : Type}

/-- Continue when the condition holds and stop with the fault otherwise. -/
def require (condition : Prop) [Decidable condition] (fault : ε) : Except ε Unit :=
  if condition then .ok () else .error fault

/-- Run a check only when its guard holds. -/
def onlyIf (guard : Prop) [Decidable guard] (check : Except ε Unit) : Except ε Unit :=
  if guard then check else .ok ()

/-- Run a check on every entry of a list, stopping at the first fault. -/
def forEach (entries : List α) (check : α → Except ε Unit) : Except ε Unit :=
  match entries with
  | [] => .ok ()
  | entry :: rest => do
    check entry
    forEach rest check

/-- Run a check on every entry of a list together with the entries before it,
    stopping at the first fault. -/
def forEachAfter (earlier : List α) (entries : List α) (check : List α → α → Except ε Unit) : Except ε Unit :=
  match entries with
  | [] => .ok ()
  | entry :: rest => do
    check earlier entry
    forEachAfter (earlier ++ [entry]) rest check

variable {condition : Prop} {done : Unit} {fault : ε}

@[simp]
theorem require_eq_ok [Decidable condition] :
    require condition fault = .ok done ↔ condition := by
  by_cases h : condition <;> simp [require, h]

theorem require_of [Decidable condition] (h : condition) :
    require condition fault = .ok () :=
  require_eq_ok.2 h

/-- A fault is reported exactly when the condition fails, and it is the named
    one. -/
@[simp]
theorem require_eq_error [Decidable condition] {reported : ε} :
    require condition fault = .error reported ↔ ¬ condition ∧ fault = reported := by
  by_cases h : condition <;> simp [require, h]

@[simp]
theorem onlyIf_eq_ok {guard : Prop} [Decidable guard] {check : Except ε Unit} :
    onlyIf guard check = .ok done ↔ (guard → check = .ok ()) := by
  by_cases h : guard <;> simp [onlyIf, h]

@[simp]
theorem forEach_eq_ok {entries : List α} {check : α → Except ε Unit} :
    forEach entries check = .ok done ↔ ∀ entry ∈ entries, check entry = .ok () := by
  induction entries with
  | nil => simp [forEach]
  | cons entry rest ih =>
    cases hcheck : check entry with
    | error fault => simp [forEach, hcheck, bind, Except.bind]
    | ok done => simpa [forEach, hcheck, bind, Except.bind] using ih

variable {first : Except ε α} {result : β}

/-- A sequence succeeds exactly when its first part does and the rest succeeds
    on what it returned. -/
theorem bind_eq_ok {rest : α → Except ε β} :
    (first >>= rest) = .ok result ↔ ∃ value, first = .ok value ∧ rest value = .ok result := by
  cases first <;> simp [bind, Except.bind]

theorem bind_eq_error {rest : α → Except ε β} :
    (first >>= rest) = .error fault ↔
      first = .error fault ∨ ∃ value, first = .ok value ∧ rest value = .error fault := by
  cases first <;> simp [bind, Except.bind]

theorem check_bind_eq_ok {check : Except ε Unit} {rest : Unit → Except ε β} :
    (check >>= rest) = .ok result ↔ check = .ok () ∧ rest () = .ok result := by
  cases check <;> simp [bind, Except.bind]

theorem map_eq_ok {f : α → β} :
    (f <$> first) = .ok result ↔ ∃ value, first = .ok value ∧ f value = result := by
  cases first <;> simp [Functor.map, Except.map]

theorem pure_eq_ok {value result : α} : (pure value : Except ε α) = .ok result ↔ value = result := by
  simp [pure, Except.pure]

theorem exists_of_isOk {check : Except ε α} (h : check.isOk = true) : ∃ value, check = .ok value := by
  cases check with
  | error fault => cases h
  | ok value => exact ⟨value, rfl⟩

theorem eq_ok_of_isOk {check : Except ε Unit} (h : check.isOk = true) : check = .ok () := by
  obtain ⟨_, hcheck⟩ := exists_of_isOk h
  exact hcheck

@[simp]
theorem toOption_eq_some {computed : Except ε α} {value : α} :
    computed.toOption = some value ↔ computed = .ok value := by
  cases computed <;> simp [Except.toOption]

theorem ok_bind (value : α) (rest : α → Except ε β) : (Except.ok value >>= rest) = rest value :=
  rfl

theorem mapM_eq_ok {f : α → Except ε β} {xs : List α} {ys : List β} :
    xs.mapM f = .ok ys ↔ List.Forall₂ (fun x y => f x = .ok y) xs ys := by
  induction xs generalizing ys with
  | nil =>
    rw [List.mapM_nil, pure_eq_ok]
    constructor
    · rintro rfl
      exact .nil
    · rintro ⟨⟩
      rfl
  | cons x xs ih =>
    simp only [List.mapM_cons, bind_eq_ok, pure_eq_ok, ih]
    constructor
    · rintro ⟨y, hy, rest, hrest, rfl⟩
      exact .cons hy hrest
    · rintro (_ | ⟨hy, hrest⟩)
      exact ⟨_, hy, _, hrest, rfl⟩

theorem exists_of_mapM_eq_ok {f : α → Except ε β} {xs : List α} {ys : List β} (h : xs.mapM f = .ok ys) :
    ∀ x ∈ xs, ∃ y ∈ ys, f x = .ok y := by
  have hall := mapM_eq_ok.1 h
  induction hall with
  | nil => exact List.forall_mem_nil _
  | cons hfirst hrest ih =>
    refine List.forall_mem_cons.2 ⟨⟨_, List.mem_cons_self, hfirst⟩, fun x hx => ?_⟩
    obtain ⟨y, hy, hvalue⟩ := ih (mapM_eq_ok.2 hrest) x hx
    exact ⟨y, List.mem_cons_of_mem _ hy, hvalue⟩

theorem toOption_foldlM (f : β → α → Except ε β) (xs : List α) (start : β) :
    (xs.foldlM f start).toOption = xs.foldlM (fun acc x => (f acc x).toOption) start := by
  induction xs generalizing start with
  | nil => rfl
  | cons first rest ih =>
    rw [List.foldlM_cons, List.foldlM_cons]
    cases hfirst : f start first with
    | error fault => rfl
    | ok mid => exact ih mid

end checked
