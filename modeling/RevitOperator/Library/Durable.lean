import RevitOperator.Library.Checked
import Mathlib.Data.List.Induction
import Mathlib.Logic.Relation

/-! Programs that write a durable state step by step and may be cut short
    between two writes. -/

namespace durable

/-- A program: the states its writes leave behind, in order, and the value it
    returns or the fault it throws. -/
def Program (State Fault α : Type) : Type := State → List State × Except Fault α

namespace Program

variable {State Fault α β : Type}

/-- The state a program that is not cut short leaves behind. -/
def final (p : Program State Fault α) (state : State) : State := (p state).1.getLastD state

/-- The value or fault of a program that is not cut short. -/
def result (p : Program State Fault α) (state : State) : Except Fault α := (p state).2

/-- The state left behind when only the first `survived` writes reached the
    disk. -/
def cutShort (p : Program State Fault α) (survived : Nat) (state : State) : State :=
  ((p state).1.take survived).getLastD state

instance : Monad (Program State Fault) where
  pure value := fun _ => ([], .ok value)
  bind p next := fun state =>
    match (p state).2 with
    | .ok value => ((p state).1 ++ (next value (p.final state)).1, (next value (p.final state)).2)
    | .error fault => ((p state).1, .error fault)

instance : MonadExceptOf Fault (Program State Fault) where
  throw fault := fun _ => ([], .error fault)
  tryCatch p handler := fun state =>
    match (p state).2 with
    | .ok value => ((p state).1, .ok value)
    | .error fault =>
      ((p state).1 ++ (handler fault (p.final state)).1, (handler fault (p.final state)).2)

/-- Look at the state. -/
def inspect (look : State → α) : Program State Fault α := fun state => ([], .ok (look state))

/-- One durable write. -/
def write (change : State → State) : Program State Fault Unit := fun state => ([change state], .ok ())

/-- A check that touches nothing. -/
def check (outcome : Except Fault α) : Program State Fault α := fun _ => ([], outcome)

/-- Every state the program leaves behind on its way satisfies `during`; a
    returned value satisfies `returns` and a fault `throws`, with the last
    state. -/
def Ensures (p : Program State Fault α) (state : State) (during : State → Prop)
    (returns : α → State → Prop) (throws : Fault → State → Prop) : Prop :=
  (∀ mid ∈ (p state).1, during mid) ∧
    match (p state).2 with
    | .ok value => returns value (p.final state)
    | .error fault => throws fault (p.final state)

variable {p : Program State Fault α} {state : State} {during during' : State → Prop}
  {returns returns' : α → State → Prop} {throws throws' : Fault → State → Prop}

theorem Ensures.mono (h : p.Ensures state during returns throws) (hduring : ∀ s, during s → during' s)
    (hreturns : ∀ value s, returns value s → returns' value s)
    (hthrows : ∀ fault s, throws fault s → throws' fault s) :
    p.Ensures state during' returns' throws' := by
  obtain ⟨hwrites, hresult⟩ := h
  refine ⟨fun mid hmid => hduring mid (hwrites mid hmid), ?_⟩
  cases hvalue : (p state).2 with
  | ok value =>
    rw [hvalue] at hresult
    exact hreturns value _ hresult
  | error fault =>
    rw [hvalue] at hresult
    exact hthrows fault _ hresult

@[simp]
theorem ensures_pure (value : α) :
    (pure value : Program State Fault α).Ensures state during returns throws ↔ returns value state := by
  simp [Ensures, Pure.pure, final]

@[simp]
theorem ensures_throw (fault : Fault) :
    (throw fault : Program State Fault α).Ensures state during returns throws ↔ throws fault state := by
  simp [Ensures, throw, throwThe, MonadExceptOf.throw, final]

@[simp]
theorem ensures_inspect (look : State → α) :
    (inspect look : Program State Fault α).Ensures state during returns throws
      ↔ returns (look state) state := by
  simp [Ensures, inspect, final]

@[simp]
theorem ensures_write {returns : Unit → State → Prop} (change : State → State) :
    (write change : Program State Fault Unit).Ensures state during returns throws
      ↔ during (change state) ∧ returns () (change state) := by
  simp [Ensures, write, final]

@[simp]
theorem ensures_check_ok (value : α) :
    (check (.ok value) : Program State Fault α).Ensures state during returns throws ↔ returns value state := by
  simp [Ensures, check, final]

@[simp]
theorem ensures_check_error (fault : Fault) :
    (check (.error fault) : Program State Fault α).Ensures state during returns throws
      ↔ throws fault state := by
  simp [Ensures, check, final]

theorem ensures_require {condition : Prop} [Decidable condition] {fault : Fault} {returns : Unit → State → Prop} :
    (check (checked.require condition fault) : Program State Fault Unit).Ensures state during returns throws
      ↔ if condition then returns () state else throws fault state := by
  by_cases hcondition : condition
  · rw [checked.require_of hcondition, ensures_check_ok, if_pos hcondition]
  · have herror : checked.require condition fault = .error fault := checked.require_eq_error.2 ⟨hcondition, rfl⟩
    rw [herror, ensures_check_error, if_neg hcondition]

private theorem getLastD_append_of (first rest : List State) (fallback : State) :
    (first ++ rest).getLastD fallback = rest.getLastD (first.getLastD fallback) := by
  induction rest using List.reverseRecOn with
  | nil => simp
  | append_singleton rest last _ => rw [← List.append_assoc]; simp

@[simp]
theorem ensures_bind {next : α → Program State Fault β} {returns : β → State → Prop} :
    (p >>= next).Ensures state during returns throws
      ↔ p.Ensures state during (fun value s => (next value).Ensures s during returns throws) throws := by
  cases hvalue : (p state).2 with
  | ok value =>
    simp only [Ensures, Bind.bind, hvalue, final, List.mem_append, getLastD_append_of]
    constructor
    · rintro ⟨hwrites, hresult⟩
      exact ⟨fun mid hmid => hwrites mid (.inl hmid), fun mid hmid => hwrites mid (.inr hmid), hresult⟩
    · rintro ⟨hfirst, hrest, hresult⟩
      exact ⟨fun mid hmid => hmid.elim (hfirst mid) (hrest mid), hresult⟩
  | error fault => simp only [Ensures, Bind.bind, hvalue, final]

@[simp]
theorem ensures_map {f : α → β} {returns : β → State → Prop} :
    (f <$> p).Ensures state during returns throws
      ↔ p.Ensures state during (fun value s => returns (f value) s) throws := by
  have hmap : f <$> p = p >>= fun value => pure (f value) := rfl
  rw [hmap, ensures_bind]
  simp only [ensures_pure]

@[simp]
theorem ensures_tryCatch {handler : Fault → Program State Fault α} :
    (tryCatch p handler).Ensures state during returns throws
      ↔ p.Ensures state during returns fun fault s => (handler fault).Ensures s during returns throws := by
  cases hvalue : (p state).2 with
  | ok value => simp only [Ensures, tryCatch, tryCatchThe, MonadExceptOf.tryCatch, hvalue, final]
  | error fault =>
    simp only [Ensures, tryCatch, tryCatchThe, MonadExceptOf.tryCatch, hvalue, final, List.mem_append,
      getLastD_append_of]
    constructor
    · rintro ⟨hwrites, hresult⟩
      exact ⟨fun mid hmid => hwrites mid (.inl hmid), fun mid hmid => hwrites mid (.inr hmid), hresult⟩
    · rintro ⟨hfirst, hrest, hresult⟩
      exact ⟨fun mid hmid => hmid.elim (hfirst mid) (hrest mid), hresult⟩

/-- What holds at the start and after every write holds wherever the program is
    cut short. -/
theorem Ensures.cutShort {P : State → Prop} (h : p.Ensures state P returns throws) (hstart : P state)
    (survived : Nat) : P (p.cutShort survived state) := by
  rw [Program.cutShort, List.getLastD_eq_getLast?]
  cases hlast : ((p state).1.take survived).getLast? with
  | none => exact hstart
  | some mid =>
    have hmem : mid ∈ (p state).1.take survived := List.mem_of_getLast? hlast
    exact h.1 mid (List.mem_of_mem_take hmem)

theorem Ensures.final {P : State → Prop} (h : p.Ensures state P returns throws) (hstart : P state) :
    P (p.final state) := by
  have hcut := h.cutShort hstart (p state).1.length
  rwa [Program.cutShort, List.take_length] at hcut

theorem Ensures.ends {P : State → Prop} (h : p.Ensures state during (fun _ => P) fun _ => P) :
    P (p.final state) := by
  have hresult := h.2
  cases hvalue : (p state).2 with
  | ok value => rwa [hvalue] at hresult
  | error fault => rwa [hvalue] at hresult

theorem Ensures.returned (h : p.Ensures state during returns throws) {value : α}
    (hvalue : p.result state = .ok value) : returns value (p.final state) := by
  have hresult := h.2
  rw [result] at hvalue
  rwa [hvalue] at hresult

theorem ensures_of_returned {value : α} (h : p.result state = .ok value) (hreturns : returns value (p.final state)) :
    p.Ensures state (fun _ => True) returns throws := by
  rw [result] at h
  refine ⟨fun _ _ => trivial, ?_⟩
  rw [h]
  exact hreturns

/-- Every state the program leaves behind, and the last one, satisfies `P`. -/
abbrev Keeps (P : State → Prop) (p : Program State Fault α) (state : State) : Prop :=
  p.Ensures state P (fun _ => P) fun _ => P

section keeps

variable {P : State → Prop}

theorem keeps_pure {value : α} (h : P state) : Keeps P (pure value : Program State Fault α) state := by
  rwa [Keeps, ensures_pure]

theorem keeps_throw {fault : Fault} (h : P state) : Keeps P (throw fault : Program State Fault α) state := by
  rwa [Keeps, ensures_throw]

theorem keeps_write {change : State → State} (h : P (change state)) :
    Keeps P (write change : Program State Fault Unit) state := by
  rw [Keeps, ensures_write]
  exact ⟨h, h⟩

theorem Keeps.last (h : Keeps P p state) : p.Ensures state (fun _ => True) (fun _ => P) fun _ => P :=
  Ensures.mono h (fun _ _ => trivial) (fun _ _ hs => hs) fun _ _ hs => hs

theorem Keeps.bind {next : α → Program State Fault β} (h : Keeps P p state)
    (hnext : ∀ value s, P s → Keeps P (next value) s) : Keeps P (p >>= next) state := by
  rw [Keeps, ensures_bind]
  exact Ensures.mono h (fun _ hs => hs) (fun value s hs => hnext value s hs) fun _ _ hs => hs

theorem keeps_check_bind {outcome : Except Fault α} {next : α → Program State Fault β} (h : P state)
    (hnext : ∀ value, outcome = .ok value → Keeps P (next value) state) :
    Keeps P (check outcome >>= next) state := by
  rw [Keeps, ensures_bind]
  cases outcome with
  | ok value =>
    rw [ensures_check_ok]
    exact hnext value rfl
  | error fault => rwa [ensures_check_error]

theorem keeps_inspect_bind {look : State → α} {next : α → Program State Fault β}
    (hnext : Keeps P (next (look state)) state) : Keeps P (inspect look >>= next) state := by
  rwa [Keeps, ensures_bind, ensures_inspect]

theorem Keeps.map {f : α → β} (h : Keeps P p state) : Keeps P (f <$> p) state := by
  rw [Keeps, ensures_map]
  exact Ensures.mono h (fun _ hs => hs) (fun _ _ hs => hs) fun _ _ hs => hs

end keeps

/-- Every write is a step of the relation, and a returned value satisfies
    `returns`. -/
def Performs (step : State → State → Prop) (p : Program State Fault α) (state : State)
    (returns : α → State → Prop) : Prop :=
  p.Ensures state (Relation.ReflTransGen step state)
    (fun value s => Relation.ReflTransGen step state s ∧ returns value s)
    fun _ s => Relation.ReflTransGen step state s

section performs

variable {step : State → State → Prop}

theorem Performs.mono (h : p.Performs step state returns)
    (hreturns : ∀ value s, Relation.ReflTransGen step state s → returns value s → returns' value s) :
    p.Performs step state returns' :=
  Ensures.mono h (fun _ hs => hs) (fun value s hs => ⟨hs.1, hreturns value s hs.1 hs.2⟩) fun _ _ hs => hs

theorem performs_pure {value : α} (h : returns value state) :
    (pure value : Program State Fault α).Performs step state returns := by
  rw [Performs, ensures_pure]
  exact ⟨.refl, h⟩

theorem performs_throw (fault : Fault) : (throw fault : Program State Fault α).Performs step state returns := by
  rw [Performs, ensures_throw]

theorem performs_inspect {look : State → α} (h : returns (look state) state) :
    (inspect look : Program State Fault α).Performs step state returns := by
  rw [Performs, ensures_inspect]
  exact ⟨.refl, h⟩

theorem performs_check {outcome : Except Fault α} (h : ∀ value, outcome = .ok value → returns value state) :
    (check outcome : Program State Fault α).Performs step state returns := by
  cases outcome with
  | ok value =>
    rw [Performs, ensures_check_ok]
    exact ⟨.refl, h value rfl⟩
  | error fault => rw [Performs, ensures_check_error]

theorem performs_write {change : State → State} {returns : Unit → State → Prop}
    (hstep : step state (change state)) (h : returns () (change state)) :
    (write change : Program State Fault Unit).Performs step state returns := by
  rw [Performs, ensures_write]
  exact ⟨.single hstep, .single hstep, h⟩

theorem Performs.bind {next : α → Program State Fault β} {returns' : β → State → Prop}
    (h : p.Performs step state returns)
    (hnext : ∀ value s, Relation.ReflTransGen step state s → returns value s →
      (next value).Performs step s returns') : (p >>= next).Performs step state returns' := by
  rw [Performs, ensures_bind]
  refine Ensures.mono h (fun _ hs => hs) (fun value s hs => ?_) fun _ _ hs => hs
  obtain ⟨hreach, hvalue⟩ := hs
  exact Ensures.mono (hnext value s hreach hvalue) (fun _ ht => hreach.trans ht)
    (fun _ _ ht => ⟨hreach.trans ht.1, ht.2⟩) fun _ _ ht => hreach.trans ht

theorem performs_bind (returns : α → State → Prop) {next : α → Program State Fault β}
    {returns' : β → State → Prop} (h : p.Performs step state returns)
    (hnext : ∀ value s, Relation.ReflTransGen step state s → returns value s →
      (next value).Performs step s returns') : (p >>= next).Performs step state returns' :=
  h.bind hnext

theorem performs_check_bind {outcome : Except Fault α} {next : α → Program State Fault β}
    {returns' : β → State → Prop} (hnext : ∀ value, outcome = .ok value → (next value).Performs step state returns') :
    (check outcome >>= next).Performs step state returns' := by
  rw [Performs, ensures_bind]
  cases outcome with
  | ok value =>
    rw [ensures_check_ok]
    exact hnext value rfl
  | error fault => rw [ensures_check_error]

theorem performs_inspect_bind {look : State → α} {next : α → Program State Fault β}
    {returns' : β → State → Prop} (hnext : (next (look state)).Performs step state returns') :
    (inspect look >>= next).Performs step state returns' := by
  rw [Performs, ensures_bind, ensures_inspect]
  exact hnext

theorem Performs.tryCatch {handler : Fault → Program State Fault α} (h : p.Performs step state returns)
    (hhandler : ∀ fault s, Relation.ReflTransGen step state s → (handler fault).Performs step s returns) :
    (tryCatch p handler).Performs step state returns := by
  rw [Performs, ensures_tryCatch]
  refine Ensures.mono h (fun _ hs => hs) (fun _ _ hs => hs) fun fault s hs => ?_
  exact Ensures.mono (hhandler fault s hs) (fun _ ht => hs.trans ht)
    (fun _ _ ht => ⟨hs.trans ht.1, ht.2⟩) fun _ _ ht => hs.trans ht

theorem Performs.final (h : p.Performs step state returns) :
    Relation.ReflTransGen step state (p.final state) :=
  Ensures.final (Ensures.mono h (fun _ hs => hs) (fun _ _ _ => trivial) fun _ _ _ => trivial) .refl

/-- Wherever a program is cut short, the state left behind is reached by
    steps. -/
theorem Performs.cutShort (h : p.Performs step state returns) (survived : Nat) :
    Relation.ReflTransGen step state (p.cutShort survived state) :=
  Ensures.cutShort (Ensures.mono h (fun _ hs => hs) (fun _ _ _ => trivial) fun _ _ _ => trivial) .refl survived

end performs

end Program

/-- A part of a state that can be read and replaced. -/
structure Part (Whole State : Type) where
  get : Whole → State
  set : Whole → State → Whole
  get_set : ∀ whole part, get (set whole part) = part
  set_get : ∀ whole, set whole (get whole) = whole
  set_set : ∀ whole first second, set (set whole first) second = set whole second

namespace Part

variable {Whole State Fault α : Type}

/-- Run a program on a part of the state. -/
def focus (part : Part Whole State) (p : Program State Fault α) : Program Whole Fault α :=
  fun whole => ((p (part.get whole)).1.map (part.set whole), (p (part.get whole)).2)

private theorem getLastD_map_set (part : Part Whole State) (whole : Whole) (writes : List State) :
    (writes.map (part.set whole)).getLastD whole = part.set whole (writes.getLastD (part.get whole)) := by
  induction writes using List.reverseRecOn with
  | nil => simp [part.set_get]
  | append_singleton writes last _ => simp

@[simp]
theorem ensures_focus {part : Part Whole State} {p : Program State Fault α} {whole : Whole}
    {during : Whole → Prop} {returns : α → Whole → Prop} {throws : Fault → Whole → Prop} :
    (part.focus p).Ensures whole during returns throws
      ↔ p.Ensures (part.get whole) (fun s => during (part.set whole s))
          (fun value s => returns value (part.set whole s)) fun fault s => throws fault (part.set whole s) := by
  simp only [Program.Ensures, focus, Program.final, List.mem_map, forall_exists_index, and_imp,
    forall_apply_eq_imp_iff₂, getLastD_map_set]

end Part

end durable
