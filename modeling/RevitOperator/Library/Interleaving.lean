import Mathlib.Logic.Relation

/-! Programs that take atomic steps on one shared state, side by side under any
    schedule, and rely-guarantee rules for them. -/

namespace interleaving

/-- A program: finished, or about to take an atomic step. The step changes the
    state it finds, and what follows may depend on that state. `expected` tells
    whether the state found is the one the step was written for; the step is
    taken either way. -/
inductive Steps (State Fault α : Type) where
  | done (outcome : Except Fault α)
  | step (expected : State → Bool) (change : State → State) (next : State → Steps State Fault α)

namespace Steps

variable {State Fault Fault' α β : Type}

/-- Continue with the outcome of a program. -/
def andThen (p : Steps State Fault α) (next : Except Fault α → Steps State Fault' β) : Steps State Fault' β :=
  match p with
  | .done outcome => next outcome
  | .step expected change rest => .step expected change fun found => (rest found).andThen next

instance : Monad (Steps State Fault) where
  pure value := .done (.ok value)
  bind p next := p.andThen fun outcome =>
    match outcome with
    | .ok value => next value
    | .error fault => .done (.error fault)

instance : MonadExceptOf Fault (Steps State Fault) where
  throw fault := .done (.error fault)
  tryCatch p handler := p.andThen fun outcome =>
    match outcome with
    | .ok value => .done (.ok value)
    | .error fault => handler fault

/-- One atomic step, which yields what it sees in the state it finds. -/
def atomic (expected : State → Bool) (change : State → State) (look : State → α) : Steps State Fault α :=
  .step expected change fun found => .done (.ok (look found))

/-- An atomic look at the state. -/
def inspect (look : State → α) : Steps State Fault α := atomic (fun _ => true) id look

/-- An atomic change that is right in every state. -/
def change (update : State → State) : Steps State Fault Unit := atomic (fun _ => true) update fun _ => ()

/-- A check that touches nothing. -/
def check (outcome : Except Fault α) : Steps State Fault α := .done outcome

/-- Programs one after the other, whatever each of them ends with. -/
def inTurn : List (Steps State Fault α) → Steps State Fault' Unit
  | [] => .done (.ok ())
  | p :: rest => p.andThen fun _ => inTurn rest

/-- Between the steps of the program others may change the state as `rely`
    allows. Every step that finds a state it expects changes it as `guarantee`
    allows, and the program ends as `ends` says. -/
def Respects (rely guarantee : State → State → Prop) (ends : Except Fault α → State → Prop) :
    Steps State Fault α → State → Prop
  | .done outcome, state => ends outcome state
  | .step expected change next, state => ∀ found, rely state found → expected found = true →
      guarantee found (change found) ∧ Respects rely guarantee ends (next found) (change found)

section respects

variable {rely guarantee : State → State → Prop} {ends ends' : Except Fault α → State → Prop} {state : State}
  {p : Steps State Fault α}

theorem Respects.mono (h : p.Respects rely guarantee ends state)
    (hends : ∀ outcome s, ends outcome s → ends' outcome s) : p.Respects rely guarantee ends' state := by
  induction p generalizing state with
  | done outcome => exact hends outcome state h
  | step expected change next ih =>
    intro found hrely hexpected
    obtain ⟨hguarantee, hnext⟩ := h found hrely hexpected
    exact ⟨hguarantee, ih found hnext⟩

theorem Respects.later (htrans : ∀ s t u, rely s t → rely t u → rely s u)
    (hends : ∀ outcome s t, rely s t → ends outcome s → ends outcome t) {state' : State}
    (h : p.Respects rely guarantee ends state) (hrely : rely state state') :
    p.Respects rely guarantee ends state' := by
  cases p with
  | done outcome => exact hends outcome state state' hrely h
  | step expected change next =>
    intro found hfound hexpected
    exact h found (htrans state state' found hrely hfound) hexpected

@[simp]
theorem respects_pure {value : α} :
    (pure value : Steps State Fault α).Respects rely guarantee ends state ↔ ends (.ok value) state := Iff.rfl

@[simp]
theorem respects_throw {fault : Fault} :
    (throw fault : Steps State Fault α).Respects rely guarantee ends state ↔ ends (.error fault) state := Iff.rfl

@[simp]
theorem respects_check {outcome : Except Fault α} :
    (check outcome : Steps State Fault α).Respects rely guarantee ends state ↔ ends outcome state := Iff.rfl

theorem respects_step {expected : State → Bool} {change : State → State} {next : State → Steps State Fault α} :
    (step expected change next).Respects rely guarantee ends state
      ↔ ∀ found, rely state found → expected found = true →
        guarantee found (change found) ∧ (next found).Respects rely guarantee ends (change found) := Iff.rfl

theorem respects_atomic {expected : State → Bool} {change : State → State} {look : State → α} :
    (atomic expected change look : Steps State Fault α).Respects rely guarantee ends state
      ↔ ∀ found, rely state found → expected found = true →
        guarantee found (change found) ∧ ends (.ok (look found)) (change found) := Iff.rfl

theorem respects_andThen {next : Except Fault α → Steps State Fault' β} {ends : Except Fault' β → State → Prop} :
    (p.andThen next).Respects rely guarantee ends state
      ↔ p.Respects rely guarantee (fun outcome s => (next outcome).Respects rely guarantee ends s) state := by
  induction p generalizing state with
  | done outcome => exact Iff.rfl
  | step expected change rest ih =>
    constructor
    · intro h found hrely hexpected
      obtain ⟨hguarantee, hrest⟩ := h found hrely hexpected
      exact ⟨hguarantee, (ih found).1 hrest⟩
    · intro h found hrely hexpected
      obtain ⟨hguarantee, hrest⟩ := h found hrely hexpected
      exact ⟨hguarantee, (ih found).2 hrest⟩

theorem Respects.bind {next : α → Steps State Fault β} {ends' : Except Fault β → State → Prop}
    (h : p.Respects rely guarantee ends state)
    (hnext : ∀ value s, ends (.ok value) s → (next value).Respects rely guarantee ends' s)
    (hfault : ∀ fault s, ends (.error fault) s → ends' (.error fault) s) :
    (p >>= next).Respects rely guarantee ends' state := by
  apply respects_andThen.2
  refine h.mono fun outcome s hs => ?_
  cases outcome with
  | ok value => exact hnext value s hs
  | error fault => exact hfault fault s hs

theorem Respects.map {f : α → β} {ends' : Except Fault β → State → Prop}
    (h : p.Respects rely guarantee ends state) (hvalue : ∀ value s, ends (.ok value) s → ends' (.ok (f value)) s)
    (hfault : ∀ fault s, ends (.error fault) s → ends' (.error fault) s) :
    (f <$> p).Respects rely guarantee ends' state :=
  h.bind hvalue hfault

theorem Respects.tryCatch {handler : Fault → Steps State Fault α}
    (h : p.Respects rely guarantee ends state)
    (hvalue : ∀ value s, ends (.ok value) s → ends' (.ok value) s)
    (hhandler : ∀ fault s, ends (.error fault) s → (handler fault).Respects rely guarantee ends' s) :
    (tryCatch p handler).Respects rely guarantee ends' state := by
  apply respects_andThen.2
  refine h.mono fun outcome s hs => ?_
  cases outcome with
  | ok value => exact hvalue value s hs
  | error fault => exact hhandler fault s hs

/-- Programs that each respect their conditions whenever `holds` does, and keep
    it, may follow each other. -/
theorem respects_inTurn {holds : State → Prop} {programs : List (Steps State Fault α)}
    (hprograms : ∀ p ∈ programs, ∀ s, holds s → p.Respects rely guarantee (fun _ => holds) s) (h : holds state) :
    (inTurn programs : Steps State Fault' Unit).Respects rely guarantee (fun _ => holds) state := by
  induction programs generalizing state with
  | nil => exact h
  | cons p rest ih =>
    apply respects_andThen.2
    refine (hprograms p List.mem_cons_self state h).mono fun _ s hs => ?_
    exact ih (fun q hq => hprograms q (List.mem_cons_of_mem p hq)) hs

end respects

-- its rules are the lemmas above; unfolding it runs the program
attribute [irreducible] Respects

end Steps

/-- Programs side by side on one state. -/
structure Pool (State Fault : Type) where
  state : State
  programs : List (Steps State Fault Unit)

namespace Pool

variable {State Fault : Type}

/-- The next step of the program at a place; nothing when it has finished. -/
def turn (pool : Pool State Fault) (place : Nat) : Pool State Fault :=
  match pool.programs[place]? with
  | some (.step _ change next) => ⟨change pool.state, pool.programs.set place (next pool.state)⟩
  | _ => pool

def run (pool : Pool State Fault) (schedule : List Nat) : Pool State Fault := schedule.foldl turn pool

/-- The next step of the program at a place finds a state it expects. -/
def expects (pool : Pool State Fault) (place : Nat) : Bool :=
  match pool.programs[place]? with
  | some (.step expected _ _) => expected pool.state
  | _ => true

/-- Every step of the schedule finds a state it expects. -/
def calm (pool : Pool State Fault) : List Nat → Bool
  | [] => true
  | place :: rest => pool.expects place && (pool.turn place).calm rest

theorem run_append (pool : Pool State Fault) (schedule later : List Nat) :
    pool.run (schedule ++ later) = (pool.run schedule).run later := List.foldl_append

theorem calm_append (pool : Pool State Fault) (schedule later : List Nat) :
    pool.calm (schedule ++ later) = (pool.calm schedule && (pool.run schedule).calm later) := by
  induction schedule generalizing pool with
  | nil => rfl
  | cons place rest ih =>
    have hrest := ih (pool.turn place)
    simp only [List.cons_append, calm, hrest, Bool.and_assoc]
    rfl

end Pool

/-- What the programs of a pool promise each other, by their places: an
    invariant, what a program may find changed, and what its own steps change. -/
structure Discipline (State : Type) where
  holds : State → Prop
  rely : Nat → State → State → Prop
  guarantee : Nat → State → State → Prop
  rely_refl : ∀ place s, holds s → rely place s s
  rely_trans : ∀ place s t u, rely place s t → rely place t u → rely place s u
  guarantee_holds : ∀ place s t, guarantee place s t → holds t
  compatible : ∀ place other s t, place ≠ other → guarantee place s t → rely other s t

/-- A step one of the programs may take. -/
def Discipline.Advances {State : Type} (discipline : Discipline State) (s t : State) : Prop :=
  ∃ place, discipline.guarantee place s t

/-- The invariant holds and every program keeps its promises from here. -/
structure Disciplined {State Fault : Type} (discipline : Discipline State) (pool : Pool State Fault) : Prop where
  holds : discipline.holds pool.state
  respects : ∀ (place : Nat) (p : Steps State Fault Unit), pool.programs[place]? = some p →
    p.Respects (discipline.rely place) (discipline.guarantee place) (fun _ _ => True) pool.state

namespace Disciplined

variable {State Fault : Type} {discipline : Discipline State} {pool : Pool State Fault}

theorem turn (h : Disciplined discipline pool) {place : Nat} (hexpects : pool.expects place = true) :
    Disciplined discipline (pool.turn place)
      ∧ Relation.ReflTransGen discipline.Advances pool.state (pool.turn place).state := by
  rw [Pool.turn]
  rw [Pool.expects] at hexpects
  split
  · next expected change next hprogram =>
    rw [hprogram] at hexpects
    have hsame := discipline.rely_refl place pool.state h.holds
    have hstep := Steps.respects_step.1 (h.respects place _ hprogram)
    obtain ⟨hguarantee, hnext⟩ := hstep pool.state hsame hexpects
    refine ⟨⟨discipline.guarantee_holds place _ _ hguarantee, fun other p hp => ?_⟩, .single ⟨place, hguarantee⟩⟩
    rw [List.getElem?_set] at hp
    split at hp
    · next heq =>
      subst heq
      split at hp
      · cases hp
        exact hnext
      · cases hp
    · next hne =>
      have hrely := discipline.compatible place other _ _ hne hguarantee
      exact (h.respects other p hp).later (discipline.rely_trans other) (fun _ _ _ _ _ => trivial) hrely
  · exact ⟨h, .refl⟩

/-- A calm schedule leaves every program disciplined, by steps the programs may
    take. -/
theorem run (h : Disciplined discipline pool) {schedule : List Nat} (hcalm : pool.calm schedule = true) :
    Disciplined discipline (pool.run schedule)
      ∧ Relation.ReflTransGen discipline.Advances pool.state (pool.run schedule).state := by
  induction schedule generalizing pool with
  | nil => exact ⟨h, .refl⟩
  | cons place rest ih =>
    rw [Pool.calm, Bool.and_eq_true] at hcalm
    obtain ⟨hexpects, hrest⟩ := hcalm
    obtain ⟨hturn, hfirst⟩ := h.turn hexpects
    obtain ⟨hrun, hafter⟩ := ih hturn hrest
    exact ⟨hrun, hfirst.trans hafter⟩

end Disciplined

end interleaving
