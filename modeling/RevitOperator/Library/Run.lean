import RevitOperator.Library.Checked
import Mathlib.Data.List.Infix

namespace checked_run

variable {State Input Fault : Type} (step : State → Input → Except Fault State)

/-- Feed a list of inputs to a checked step function, stopping at the first
    fault. -/
def feed (start : State) (inputs : List Input) : Except Fault State :=
  inputs.foldlM step start

/-- The property holds in every state the run passes through. -/
def AlongRun (start : State) (inputs : List Input) (P : State → Prop) : Prop :=
  ∀ pre, pre <+: inputs → ∀ state, feed step start pre = .ok state → P state

/-- The relation holds between the state before, the input and the state after
    every step. -/
def AlongSteps (start : State) (inputs : List Input) (T : State → Input → State → Prop) : Prop :=
  ∀ pre input, pre ++ [input] <+: inputs → ∀ state next, feed step start pre = .ok state →
    step state input = .ok next → T state input next

/-- Every step of the run meets a condition on its state and input. -/
def StepsMeet (start : State) (inputs : List Input) (G : State → Input → Prop) : Prop :=
  ∀ pre input, pre ++ [input] <+: inputs → ∀ state, feed step start pre = .ok state →
    G state input

variable {step}

@[simp]
theorem feed_nil (start : State) : feed step start [] = .ok start :=
  rfl

theorem feed_append (start : State) (first rest : List Input) :
    feed step start (first ++ rest) = (feed step start first >>= fun mid => feed step mid rest) := by
  simp [feed]

theorem feed_singleton (start : State) (input : Input) :
    feed step start [input] = step start input := by
  cases h : step start input <;> simp [feed, h, bind, Except.bind, pure, Except.pure]

variable {final start : State}

theorem feed_snoc_eq_ok {first : List Input} {input : Input} :
    feed step start (first ++ [input]) = .ok final ↔
      ∃ mid, feed step start first = .ok mid ∧ step mid input = .ok final := by
  simp only [feed_append, checked.bind_eq_ok, feed_singleton]

variable {inputs : List Input}

theorem feed_cons {input : Input} {next : State} (hstep : step start input = .ok next) :
    feed step start (input :: inputs) = feed step next inputs := by
  rw [← List.singleton_append, feed_append, feed_singleton, hstep, checked.ok_bind]

theorem feed_prefix {pre : List Input} (hpre : pre <+: inputs)
    (hrun : feed step start inputs = .ok final) : ∃ state, feed step start pre = .ok state := by
  obtain ⟨rest, rfl⟩ := hpre
  rw [feed_append, checked.bind_eq_ok] at hrun
  obtain ⟨state, hstate, _⟩ := hrun
  exact ⟨state, hstate⟩

variable {I : State → Prop}

/-- A property that every accepted step preserves holds after every accepted
    run. -/
theorem feed_invariant
    (hstep : ∀ state input next, I state → step state input = .ok next → I next)
    (hstart : I start)
    (hrun : feed step start inputs = .ok final) : I final := by
  induction inputs using List.reverseRecOn generalizing final with
  | nil =>
    simp only [feed_nil, Except.ok.injEq] at hrun
    exact hrun ▸ hstart
  | append_singleton first input ih =>
    obtain ⟨mid, hmid, hlast⟩ := feed_snoc_eq_ok.1 hrun
    exact hstep mid input final (ih hmid) hlast

/-- A relation between a state, the inputs from there on and the last state holds of
    every accepted run where a step can be put before it. -/
theorem feed_relation {R : State → List Input → State → Prop} (hnil : ∀ state, R state [] state)
    (hcons : ∀ state input mid inputs final, step state input = .ok mid → R mid inputs final →
      R state (input :: inputs) final)
    (hrun : feed step start inputs = .ok final) :
    R start inputs final := by
  induction inputs generalizing start with
  | nil =>
    simp only [feed_nil, Except.ok.injEq] at hrun
    exact hrun ▸ hnil start
  | cons input inputs ih =>
    rw [← List.singleton_append, feed_append, checked.bind_eq_ok] at hrun
    obtain ⟨mid, hfirst, hrest⟩ := hrun
    exact hcons start input mid inputs final ((feed_singleton start input).symm.trans hfirst) (ih hrest)

variable {P : State → Prop}

/-- What holds after an accepted run and not before it was brought about by one
    of its steps. -/
theorem exists_step_of_feed
    (hstart : ¬ P start) (hrun : feed step start inputs = .ok final) (hfinal : P final) :
    ∃ pre input state next, pre ++ [input] <+: inputs ∧ feed step start pre = .ok state
      ∧ step state input = .ok next ∧ ¬ P state ∧ P next := by
  induction inputs using List.reverseRecOn generalizing final with
  | nil =>
    simp only [feed_nil, Except.ok.injEq] at hrun
    exact absurd (hrun ▸ hfinal) hstart
  | append_singleton first input ih =>
    obtain ⟨mid, hmid, hlast⟩ := feed_snoc_eq_ok.1 hrun
    by_cases hreached : P mid
    · obtain ⟨pre, earlier, state, next, hpre, hrest⟩ := ih hmid hreached
      exact ⟨pre, earlier, state, next, hpre.trans (List.prefix_append _ _), hrest⟩
    · exact ⟨first, input, mid, final, List.prefix_refl _, hmid, hlast, hreached, hfinal⟩

variable {T : State → Input → State → Prop}

/-- A property that holds at the start and that every step in the relation
    preserves holds along every run whose steps are all in the relation. -/
theorem AlongRun.of_alongSteps
    (hstep : ∀ state input next, P state → T state input next → step state input = .ok next → P next)
    (hstart : P start) (hsteps : AlongSteps step start inputs T) :
    AlongRun step start inputs P := by
  intro pre
  induction pre using List.reverseRecOn with
  | nil =>
    intro _ state hstate
    simp only [feed_nil, Except.ok.injEq] at hstate
    exact hstate ▸ hstart
  | append_singleton first input ih =>
    intro hpre state hstate
    obtain ⟨mid, hmid, hlast⟩ := feed_snoc_eq_ok.1 hstate
    exact hstep mid input state (ih ((List.prefix_append _ _).trans hpre) mid hmid)
      (hsteps first input hpre mid state hmid hlast) hlast

variable {G : State → Input → Prop}

theorem AlongRun.of_stepsMeet
    (hstep : ∀ state input next, P state → G state input → step state input = .ok next → P next)
    (hstart : P start) (hmeet : StepsMeet step start inputs G) :
    AlongRun step start inputs P :=
  AlongRun.of_alongSteps hstep hstart fun pre input hpre state _ hstate _ => hmeet pre input hpre state hstate

/-- Where two relations agree on every step from a state with the invariant, the
    steps of a run are in the one exactly when they are in the other. -/
theorem alongSteps_congr {T' : State → Input → State → Prop}
    (hinv : ∀ state input next, I state → step state input = .ok next → I next)
    (hagree : ∀ state input next, I state → step state input = .ok next → (T state input next ↔ T' state input next))
    (hstart : I start) :
    AlongSteps step start inputs T ↔ AlongSteps step start inputs T' := by
  have heach : ∀ pre input, ∀ state next, feed step start pre = .ok state → step state input = .ok next →
      (T state input next ↔ T' state input next) := fun pre input state next hstate hnext =>
    hagree state input next (feed_invariant hinv hstart hstate) hnext
  constructor
  · intro h pre input hpre state next hstate hnext
    exact (heach pre input state next hstate hnext).1 (h pre input hpre state next hstate hnext)
  · intro h pre input hpre state next hstate hnext
    exact (heach pre input state next hstate hnext).2 (h pre input hpre state next hstate hnext)

/-- A property that holds at the start holds along a run exactly when every step
    from a state with the property is in a relation that says when a step keeps
    it. -/
theorem alongRun_iff_alongSteps
    (hinv : ∀ state input next, I state → step state input = .ok next → I next)
    (hkeeps : ∀ state input next, I state → P state → step state input = .ok next → (P next ↔ T state input next))
    (hstartI : I start) (hstartP : P start) :
    AlongRun step start inputs P ↔ AlongSteps step start inputs T := by
  constructor
  · intro h pre input hpre state next hstate hnext
    have hfirst : pre <+: inputs := (List.prefix_append _ _).trans hpre
    refine (hkeeps state input next (feed_invariant hinv hstartI hstate) (h pre hfirst state hstate) hnext).1 ?_
    exact h _ hpre next (feed_snoc_eq_ok.2 ⟨state, hstate, hnext⟩)
  · intro h
    have hboth : AlongRun step start inputs fun state => I state ∧ P state :=
      AlongRun.of_alongSteps
        (fun state input next hstate hT hnext =>
          ⟨hinv state input next hstate.1 hnext, (hkeeps state input next hstate.1 hstate.2 hnext).2 hT⟩)
        ⟨hstartI, hstartP⟩ h
    exact fun pre hpre state hstate => (hboth pre hpre state hstate).2

theorem AlongRun.of_invariant
    (hstep : ∀ state input next, I state → step state input = .ok next → I next)
    (hstart : I start) : AlongRun step start inputs I :=
  fun _ _ _ hstate => feed_invariant hstep hstart hstate

/-- Exactness of a step condition. When every step that meets the condition
    keeps the property and the relation, and every step that misses it breaks
    one of them, an accepted run has both throughout if and only if all of its
    steps meet the condition. -/
theorem alongRun_and_alongSteps_iff_stepsMeet
    (hinv : ∀ state input next, I state → step state input = .ok next → I next)
    (hgood : ∀ state input next, I state → P state → G state input → step state input = .ok next →
      P next ∧ T state input next)
    (hbad : ∀ state input next, I state → P state → ¬ G state input → step state input = .ok next →
      ¬ (P next ∧ T state input next))
    (hstartI : I start) (hstartP : P start)
    (hrun : feed step start inputs = .ok final) :
    (AlongRun step start inputs P ∧ AlongSteps step start inputs T) ↔
      StepsMeet step start inputs G := by
  have hI : AlongRun step start inputs I := AlongRun.of_invariant hinv hstartI
  constructor
  · rintro ⟨hP, hT⟩ pre input hpre state hstate
    by_contra hmiss
    obtain ⟨next, hnext⟩ := feed_prefix hpre hrun
    obtain ⟨mid, hmid, hlast⟩ := feed_snoc_eq_ok.1 hnext
    obtain rfl : state = mid := by simpa using hstate.symm.trans hmid
    have hfirst : pre <+: inputs := (List.prefix_append _ _).trans hpre
    exact hbad state input next (hI pre hfirst state hstate) (hP pre hfirst state hstate) hmiss hlast
      ⟨hP _ hpre next hnext, hT pre input hpre state next hstate hlast⟩
  · intro hmeet
    have hboth : AlongRun step start inputs fun state => I state ∧ P state :=
      AlongRun.of_stepsMeet
        (fun state input next h hG hnext =>
          ⟨hinv state input next h.1 hnext, (hgood state input next h.1 h.2 hG hnext).1⟩)
        ⟨hstartI, hstartP⟩ hmeet
    refine ⟨fun pre hpre state hstate => (hboth pre hpre state hstate).2, ?_⟩
    intro pre input hpre state next hstate hnext
    have hfirst : pre <+: inputs := (List.prefix_append _ _).trans hpre
    obtain ⟨hstateI, hstateP⟩ := hboth pre hfirst state hstate
    exact (hgood state input next hstateI hstateP (hmeet pre input hpre state hstate) hnext).2

theorem alongRun_iff_stepsMeet
    (hinv : ∀ state input next, I state → step state input = .ok next → I next)
    (hgood : ∀ state input next, I state → P state → G state input → step state input = .ok next → P next)
    (hbad : ∀ state input next, I state → P state → ¬ G state input → step state input = .ok next →
      ¬ P next)
    (hstartI : I start) (hstartP : P start)
    (hrun : feed step start inputs = .ok final) :
    AlongRun step start inputs P ↔ StepsMeet step start inputs G := by
  rw [← alongRun_and_alongSteps_iff_stepsMeet (T := fun _ _ _ => True) hinv
    (fun state input next hI hP hG hnext => ⟨hgood state input next hI hP hG hnext, trivial⟩)
    (fun state input next hI hP hG hnext hboth => hbad state input next hI hP hG hnext hboth.1)
    hstartI hstartP hrun]
  exact ⟨fun h => ⟨h, fun _ _ _ _ _ _ _ => trivial⟩, And.left⟩

theorem alongSteps_iff_stepsMeet
    (hinv : ∀ state input next, I state → step state input = .ok next → I next)
    (hstep : ∀ state input next, I state → step state input = .ok next →
      (T state input next ↔ G state input))
    (hstartI : I start)
    (hrun : feed step start inputs = .ok final) :
    AlongSteps step start inputs T ↔ StepsMeet step start inputs G := by
  rw [← alongRun_and_alongSteps_iff_stepsMeet (P := fun _ => True) hinv
    (fun state input next hI _ hG hnext => ⟨trivial, (hstep state input next hI hnext).2 hG⟩)
    (fun state input next hI _ hG hnext hboth => hG ((hstep state input next hI hnext).1 hboth.2))
    hstartI trivial hrun]
  exact ⟨fun h => ⟨fun _ _ _ _ => trivial, h⟩, And.right⟩

theorem stepsMeet_and_inputs_iff {A : Input → Prop} (hrun : feed step start inputs = .ok final) :
    StepsMeet step start inputs (fun state input => G state input ∧ A input)
      ↔ StepsMeet step start inputs G ∧ ∀ input ∈ inputs, A input := by
  constructor
  · intro hmeet
    refine ⟨fun pre input hpre state hstate => (hmeet pre input hpre state hstate).1, fun input hmem => ?_⟩
    obtain ⟨pre, rest, rfl⟩ := List.append_of_mem hmem
    have hpre : pre ++ [input] <+: pre ++ input :: rest := ⟨rest, by simp⟩
    obtain ⟨state, hstate⟩ := feed_prefix ((List.prefix_append _ _).trans hpre) hrun
    exact (hmeet pre input hpre state hstate).2
  · rintro ⟨hmeet, hinputs⟩ pre input hpre state hstate
    exact ⟨hmeet pre input hpre state hstate, hinputs input (hpre.subset (by simp))⟩

theorem alongRun_iff_stepsMeet_of_inputs {A : Input → Prop}
    (hinv : ∀ state input next, A input → I state → step state input = .ok next → I next)
    (hkeeps : ∀ state input next, A input → I state → P state → step state input = .ok next →
      (P next ↔ G state input))
    (hinputs : ∀ input ∈ inputs, A input) (hstartI : I start)
    (hstartP : P start) (hrun : feed step start inputs = .ok final) :
    AlongRun step start inputs P ↔ StepsMeet step start inputs G := by
  have hkind : ∀ pre input, pre ++ [input] <+: inputs → A input := fun pre input hpre =>
    hinputs input (hpre.subset (by simp))
  have hI : AlongRun step start inputs I :=
    AlongRun.of_stepsMeet (G := fun _ => A) (fun state input next h hA hnext => hinv state input next hA h hnext)
      hstartI fun pre input hpre _ _ => hkind pre input hpre
  constructor
  · intro hP pre input hpre state hstate
    obtain ⟨next, hnext⟩ := feed_prefix hpre hrun
    obtain ⟨mid, hmid, hlast⟩ := feed_snoc_eq_ok.1 hnext
    obtain rfl : state = mid := by simpa using hstate.symm.trans hmid
    have hfirst : pre <+: inputs := (List.prefix_append _ _).trans hpre
    exact (hkeeps state input next (hkind pre input hpre) (hI pre hfirst state hstate) (hP pre hfirst state hstate)
      hlast).1 (hP _ hpre next hnext)
  · intro hmeet
    have hboth : AlongRun step start inputs fun state => I state ∧ P state :=
      AlongRun.of_stepsMeet (G := fun state input => A input ∧ G state input)
        (fun state input next h hG hnext =>
          ⟨hinv state input next hG.1 h.1 hnext, (hkeeps state input next hG.1 h.1 h.2 hnext).2 hG.2⟩)
        ⟨hstartI, hstartP⟩ fun pre input hpre state hstate => ⟨hkind pre input hpre, hmeet pre input hpre state hstate⟩
    exact fun pre hpre state hstate => (hboth pre hpre state hstate).2

theorem StepsMeet.nil : StepsMeet step start [] G := by
  intro pre input hpre
  have hlength := hpre.length_le
  rw [List.length_append, List.length_singleton, List.length_nil] at hlength
  omega

theorem StepsMeet.cons {next : State} {input : Input}
    (hfirst : G start input) (hnext : step start input = .ok next) (hrest : StepsMeet step next inputs G) :
    StepsMeet step start (input :: inputs) G := by
  intro pre last hpre state hstate
  cases pre with
  | nil =>
    obtain rfl : last = input := (List.cons_prefix_cons.1 hpre).1
    obtain rfl := Except.ok.inj hstate
    exact hfirst
  | cons first pre =>
    rw [List.cons_append, List.cons_prefix_cons] at hpre
    obtain ⟨rfl, hpre⟩ := hpre
    rw [feed_cons hnext] at hstate
    exact hrest pre last hpre state hstate

end checked_run

/-! Components that answer calls, and when two of them cannot be told apart by
    their answers. -/

namespace replies

variable {State Abstract Call Reply : Type}

/-- The replies to a sequence of calls. -/
def run (answer : State → Call → State × Reply) (state : State) : List Call → List Reply
  | [] => []
  | call :: rest => (answer state call).2 :: run answer (answer state call).1 rest

/-- A relation between the states of two components that every call keeps, and
    under which both give the same reply. -/
structure Simulates (answer : State → Call → State × Reply) (abstract : Abstract → Call → Abstract × Reply)
    (R : State → Abstract → Prop) : Prop where
  keeps : ∀ state model call, R state model → R (answer state call).1 (abstract model call).1
  agrees : ∀ state model call, R state model → (answer state call).2 = (abstract model call).2

theorem Simulates.run_eq {answer : State → Call → State × Reply} {abstract : Abstract → Call → Abstract × Reply}
    {R : State → Abstract → Prop} (h : Simulates answer abstract R) {state : State} {model : Abstract}
    (hstart : R state model) (calls : List Call) : run answer state calls = run abstract model calls := by
  induction calls generalizing state model with
  | nil => rfl
  | cons call rest ih =>
    rw [run, run, h.agrees state model call hstart, ih (h.keeps state model call hstart)]

end replies
