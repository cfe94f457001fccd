import RevitOperator.Library.JsonText
import RevitOperator.Library.Record
import RevitOperator.Library.Run

open checked

/-! The queue of provider turns: a chain of promises for each key, kept in a map by its
    last link. -/

namespace revit_operator.operator_backend

/-- What a turn is serialized by. -/
structure TurnArgs where
  nameSpace : String
  workspace : String
  sessionId : String
deriving DecidableEq

/-- `JSON.stringify([args.namespace, args.workspace, args.sessionId])` -/
def TurnArgs.key (args : TurnArgs) : String :=
  Json.stringify Json.integerText (.arr [.str args.nameSpace, .str args.workspace, .str args.sessionId])

/-- The promise of `waitForPredecessor`. -/
inductive Wait where
  | pending
  | resolved
  | rejected
deriving DecidableEq

inductive RunState where
  | notStarted
  | running
  | finished
deriving DecidableEq

/-- A call of `withSerializedProviderTurn`: `previous` is the call whose tail was found
    in the map, `released` and `settled` say whether `done` and `tail` are fulfilled. -/
structure TurnCall where
  args : TurnArgs
  previous : Option Nat
  aborted : Bool
  wait : Wait
  run : RunState
  released : Bool
  settled : Bool
  forgotten : Bool

/-- The calls in the order of their arrival, the tails under their keys, and the runs in
    the order in which they started. -/
structure TurnQueue where
  calls : List TurnCall
  tails : Record Nat
  started : List Nat

/-- What can happen next. All but the arrivals, the cancellations and the ends of runs
    are callbacks that wait to be called. -/
inductive TurnEvent where
  | arrive (args : TurnArgs) (aborted onWaitThrows : Bool)
  | abort (call : Nat)
  | predecessorSettled (call : Nat)
  | start (call : Nat)
  | finish (call : Nat)
  | release (call : Nat)
  | settle (call : Nat)
  | forget (call : Nat)
deriving DecidableEq

namespace TurnQueue

def empty : TurnQueue := ⟨[], ∅, []⟩

/-- The tail that a call waits for is fulfilled. -/
def previousSettled (s : TurnQueue) (c : TurnCall) : Bool :=
  match c.previous with
  | none => true
  | some previous => (s.calls[previous]?).any TurnCall.settled

/-- The synchronous part of a call. Where `onWait` throws, `finally` runs at once. -/
def arrive (s : TurnQueue) (args : TurnArgs) (aborted onWaitThrows : Bool) : TurnQueue :=
  let existing := s.tails.get? args.key
  let threw := existing.isSome && onWaitThrows
  { s with
    calls := s.calls ++ [{
      args, previous := existing, aborted, wait := if threw || aborted then .rejected else .pending
      run := .notStarted, released := threw, settled := false, forgotten := false }]
    tails := s.tails.set args.key s.calls.length }

def put (s : TurnQueue) (call : Nat) (c : TurnCall) : TurnQueue := { s with calls := s.calls.set call c }

/-- A call that is there. -/
def call (s : TurnQueue) (call : Nat) : Except String TurnCall :=
  match s.calls[call]? with
  | some c => .ok c
  | none => .error "no such call"

def step (s : TurnQueue) : TurnEvent → Except String TurnQueue
  | .arrive args aborted onWaitThrows => .ok (s.arrive args aborted onWaitThrows)
  | .abort i => do
    let c ← s.call i
    return s.put i { c with aborted := true, wait := if c.wait = .pending then .rejected else c.wait }
  | .predecessorSettled i => do
    let c ← s.call i
    require (c.wait = .pending ∧ s.previousSettled c = true) "the predecessor is not settled"
    return s.put i { c with wait := if c.aborted then .rejected else .resolved }
  | .start i => do
    let c ← s.call i
    require (c.wait = .resolved ∧ c.run = .notStarted) "the wait is not over"
    return { s.put i { c with run := .running } with started := s.started ++ [i] }
  | .finish i => do
    let c ← s.call i
    require (c.run = .running) "not running"
    return s.put i { c with run := .finished }
  | .release i => do
    let c ← s.call i
    require ((c.wait = .rejected ∨ c.run = .finished) ∧ c.released = false) "not at its end"
    return s.put i { c with released := true }
  | .settle i => do
    let c ← s.call i
    require (c.released = true ∧ s.previousSettled c = true ∧ c.settled = false) "the tail waits"
    return s.put i { c with settled := true }
  | .forget i => do
    let c ← s.call i
    require (c.settled = true ∧ c.forgotten = false) "the tail is not settled"
    let kept := s.put i { c with forgotten := true }
    return if s.tails.get? c.args.key = some i then { kept with tails := s.tails.delete c.args.key } else kept

end TurnQueue

/-- A call waits from its arrival until its run starts or its wait is rejected. -/
def TurnCall.Waiting (c : TurnCall) : Prop := c.run = .notStarted ∧ c.wait ≠ .rejected

def TurnCall.Running (c : TurnCall) : Prop := c.run = .running

/-- The callbacks of a call. -/
def callbacks (call : Nat) : List TurnEvent :=
  [.predecessorSettled call, .start call, .release call, .settle call, .forget call]

theorem TurnArgs.key_injective : Function.Injective TurnArgs.key := by
  intro first second h
  have hvalue := Json.stringify_inj.1 h
  cases first
  cases second
  simpa [Json.enumerated, Json.enumeratedItems] using hvalue

variable {events : List TurnEvent}

namespace TurnQueue

variable {s : TurnQueue} {i j p : Nat} {c d c' : TurnCall}

section invariants

/-- The map holds the last call of every key, and has none only where all calls of the
    key are settled. -/
structure Linked (s : TurnQueue) : Prop where
  tail : ∀ key (i : Nat), s.tails.get? key = some i → ∃ c, s.calls[i]? = some c ∧ c.args.key = key ∧ c.forgotten = false
    ∧ ∀ (j : Nat) (d : TurnCall), s.calls[j]? = some d → d.args.key = key → j ≤ i
  noTail : ∀ (i : Nat) (c : TurnCall), s.calls[i]? = some c → s.tails.get? c.args.key = none → c.settled = true

/-- Every call waits for the last earlier one of its key, and what a call has done it did
    in order. -/
structure Chained (s : TurnQueue) : Prop where
  previous : ∀ (i : Nat) (c : TurnCall) (p : Nat), s.calls[i]? = some c → c.previous = some p → p < i
    ∧ (∃ d, s.calls[p]? = some d ∧ d.args = c.args)
    ∧ ∀ (j : Nat) (d : TurnCall), s.calls[j]? = some d → d.args = c.args → j < i → j ≤ p
  first : ∀ (i : Nat) (c : TurnCall), s.calls[i]? = some c → c.previous = none →
    ∀ (j : Nat) (d : TurnCall), s.calls[j]? = some d → d.args = c.args → j < i → d.settled = true
  settled : ∀ (i : Nat) (c : TurnCall), s.calls[i]? = some c → c.settled = true → c.released = true ∧ s.previousSettled c = true
  released : ∀ (i : Nat) (c : TurnCall), s.calls[i]? = some c → c.released = true → c.wait = .rejected ∨ c.run = .finished
  notStarted : ∀ (i : Nat) (c : TurnCall), s.calls[i]? = some c → c.wait ≠ .resolved → c.run = .notStarted
  resolved : ∀ (i : Nat) (c : TurnCall), s.calls[i]? = some c → c.wait = .resolved → s.previousSettled c = true

/-- The runs of a key started in the order of the arrivals. -/
structure Ordered (s : TurnQueue) : Prop where
  started : ∀ i : Nat, i ∈ s.started ↔ ∃ c, s.calls[i]? = some c ∧ c.run ≠ .notStarted
  ordered : s.started.Pairwise fun (i j : Nat) => ∀ c d : TurnCall, s.calls[i]? = some c → s.calls[j]? = some d → c.args = d.args → i < j

theorem previousSettled_some (h : s.previousSettled c = true) (hprevious : c.previous = some p) :
    ∃ d, s.calls[p]? = some d ∧ d.settled = true := by
  rw [previousSettled, hprevious] at h
  exact (Option.any_eq_true _ _).1 h

theorem Chained.settled_before (h : Chained s) (hc : s.calls[i]? = some c) (hprevious : s.previousSettled c = true)
    (hd : s.calls[j]? = some d) (hargs : d.args = c.args) (hlt : j < i) : d.settled = true := by
  induction i using Nat.strong_induction_on generalizing c with
  | _ i ih =>
    cases hfound : c.previous with
    | none => exact h.first i c hc hfound j d hd hargs hlt
    | some p =>
      obtain ⟨hp, ⟨e, he, hsame⟩, hlast⟩ := h.previous i c p hc hfound
      obtain ⟨e', he', hsettled⟩ := previousSettled_some hprevious hfound
      obtain rfl : e = e' := Option.some.inj (he.symm.trans he')
      rcases Nat.lt_or_eq_of_le (hlast j d hd hargs hlt) with hjp | rfl
      · exact ih p hp he (h.settled p e he hsettled).2 (hargs.trans hsame.symm) hjp
      · exact Option.some.inj (hd.symm.trans he) ▸ hsettled

theorem Chained.settled_upTo (h : Chained s) (hc : s.calls[i]? = some c) (hsettled : c.settled = true)
    (hd : s.calls[j]? = some d) (hargs : d.args = c.args) (hle : j ≤ i) : d.settled = true := by
  rcases Nat.lt_or_eq_of_le hle with hlt | rfl
  · exact h.settled_before hc (h.settled i c hc hsettled).2 hd hargs hlt
  · exact Option.some.inj (hd.symm.trans hc) ▸ hsettled

theorem Chained.finished_before (h : Chained s) (hc : s.calls[i]? = some c) (hd : s.calls[j]? = some d)
    (hargs : c.args = d.args) (hlt : i < j) (hstarted : c.run ≠ .notStarted) (hresolved : d.wait = .resolved) :
    c.run = .finished := by
  have hsettled := h.settled_before hd (h.resolved j d hd hresolved) hc hargs hlt
  rcases h.released i c hc (h.settled i c hc hsettled).1 with hrejected | hfinished
  · have hnot := h.notStarted i c hc (by rw [hrejected]; exact Wait.noConfusion)
    exact absurd hnot hstarted
  · exact hfinished

end invariants

section put

theorem call_eq_ok : s.call i = .ok c ↔ s.calls[i]? = some c := by
  unfold call
  split
  · rename_i found hfound
    rw [hfound]
    exact ⟨fun h => congrArg some (Except.ok.inj h), fun h => congrArg Except.ok (Option.some.inj h)⟩
  · rename_i hnone
    rw [hnone]
    constructor <;> rintro ⟨⟩

theorem put_get (hc : s.calls[i]? = some c) :
    (s.put i c').calls[j]? = some d ↔ (j = i ∧ d = c') ∨ (j ≠ i ∧ s.calls[j]? = some d) := by
  have hlt : i < s.calls.length := (List.getElem?_eq_some_iff.1 hc).1
  rw [put, List.getElem?_set]
  by_cases hij : i = j
  · subst hij
    simp [hlt, eq_comm]
  · simp [hij, Ne.symm hij]

/-- What one event does to the call it is about. -/
structure Moves (s : TurnQueue) (c c' : TurnCall) : Prop where
  args : c'.args = c.args
  previous : c'.previous = c.previous
  settled : c.settled = true → c'.settled = true
  own_settled : c'.settled = true → c'.released = true ∧ s.previousSettled c = true
  own_released : c'.released = true → c'.wait = .rejected ∨ c'.run = .finished
  own_notStarted : c'.wait ≠ .resolved → c'.run = .notStarted
  own_resolved : c'.wait = .resolved → s.previousSettled c = true

theorem Moves.after (h : Moves s c c') (hc : s.calls[i]? = some c) (hd : s.calls[j]? = some d) :
    ∃ d', (s.put i c').calls[j]? = some d' ∧ d'.args = d.args ∧ (d.settled = true → d'.settled = true) := by
  by_cases hji : j = i
  · subst hji
    obtain rfl : c = d := Option.some.inj (hc.symm.trans hd)
    exact ⟨c', (put_get hc).2 (.inl ⟨rfl, rfl⟩), h.args, h.settled⟩
  · exact ⟨d, (put_get hc).2 (.inr ⟨hji, hd⟩), rfl, id⟩

theorem Moves.before (h : Moves s c c') (hc : s.calls[i]? = some c) (hd : (s.put i c').calls[j]? = some d) :
    ∃ e, s.calls[j]? = some e ∧ e.args = d.args ∧ e.previous = d.previous ∧ (e.settled = true → d.settled = true) := by
  rcases (put_get hc).1 hd with ⟨rfl, rfl⟩ | ⟨_, hd⟩
  · exact ⟨c, hc, h.args.symm, h.previous.symm, h.settled⟩
  · exact ⟨d, hd, rfl, rfl, id⟩

theorem Moves.previousSettled (h : Moves s c c') (hc : s.calls[i]? = some c) {e : TurnCall} (hprevious : e.previous = d.previous)
    (hsettled : s.previousSettled e = true) : (s.put i c').previousSettled d = true := by
  cases hfound : d.previous with
  | none => rw [TurnQueue.previousSettled, hfound]
  | some p =>
    obtain ⟨before, hbefore, hdone⟩ := previousSettled_some hsettled (hprevious.trans hfound)
    obtain ⟨after, hafter, _, hkept⟩ := h.after hc hbefore
    rw [TurnQueue.previousSettled, hfound]
    exact (Option.any_eq_true _ _).2 ⟨after, hafter, hkept hdone⟩

theorem Chained.put (h : Chained s) (hc : s.calls[i]? = some c) (hmoves : Moves s c c') : Chained (s.put i c') where
  previous j d p hd hp := by
    obtain ⟨e, he, hargs, hprevious, _⟩ := hmoves.before hc hd
    obtain ⟨hlt, ⟨f, hf, hsame⟩, hlast⟩ := h.previous j e p he (hprevious.trans hp)
    obtain ⟨f', hf', hfargs, _⟩ := hmoves.after hc hf
    refine ⟨hlt, ⟨f', hf', hfargs.trans (hsame.trans hargs)⟩, fun k g hg hgargs hk => ?_⟩
    obtain ⟨g', hg', hgargs', _⟩ := hmoves.before hc hg
    exact hlast k g' hg' (hgargs'.trans (hgargs.trans hargs.symm)) hk
  first j d hd hnone k g hg hgargs hk := by
    obtain ⟨e, he, hargs, hprevious, _⟩ := hmoves.before hc hd
    obtain ⟨g', hg', hgargs', _, hkept⟩ := hmoves.before hc hg
    exact hkept (h.first j e he (hprevious.trans hnone) k g' hg' (hgargs'.trans (hgargs.trans hargs.symm)) hk)
  settled j d hd hsettled := by
    rcases (put_get hc).1 hd with ⟨rfl, rfl⟩ | ⟨_, hd⟩
    · obtain ⟨hreleased, hprevious⟩ := hmoves.own_settled hsettled
      exact ⟨hreleased, hmoves.previousSettled hc hmoves.previous.symm hprevious⟩
    · obtain ⟨hreleased, hprevious⟩ := h.settled j d hd hsettled
      exact ⟨hreleased, hmoves.previousSettled hc rfl hprevious⟩
  released j d hd hreleased := by
    rcases (put_get hc).1 hd with ⟨rfl, rfl⟩ | ⟨_, hd⟩
    · exact hmoves.own_released hreleased
    · exact h.released j d hd hreleased
  notStarted j d hd hwait := by
    rcases (put_get hc).1 hd with ⟨rfl, rfl⟩ | ⟨_, hd⟩
    · exact hmoves.own_notStarted hwait
    · exact h.notStarted j d hd hwait
  resolved j d hd hwait := by
    rcases (put_get hc).1 hd with ⟨rfl, rfl⟩ | ⟨_, hd⟩
    · exact hmoves.previousSettled hc hmoves.previous.symm (hmoves.own_resolved hwait)
    · exact hmoves.previousSettled hc rfl (h.resolved j d hd hwait)

theorem Linked.put (h : Linked s) (hc : s.calls[i]? = some c) (hmoves : Moves s c c') (hforgotten : c'.forgotten = c.forgotten) :
    Linked (s.put i c') where
  tail key k hk := by
    obtain ⟨e, he, hkey, hkept, hlast⟩ := h.tail key k hk
    have hlater : ∀ j d, (s.put i c').calls[j]? = some d → d.args.key = key → j ≤ k := by
      intro j d hd hdkey
      obtain ⟨d', hd', hargs, _⟩ := hmoves.before hc hd
      exact hlast j d' hd' (hargs ▸ hdkey)
    by_cases hki : k = i
    · subst hki
      obtain rfl : c = e := Option.some.inj (hc.symm.trans he)
      exact ⟨c', (put_get hc).2 (.inl ⟨rfl, rfl⟩), by rw [hmoves.args, hkey], hforgotten.trans hkept, hlater⟩
    · exact ⟨e, (put_get hc).2 (.inr ⟨hki, he⟩), hkey, hkept, hlater⟩
  noTail j d hd hnone := by
    obtain ⟨e, he, hargs, _, hkept⟩ := hmoves.before hc hd
    exact hkept (h.noTail j e he (by rw [hargs]; exact hnone))

theorem Ordered.put (h : Ordered s) (hc : s.calls[i]? = some c) (hargs : c'.args = c.args)
    (hrun : c'.run ≠ .notStarted ↔ c.run ≠ .notStarted) : Ordered (s.put i c') where
  started j := by
    refine (h.started j).trans ⟨?_, ?_⟩
    · rintro ⟨d, hd, hstarted⟩
      by_cases hji : j = i
      · subst hji
        obtain rfl : c = d := Option.some.inj (hc.symm.trans hd)
        exact ⟨c', (put_get hc).2 (.inl ⟨rfl, rfl⟩), hrun.2 hstarted⟩
      · exact ⟨d, (put_get hc).2 (.inr ⟨hji, hd⟩), hstarted⟩
    · rintro ⟨d, hd, hstarted⟩
      rcases (put_get hc).1 hd with ⟨rfl, rfl⟩ | ⟨_, hd⟩
      · exact ⟨c, hc, hrun.1 hstarted⟩
      · exact ⟨d, hd, hstarted⟩
  ordered := by
    refine h.ordered.imp fun hlt d e hd he hsame => ?_
    have hold : ∀ {k : Nat} {f : TurnCall}, (s.put i c').calls[k]? = some f → ∃ g, s.calls[k]? = some g ∧ g.args = f.args := by
      intro k f hf
      rcases (put_get hc).1 hf with ⟨rfl, rfl⟩ | ⟨_, hf⟩
      · exact ⟨c, hc, hargs.symm⟩
      · exact ⟨f, hf, rfl⟩
    obtain ⟨d', hd', hdargs⟩ := hold hd
    obtain ⟨e', he', heargs⟩ := hold he
    exact hlt d' e' hd' he' (hdargs.trans (hsame.trans heargs.symm))

end put

section events

/-- What holds of the queue whatever happens. -/
structure Sound (s : TurnQueue) : Prop extends Linked s, Chained s, Ordered s

theorem sound_empty : empty.Sound where
  tail _ _ h := by cases h
  noTail _ _ h := by cases h
  previous _ _ _ h := by cases h
  first _ _ h := by cases h
  settled _ _ h := by cases h
  released _ _ h := by cases h
  notStarted _ _ h := by cases h
  resolved _ _ h := by cases h
  started i := by
    constructor
    · intro h
      cases h
    · rintro ⟨_, h, _⟩
      cases h
  ordered := .nil

theorem Sound.put (h : Sound s) (hc : s.calls[i]? = some c) (hmoves : Moves s c c') (hforgotten : c'.forgotten = c.forgotten)
    (hrun : c'.run ≠ .notStarted ↔ c.run ≠ .notStarted) : Sound (s.put i c') where
  toLinked := h.toLinked.put hc hmoves hforgotten
  toChained := h.toChained.put hc hmoves
  toOrdered := h.toOrdered.put hc hmoves.args hrun

theorem Sound.moves (h : Sound s) (hc : s.calls[i]? = some c) : Moves s c c where
  args := rfl
  previous := rfl
  settled := id
  own_settled := h.settled i c hc
  own_released := h.released i c hc
  own_notStarted := h.notStarted i c hc
  own_resolved := h.resolved i c hc

theorem Sound.abort (h : Sound s) (hc : s.calls[i]? = some c) :
    Sound (s.put i { c with aborted := true, wait := if c.wait = .pending then .rejected else c.wait }) := by
  have hmoves := h.moves hc
  refine h.put hc { hmoves with
    own_released := fun hreleased => ?_
    own_notStarted := fun hwait => ?_
    own_resolved := fun hwait => ?_ } rfl Iff.rfl
  · by_cases hpending : c.wait = .pending
    · exact .inl (if_pos hpending)
    · exact (hmoves.own_released hreleased).imp (fun hrejected => (if_neg hpending).trans hrejected) id
  · refine hmoves.own_notStarted fun hresolved => hwait ?_
    simp [hresolved]
  · refine hmoves.own_resolved ?_
    by_cases hpending : c.wait = .pending
    · simp [hpending] at hwait
    · simpa [hpending] using hwait

theorem Sound.predecessorSettled (h : Sound s) (hc : s.calls[i]? = some c) (hpending : c.wait = .pending)
    (hprevious : s.previousSettled c = true) :
    Sound (s.put i { c with wait := if c.aborted then .rejected else .resolved }) := by
  have hmoves := h.moves hc
  have hnot : c.run = .notStarted := hmoves.own_notStarted (by rw [hpending]; exact Wait.noConfusion)
  refine h.put hc { hmoves with
    own_released := fun hreleased => ?_
    own_notStarted := fun _ => hnot
    own_resolved := fun _ => hprevious } rfl Iff.rfl
  rcases hmoves.own_released hreleased with hrejected | hfinished
  · rw [hpending] at hrejected
    cases hrejected
  · rw [hnot] at hfinished
    cases hfinished

theorem Sound.finish (h : Sound s) (hc : s.calls[i]? = some c) (hrunning : c.run = .running) :
    Sound (s.put i { c with run := .finished }) := by
  have hmoves := h.moves hc
  refine h.put hc { hmoves with own_released := fun _ => .inr rfl, own_notStarted := fun hwait => ?_ } rfl ?_
  · have hnot := hmoves.own_notStarted hwait
    rw [hrunning] at hnot
    cases hnot
  · rw [hrunning]
    exact ⟨fun _ => RunState.noConfusion, fun _ => RunState.noConfusion⟩

theorem Sound.release (h : Sound s) (hc : s.calls[i]? = some c) (hend : c.wait = .rejected ∨ c.run = .finished) :
    Sound (s.put i { c with released := true }) := by
  have hmoves := h.moves hc
  exact h.put hc { hmoves with
    own_settled := fun hsettled => ⟨rfl, (hmoves.own_settled hsettled).2⟩
    own_released := fun _ => hend } rfl Iff.rfl

theorem Sound.settle (h : Sound s) (hc : s.calls[i]? = some c) (hreleased : c.released = true)
    (hprevious : s.previousSettled c = true) : Sound (s.put i { c with settled := true }) :=
  h.put hc { h.moves hc with settled := fun _ => rfl, own_settled := fun _ => ⟨hreleased, hprevious⟩ } rfl Iff.rfl

theorem Sound.start (h : Sound s) (hc : s.calls[i]? = some c) (hresolved : c.wait = .resolved) (hnot : c.run = .notStarted) :
    Sound { s.put i { c with run := .running } with started := s.started ++ [i] } := by
  have hown := h.moves hc
  have hmoves : Moves s c { c with run := .running } := { hown with
    own_released := fun hreleased => by
      rcases hown.own_released hreleased with hrejected | hfinished
      · exact .inl hrejected
      · rw [hnot] at hfinished
        cases hfinished
    own_notStarted := fun hwait => absurd hresolved hwait }
  have hbehind : ∀ j ∈ s.started, ∀ d, s.calls[j]? = some d → d.args = c.args → j < i := by
    intro j hj d hd hargs
    obtain ⟨d', hd', hstarted⟩ := (h.started j).1 hj
    obtain rfl : d = d' := Option.some.inj (hd.symm.trans hd')
    rcases Nat.lt_trichotomy j i with hlt | rfl | hlt
    · exact hlt
    · obtain rfl : c = d := Option.some.inj (hc.symm.trans hd)
      exact absurd hnot hstarted
    · have hwait : d.wait = .resolved := by
        by_contra hwait
        exact hstarted (h.notStarted j d hd hwait)
      have hsettled := h.settled_before hd (h.resolved j d hd hwait) hc hargs.symm hlt
      rcases hown.own_released (h.settled i c hc hsettled).1 with hrejected | hfinished
      · rw [hresolved] at hrejected
        cases hrejected
      · rw [hnot] at hfinished
        cases hfinished
  have hlinked := h.toLinked.put hc hmoves rfl
  have hchained := h.toChained.put hc hmoves
  refine { tail := hlinked.tail, noTail := hlinked.noTail, previous := hchained.previous, first := hchained.first
           settled := hchained.settled, released := hchained.released, notStarted := hchained.notStarted
           resolved := hchained.resolved, started := fun j => ?_, ordered := ?_ }
  · rw [List.mem_append, List.mem_singleton, h.started]
    constructor
    · rintro (⟨d, hd, hstarted⟩ | rfl)
      · by_cases hji : j = i
        · subst hji
          exact ⟨_, (put_get hc).2 (.inl ⟨rfl, rfl⟩), RunState.noConfusion⟩
        · exact ⟨d, (put_get hc).2 (.inr ⟨hji, hd⟩), hstarted⟩
      · exact ⟨_, (put_get hc).2 (.inl ⟨rfl, rfl⟩), RunState.noConfusion⟩
    · rintro ⟨d, hd, hstarted⟩
      rcases (put_get hc).1 hd with ⟨rfl, _⟩ | ⟨_, hd⟩
      · exact .inr rfl
      · exact .inl ⟨d, hd, hstarted⟩
  · refine List.pairwise_append.2 ⟨?_, List.pairwise_singleton _ _, fun j hj k hk => ?_⟩
    · refine h.ordered.imp fun hlt d e hd he hsame => ?_
      obtain ⟨d', hd', hdargs, _⟩ := hmoves.before hc hd
      obtain ⟨e', he', heargs, _⟩ := hmoves.before hc he
      exact hlt d' e' hd' he' (hdargs.trans (hsame.trans heargs.symm))
    · obtain rfl := List.mem_singleton.1 hk
      intro d e hd he hsame
      obtain ⟨d', hd', hdargs, _⟩ := hmoves.before hc hd
      obtain ⟨e', he', heargs, _⟩ := hmoves.before hc he
      obtain rfl : c = e' := Option.some.inj (hc.symm.trans he')
      exact hbehind j hj d' hd' (hdargs.trans (hsame.trans heargs.symm))

theorem Sound.forget (h : Sound s) (hc : s.calls[i]? = some c) (hsettled : c.settled = true) :
    Sound (if s.tails.get? c.args.key = some i then
        { s.put i { c with forgotten := true } with tails := s.tails.delete c.args.key }
      else s.put i { c with forgotten := true }) := by
  have hown := h.moves hc
  have hmoves : Moves s c { c with forgotten := true } := { hown with }
  have hchained := h.toChained.put hc hmoves
  have hordered : Ordered (s.put i { c with forgotten := true }) := h.toOrdered.put hc rfl Iff.rfl
  split_ifs with htail
  · refine { previous := hchained.previous, first := hchained.first, settled := hchained.settled
             released := hchained.released, notStarted := hchained.notStarted, resolved := hchained.resolved
             started := hordered.started, ordered := hordered.ordered, tail := fun key k hk => ?_
             noTail := fun j d hd hnone => ?_ }
    · change (s.tails.delete c.args.key).get? key = some k at hk
      rw [Record.get?_delete] at hk
      split_ifs at hk with hkey
      obtain ⟨e, he, hekey, hkept, hlast⟩ := h.tail key k hk
      refine ⟨e, (put_get hc).2 (.inr ⟨?_, he⟩), hekey, hkept, fun j d hd hdkey => ?_⟩
      · rintro rfl
        obtain rfl : c = e := Option.some.inj (hc.symm.trans he)
        exact hkey hekey.symm
      · obtain ⟨d', hd', hargs, _⟩ := hmoves.before hc hd
        exact hlast j d' hd' (hargs ▸ hdkey)
    · obtain ⟨d', hd', hargs, _, hkept⟩ := hmoves.before hc hd
      change (s.tails.delete c.args.key).get? d.args.key = none at hnone
      rw [Record.get?_delete] at hnone
      split_ifs at hnone with hkey
      · obtain ⟨_, _, _, _, hlast⟩ := h.tail _ i htail
        have hsame : d'.args = c.args := TurnArgs.key_injective (by rw [hargs]; exact hkey)
        exact hkept (h.settled_upTo hc hsettled hd' hsame (hlast j d' hd' (congrArg TurnArgs.key hsame)))
      · exact hkept (h.noTail j d' hd' (by rw [hargs]; exact hnone))
  · refine { previous := hchained.previous, first := hchained.first, settled := hchained.settled
             released := hchained.released, notStarted := hchained.notStarted, resolved := hchained.resolved
             started := hordered.started, ordered := hordered.ordered, tail := fun key k hk => ?_
             noTail := fun j d hd hnone => ?_ }
    · obtain ⟨e, he, hekey, hkept, hlast⟩ := h.tail key k hk
      refine ⟨e, (put_get hc).2 (.inr ⟨?_, he⟩), hekey, hkept, fun j d hd hdkey => ?_⟩
      · rintro rfl
        obtain rfl : c = e := Option.some.inj (hc.symm.trans he)
        exact htail (hekey ▸ hk)
      · obtain ⟨d', hd', hargs, _⟩ := hmoves.before hc hd
        exact hlast j d' hd' (hargs ▸ hdkey)
    · obtain ⟨d', hd', hargs, _, hkept⟩ := hmoves.before hc hd
      exact hkept (h.noTail j d' hd' (by rw [hargs]; exact hnone))

end events

section arrivals

variable {args : TurnArgs} {aborted onWaitThrows : Bool}

theorem arrive_get : (s.arrive args aborted onWaitThrows).calls[j]? = some d ↔
    s.calls[j]? = some d ∨ (j = s.calls.length ∧ d = {
      args, previous := s.tails.get? args.key, aborted
      wait := if (s.tails.get? args.key).isSome && onWaitThrows || aborted then .rejected else .pending
      run := .notStarted, released := (s.tails.get? args.key).isSome && onWaitThrows, settled := false
      forgotten := false }) := by
  rw [arrive]
  by_cases hlt : j < s.calls.length
  · rw [List.getElem?_append_left hlt]
    refine ⟨.inl, fun h => h.elim id fun ⟨hj, _⟩ => ?_⟩
    omega
  · have hle := Nat.le_of_not_lt hlt
    rw [List.getElem?_append_right hle, List.getElem?_eq_none hle]
    rcases Nat.eq_or_lt_of_le hle with hj | hj
    · subst hj
      rw [Nat.sub_self, List.getElem?_cons_zero]
      constructor
      · exact fun h => .inr ⟨rfl, (Option.some.inj h).symm⟩
      · rintro (h | ⟨_, rfl⟩)
        · cases h
        · rfl
    · have hbeyond : j - s.calls.length ≠ 0 := by omega
      have hne : j ≠ s.calls.length := by omega
      simp [hbeyond, hne]

theorem lt_of_call (h : s.calls[j]? = some d) : j < s.calls.length :=
  (List.getElem?_eq_some_iff.1 h).1

theorem arrive_previousSettled {e : TurnCall} (h : s.previousSettled e = true) :
    (s.arrive args aborted onWaitThrows).previousSettled e = true := by
  cases hfound : e.previous with
  | none => rw [previousSettled, hfound]
  | some p =>
    obtain ⟨d, hd, hsettled⟩ := previousSettled_some h hfound
    rw [previousSettled, hfound]
    exact (Option.any_eq_true _ _).2 ⟨d, arrive_get.2 (.inl hd), hsettled⟩

theorem Linked.arrive (h : Linked s) : Linked (s.arrive args aborted onWaitThrows) where
  tail key k hk := by
    change (s.tails.set args.key s.calls.length).get? key = some k at hk
    rw [Record.get?_set] at hk
    split_ifs at hk with hkey
    · obtain rfl := Option.some.inj hk
      refine ⟨_, arrive_get.2 (.inr ⟨rfl, rfl⟩), hkey.symm, rfl, fun j d hd _ => ?_⟩
      rcases arrive_get.1 hd with hd | ⟨hj, _⟩
      · exact (lt_of_call hd).le
      · exact hj.le
    · obtain ⟨c, hc, hckey, hkept, hlast⟩ := h.tail key k hk
      refine ⟨c, arrive_get.2 (.inl hc), hckey, hkept, fun j d hd hdkey => ?_⟩
      rcases arrive_get.1 hd with hd | ⟨_, rfl⟩
      · exact hlast j d hd hdkey
      · exact absurd hdkey.symm hkey
  noTail j d hd hnone := by
    change (s.tails.set args.key s.calls.length).get? d.args.key = none at hnone
    rw [Record.get?_set] at hnone
    split_ifs at hnone with hkey
    rcases arrive_get.1 hd with hd | ⟨_, rfl⟩
    · exact h.noTail j d hd hnone
    · exact absurd rfl hkey

theorem Chained.arrive (h : Chained s) (hlinked : Linked s) : Chained (s.arrive args aborted onWaitThrows) where
  previous j d p hd hp := by
    rcases arrive_get.1 hd with hd | ⟨rfl, rfl⟩
    · obtain ⟨hlt, ⟨e, he, hsame⟩, hlast⟩ := h.previous j d p hd hp
      refine ⟨hlt, ⟨e, arrive_get.2 (.inl he), hsame⟩, fun k f hf hargs hk => ?_⟩
      rcases arrive_get.1 hf with hf | ⟨rfl, _⟩
      · exact hlast k f hf hargs hk
      · have hj := lt_of_call hd
        omega
    · obtain ⟨e, he, hkey, _, hlast⟩ := hlinked.tail args.key p hp
      refine ⟨lt_of_call he, ⟨e, arrive_get.2 (.inl he), TurnArgs.key_injective hkey⟩, fun k f hf hargs hk => ?_⟩
      rcases arrive_get.1 hf with hf | ⟨rfl, _⟩
      · exact hlast k f hf (congrArg TurnArgs.key hargs)
      · omega
  first j d hd hnone k f hf hargs hk := by
    rcases arrive_get.1 hf with hf | ⟨rfl, _⟩
    · rcases arrive_get.1 hd with hd | ⟨rfl, rfl⟩
      · exact h.first j d hd hnone k f hf hargs hk
      · refine hlinked.noTail k f hf ?_
        rw [hargs]
        exact hnone
    · rcases arrive_get.1 hd with hd | ⟨rfl, _⟩
      · have hj := lt_of_call hd
        omega
      · omega
  settled j d hd hsettled := by
    rcases arrive_get.1 hd with hd | ⟨_, rfl⟩
    · exact (h.settled j d hd hsettled).imp id arrive_previousSettled
    · cases hsettled
  released j d hd hreleased := by
    rcases arrive_get.1 hd with hd | ⟨_, rfl⟩
    · exact h.released j d hd hreleased
    · have hthrew : ((s.tails.get? args.key).isSome && onWaitThrows) = true := hreleased
      exact .inl (by simp [hthrew])
  notStarted j d hd hwait := by
    rcases arrive_get.1 hd with hd | ⟨_, rfl⟩
    · exact h.notStarted j d hd hwait
    · rfl
  resolved j d hd hwait := by
    rcases arrive_get.1 hd with hd | ⟨_, rfl⟩
    · exact arrive_previousSettled (h.resolved j d hd hwait)
    · simp only at hwait
      split_ifs at hwait

theorem Ordered.arrive (h : Ordered s) : Ordered (s.arrive args aborted onWaitThrows) where
  started j := by
    refine (h.started j).trans ⟨fun ⟨d, hd, hrun⟩ => ⟨d, arrive_get.2 (.inl hd), hrun⟩, ?_⟩
    rintro ⟨d, hd, hrun⟩
    rcases arrive_get.1 hd with hd | ⟨_, rfl⟩
    · exact ⟨d, hd, hrun⟩
    · exact absurd rfl hrun
  ordered := by
    have hthere : ∀ j ∈ s.started, ∀ d, (s.arrive args aborted onWaitThrows).calls[j]? = some d → s.calls[j]? = some d := by
      intro j hj d hd
      rcases arrive_get.1 hd with hd | ⟨rfl, _⟩
      · exact hd
      · obtain ⟨e, he, _⟩ := (h.started _).1 hj
        exact absurd (lt_of_call he) (Nat.lt_irrefl _)
    refine List.Pairwise.imp_of_mem (fun {j k} hj hk hlt d e hd he hsame => ?_) h.ordered
    exact hlt d e (hthere j hj d hd) (hthere k hk e he) hsame

theorem Sound.arrive (h : Sound s) : Sound (s.arrive args aborted onWaitThrows) where
  toLinked := h.toLinked.arrive
  toChained := h.toChained.arrive h.toLinked
  toOrdered := h.toOrdered.arrive

end arrivals

section runs

variable {s' : TurnQueue}

theorem step_sound (event : TurnEvent) (h : Sound s) (hstep : step s event = .ok s') : Sound s' := by
  cases event with
  | arrive args aborted onWaitThrows =>
    obtain rfl := Except.ok.inj hstep
    exact h.arrive
  | abort i =>
    simp only [step, bind_eq_ok, call_eq_ok, pure_eq_ok] at hstep
    obtain ⟨c, hc, rfl⟩ := hstep
    exact h.abort hc
  | predecessorSettled i =>
    simp only [step, bind_eq_ok, call_eq_ok, require_eq_ok, pure_eq_ok, exists_const] at hstep
    obtain ⟨c, hc, ⟨hpending, hprevious⟩, rfl⟩ := hstep
    exact h.predecessorSettled hc hpending hprevious
  | start i =>
    simp only [step, bind_eq_ok, call_eq_ok, require_eq_ok, pure_eq_ok, exists_const] at hstep
    obtain ⟨c, hc, ⟨hresolved, hnot⟩, rfl⟩ := hstep
    exact h.start hc hresolved hnot
  | finish i =>
    simp only [step, bind_eq_ok, call_eq_ok, require_eq_ok, pure_eq_ok, exists_const] at hstep
    obtain ⟨c, hc, hrunning, rfl⟩ := hstep
    exact h.finish hc hrunning
  | release i =>
    simp only [step, bind_eq_ok, call_eq_ok, require_eq_ok, pure_eq_ok, exists_const] at hstep
    obtain ⟨c, hc, ⟨hend, _⟩, rfl⟩ := hstep
    exact h.release hc hend
  | settle i =>
    simp only [step, bind_eq_ok, call_eq_ok, require_eq_ok, pure_eq_ok, exists_const] at hstep
    obtain ⟨c, hc, ⟨hreleased, hprevious, _⟩, rfl⟩ := hstep
    exact h.settle hc hreleased hprevious
  | forget i =>
    simp only [step, bind_eq_ok, call_eq_ok, require_eq_ok, pure_eq_ok, exists_const] at hstep
    obtain ⟨c, hc, ⟨hsettled, _⟩, rfl⟩ := hstep
    exact h.forget hc hsettled

theorem feed_sound (hrun : checked_run.feed step empty events = .ok s) : Sound s :=
  checked_run.feed_invariant (fun _ event _ h hstep => step_sound event h hstep) sound_empty hrun

theorem put_length : (s.put i c').calls.length = s.calls.length :=
  List.length_set

theorem step_rejected {event : TurnEvent} (hc : s.calls[i]? = some c) (hrejected : c.wait = .rejected)
    (hstep : step s event = .ok s') : ∃ d, s'.calls[i]? = some d ∧ d.wait = .rejected := by
  have hput : ∀ {j : Nat} {d d' : TurnCall}, s.calls[j]? = some d → (d.wait = .rejected → d'.wait = .rejected) →
      ∃ e, (s.put j d').calls[i]? = some e ∧ e.wait = .rejected := by
    intro j d d' hd hkept
    by_cases hij : i = j
    · subst hij
      obtain rfl : c = d := Option.some.inj (hc.symm.trans hd)
      exact ⟨d', (put_get hd).2 (.inl ⟨rfl, rfl⟩), hkept hrejected⟩
    · exact ⟨c, (put_get hd).2 (.inr ⟨hij, hc⟩), hrejected⟩
  cases event with
  | arrive args aborted onWaitThrows =>
    obtain rfl := Except.ok.inj hstep
    exact ⟨c, arrive_get.2 (.inl hc), hrejected⟩
  | abort j =>
    simp only [step, bind_eq_ok, call_eq_ok, pure_eq_ok] at hstep
    obtain ⟨d, hd, rfl⟩ := hstep
    exact hput hd fun hkept => by simp [hkept]
  | predecessorSettled j =>
    simp only [step, bind_eq_ok, call_eq_ok, require_eq_ok, pure_eq_ok, exists_const] at hstep
    obtain ⟨d, hd, ⟨hpending, _⟩, rfl⟩ := hstep
    refine hput hd fun hkept => ?_
    rw [hpending] at hkept
    cases hkept
  | start j =>
    simp only [step, bind_eq_ok, call_eq_ok, require_eq_ok, pure_eq_ok, exists_const] at hstep
    obtain ⟨d, hd, _, rfl⟩ := hstep
    exact hput hd id
  | finish j =>
    simp only [step, bind_eq_ok, call_eq_ok, require_eq_ok, pure_eq_ok, exists_const] at hstep
    obtain ⟨d, hd, _, rfl⟩ := hstep
    exact hput hd id
  | release j =>
    simp only [step, bind_eq_ok, call_eq_ok, require_eq_ok, pure_eq_ok, exists_const] at hstep
    obtain ⟨d, hd, _, rfl⟩ := hstep
    exact hput hd id
  | settle j =>
    simp only [step, bind_eq_ok, call_eq_ok, require_eq_ok, pure_eq_ok, exists_const] at hstep
    obtain ⟨d, hd, _, rfl⟩ := hstep
    exact hput hd id
  | forget j =>
    simp only [step, bind_eq_ok, call_eq_ok, require_eq_ok, pure_eq_ok, exists_const] at hstep
    obtain ⟨d, hd, _, rfl⟩ := hstep
    split_ifs
    · exact hput hd id
    · exact hput hd id

theorem feed_rejected (hc : s.calls[i]? = some c) (hrejected : c.wait = .rejected)
    (hrun : checked_run.feed step s events = .ok s') : ∃ d, s'.calls[i]? = some d ∧ d.wait = .rejected :=
  checked_run.feed_invariant (I := fun s => ∃ d, s.calls[i]? = some d ∧ d.wait = .rejected)
    (fun _ _ _ ⟨_, hd, hwait⟩ hstep => step_rejected hd hwait hstep) ⟨c, hc, hrejected⟩ hrun

/-- The call was cancelled when it arrived, or before its wait was over. -/
def Cancelled (events : List TurnEvent) (i : Nat) : Prop :=
  ∃ before event after s, events = before ++ event :: after ∧ checked_run.feed step empty before = .ok s
    ∧ ((∃ args onWaitThrows, event = .arrive args true onWaitThrows ∧ i = s.calls.length)
      ∨ (event = .abort i ∧ ∃ c, s.calls[i]? = some c ∧ c.wait = .pending))

theorem rejected_of_cancelled (h : Cancelled events i)
    (hrun : checked_run.feed step empty events = .ok s) : ∃ d, s.calls[i]? = some d ∧ d.wait = .rejected := by
  obtain ⟨before, event, after, mid, rfl, hmid, hevent⟩ := h
  rw [checked_run.feed_append, hmid, ← List.singleton_append, ok_bind, checked_run.feed_append, bind_eq_ok] at hrun
  obtain ⟨next, hnext, hrest⟩ := hrun
  rw [checked_run.feed_singleton] at hnext
  have hrejected : ∃ d, next.calls[i]? = some d ∧ d.wait = .rejected := by
    rcases hevent with ⟨args, onWaitThrows, rfl, rfl⟩ | ⟨rfl, c, hc, hpending⟩
    · obtain rfl := Except.ok.inj hnext
      exact ⟨_, arrive_get.2 (.inr ⟨rfl, rfl⟩), by simp⟩
    · simp only [step, bind_eq_ok, call_eq_ok, pure_eq_ok] at hnext
      obtain ⟨d, hd, rfl⟩ := hnext
      obtain rfl : c = d := Option.some.inj (hc.symm.trans hd)
      exact ⟨_, (put_get hc).2 (.inl ⟨rfl, rfl⟩), by simp [hpending]⟩
  obtain ⟨d, hd, hwait⟩ := hrejected
  exact feed_rejected hd hwait hrest

end runs

section callbacks

variable {s' : TurnQueue}

/-- The callbacks a call can still have. -/
def callbacksLeft (c : TurnCall) : Nat :=
  (if c.wait = .pending then 1 else 0) + (if c.run = .notStarted then 1 else 0) + (if c.released then 0 else 1)
    + (if c.settled then 0 else 1) + if c.forgotten then 0 else 1

def left (s : TurnQueue) : Nat := (s.calls.map callbacksLeft).sum

theorem sum_set {calls : List TurnCall} (hc : calls[i]? = some c) :
    ((calls.set i c').map callbacksLeft).sum + callbacksLeft c = (calls.map callbacksLeft).sum + callbacksLeft c' := by
  induction calls generalizing i with
  | nil => cases hc
  | cons first calls ih =>
    cases i with
    | zero =>
      obtain rfl := Option.some.inj hc
      simp only [List.set_cons_zero, List.map_cons, List.sum_cons]
      omega
    | succ i =>
      have hrest := ih (i := i) hc
      simp only [List.set_cons_succ, List.map_cons, List.sum_cons]
      omega

theorem callback_left {event : TurnEvent} (hevent : ∃ i, event ∈ callbacks i) (hstep : step s event = .ok s') :
    s'.left < s.left ∧ s'.calls.length = s.calls.length := by
  have hput : ∀ {j : Nat} {d d' : TurnCall}, s.calls[j]? = some d → callbacksLeft d' < callbacksLeft d →
      (s.put j d').left < s.left := by
    intro j d d' hd hless
    have hsum : (s.put j d').left + callbacksLeft d = s.left + callbacksLeft d' := sum_set hd
    omega
  obtain ⟨i, hi⟩ := hevent
  simp only [callbacks, List.mem_cons, List.not_mem_nil, or_false] at hi
  rcases hi with rfl | rfl | rfl | rfl | rfl
  · simp only [step, bind_eq_ok, call_eq_ok, require_eq_ok, pure_eq_ok, exists_const] at hstep
    obtain ⟨c, hc, ⟨hpending, _⟩, rfl⟩ := hstep
    refine ⟨hput hc ?_, put_length⟩
    have hnot : (if c.aborted = true then Wait.rejected else .resolved) ≠ .pending := by split_ifs <;> exact Wait.noConfusion
    simp only [callbacksLeft, hpending, hnot, if_true, if_false]
    omega
  · simp only [step, bind_eq_ok, call_eq_ok, require_eq_ok, pure_eq_ok, exists_const] at hstep
    obtain ⟨c, hc, ⟨_, hnot⟩, rfl⟩ := hstep
    refine ⟨hput hc ?_, put_length⟩
    simp only [callbacksLeft, hnot, if_true, reduceCtorEq, if_false]
    omega
  · simp only [step, bind_eq_ok, call_eq_ok, require_eq_ok, pure_eq_ok, exists_const] at hstep
    obtain ⟨c, hc, ⟨_, hreleased⟩, rfl⟩ := hstep
    refine ⟨hput hc ?_, put_length⟩
    simp only [callbacksLeft, hreleased, if_true, Bool.false_eq_true, if_false]
    omega
  · simp only [step, bind_eq_ok, call_eq_ok, require_eq_ok, pure_eq_ok, exists_const] at hstep
    obtain ⟨c, hc, ⟨_, _, hsettled⟩, rfl⟩ := hstep
    refine ⟨hput hc ?_, put_length⟩
    simp only [callbacksLeft, hsettled, if_true, Bool.false_eq_true, if_false]
    omega
  · simp only [step, bind_eq_ok, call_eq_ok, require_eq_ok, pure_eq_ok, exists_const] at hstep
    obtain ⟨c, hc, ⟨_, hforgotten⟩, rfl⟩ := hstep
    have hless : callbacksLeft { c with forgotten := true } < callbacksLeft c := by
      simp only [callbacksLeft, hforgotten, if_true, Bool.false_eq_true, if_false]
      omega
    have hput := hput hc hless
    split_ifs
    · exact ⟨hput, put_length⟩
    · exact ⟨hput, put_length⟩

theorem left_le : s.left ≤ 5 * s.calls.length := by
  have hone : ∀ c : TurnCall, callbacksLeft c ≤ 5 := by
    intro c
    unfold callbacksLeft
    split_ifs <;> omega
  unfold left
  induction s.calls with
  | nil => exact Nat.le_refl _
  | cons c calls ih =>
    have hfirst := hone c
    rw [List.map_cons, List.sum_cons, List.length_cons]
    omega

theorem callbacks_end (hevents : ∀ event ∈ events, ∃ i, event ∈ callbacks i)
    (hrun : checked_run.feed step s events = .ok s') : events.length + s'.left ≤ s.left := by
  induction events generalizing s with
  | nil =>
    obtain rfl := Except.ok.inj hrun
    exact (Nat.zero_add _).le
  | cons event events ih =>
    rw [← List.singleton_append, checked_run.feed_append, bind_eq_ok] at hrun
    obtain ⟨mid, hmid, hrest⟩ := hrun
    rw [checked_run.feed_singleton] at hmid
    obtain ⟨hfirst, hlater⟩ := List.forall_mem_cons.1 hevents
    have hless := (callback_left hfirst hmid).1
    have hrec := ih hlater hrest
    rw [List.length_cons]
    omega

/-- No callback of a call of the key is left to run. -/
def Quiet (s : TurnQueue) (args : TurnArgs) : Prop :=
  ∀ (i : Nat) (c : TurnCall), s.calls[i]? = some c → c.args = args → ∀ event ∈ callbacks i, ∀ next, step s event ≠ .ok next

/-- No call of the key waits or runs. -/
def Idle (s : TurnQueue) (args : TurnArgs) : Prop :=
  ∀ (i : Nat) (c : TurnCall), s.calls[i]? = some c → c.args = args → ¬ c.Waiting ∧ ¬ c.Running

/-- Where no call of a key waits or runs, and its callbacks have run, every one of its
    calls is settled and forgotten. -/
theorem Sound.settled_of_quiet (h : Sound s) {args : TurnArgs} (hquiet : s.Quiet args)
    (hidle : s.Idle args) (hc : s.calls[i]? = some c)
    (hargs : c.args = args) : c.settled = true ∧ c.forgotten = true := by
  induction i using Nat.strong_induction_on generalizing c with
  | _ i ih =>
    have hcallback : ∀ event ∈ callbacks i, ∀ next, step s event ≠ .ok next := hquiet i c hc hargs
    obtain ⟨hwaiting, hrunning⟩ := hidle i c hc hargs
    have hend : c.wait = .rejected ∨ c.run = .finished := by
      by_cases hrejected : c.wait = .rejected
      · exact .inl hrejected
      · cases hrun : c.run with
        | notStarted => exact absurd ⟨hrun, hrejected⟩ hwaiting
        | running => exact absurd hrun hrunning
        | finished => exact .inr rfl
    have hreleased : c.released = true := by
      by_contra hnot
      have hstep : ∃ next, step s (.release i) = .ok next := by
        simp only [step, bind_eq_ok, call_eq_ok, require_eq_ok, pure_eq_ok, exists_const]
        exact ⟨_, c, hc, ⟨hend, Bool.eq_false_of_not_eq_true hnot⟩, rfl⟩
      obtain ⟨next, hnext⟩ := hstep
      exact hcallback (.release i) (by simp [callbacks]) next hnext
    have hprevious : s.previousSettled c = true := by
      cases hfound : c.previous with
      | none => rw [TurnQueue.previousSettled, hfound]
      | some p =>
        obtain ⟨hlt, ⟨d, hd, hsame⟩, _⟩ := h.previous i c p hc hfound
        rw [TurnQueue.previousSettled, hfound]
        exact (Option.any_eq_true _ _).2 ⟨d, hd, (ih p hlt hd (hsame.trans hargs)).1⟩
    have hsettled : c.settled = true := by
      by_contra hnot
      have hstep : ∃ next, step s (.settle i) = .ok next := by
        simp only [step, bind_eq_ok, call_eq_ok, require_eq_ok, pure_eq_ok, exists_const]
        exact ⟨_, c, hc, ⟨hreleased, hprevious, Bool.eq_false_of_not_eq_true hnot⟩, rfl⟩
      obtain ⟨next, hnext⟩ := hstep
      exact hcallback (.settle i) (by simp [callbacks]) next hnext
    refine ⟨hsettled, ?_⟩
    by_contra hnot
    have hstep : ∃ next, step s (.forget i) = .ok next := by
      simp only [step, bind_eq_ok, call_eq_ok, require_eq_ok, pure_eq_ok, exists_const]
      exact ⟨_, c, hc, ⟨hsettled, Bool.eq_false_of_not_eq_true hnot⟩, rfl⟩
    obtain ⟨next, hnext⟩ := hstep
    exact hcallback (.forget i) (by simp [callbacks]) next hnext

end callbacks

end TurnQueue

open TurnQueue in
/-- At most one run of a key is in progress; runs start in the order of the arrivals, each
    behind the ends of all that started before it; a call that is cancelled before its wait
    is over starts no run; and a key without waiting or running calls is not retained once their
    callbacks have run, of which there are finitely many. -/
theorem provider_turns_serialized {events : List TurnEvent} {s : TurnQueue}
    (hrun : checked_run.feed step empty events = .ok s) :
    (∀ (i j : Nat) (c d : TurnCall), s.calls[i]? = some c → s.calls[j]? = some d → c.args = d.args → c.Running → d.Running → i = j)
    ∧ (s.started.Pairwise fun (i j : Nat) => ∀ c d : TurnCall, s.calls[i]? = some c → s.calls[j]? = some d → c.args = d.args → i < j)
    ∧ (∀ (i j : Nat) (c d : TurnCall), s.calls[i]? = some c → s.calls[j]? = some d → c.args = d.args → i < j → i ∈ s.started →
      j ∈ s.started → c.run = .finished)
    ∧ (∀ i, Cancelled events i → i ∉ s.started)
    ∧ (∀ args, s.Idle args → s.Quiet args → s.tails.get? args.key = none)
    ∧ ∀ later s', (∀ event ∈ later, ∃ i, event ∈ callbacks i) → checked_run.feed step s later = .ok s' →
      later.length ≤ 5 * s.calls.length := by
  have hsound := feed_sound hrun
  have hfinished : ∀ (i j : Nat) (c d : TurnCall), s.calls[i]? = some c → s.calls[j]? = some d → c.args = d.args → i < j →
      c.run ≠ .notStarted → d.run ≠ .notStarted → c.run = .finished := by
    intro i j c d hc hd hargs hlt hfirst hsecond
    have hresolved : d.wait = .resolved := by
      by_contra hwait
      exact hsecond (hsound.notStarted j d hd hwait)
    exact hsound.finished_before hc hd hargs hlt hfirst hresolved
  refine ⟨fun i j c d hc hd hargs hfirst hsecond => ?_, hsound.ordered, fun i j c d hc hd hargs hlt hi hj => ?_,
    fun i hcancelled hi => ?_, fun args hidle hquiet => ?_, fun later s' hlater hrest => ?_⟩
  · have hc' : c.run ≠ .notStarted := by rw [hfirst]; exact RunState.noConfusion
    have hd' : d.run ≠ .notStarted := by rw [hsecond]; exact RunState.noConfusion
    rcases Nat.lt_trichotomy i j with hlt | hij | hlt
    · cases hfirst.symm.trans (hfinished i j c d hc hd hargs hlt hc' hd')
    · exact hij
    · cases hsecond.symm.trans (hfinished j i d c hd hc hargs.symm hlt hd' hc')
  · obtain ⟨c', hc', hfirst⟩ := (hsound.started i).1 hi
    obtain ⟨d', hd', hsecond⟩ := (hsound.started j).1 hj
    obtain rfl : c = c' := Option.some.inj (hc.symm.trans hc')
    obtain rfl : d = d' := Option.some.inj (hd.symm.trans hd')
    exact hfinished i j c d hc hd hargs hlt hfirst hsecond
  · obtain ⟨c, hc, hrejected⟩ := rejected_of_cancelled hcancelled hrun
    obtain ⟨c', hc', hstarted⟩ := (hsound.started i).1 hi
    obtain rfl : c = c' := Option.some.inj (hc.symm.trans hc')
    exact hstarted (hsound.notStarted i c hc (by rw [hrejected]; exact Wait.noConfusion))
  · by_contra hretained
    obtain ⟨i, hi⟩ := Option.ne_none_iff_exists'.1 hretained
    obtain ⟨c, hc, hkey, hkept, _⟩ := hsound.tail args.key i hi
    have hforgotten := (hsound.settled_of_quiet hquiet hidle hc (TurnArgs.key_injective hkey)).2
    rw [hkept] at hforgotten
    cases hforgotten
  · have hcount := callbacks_end hlater hrest
    have hbound := left_le (s := s)
    omega

def sampleTurn : TurnArgs := ⟨"codex-conversation", "workspace", "session"⟩

/-- The run of the first call is over, and so is the wait of the second. -/
def resolvedEvents : List TurnEvent :=
  [.arrive sampleTurn false false, .arrive sampleTurn false false, .predecessorSettled 0, .start 0, .finish 0,
    .release 0, .settle 0, .predecessorSettled 1]

open TurnQueue in
/-- A cancellation between the end of a wait and the start of its run comes too late, and a
    key whose runs are all over is retained until their callbacks have run. -/
theorem late_cancellation_runs :
    (∃ s s' c, checked_run.feed step empty resolvedEvents = .ok s ∧ s.calls[1]? = some c ∧ c.Waiting
        ∧ checked_run.feed step s [.abort 1, .start 1] = .ok s' ∧ 1 ∈ s'.started)
      ∧ ∃ s, checked_run.feed step empty (resolvedEvents ++ [.start 1, .finish 1]) = .ok s
        ∧ s.Idle sampleTurn ∧ s.tails.get? sampleTurn.key = some 1 := by
  have hwaits : (checked_run.feed step empty resolvedEvents).toOption.bind
      (fun s => s.calls[1]?.map fun c => (c.run, c.wait)) = some (.notStarted, .resolved) := by decide +kernel
  have hruns : (checked_run.feed step empty (resolvedEvents ++ [.abort 1, .start 1])).toOption.map
      (fun s => s.started) = some [0, 1] := by decide +kernel
  have hover : (checked_run.feed step empty (resolvedEvents ++ [.start 1, .finish 1])).toOption.map
      (fun s => (s.calls.map TurnCall.run, s.tails.get? sampleTurn.key)) = some ([.finished, .finished], some 1) := by
    decide +kernel
  simp only [Option.bind_eq_some_iff, Option.map_eq_some_iff, toOption_eq_some, Prod.mk.injEq] at hwaits hruns hover
  obtain ⟨s, hs, c, hc, hrun, hwait⟩ := hwaits
  obtain ⟨s', hs', hstarted⟩ := hruns
  obtain ⟨last, hlast, hfinished, htail⟩ := hover
  rw [checked_run.feed_append, hs, ok_bind] at hs'
  refine ⟨⟨s, s', c, hs, hc, ⟨hrun, ?_⟩, hs', ?_⟩, last, hlast, fun i d hd _ => ?_, htail⟩
  · rw [hwait]
    exact Wait.noConfusion
  · rw [hstarted]
    exact List.mem_cons_of_mem _ (List.mem_singleton_self 1)
  · have hmem := List.mem_map_of_mem (f := TurnCall.run) (List.mem_of_getElem? hd)
    have hrun' : d.run = .finished := by simpa [hfinished] using hmem
    simp [TurnCall.Waiting, TurnCall.Running, hrun']

/-- The second of two calls is cancelled while it waits, and the third waits on. -/
def sampleEvents : List TurnEvent :=
  [.arrive sampleTurn false false, .arrive sampleTurn false false, .arrive sampleTurn false false,
    .predecessorSettled 0, .start 0, .abort 1, .release 1, .finish 0, .release 0, .settle 0, .settle 1,
    .predecessorSettled 2, .start 2]

theorem cancelled_turn_skipped :
    ∃ s, checked_run.feed TurnQueue.step TurnQueue.empty sampleEvents = .ok s ∧ 1 ∉ s.started := by
  have hok : (checked_run.feed TurnQueue.step TurnQueue.empty sampleEvents).isOk = true := by decide +kernel
  obtain ⟨s, hs⟩ := exists_of_isOk hok
  refine ⟨s, hs, (provider_turns_serialized hs).2.2.2.1 1 ?_⟩
  refine ⟨sampleEvents.take 5, .abort 1, sampleEvents.drop 6, _, rfl, rfl, .inr ⟨rfl, _, rfl, rfl⟩⟩

end revit_operator.operator_backend
