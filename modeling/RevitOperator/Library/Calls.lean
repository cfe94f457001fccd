import RevitOperator.Library.Checked
import Mathlib.Data.List.Infix

/-! Programs that call out. A call is answered by whatever is outside, which may look at all
    the calls made before, and the calls with their answers are the history of the program. -/

/-- A call with its answer, made on behalf of something. -/
structure CallEvent (Tag Call ε : Type) (Answer : Call → Type) where
  tag : Tag
  call : Call
  answer : Except ε (Answer call)

/-- A program over the history of its calls. -/
abbrev Calling (Event ε α : Type) : Type := ExceptT ε (StateM (List Event)) α

namespace calls

section logic

variable {Event ε α β : Type}

/-- How a program ends after some calls, and the history by then. -/
def outcome (prog : Calling Event ε α) (earlier : List Event) : Except ε α × List Event :=
  StateT.run (ExceptT.run prog) earlier

/-- A program that starts in a history that meets `pre` ends in one that meets `post` of its
    value, or in one that meets `fails` where it ends in a fault. -/
def Triple (pre : List Event → Prop) (prog : Calling Event ε α) (post : α → List Event → Prop)
    (fails : List Event → Prop) : Prop :=
  ∀ earlier, pre earlier → match outcome prog earlier with
    | (.ok value, later) => post value later
    | (.error _, later) => fails later

variable {pre mid : List Event → Prop} {post : α → List Event → Prop} {fails : List Event → Prop}

theorem Triple.pure {value : α} (h : ∀ earlier, pre earlier → post value earlier) :
    Triple pre (Pure.pure value : Calling Event ε α) post fails := h

theorem Triple.throw {fault : ε} (h : ∀ earlier, pre earlier → fails earlier) :
    Triple pre (MonadExcept.throw fault : Calling Event ε α) post fails := h

theorem outcome_bind (prog : Calling Event ε β) (rest : β → Calling Event ε α) (earlier : List Event) :
    outcome (prog >>= rest) earlier = match outcome prog earlier with
      | (.ok value, later) => outcome (rest value) later
      | (.error fault, later) => (.error fault, later) := by
  change StateT.run (StateT.bind (ExceptT.run prog) (ExceptT.bindCont rest)) earlier = _
  rw [outcome]
  simp only [StateT.run, StateT.bind]
  obtain ⟨result, later⟩ := ExceptT.run prog earlier
  cases result <;> rfl

theorem outcome_bind_ok {prog : Calling Event ε β} {rest : β → Calling Event ε α} {earlier later : List Event} {value : β}
    (h : outcome prog earlier = (.ok value, later)) : outcome (prog >>= rest) earlier = outcome (rest value) later := by
  rw [outcome_bind, h]

theorem outcome_bind_error {prog : Calling Event ε β} {rest : β → Calling Event ε α} {earlier later : List Event} {fault : ε}
    (h : outcome prog earlier = (.error fault, later)) : outcome (prog >>= rest) earlier = (.error fault, later) := by
  rw [outcome_bind, h]

theorem Triple.bind {prog : Calling Event ε β} {rest : β → Calling Event ε α} {between : β → List Event → Prop}
    (hfirst : Triple pre prog between fails) (hrest : ∀ value, Triple (between value) (rest value) post fails) :
    Triple pre (prog >>= rest) post fails := by
  intro earlier hpre
  have hmid := hfirst earlier hpre
  rw [outcome_bind]
  generalize outcome prog earlier = ended at hmid ⊢
  obtain ⟨result, later⟩ := ended
  cases result with
  | ok value => exact hrest value later hmid
  | error fault => exact hmid

theorem Triple.strengthen {prog : Calling Event ε α} (h : Triple mid prog post fails)
    (hpre : ∀ earlier, pre earlier → mid earlier) : Triple pre prog post fails :=
  fun earlier hearlier => h earlier (hpre earlier hearlier)

/-- Continue with the value of a check that may look at the history, and stop with its fault. -/
def examine (check : List Event → Except ε α) : Calling Event ε α := ExceptT.mk fun earlier => (check earlier, earlier)

/-- Continue with the value of a check, and stop with its fault. -/
def ofCheck (check : Except ε α) : Calling Event ε α := examine fun _ => check

theorem outcome_examine_bind {check : List Event → Except ε β} {rest : β → Calling Event ε α} {earlier : List Event} {value : β}
    (h : check earlier = .ok value) : outcome (examine check >>= rest) earlier = outcome (rest value) earlier := by
  refine outcome_bind_ok ?_
  rw [← h]
  rfl

theorem outcome_ofCheck_bind {check : Except ε β} {rest : β → Calling Event ε α} {earlier : List Event} {value : β}
    (h : check = .ok value) : outcome (ofCheck check >>= rest) earlier = outcome (rest value) earlier :=
  outcome_examine_bind h

theorem Triple.examine {check : List Event → Except ε α} (hfails : ∀ earlier, pre earlier → fails earlier) :
    Triple pre (calls.examine check) (fun value earlier => pre earlier ∧ check earlier = .ok value) fails := by
  intro earlier hpre
  have hrun : outcome (calls.examine check) earlier = (check earlier, earlier) := rfl
  rw [hrun]
  cases hcheck : check earlier with
  | ok value => exact ⟨hpre, hcheck⟩
  | error fault => exact hfails earlier hpre

theorem Triple.ofCheck {check : Except ε α} (hfails : ∀ earlier, pre earlier → fails earlier) :
    Triple pre (calls.ofCheck check) (fun value earlier => pre earlier ∧ check = .ok value) fails :=
  Triple.examine hfails

theorem Triple.weaken {prog : Calling Event ε α} {post' : α → List Event → Prop} {fails' : List Event → Prop}
    (h : Triple pre prog post fails) (hpost : ∀ value later, post value later → post' value later)
    (hfails : ∀ later, fails later → fails' later) : Triple pre prog post' fails' := by
  intro earlier hpre
  have hended := h earlier hpre
  generalize outcome prog earlier = ended at hended ⊢
  obtain ⟨result, later⟩ := ended
  cases result with
  | ok value => exact hpost value later hended
  | error fault => exact hfails later hended

theorem Triple.history {prog : Calling Event ε α} (h : Triple pre prog (fun _ => fails) fails) {earlier : List Event}
    (hpre : pre earlier) : fails (outcome prog earlier).2 := by
  have hended := h earlier hpre
  generalize outcome prog earlier = ended at hended ⊢
  obtain ⟨result, later⟩ := ended
  cases result <;> exact hended

theorem Triple.examine_keeps {check : List Event → Except ε α} : Triple pre (calls.examine check) (fun _ => pre) pre := by
  intro earlier hpre
  have hrun : outcome (calls.examine check) earlier = (check earlier, earlier) := rfl
  rw [hrun]
  cases check earlier <;> exact hpre

theorem Triple.ofCheck_keeps {check : Except ε α} : Triple pre (calls.ofCheck check) (fun _ => pre) pre :=
  Triple.examine_keeps

end logic

section asking

variable {Tag Call ε β : Type} {Answer : Call → Type}

/-- Make a call and go on with its answer. -/
def ask (outside : List (CallEvent Tag Call ε Answer) → (call : Call) → Except ε (Answer call)) (tag : Tag) (call : Call) :
    Calling (CallEvent Tag Call ε Answer) ε (Answer call) :=
  ExceptT.mk fun earlier =>
    let answer := outside earlier call
    (answer, earlier ++ [⟨tag, call, answer⟩])

section running

variable {outside : List (CallEvent Tag Call ε Answer) → (call : Call) → Except ε (Answer call)} {tag : Tag} {call : Call}
  {rest : Answer call → Calling (CallEvent Tag Call ε Answer) ε β} {earlier : List (CallEvent Tag Call ε Answer)}

theorem outcome_ask_bind {value : Answer call} (h : outside earlier call = .ok value) :
    outcome (ask outside tag call >>= rest) earlier = outcome (rest value) (earlier ++ [⟨tag, call, .ok value⟩]) := by
  refine outcome_bind_ok ?_
  rw [← h]
  rfl

theorem outcome_ask_bind_error {fault : ε} (h : outside earlier call = .error fault) :
    outcome (ask outside tag call >>= rest) earlier = (.error fault, earlier ++ [⟨tag, call, .error fault⟩]) := by
  refine outcome_bind_error ?_
  rw [← h]
  rfl

end running

theorem Triple.ask {outside : List (CallEvent Tag Call ε Answer) → (call : Call) → Except ε (Answer call)} {tag : Tag}
    {call : Call} {pre : List (CallEvent Tag Call ε Answer) → Prop} {fails : List (CallEvent Tag Call ε Answer) → Prop}
    (hfails : ∀ fault earlier, pre earlier → fails (earlier ++ [⟨tag, call, .error fault⟩])) :
    Triple pre (calls.ask outside tag call)
      (fun value later => ∃ earlier, pre earlier ∧ later = earlier ++ [⟨tag, call, .ok value⟩]) fails := by
  intro earlier hpre
  have hrun : outcome (calls.ask outside tag call) earlier
      = (outside earlier call, earlier ++ [⟨tag, call, outside earlier call⟩]) := rfl
  rw [hrun]
  cases outside earlier call with
  | ok value => exact ⟨earlier, hpre, rfl⟩
  | error fault => exact hfails fault earlier hpre

theorem Triple.ask_keeps {outside : List (CallEvent Tag Call ε Answer) → (call : Call) → Except ε (Answer call)} {tag : Tag}
    {call : Call} {pre : List (CallEvent Tag Call ε Answer) → Prop}
    (h : ∀ answer earlier, pre earlier → pre (earlier ++ [⟨tag, call, answer⟩])) :
    Triple pre (calls.ask outside tag call) (fun _ => pre) pre := by
  intro earlier hpre
  have hrun : outcome (calls.ask outside tag call) earlier
      = (outside earlier call, earlier ++ [⟨tag, call, outside earlier call⟩]) := rfl
  rw [hrun]
  cases outside earlier call <;> exact h _ earlier hpre

end asking

section histories

variable {Event : Type} {law : List Event → Event → Prop} {events : List Event} {event : Event}

/-- Every event is lawful after the ones before it. -/
def Follows (law : List Event → Event → Prop) (events : List Event) : Prop :=
  ∀ before event after, events = before ++ event :: after → law before event

theorem Follows.nil : Follows law [] := by
  intro before event after h
  cases before <;> cases h

theorem Follows.append_singleton (hevents : Follows law events) (hevent : law events event) :
    Follows law (events ++ [event]) := by
  intro before last after h
  rcases List.eq_nil_or_concat after with rfl | ⟨after, final, rfl⟩
  · obtain ⟨rfl, hlast⟩ := List.append_inj' h rfl
    obtain rfl : event = last := by simpa using hlast
    exact hevent
  · rw [List.concat_eq_append, ← List.cons_append, ← List.append_assoc] at h
    obtain ⟨rfl, -⟩ := List.append_inj' h rfl
    exact hevents before last after rfl

end histories

end calls
