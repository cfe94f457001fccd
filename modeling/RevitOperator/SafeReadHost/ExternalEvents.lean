import RevitOperator.SafeReadHost.ExecutionContracts

open revit_operator.safe_read_host.CertifiedExecutionResult

namespace revit_operator.safe_read_host

variable {Work Shutdown Binding : Type}

section points

/-- The item never got into the slot. -/
def DispatchPoint.Unqueued : DispatchPoint Binding → Prop
  | .notCalled | .busy => True
  | _ => False

/-- The call still has the item in the slot unless another party took it. -/
def DispatchPoint.Waits : DispatchPoint Binding → Prop
  | .queued | .waiting | .cancelling _ | .matched _ => True
  | _ => False

/-- The call cancelled the item and is not through with it. -/
def DispatchPoint.Cancels : DispatchPoint Binding → Prop
  | .cancelled _ | .clearing _ => True
  | _ => False

/-- The item the UI thread is at. -/
def ExecutePoint.work : ExecutePoint Work Binding → Option Work
  | .idle | .entered => none
  | .taken work | .refused work | .running work | .settling work _ | .releasing work => some work

/-- The UI thread claimed the item and has not released it. -/
def ExecutePoint.Holds (work : Work) : ExecutePoint Work Binding → Prop
  | .running held | .settling held _ | .releasing held => held = work
  | _ => False

def FailPendingPoint.work : FailPendingPoint Work → Option Work
  | .notCalled | .entered _ | .returned => none
  | .found work _ | .cancelled work _ | .clearing work | .refused work _ | .completing work _ | .settling work _
  | .releasing work => some work

/-- The call cancelled the item and is not through with it. -/
def FailPendingPoint.Cancels (work : Work) : FailPendingPoint Work → Prop
  | .cancelled held _ | .clearing held => held = work
  | _ => False

/-- The call completed the item and sets its completion next. -/
def FailPendingPoint.Settles (work : Work) : FailPendingPoint Work → Prop
  | .settling held _ => held = work
  | _ => False

end points

section consistency

variable {items : Work → CertifiedExternalWorkItem Binding} {m m' : Machine Work Shutdown Binding}

/-- What the slot, the states of the items and the parties say about each
    other. -/
structure Consistent (m : Machine Work Shutdown Binding) : Prop where
  unqueued : ∀ work, (m.dispatch work).Unqueued → m.state work = .pending ∧ m.occupied ≠ some work
    ∧ m.execute.work ≠ some work ∧ ∀ call, (m.failPending call).work ≠ some work
  pending : ∀ work, m.state work = .pending →
    (m.dispatch work).Unqueued ∨ ((m.dispatch work).Waits ∧ m.occupied = some work)
  claimed : ∀ work, m.state work = .claimed → m.execute = .running work
  refused : ∀ work, m.execute = .refused work → m.state work ≠ .pending
  holds : ∀ work, m.execute.Holds work → m.state work = .claimed ∨ m.state work = .completed
  settling : ∀ work result, m.execute = .settling work result → m.state work = .completed
  dispatchCancels : ∀ work, (m.dispatch work).Cancels → m.state work = .cancelled
  shutdownCancels : ∀ call work, (m.failPending call).Cancels work → m.state work = .cancelled
  shutdownSettles : ∀ call work, (m.failPending call).Settles work → m.state work = .completed
  shutdownReleases : ∀ call work, m.failPending call = .releasing work → m.state work ≠ .pending
  shutdownRefused : ∀ call work code, m.failPending call = .completing work code → m.state work ≠ .pending
  completed : ∀ work, m.occupied = some work → m.state work = .completed → m.execute.Holds work
  cancelled : ∀ work, m.occupied = some work → m.state work = .cancelled →
    (m.dispatch work).Cancels ∨ ∃ call, (m.failPending call).Cancels work
  unset : ∀ work, m.state work = .pending ∨ m.state work = .claimed → m.completion work = []

attribute [local grind =] DispatchPoint.Unqueued DispatchPoint.Waits DispatchPoint.Cancels ExecutePoint.work
  ExecutePoint.Holds FailPendingPoint.work FailPendingPoint.Cancels FailPendingPoint.Settles Function.update_apply

theorem consistent_initial : Consistent (Machine.initial : Machine Work Shutdown Binding) := by
  constructor <;> simp [Machine.initial, DispatchPoint.Unqueued, DispatchPoint.Cancels, ExecutePoint.work,
    ExecutePoint.Holds, FailPendingPoint.work, FailPendingPoint.Cancels, FailPendingPoint.Settles]

theorem Consistent.queued_of_occupied (h : Consistent m) {work : Work} (hslot : m.occupied = some work) :
    ¬ (m.dispatch work).Unqueued :=
  fun hunqueued => (h.unqueued work hunqueued).2.1 hslot

theorem Consistent.queued_of_execute (h : Consistent m) {work : Work} (hwork : m.execute.work = some work) :
    ¬ (m.dispatch work).Unqueued :=
  fun hunqueued => (h.unqueued work hunqueued).2.2.1 hwork

theorem Consistent.queued_of_failPending (h : Consistent m) {work : Work} {call : Shutdown}
    (hwork : (m.failPending call).work = some work) : ¬ (m.dispatch work).Unqueued :=
  fun hunqueued => (h.unqueued work hunqueued).2.2.2 call hwork

/-- An item that is pending after it was queued is in the slot, and its call
    still waits. -/
theorem Consistent.waits (h : Consistent m) {work : Work} (hqueued : ¬ (m.dispatch work).Unqueued)
    (hstate : m.state work = .pending) : (m.dispatch work).Waits ∧ m.occupied = some work :=
  (h.pending work hstate).resolve_left hqueued

theorem Consistent.executeAt (h : Consistent m) {point : ExecutePoint Work Binding}
    (hqueued : ∀ work, point.work = some work → ¬ (m.dispatch work).Unqueued)
    (hclaimed : ∀ work, m.state work = .claimed → point = .running work)
    (hrefused : ∀ work, point = .refused work → m.state work ≠ .pending)
    (hholds : ∀ work, point.Holds work → m.state work = .claimed ∨ m.state work = .completed)
    (hsettling : ∀ work result, point = .settling work result → m.state work = .completed)
    (hheld : ∀ work, m.occupied = some work → m.execute.Holds work → point.Holds work) :
    Consistent (m.executeAt point) := by
  refine { h with
    unqueued := fun work hunqueued => ?_
    claimed := hclaimed
    refused := hrefused
    holds := hholds
    settling := hsettling
    completed := fun work hslot hstate => hheld work hslot (h.completed work hslot hstate) }
  obtain ⟨hpending, hslot, _, hother⟩ := h.unqueued work hunqueued
  exact ⟨hpending, hslot, fun hwork => hqueued work hwork hunqueued, hother⟩

theorem Consistent.failPendingAt [DecidableEq Shutdown] (h : Consistent m) {call : Shutdown} {point : FailPendingPoint Work}
    (hqueued : ∀ work, point.work = some work → ¬ (m.dispatch work).Unqueued)
    (hcancels : ∀ work, point.Cancels work → m.state work = .cancelled)
    (hsettles : ∀ work, point.Settles work → m.state work = .completed)
    (hreleases : ∀ work, point = .releasing work → m.state work ≠ .pending)
    (hcompleting : ∀ work code, point = .completing work code → m.state work ≠ .pending)
    (hheld : ∀ work, m.occupied = some work → (m.failPending call).Cancels work → point.Cancels work) :
    Consistent (m.failPendingAt call point) := by
  refine { h with
    unqueued := fun work hunqueued => ?_
    shutdownCancels := fun other work hother => ?_
    shutdownSettles := fun other work hother => ?_
    shutdownReleases := fun other work hother => ?_
    shutdownRefused := fun other work code hother => ?_
    cancelled := fun work hslot hstate => ?_ }
  · obtain ⟨hpending, hslot, hexecute, hother⟩ := h.unqueued work hunqueued
    refine ⟨hpending, hslot, hexecute, fun other => ?_⟩
    rw [Machine.failPendingAt_failPending]
    split
    · exact fun hwork => hqueued work hwork hunqueued
    · exact hother other
  · rw [Machine.failPendingAt_failPending] at hother
    split at hother
    · exact hcancels work hother
    · exact h.shutdownCancels other work hother
  · rw [Machine.failPendingAt_failPending] at hother
    split at hother
    · exact hsettles work hother
    · exact h.shutdownSettles other work hother
  · rw [Machine.failPendingAt_failPending] at hother
    split at hother
    · exact hreleases work hother
    · exact h.shutdownReleases other work hother
  · rw [Machine.failPendingAt_failPending] at hother
    split at hother
    · exact hcompleting work code hother
    · exact h.shutdownRefused other work code hother
  · refine (h.cancelled work hslot hstate).imp_right fun ⟨other, hother⟩ => ⟨other, ?_⟩
    rw [Machine.failPendingAt_failPending]
    split
    · next hcall => exact hheld work hslot (hcall ▸ hother)
    · exact hother

variable [DecidableEq Work]

theorem Consistent.clear (h : Consistent m) {work : Work} (hstate : m.state work ≠ .pending) :
    Consistent (m.clear work) := by
  have hoccupied : ∀ other, (m.clear work).occupied = some other → m.occupied = some other := by
    intro other hother
    rw [Machine.clear_occupied] at hother
    split at hother
    · cases hother
    · exact hother
  refine { h with
    unqueued := fun other hunqueued => ?_
    pending := fun other hpending => ?_
    completed := fun other hslot => h.completed other (hoccupied other hslot)
    cancelled := fun other hslot => h.cancelled other (hoccupied other hslot) }
  · obtain ⟨hpending, hslot, hrest⟩ := h.unqueued other hunqueued
    exact ⟨hpending, fun hcleared => hslot (hoccupied other hcleared), hrest⟩
  · rcases h.pending other hpending with hunqueued | ⟨hwaits, hslot⟩
    · exact .inl hunqueued
    · refine .inr ⟨hwaits, ?_⟩
      have hother : work ≠ other := fun heq => hstate (heq ▸ hpending)
      rw [Machine.clear_occupied, hslot, if_neg fun heq => hother (Option.some.inj heq).symm]

theorem Consistent.trySetResult (h : Consistent m) {work : Work} {party : Party Shutdown}
    {result : CertifiedExecutionResult Binding} (hpending : m.state work ≠ .pending)
    (hclaimed : m.state work ≠ .claimed) : Consistent (m.trySetResult work party result) := by
  refine { h with unset := fun other hunset => ?_ }
  have hother : other ≠ work := by
    rintro rfl
    exact hunset.elim hpending hclaimed
  rw [Machine.trySetResult_completion, if_neg hother]
  exact h.unset other hunset

theorem Consistent.markCompleted (h : Consistent m) {work : Work} (hstate : m.state work = .claimed) :
    Consistent (m.mark work .completed) := by
  have hrunning := h.claimed work hstate
  obtain ⟨hunqueued, hpending, hclaimed, hrefused, hholds, hsettling, hdispatch, hshutdown, hsettles, hreleases,
    hcompleting, hcompleted, hcancelled, hunset⟩ := h
  constructor <;> simp only [Machine.mark] <;> grind

theorem Consistent.dispatchAt (h : Consistent m) {work : Work} {point : DispatchPoint Binding}
    (hqueued : ¬ point.Unqueued) (hpending : m.state work = .pending → point.Waits ∧ m.occupied = some work)
    (hcancels : point.Cancels → m.state work = .cancelled)
    (hheld : m.occupied = some work → (m.dispatch work).Cancels → point.Cancels) :
    Consistent (m.dispatchAt work point) := by
  refine { h with
    unqueued := fun other hunqueued => ?_
    pending := fun other hstate => ?_
    dispatchCancels := fun other hother => ?_
    cancelled := fun other hslot hstate => ?_ }
  · rw [Machine.dispatchAt_dispatch] at hunqueued
    split at hunqueued
    · exact absurd hunqueued hqueued
    · exact h.unqueued other hunqueued
  · rw [Machine.dispatchAt_dispatch]
    split
    · next hwork =>
      subst hwork
      exact .inr (hpending hstate)
    · exact h.pending other hstate
  · rw [Machine.dispatchAt_dispatch] at hother
    split at hother
    · next hwork =>
      subst hwork
      exact hcancels hother
    · exact h.dispatchCancels other hother
  · rw [Machine.dispatchAt_dispatch]
    split
    · next hwork =>
      subst hwork
      exact (h.cancelled other hslot hstate).imp_left (hheld hslot)
    · exact h.cancelled other hslot hstate

theorem Dispatches.consistent {work : Work} (h : Consistent m) (hstep : Dispatches items m work m') :
    Consistent m' := by
  have hqueued {point : DispatchPoint Binding} (hpoint : m.dispatch work = point) (hnot : ¬ point.Unqueued) :
      ¬ (m.dispatch work).Unqueued := by rwa [hpoint]
  have hmoves {point next : DispatchPoint Binding} (hpoint : m.dispatch work = point) (hkeeps : ¬ point.Cancels)
      (hnext : ¬ next.Unqueued ∧ ¬ next.Cancels)
      (hpending : m.state work = .pending → next.Waits ∧ m.occupied = some work) : Consistent (m.dispatchAt work next) :=
    h.dispatchAt hnext.1 hpending (fun hcancels => absurd hcancels hnext.2)
      fun _ hheld => absurd (hpoint ▸ hheld) hkeeps
  cases hstep with
  | raised hpoint =>
    have hwaits := h.waits (hqueued hpoint not_false)
    exact hmoves hpoint not_false ⟨not_false, not_false⟩ fun hstate => ⟨trivial, (hwaits hstate).2⟩
  | raiseRefused hpoint =>
    have hwaits := h.waits (hqueued hpoint not_false)
    exact hmoves hpoint not_false ⟨not_false, not_false⟩ fun hstate => ⟨trivial, (hwaits hstate).2⟩
  | awaited hpoint party result hset =>
    refine hmoves hpoint not_false ⟨not_false, not_false⟩ fun hstate => ?_
    rw [h.unset work (.inl hstate)] at hset
    cases hset
  | deadline hpoint =>
    have hwaits := h.waits (hqueued hpoint not_false)
    exact hmoves hpoint not_false ⟨not_false, not_false⟩ fun hstate => ⟨trivial, (hwaits hstate).2⟩
  | foreignSlot code hpoint hslot =>
    have hwaits := h.waits (hqueued hpoint not_false)
    exact hmoves hpoint not_false ⟨not_false, not_false⟩ fun hstate => absurd (hwaits hstate).2 hslot
  | ownSlot code hpoint hslot =>
    exact hmoves hpoint not_false ⟨not_false, not_false⟩ fun _ => ⟨trivial, hslot⟩
  | cancelled code hpoint hstate =>
    obtain ⟨hunqueued, hpending, hclaimed, hrefused, hholds, hsettling, hdispatch, hshutdown, hsettles, hreleases,
      hcompleting, hcompleted, hcancelled, hunset⟩ := h
    constructor <;> simp only [Machine.dispatchAt, Machine.mark] <;> grind
  | notCancelled code hpoint hstate =>
    exact hmoves hpoint not_false ⟨not_false, not_false⟩ fun hpending => absurd hpending hstate
  | setResult code hpoint =>
    have hstate := h.dispatchCancels work (by rw [hpoint]; trivial)
    exact (h.trySetResult (by simp [hstate]) (by simp [hstate])).dispatchAt (by simp [DispatchPoint.Unqueued])
      (fun hpending => absurd (hstate.symm.trans hpending) (by simp)) (fun _ => hstate) fun _ _ => trivial
  | cleared code hpoint =>
    have hstate := h.dispatchCancels work (by rw [hpoint]; trivial)
    refine (h.clear (by simp [hstate])).dispatchAt (by simp [DispatchPoint.Unqueued])
      (fun hpending => absurd (hstate.symm.trans hpending) (by simp)) False.elim fun hslot _ => ?_
    simp only [Machine.clear] at hslot
    split at hslot
    · cases hslot
    · next hother => exact absurd hslot hother

theorem Executes.consistent (h : Consistent m) (hstep : Executes items m m') : Consistent m' := by
  have hnotClaimed {point : ExecutePoint Work Binding} (hpoint : m.execute = point)
      (hnot : ∀ work, point ≠ .running work) (work : Work) : m.state work ≠ .claimed :=
    fun hstate => hnot work (hpoint.symm.trans (h.claimed work hstate))
  cases hstep with
  | foundNothing hpoint hslot =>
    refine h.executeAt (by simp [ExecutePoint.work])
      (fun work hstate => absurd hstate (hnotClaimed hpoint (by simp) work)) (by simp) (by simp [ExecutePoint.Holds])
      (by simp) fun work hwork _ => ?_
    rw [hslot] at hwork
    cases hwork
  | found work hpoint hslot =>
    refine h.executeAt (fun other hother => ?_)
      (fun other hstate => absurd hstate (hnotClaimed hpoint (by simp) other)) (by simp) (by simp [ExecutePoint.Holds])
      (by simp) fun other _ hheld => by rw [hpoint] at hheld; cases hheld
    rw [← Option.some.inj hother]
    exact h.queued_of_occupied hslot
  | claimed work hpoint hstate =>
    have hqueued := @Consistent.queued_of_execute _ _ _ _ h work (by rw [hpoint]; rfl)
    obtain ⟨_, hslot⟩ := h.waits hqueued hstate
    have hnone := hnotClaimed hpoint (by simp)
    obtain ⟨hunqueued, hpending, hclaimed, hrefused, hholds, hsettling, hdispatch, hshutdown, hsettles, hreleases,
      hcompleting, hcompleted, hcancelled, hunset⟩ := h
    constructor <;> simp only [Machine.executeAt, Machine.claim, Machine.mark] <;> grind
  | notClaimed work hpoint hstate =>
    refine h.executeAt (fun other hother => h.queued_of_execute (by rw [hpoint]; exact hother))
      (fun other hclaimed => absurd hclaimed (hnotClaimed hpoint (by simp) other)) (fun other hother => ?_)
      (by simp [ExecutePoint.Holds]) (by simp) fun other _ hheld => by rw [hpoint] at hheld; cases hheld
    cases hother
    exact hstate
  | dropped work hpoint =>
    refine (h.clear (h.refused work hpoint)).executeAt (by simp [ExecutePoint.work])
      (fun other hstate => absurd hstate (hnotClaimed hpoint (by simp) other)) (by simp) (by simp [ExecutePoint.Holds])
      (by simp) fun other _ hheld => ?_
    rw [show (m.clear work).execute = m.execute from rfl, hpoint] at hheld
    cases hheld
  | completed work result hpoint hresult hstate =>
    refine (h.markCompleted hstate).executeAt (fun other hother => h.queued_of_execute (by rw [hpoint]; exact hother))
      (fun other hother => ?_) (by simp) (fun other hheld => ?_) (fun other result hother => ?_)
      fun other _ hheld => ?_
    · rw [Machine.mark_state] at hother
      split at hother
      · cases hother
      · next hwork => exact absurd (ExecutePoint.running.inj (hpoint.symm.trans (h.claimed other hother))).symm hwork
    · rw [← show work = other from hheld, Machine.mark_state, if_pos rfl]
      exact .inr rfl
    · rw [← (ExecutePoint.settling.inj hother).1, Machine.mark_state, if_pos rfl]
    · rw [show (m.mark work .completed).execute = m.execute from rfl, hpoint] at hheld
      exact hheld
  | alreadyCompleted work hpoint hstate =>
    have hcompleted := (h.holds work (by rw [hpoint]; rfl)).resolve_left hstate
    refine h.executeAt (fun other hother => h.queued_of_execute (by rw [hpoint]; exact hother))
      (fun other hother => ?_) (by simp) (fun other hheld => ?_) (by simp) fun other _ hheld => ?_
    · have hsame := ExecutePoint.running.inj (hpoint.symm.trans (h.claimed other hother))
      exact absurd (hsame ▸ hother) hstate
    · rw [← show work = other from hheld]
      exact .inr hcompleted
    · rw [hpoint] at hheld
      exact hheld
  | setResult work result hpoint =>
    have hcompleted := h.settling work result hpoint
    refine (h.trySetResult (by simp [hcompleted]) (by simp [hcompleted])).executeAt
      (fun other hother => h.queued_of_execute (by rw [hpoint]; exact hother))
      (fun other hother => absurd hother (hnotClaimed hpoint (by simp) other)) (by simp) (fun other hheld => ?_)
      (by simp) fun other _ hheld => ?_
    · rw [← show work = other from hheld]
      exact .inr hcompleted
    · rw [show (m.trySetResult work .handler result).execute = m.execute from rfl, hpoint] at hheld
      exact hheld
  | released work hpoint =>
    have hheld : m.execute.Holds work := by rw [hpoint]; rfl
    have hstate : m.state work ≠ .pending := by
      rcases h.holds work hheld with hstate | hstate <;> simp [hstate]
    refine (h.clear hstate).executeAt (by simp [ExecutePoint.work])
      (fun other hother => absurd hother (hnotClaimed hpoint (by simp) other)) (by simp) (by simp [ExecutePoint.Holds])
      (by simp) fun other hslot hheld => ?_
    rw [show (m.clear work).execute = m.execute from rfl, hpoint] at hheld
    rw [Machine.clear_occupied, ← show work = other from hheld] at hslot
    split at hslot
    · cases hslot
    · next hother => exact absurd hslot hother

variable [DecidableEq Shutdown]

theorem Starts.consistent (h : Consistent m) (hstep : Starts m m') : Consistent m' := by
  cases hstep with
  | queue work hpoint hslot =>
    obtain ⟨hunqueued, hpending, hclaimed, hrefused, hholds, hsettling, hdispatch, hshutdown, hsettles, hreleases,
      hcompleting, hcompleted, hcancelled, hunset⟩ := h
    constructor <;> simp only [Machine.dispatchAt] <;> grind
  | busy work hpoint hslot =>
    obtain ⟨hunqueued, hpending, hclaimed, hrefused, hholds, hsettling, hdispatch, hshutdown, hsettles, hreleases,
      hcompleting, hcompleted, hcancelled, hunset⟩ := h
    constructor <;> simp only [Machine.dispatchAt] <;> grind
  | execute hpoint =>
    refine h.executeAt ?_ (fun work hstate => ?_) ?_ ?_ ?_ fun work _ hheld => ?_
    · simp [ExecutePoint.work]
    · rw [h.claimed work hstate] at hpoint
      cases hpoint
    · simp
    · simp [ExecutePoint.Holds]
    · simp
    · rw [hpoint] at hheld
      cases hheld
  | failPending call code hpoint =>
    refine h.failPendingAt ?_ ?_ ?_ ?_ ?_ fun work _ hheld => ?_
    · simp [FailPendingPoint.work]
    · simp [FailPendingPoint.Cancels]
    · simp [FailPendingPoint.Settles]
    · simp
    · simp
    · rw [hpoint] at hheld
      cases hheld

theorem FailsPending.consistent {call : Shutdown} (h : Consistent m) (hstep : FailsPending items m call m') :
    Consistent m' := by
  have hkept {point next : FailPendingPoint Work} (hpoint : m.failPending call = point) (hwork : next.work = point.work)
      (work : Work) (hnext : next.work = some work) : ¬ (m.dispatch work).Unqueued :=
    h.queued_of_failPending (by rw [hpoint, ← hwork]; exact hnext)
  cases hstep with
  | foundNothing code hpoint hslot =>
    exact h.failPendingAt (by simp [FailPendingPoint.work]) (by simp [FailPendingPoint.Cancels])
      (by simp [FailPendingPoint.Settles]) (by simp) (by simp)
      fun work _ hheld => by rw [hpoint] at hheld; cases hheld
  | found work code hpoint hslot =>
    refine h.failPendingAt (fun other hother => ?_) (by simp [FailPendingPoint.Cancels])
      (by simp [FailPendingPoint.Settles]) (by simp) (by simp)
      fun other _ hheld => by rw [hpoint] at hheld; cases hheld
    rw [← Option.some.inj hother]
    exact h.queued_of_occupied hslot
  | cancelled work code hpoint hstate =>
    have hqueued := @Consistent.queued_of_failPending _ _ _ _ h work call (by rw [hpoint]; rfl)
    obtain ⟨hwaits, hslot⟩ := h.waits hqueued hstate
    obtain ⟨hunqueued, hpending, hclaimed, hrefused, hholds, hsettling, hdispatch, hshutdown, hsettles, hreleases,
      hcompleting, hcompleted, hcancelled, hunset⟩ := h
    constructor
    case cancelled =>
      intro other hother _
      refine .inr ⟨call, ?_⟩
      rw [Machine.failPendingAt_failPending, if_pos rfl]
      exact Option.some.inj (hslot.symm.trans hother)
    all_goals
      simp only [Machine.failPendingAt, Machine.mark]
      grind
  | notCancelled work code hpoint hstate =>
    exact h.failPendingAt (hkept hpoint rfl) (by simp [FailPendingPoint.Cancels])
      (by simp [FailPendingPoint.Settles]) (by simp) (by simp)
      fun other _ hheld => by rw [hpoint] at hheld; cases hheld
  | setCancelled work code hpoint =>
    have hstate := h.shutdownCancels call work (by rw [hpoint]; rfl)
    refine (h.trySetResult (by simp [hstate]) (by simp [hstate])).failPendingAt (hkept hpoint rfl)
      (fun other hother => ?_) (by simp [FailPendingPoint.Settles]) (by simp) (by simp) fun other _ hheld => ?_
    · rw [← show work = other from hother]
      exact hstate
    · rw [show (m.trySetResult work (.shutdown call) (CancelledKnown (items work).phase code)).failPending
        = m.failPending from rfl, hpoint] at hheld
      exact hheld
  | cleared work hpoint =>
    have hstate := h.shutdownCancels call work (by rw [hpoint]; rfl)
    refine (h.clear (by simp [hstate])).failPendingAt (by simp [FailPendingPoint.work])
      (by simp [FailPendingPoint.Cancels]) (by simp [FailPendingPoint.Settles]) (by simp) (by simp)
      fun other hslot hheld => ?_
    rw [show (m.clear work).failPending = m.failPending from rfl, hpoint] at hheld
    rw [Machine.clear_occupied, ← show work = other from hheld] at hslot
    split at hslot
    · cases hslot
    · next hother => exact absurd hslot hother
  | isClaimed work code hpoint hstate =>
    refine h.failPendingAt (hkept hpoint rfl) (by simp [FailPendingPoint.Cancels])
      (by simp [FailPendingPoint.Settles]) (by simp) (fun other code hother => ?_)
      fun other _ hheld => by rw [hpoint] at hheld; cases hheld
    rw [← (FailPendingPoint.completing.inj hother).1, hstate]
    simp
  | isNotClaimed work code hpoint hstate =>
    exact h.failPendingAt (by simp [FailPendingPoint.work]) (by simp [FailPendingPoint.Cancels])
      (by simp [FailPendingPoint.Settles]) (by simp) (by simp)
      fun other _ hheld => by rw [hpoint] at hheld; cases hheld
  | completed work code hpoint hstate =>
    refine (h.markCompleted hstate).failPendingAt (hkept hpoint rfl) (by simp [FailPendingPoint.Cancels])
      (fun other hother => ?_) (by simp) (by simp) fun other _ hheld => ?_
    · rw [← show work = other from hother, Machine.mark_state, if_pos rfl]
    · rw [show (m.mark work .completed).failPending = m.failPending from rfl, hpoint] at hheld
      cases hheld
  | alreadyCompleted work code hpoint hstate =>
    refine h.failPendingAt (hkept hpoint rfl) (by simp [FailPendingPoint.Cancels])
      (by simp [FailPendingPoint.Settles]) (fun other hother => ?_) (by simp)
      fun other _ hheld => by rw [hpoint] at hheld; cases hheld
    rw [← FailPendingPoint.releasing.inj hother]
    exact h.shutdownRefused call work code hpoint
  | setUnknown work code hpoint =>
    have hstate := h.shutdownSettles call work (by rw [hpoint]; rfl)
    refine (h.trySetResult (by simp [hstate]) (by simp [hstate])).failPendingAt (hkept hpoint rfl)
      (by simp [FailPendingPoint.Cancels]) (by simp [FailPendingPoint.Settles]) (fun other hother => ?_) (by simp)
      fun other _ hheld => ?_
    · rw [← FailPendingPoint.releasing.inj hother]
      simp [Machine.trySetResult, hstate]
    · rw [show (m.trySetResult work (.shutdown call) (Unknown (items work).phase code)).failPending
        = m.failPending from rfl, hpoint] at hheld
      cases hheld
  | released work hpoint =>
    refine (h.clear (h.shutdownReleases call work hpoint)).failPendingAt (by simp [FailPendingPoint.work])
      (by simp [FailPendingPoint.Cancels]) (by simp [FailPendingPoint.Settles]) (by simp) (by simp)
      fun other _ hheld => ?_
    rw [show (m.clear work).failPending = m.failPending from rfl, hpoint] at hheld
    cases hheld

theorem Step.consistent (h : Consistent m) (hstep : Step items m m') : Consistent m' := by
  cases hstep with
  | starts hstep => exact hstep.consistent h
  | continues hstep =>
    cases hstep with
    | dispatch work hstep => exact hstep.consistent h
    | execute hstep => exact hstep.consistent h
    | failPending call hstep => exact hstep.consistent h

theorem Reachable.consistent (h : Reachable items m) : Consistent m := by
  induction h with
  | refl => exact consistent_initial
  | tail _ hstep ih => exact hstep.consistent ih

end consistency

end revit_operator.safe_read_host
