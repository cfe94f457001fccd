import RevitOperator.SafeReadHost.ExternalEvents

open revit_operator.safe_read_host.CertifiedExecutionResult

namespace revit_operator.safe_read_host

variable {Work Shutdown Binding : Type}

section record

variable {items : Work → CertifiedExternalWorkItem Binding} {m m' : Machine Work Shutdown Binding}

/-- The party has settled the item and sets its completion next. -/
def Machine.Setting (m : Machine Work Shutdown Binding) (work : Work) : Party Shutdown → Prop
  | .dispatcher => ∃ code, m.dispatch work = .cancelled code
  | .handler => ∃ result, m.execute = .settling work result
  | .shutdown call => ∃ code, m.failPending call = .cancelled work code ∨ m.failPending call = .settling work code

/-- A result an item may have in its state: a cancelled item is known not to
    have run; a completed one has the result of the handler, or an unknown
    one. -/
def Settled (item : CertifiedExternalWorkItem Binding) (state : WorkState) (party : Party Shutdown)
    (result : CertifiedExecutionResult Binding) : Prop :=
  (state = .cancelled ∧ ∃ code, result = CancelledKnown item.phase code)
    ∨ (state = .completed ∧ ((party = .handler ∧ HandlerResult item result) ∨ ∃ code, result = Unknown item.phase code))

/-- What is recorded about claims, completions and reports. -/
structure Recorded (items : Work → CertifiedExternalWorkItem Binding) (m : Machine Work Shutdown Binding) : Prop where
  claims : ∀ work, m.claims work = if m.state work = .claimed ∨ m.state work = .completed then 1 else 0
  once : ∀ work, (m.completion work).length ≤ 1
  setting : ∀ work party, m.Setting work party → m.completion work = []
  settingUnique : ∀ work party other, m.Setting work party → m.Setting work other → party = other
  settled : ∀ work party result, (party, result) ∈ m.completion work → Settled (items work) (m.state work) party result
  handler : ∀ work result, m.execute = .settling work result → HandlerResult (items work) result
  reported : ∀ work result, m.dispatch work = .returned result →
    (∃ party, (party, result) ∈ m.completion work)
      ∨ (∃ code, result = Unknown (items work).phase code)
      ∨ m.state work = .cancelled ∧ ∃ code, result = CancelledKnown (items work).phase code

theorem recorded_initial : Recorded items (Machine.initial : Machine Work Shutdown Binding) := by
  constructor
  case setting => exact fun _ _ _ => rfl
  case settingUnique =>
    intro work party _ hparty
    cases party <;> simp [Machine.Setting, Machine.initial] at hparty
  all_goals simp [Machine.initial]

variable {party : Party Shutdown} {work : Work}

theorem Consistent.settled_of_setting (h : Consistent m)
    (hsetting : m.Setting work party) : m.state work = .cancelled ∨ m.state work = .completed := by
  cases party with
  | dispatcher =>
    obtain ⟨code, hpoint⟩ := hsetting
    exact .inl (h.dispatchCancels work (by rw [hpoint]; trivial))
  | handler =>
    obtain ⟨result, hpoint⟩ := hsetting
    exact .inr (h.settling work result hpoint)
  | shutdown call =>
    obtain ⟨code, hpoint | hpoint⟩ := hsetting
    · exact .inl (h.shutdownCancels call work (by rw [hpoint]; rfl))
    · exact .inr (h.shutdownSettles call work (by rw [hpoint]; rfl))

theorem Recorded.frame (h : Recorded items m) (hstate : m'.state = m.state) (hcompletion : m'.completion = m.completion)
    (hclaims : m'.claims = m.claims) (hsetting : ∀ work party, m'.Setting work party → m.Setting work party)
    (hreported : ∀ work result, m'.dispatch work = .returned result → m.dispatch work = .returned result
      ∨ (∃ party, (party, result) ∈ m.completion work) ∨ (∃ code, result = Unknown (items work).phase code)
      ∨ m.state work = .cancelled ∧ ∃ code, result = CancelledKnown (items work).phase code)
    (hhandler : ∀ work result, m'.execute = .settling work result → m.execute = .settling work result) :
    Recorded items m' where
  claims work := by rw [hclaims, hstate]; exact h.claims work
  once work := by rw [hcompletion]; exact h.once work
  setting work party hparty := by rw [hcompletion]; exact h.setting work party (hsetting work party hparty)
  settingUnique work party other hparty hother :=
    h.settingUnique work party other (hsetting work party hparty) (hsetting work other hother)
  settled work party result hmem := by
    rw [hcompletion] at hmem
    rw [hstate]
    exact h.settled work party result hmem
  handler work result hpoint := h.handler work result (hhandler work result hpoint)
  reported work result hpoint := by
    rw [hcompletion, hstate]
    exact (hreported work result hpoint).elim (h.reported work result) id

theorem setting_executeAt {point : ExecutePoint Work Binding}
    (hpoint : ∀ work result, point ≠ .settling work result) (hsetting : (m.executeAt point).Setting work party) :
    m.Setting work party ∧ party ≠ .handler := by
  cases party with
  | dispatcher => exact ⟨hsetting, by simp⟩
  | handler =>
    obtain ⟨result, hnext⟩ := hsetting
    exact absurd hnext (hpoint work result)
  | shutdown call => exact ⟨hsetting, by simp⟩

variable {call : Shutdown}

theorem setting_failPendingAt [DecidableEq Shutdown] {point : FailPendingPoint Work}
    (hpoint : ∀ work code, point ≠ .cancelled work code ∧ point ≠ .settling work code)
    (hsetting : (m.failPendingAt call point).Setting work party) :
    m.Setting work party ∧ party ≠ .shutdown call := by
  cases party with
  | dispatcher => exact ⟨hsetting, by simp⟩
  | handler => exact ⟨hsetting, by simp⟩
  | shutdown other =>
    obtain ⟨code, hnext⟩ := hsetting
    rw [Machine.failPendingAt_failPending] at hnext
    split at hnext
    · exact absurd hnext (not_or.2 (hpoint work code))
    · next hother => exact ⟨⟨code, hnext⟩, fun hsame => hother (Party.shutdown.inj hsame)⟩

theorem Recorded.executeAt (h : Recorded items m) {point : ExecutePoint Work Binding}
    (hpoint : ∀ work result, point ≠ .settling work result) : Recorded items (m.executeAt point) :=
  h.frame rfl rfl rfl (fun _ _ hsetting => (setting_executeAt hpoint hsetting).1) (fun _ _ hreturned => .inl hreturned)
    fun work result hsettling => absurd hsettling (hpoint work result)

theorem Recorded.failPendingAt [DecidableEq Shutdown] (h : Recorded items m)
    {point : FailPendingPoint Work}
    (hpoint : ∀ work code, point ≠ .cancelled work code ∧ point ≠ .settling work code) :
    Recorded items (m.failPendingAt call point) :=
  h.frame rfl rfl rfl (fun _ _ hsetting => (setting_failPendingAt hpoint hsetting).1)
    (fun _ _ hreturned => .inl hreturned) fun _ _ hsettling => hsettling

variable [DecidableEq Work]

/-- A step that settles an item: the party that settles it sets its completion
    next. -/
theorem Recorded.settle (h : Recorded items m) (hconsistent : Consistent m) (party : Party Shutdown)
    {state : WorkState} (hsettles : m.state work = .pending ∧ state = .cancelled ∨ m.state work = .claimed ∧ state = .completed)
    (hstate : m'.state = (m.mark work state).state) (hcompletion : m'.completion = m.completion)
    (hclaims : m'.claims = m.claims)
    (hsetting : ∀ other by', m'.Setting other by' → m.Setting other by' ∨ other = work ∧ by' = party)
    (hreported : ∀ other result, m'.dispatch other = .returned result → m.dispatch other = .returned result)
    (hhandler : ∀ other result, m'.execute = .settling other result → HandlerResult (items other) result) :
    Recorded items m' := by
  have hunset : m.completion work = [] :=
    hconsistent.unset work (hsettles.imp And.left And.left)
  have hnot (by' : Party Shutdown) : ¬ m.Setting work by' := fun hparty => by
    rcases hconsistent.settled_of_setting hparty with hsettled | hsettled <;>
      rcases hsettles with ⟨hbefore, _⟩ | ⟨hbefore, _⟩ <;> simp [hbefore] at hsettled
  have hother {other : Work} (hne : other ≠ work) : m'.state other = m.state other := by
    rw [hstate, Machine.mark_state, if_neg hne]
  have hself : m'.state work = state := by rw [hstate, Machine.mark_state, if_pos rfl]
  constructor
  case claims =>
    intro other
    rw [hclaims, h.claims]
    by_cases hwork : other = work
    · subst hwork
      rcases hsettles with ⟨hbefore, rfl⟩ | ⟨hbefore, rfl⟩ <;> simp [hbefore, hself]
    · rw [hother hwork]
  case once => exact fun other => hcompletion ▸ h.once other
  case setting =>
    intro other by' hparty
    rw [hcompletion]
    rcases hsetting other by' hparty with hold | ⟨rfl, _⟩
    · exact h.setting other by' hold
    · exact hunset
  case settingUnique =>
    intro other first second hfirst hsecond
    rcases hsetting other first hfirst with hold | ⟨rfl, rfl⟩ <;>
      rcases hsetting other second hsecond with hold' | ⟨hwork, rfl⟩
    · exact h.settingUnique other first second hold hold'
    · exact absurd (hwork ▸ hold) (hnot first)
    · exact absurd hold' (hnot second)
    · rfl
  case settled =>
    intro other by' result hmem
    rw [hcompletion] at hmem
    have hwork : other ≠ work := by
      rintro rfl
      rw [hunset] at hmem
      cases hmem
    rw [hother hwork]
    exact h.settled other by' result hmem
  case handler => exact hhandler
  case reported =>
    intro other result hpoint
    rw [hcompletion]
    rcases h.reported other result (hreported other result hpoint) with hmem | hunknown | ⟨hcancelled, hknown⟩
    · exact .inl hmem
    · exact .inr (.inl hunknown)
    · refine .inr (.inr ⟨?_, hknown⟩)
      by_cases hwork : other = work
      · subst hwork
        rcases hsettles with ⟨hbefore, _⟩ | ⟨hbefore, _⟩ <;> simp [hbefore] at hcancelled
      · rwa [hother hwork]

variable {result : CertifiedExecutionResult Binding}

theorem Recorded.set (h : Recorded items m) (party : Party Shutdown) (hsetter : m.Setting work party)
    (hresult : Settled (items work) (m.state work) party result) (hstate : m'.state = m.state)
    (hcompletion : m'.completion = (m.trySetResult work party result).completion) (hclaims : m'.claims = m.claims)
    (hsetting : ∀ other by', m'.Setting other by' → m.Setting other by' ∧ ¬ (other = work ∧ by' = party))
    (hreported : ∀ other result, m'.dispatch other = .returned result → m.dispatch other = .returned result)
    (hhandler : ∀ other result, m'.execute = .settling other result → m.execute = .settling other result) :
    Recorded items m' := by
  have hempty := h.setting work party hsetter
  have hself : m'.completion work = [(party, result)] := by
    rw [hcompletion, Machine.trySetResult_completion, if_pos rfl, hempty, List.nil_append]
  have hother {other : Work} (hne : other ≠ work) : m'.completion other = m.completion other := by
    rw [hcompletion, Machine.trySetResult_completion, if_neg hne]
  constructor
  case claims => exact fun other => by rw [hclaims, hstate]; exact h.claims other
  case once =>
    intro other
    by_cases hwork : other = work
    · simp [hwork, hself]
    · rw [hother hwork]
      exact h.once other
  case setting =>
    intro other by' hparty
    obtain ⟨hold, hne⟩ := hsetting other by' hparty
    have hwork : other ≠ work := fun hwork =>
      hne ⟨hwork, h.settingUnique work by' party (hwork ▸ hold) hsetter⟩
    rw [hother hwork]
    exact h.setting other by' hold
  case settingUnique =>
    exact fun other first second hfirst hsecond =>
      h.settingUnique other first second (hsetting other first hfirst).1 (hsetting other second hsecond).1
  case settled =>
    intro other by' given hmem
    rw [hstate]
    by_cases hwork : other = work
    · subst hwork
      rw [hself, List.mem_singleton, Prod.mk.injEq] at hmem
      obtain ⟨rfl, rfl⟩ := hmem
      exact hresult
    · rw [hother hwork] at hmem
      exact h.settled other by' given hmem
  case handler => exact fun other given hpoint => h.handler other given (hhandler other given hpoint)
  case reported =>
    intro other given hpoint
    rw [hstate]
    rcases h.reported other given (hreported other given hpoint) with ⟨by', hmem⟩ | hrest
    · refine .inl ⟨by', ?_⟩
      by_cases hwork : other = work
      · rw [hwork, hempty] at hmem
        cases hmem
      · rwa [hother hwork]
    · exact .inr hrest

/-- A call of `DispatchAsync` that goes on without cancelling sets no
    completion. -/
theorem setting_dispatchAt {other : Work} {point : DispatchPoint Binding}
    (hpoint : ∀ code, point ≠ .cancelled code) (hsetting : (m.dispatchAt work point).Setting other party) :
    m.Setting other party ∧ ¬ (other = work ∧ party = .dispatcher) := by
  cases party with
  | dispatcher =>
    obtain ⟨code, hnext⟩ := hsetting
    rw [Machine.dispatchAt_dispatch] at hnext
    split at hnext
    · exact absurd hnext (hpoint code)
    · next hother => exact ⟨⟨code, hnext⟩, fun hsame => hother hsame.1⟩
  | handler => exact ⟨hsetting, by simp⟩
  | shutdown call => exact ⟨hsetting, by simp⟩

theorem returned_dispatchAt {other : Work} {point : DispatchPoint Binding}
    (h : (m.dispatchAt work point).dispatch other = .returned result) :
    m.dispatch other = .returned result ∨ other = work ∧ point = .returned result := by
  rw [Machine.dispatchAt_dispatch] at h
  split at h
  · next hother => exact .inr ⟨hother, h⟩
  · exact .inl h

theorem Recorded.dispatchAt (h : Recorded items m) {point : DispatchPoint Binding}
    (hcancelled : ∀ code, point ≠ .cancelled code)
    (hreturned : ∀ result, point = .returned result → (∃ party, (party, result) ∈ m.completion work)
      ∨ (∃ code, result = Unknown (items work).phase code)
      ∨ m.state work = .cancelled ∧ ∃ code, result = CancelledKnown (items work).phase code) :
    Recorded items (m.dispatchAt work point) := by
  refine h.frame rfl rfl rfl (fun _ _ hsetting => (setting_dispatchAt hcancelled hsetting).1)
    (fun other result hpoint => ?_) fun _ _ hpoint => hpoint
  rcases returned_dispatchAt hpoint with hold | ⟨rfl, hnew⟩
  · exact .inl hold
  · exact .inr (hreturned result hnew)

theorem Recorded.clear (h : Recorded items m) (work : Work) : Recorded items (m.clear work) := by
  refine h.frame rfl rfl rfl (fun other party hsetting => ?_) (fun _ _ hpoint => .inl hpoint) fun _ _ hpoint => hpoint
  cases party <;> exact hsetting

theorem Dispatches.recorded (hconsistent : Consistent m) (h : Recorded items m)
    (hstep : Dispatches items m work m') : Recorded items m' := by
  cases hstep with
  | raised hpoint => exact h.dispatchAt (by simp) (by simp)
  | raiseRefused hpoint => exact h.dispatchAt (by simp) (by simp)
  | awaited hpoint party result hset =>
    refine h.dispatchAt (by simp) fun other hother => ?_
    cases hother
    exact .inl ⟨party, List.mem_of_mem_head? hset⟩
  | deadline hpoint => exact h.dispatchAt (by simp) (by simp)
  | foreignSlot code hpoint hslot =>
    refine h.dispatchAt (by simp) fun other hother => ?_
    cases hother
    exact .inr (.inl ⟨code, rfl⟩)
  | ownSlot code hpoint hslot => exact h.dispatchAt (by simp) (by simp)
  | cancelled code hpoint hstate =>
    refine h.settle hconsistent .dispatcher (.inl ⟨hstate, rfl⟩) rfl rfl rfl (fun other party hsetting => ?_)
      (fun other result hreturned => ?_) h.handler
    · cases party with
      | dispatcher =>
        obtain ⟨given, hnext⟩ := hsetting
        rw [Machine.dispatchAt_dispatch] at hnext
        split at hnext
        · next hother => exact .inr ⟨hother, rfl⟩
        · exact .inl ⟨given, hnext⟩
      | handler => exact .inl hsetting
      | shutdown call => exact .inl hsetting
    · rcases returned_dispatchAt hreturned with hold | ⟨_, hnew⟩
      · exact hold
      · cases hnew
  | notCancelled code hpoint hstate =>
    refine h.dispatchAt (by simp) fun other hother => ?_
    cases hother
    exact .inr (.inl ⟨code, rfl⟩)
  | setResult code hpoint =>
    have hstate := hconsistent.dispatchCancels work (by rw [hpoint]; trivial)
    refine h.set .dispatcher ⟨code, hpoint⟩ (.inl ⟨hstate, code, rfl⟩) rfl rfl rfl
      (fun other party hsetting => ?_) (fun other result hreturned => ?_) fun _ _ hsettling => hsettling
    · obtain ⟨hold, hne⟩ := setting_dispatchAt (by simp) hsetting
      refine ⟨?_, hne⟩
      cases party <;> exact hold
    · rcases returned_dispatchAt hreturned with hold | ⟨_, hnew⟩
      · exact hold
      · cases hnew
  | cleared code hpoint =>
    have hstate := hconsistent.dispatchCancels work (by rw [hpoint]; trivial)
    refine (h.clear work).dispatchAt (by simp) fun other hother => ?_
    cases hother
    exact .inr (.inr ⟨hstate, code, rfl⟩)

theorem Executes.recorded (hconsistent : Consistent m) (h : Recorded items m) (hstep : Executes items m m') :
    Recorded items m' := by
  cases hstep with
  | foundNothing hpoint hslot => exact h.executeAt (by simp)
  | found work hpoint hslot => exact h.executeAt (by simp)
  | claimed work hpoint hstate =>
    have hother {other : Work} (hne : other ≠ work) : (m.claim work).state other = m.state other := by
      rw [show (m.claim work).state = (m.mark work .claimed).state from rfl, Machine.mark_state, if_neg hne]
    have hself : (m.claim work).state work = .claimed := by
      rw [show (m.claim work).state = (m.mark work .claimed).state from rfl, Machine.mark_state, if_pos rfl]
    have hunset := hconsistent.unset work (.inl hstate)
    have hsetting {other : Work} {party : Party Shutdown}
        (hparty : ((m.claim work).executeAt (.running work)).Setting other party) : m.Setting other party := by
      have hold := (setting_executeAt (by simp) hparty).1
      cases party <;> exact hold
    constructor
    case claims =>
      intro other
      rw [show ((m.claim work).executeAt (.running work)).claims other
        = Function.update m.claims work (m.claims work + 1) other from rfl,
        show ((m.claim work).executeAt (.running work)).state = (m.claim work).state from rfl]
      by_cases hwork : other = work
      · subst hwork
        rw [Function.update_self, h.claims, hstate, hself]
        simp
      · rw [Function.update_of_ne hwork, h.claims, hother hwork]
    case once => exact h.once
    case setting => exact fun other party hparty => h.setting other party (hsetting hparty)
    case settingUnique =>
      exact fun other first second hfirst hsecond =>
        h.settingUnique other first second (hsetting hfirst) (hsetting hsecond)
    case settled =>
      intro other party result hmem
      have hwork : other ≠ work := by
        rintro rfl
        rw [show ((m.claim other).executeAt (.running other)).completion = m.completion from rfl, hunset] at hmem
        cases hmem
      rw [show ((m.claim work).executeAt (.running work)).state = (m.claim work).state from rfl, hother hwork]
      exact h.settled other party result hmem
    case handler => exact fun _ _ hsettling => by cases hsettling
    case reported =>
      intro other result hreturned
      rcases h.reported other result hreturned with hmem | hunknown | ⟨hcancelled, hknown⟩
      · exact .inl hmem
      · exact .inr (.inl hunknown)
      · refine .inr (.inr ⟨?_, hknown⟩)
        have hwork : other ≠ work := by
          rintro rfl
          simp [hstate] at hcancelled
        rw [show ((m.claim work).executeAt (.running work)).state = (m.claim work).state from rfl, hother hwork]
        exact hcancelled
  | notClaimed work hpoint hstate => exact h.executeAt (by simp)
  | dropped work hpoint => exact (h.clear work).executeAt (by simp)
  | completed work result hpoint hresult hstate =>
    refine h.settle hconsistent .handler (.inr ⟨hstate, rfl⟩) rfl rfl rfl (fun other party hsetting => ?_)
      (fun _ _ hreturned => hreturned) fun other given hsettling => ?_
    · cases party with
      | dispatcher => exact .inl hsetting
      | handler =>
        obtain ⟨given, hnext⟩ := hsetting
        exact .inr ⟨(ExecutePoint.settling.inj hnext).1.symm, rfl⟩
      | shutdown call => exact .inl hsetting
    · obtain ⟨rfl, rfl⟩ := ExecutePoint.settling.inj hsettling
      exact hresult
  | alreadyCompleted work hpoint hstate => exact h.executeAt (by simp)
  | setResult work result hpoint =>
    have hstate := hconsistent.settling work result hpoint
    refine h.set .handler ⟨result, hpoint⟩ (.inr ⟨hstate, .inl ⟨rfl, h.handler work result hpoint⟩⟩) rfl rfl
      rfl (fun other party hsetting => ?_) (fun _ _ hreturned => hreturned) fun _ _ hsettling => by cases hsettling
    obtain ⟨hold, hne⟩ := setting_executeAt (by simp) hsetting
    refine ⟨?_, fun hsame => hne hsame.2⟩
    cases party <;> exact hold
  | released work hpoint => exact (h.clear work).executeAt (by simp)

theorem FailsPending.recorded [DecidableEq Shutdown] (hconsistent : Consistent m)
    (h : Recorded items m) (hstep : FailsPending items m call m') : Recorded items m' := by
  have hgrows {point : FailPendingPoint Work} {work other : Work} {party : Party Shutdown} {state : WorkState}
      {code : CertifiedFailureCode} (hpoint : point = .cancelled work code ∨ point = .settling work code)
      (hsetting : ((m.mark work state).failPendingAt call point).Setting other party) :
      m.Setting other party ∨ other = work ∧ party = .shutdown call := by
    cases party with
    | dispatcher => exact .inl hsetting
    | handler => exact .inl hsetting
    | shutdown caller =>
      obtain ⟨given, hnext⟩ := hsetting
      rw [Machine.failPendingAt_failPending] at hnext
      split at hnext
      · next hcaller =>
        rw [hcaller]
        rcases hpoint with rfl | rfl <;> simp at hnext <;> exact .inr ⟨hnext.1.symm, rfl⟩
      · exact .inl ⟨given, hnext⟩
  cases hstep with
  | foundNothing code hpoint hslot => exact h.failPendingAt (by simp)
  | found work code hpoint hslot => exact h.failPendingAt (by simp)
  | cancelled work code hpoint hstate =>
    exact h.settle hconsistent (.shutdown call) (.inl ⟨hstate, rfl⟩) rfl rfl rfl
      (fun _ _ hsetting => hgrows (.inl rfl) hsetting) (fun _ _ hreturned => hreturned) h.handler
  | notCancelled work code hpoint hstate => exact h.failPendingAt (by simp)
  | setCancelled work code hpoint =>
    have hstate := hconsistent.shutdownCancels call work (by rw [hpoint]; rfl)
    refine h.set (.shutdown call) ⟨code, .inl hpoint⟩ (.inl ⟨hstate, code, rfl⟩) rfl rfl rfl
      (fun other party hsetting => ?_) (fun _ _ hreturned => hreturned) fun _ _ hsettling => hsettling
    obtain ⟨hold, hne⟩ := setting_failPendingAt (by simp) hsetting
    refine ⟨?_, fun hsame => hne hsame.2⟩
    cases party <;> exact hold
  | cleared work hpoint => exact (h.clear work).failPendingAt (by simp)
  | isClaimed work code hpoint hstate => exact h.failPendingAt (by simp)
  | isNotClaimed work code hpoint hstate => exact h.failPendingAt (by simp)
  | completed work code hpoint hstate =>
    exact h.settle hconsistent (.shutdown call) (.inr ⟨hstate, rfl⟩) rfl rfl rfl
      (fun _ _ hsetting => hgrows (.inr rfl) hsetting) (fun _ _ hreturned => hreturned) h.handler
  | alreadyCompleted work code hpoint hstate => exact h.failPendingAt (by simp)
  | setUnknown work code hpoint =>
    have hstate := hconsistent.shutdownSettles call work (by rw [hpoint]; rfl)
    refine h.set (.shutdown call) ⟨code, .inr hpoint⟩ (.inr ⟨hstate, .inr ⟨code, rfl⟩⟩) rfl rfl rfl
      (fun other party hsetting => ?_) (fun _ _ hreturned => hreturned) fun _ _ hsettling => hsettling
    obtain ⟨hold, hne⟩ := setting_failPendingAt (by simp) hsetting
    refine ⟨?_, fun hsame => hne hsame.2⟩
    cases party <;> exact hold
  | released work hpoint => exact (h.clear work).failPendingAt (by simp)

variable [DecidableEq Shutdown]

theorem Starts.recorded (h : Recorded items m) (hstep : Starts m m') : Recorded items m' := by
  cases hstep with
  | queue work hpoint hslot =>
    have hslotted : Recorded items { m with occupied := some work } := by
      refine h.frame rfl rfl rfl (fun other party hsetting => ?_) (fun _ _ hreturned => .inl hreturned)
        fun _ _ hsettling => hsettling
      cases party <;> exact hsetting
    exact hslotted.dispatchAt (by simp) (by simp)
  | busy work hpoint hslot => exact h.dispatchAt (by simp) (by simp)
  | execute hpoint => exact h.executeAt (by simp)
  | failPending call code hpoint => exact h.failPendingAt (by simp)

theorem Step.recorded (hconsistent : Consistent m) (h : Recorded items m) (hstep : Step items m m') :
    Recorded items m' := by
  cases hstep with
  | starts hstep => exact hstep.recorded h
  | continues hstep =>
    cases hstep with
    | dispatch work hstep => exact hstep.recorded hconsistent h
    | execute hstep => exact hstep.recorded hconsistent h
    | failPending call hstep => exact hstep.recorded hconsistent h

theorem Reachable.recorded (h : Reachable items m) : Recorded items m := by
  induction h with
  | refl => exact recorded_initial
  | tail hreach hstep ih => exact hstep.recorded (Reachable.consistent hreach) ih

end record

section handoff

variable [DecidableEq Work] [DecidableEq Shutdown] {items : Work → CertifiedExternalWorkItem Binding}
  {m m' : Machine Work Shutdown Binding}

theorem Step.reported
    (h : m.reported items work = some result) (hstep : Step items m m') : m'.reported items work = some result := by
  have hdone : ∀ other point, (m.dispatchAt other point).dispatch work = m.dispatch work ∨ other = work := by
    intro other point
    rw [Machine.dispatchAt_dispatch]
    split
    · next hwork => exact .inr hwork.symm
    · exact .inl rfl
  have hmoves {other : Work} {point : DispatchPoint Binding} (hpoint : m.dispatch other = point)
      (hnone : point = .notCalled ∨ point.Waits ∨ point.Cancels) : other ≠ work := by
    rintro rfl
    rw [Machine.reported, hpoint] at h
    cases point <;> simp [DispatchPoint.Waits, DispatchPoint.Cancels] at h hnone
  have hkept : m'.dispatch work = m.dispatch work := by
    cases hstep with
    | starts hstep =>
      cases hstep with
      | queue other hpoint hslot => exact (hdone other _).resolve_right (hmoves hpoint (.inl rfl))
      | busy other hpoint hslot => exact (hdone other _).resolve_right (hmoves hpoint (.inl rfl))
      | execute hpoint => rfl
      | failPending call code hpoint => rfl
    | continues hstep =>
      cases hstep with
      | dispatch other hstep =>
        cases hstep with
        | raised hpoint => exact (hdone other _).resolve_right (hmoves hpoint (.inr (.inl trivial)))
        | raiseRefused hpoint => exact (hdone other _).resolve_right (hmoves hpoint (.inr (.inl trivial)))
        | awaited hpoint party given hset => exact (hdone other _).resolve_right (hmoves hpoint (.inr (.inl trivial)))
        | deadline hpoint => exact (hdone other _).resolve_right (hmoves hpoint (.inr (.inl trivial)))
        | foreignSlot code hpoint hslot => exact (hdone other _).resolve_right (hmoves hpoint (.inr (.inl trivial)))
        | ownSlot code hpoint hslot => exact (hdone other _).resolve_right (hmoves hpoint (.inr (.inl trivial)))
        | cancelled code hpoint hstate => exact (hdone other _).resolve_right (hmoves hpoint (.inr (.inl trivial)))
        | notCancelled code hpoint hstate => exact (hdone other _).resolve_right (hmoves hpoint (.inr (.inl trivial)))
        | setResult code hpoint => exact (hdone other _).resolve_right (hmoves hpoint (.inr (.inr trivial)))
        | cleared code hpoint => exact (hdone other _).resolve_right (hmoves hpoint (.inr (.inr trivial)))
      | execute hstep => cases hstep <;> rfl
      | failPending call hstep => cases hstep <;> rfl
  rw [Machine.reported, hkept]
  exact h

theorem Reachable.not_dispatched (h : Reachable items m)
    (hreported : m.reported items work = some result) (hnot : result.requestDispatched = false) :
    m.claims work = 0 := by
  have hrecorded := h.recorded
  have hcount := hrecorded.claims work
  cases hpoint : m.dispatch work with
  | busy =>
    have hstate := (h.consistent.unqueued work (by rw [hpoint]; trivial)).1
    simpa [hstate] using hcount
  | returned given =>
    obtain rfl : given = result := by simpa [Machine.reported, hpoint] using hreported
    rcases hrecorded.reported work given hpoint with ⟨party, hmem⟩ | ⟨code, rfl⟩ | ⟨hstate, _⟩
    · rcases hrecorded.settled work party given hmem with ⟨hstate, _⟩ | ⟨_, ⟨_, hresult⟩ | ⟨code, rfl⟩⟩
      · simpa [hstate] using hcount
      · cases hresult <;> simp [Captured, Counted, Failure] at hnot
      · simp [Unknown] at hnot
    · simp [Unknown] at hnot
    · simpa [hstate] using hcount
  | _ => simp [Machine.reported, hpoint] at hreported

/-- An item reported as succeeded was claimed and completed by the UI
    thread. -/
theorem Reachable.succeeded (h : Reachable items m)
    (hreported : m.reported items work = some result) (hsucceeded : result.Succeeded) :
    m.claims work = 1 ∧ (Party.handler, result) ∈ m.completion work := by
  have hrecorded := h.recorded
  rw [Succeeded] at hsucceeded
  cases hpoint : m.dispatch work with
  | busy =>
    obtain rfl : Failure (items work).phase .busy false = result := by simpa [Machine.reported, hpoint] using hreported
    simp [Failure] at hsucceeded
  | returned given =>
    obtain rfl : given = result := by simpa [Machine.reported, hpoint] using hreported
    rcases hrecorded.reported work given hpoint with ⟨party, hmem⟩ | ⟨code, rfl⟩ | ⟨_, code, rfl⟩
    · rcases hrecorded.settled work party given hmem with ⟨_, code, rfl⟩ | ⟨hstate, ⟨rfl, _⟩ | ⟨code, rfl⟩⟩
      · simp [CancelledKnown] at hsucceeded
      · refine ⟨?_, hmem⟩
        rw [hrecorded.claims, hstate]
        simp
      · simp [Unknown] at hsucceeded
    · simp [Unknown] at hsucceeded
    · simp [CancelledKnown] at hsucceeded
  | _ => simp [Machine.reported, hpoint] at hreported

theorem Reachable.idle (h : Reachable items m) (hdispatch : m.DispatchesDone items) (hexecute : m.execute = .idle)
    (hshutdown : m.FailPendingDone) : m.occupied = none := by
  have hconsistent := h.consistent
  have hnot (work : Work) : ¬ (m.dispatch work).Waits ∧ ¬ (m.dispatch work).Cancels := by
    rcases hdispatch work with hpoint | hpoint
    · simp [hpoint, DispatchPoint.Waits, DispatchPoint.Cancels]
    · cases hat : m.dispatch work <;> simp_all [Machine.reported, DispatchPoint.Waits, DispatchPoint.Cancels]
  by_contra hoccupied
  obtain ⟨work, hslot⟩ := Option.ne_none_iff_exists'.1 hoccupied
  cases hstate : m.state work with
  | pending => exact (hnot work).1 (hconsistent.waits (hconsistent.queued_of_occupied hslot) hstate).1
  | claimed =>
    rw [hconsistent.claimed work hstate] at hexecute
    cases hexecute
  | completed =>
    have hheld := hconsistent.completed work hslot hstate
    rw [hexecute] at hheld
    exact hheld
  | cancelled =>
    rcases hconsistent.cancelled work hslot hstate with hcancels | ⟨call, hcancels⟩
    · exact (hnot work).2 hcancels
    · rcases hshutdown call with hpoint | hpoint <;> rw [hpoint] at hcancels <;> exact hcancels

/-- The calls in progress can go on until the slot is empty. -/
def Empties (items : Work → CertifiedExternalWorkItem Binding) (m : Machine Work Shutdown Binding) : Prop :=
  ∃ m', Relation.ReflTransGen (Continues items) m m' ∧ m'.occupied = none

theorem Empties.step (h : Empties items m') (hstep : Continues items m m') : Empties items m := by
  obtain ⟨last, hruns, hslot⟩ := h
  exact ⟨last, .head hstep hruns, hslot⟩

theorem empties_of_none (h : m.occupied = none) : Empties items m := ⟨m, .refl, h⟩

theorem empties_of_clear (hslot : m.occupied = some work)
    (hoccupied : m'.occupied = (m.clear work).occupied) : Empties items m' := by
  refine empties_of_none ?_
  rw [hoccupied, Machine.clear_occupied, if_pos hslot]

theorem empties_of_dispatchCancels (hslot : m.occupied = some work)
    (hcancels : (m.dispatch work).Cancels) : Empties items m := by
  have hclears {m : Machine Work Shutdown Binding} (code : CertifiedFailureCode) (hslot : m.occupied = some work)
      (hpoint : m.dispatch work = .clearing code) : Empties items m := by
    refine Empties.step ?_ (.dispatch work (.cleared code hpoint))
    exact empties_of_clear hslot rfl
  cases hpoint : m.dispatch work with
  | cancelled code =>
    refine Empties.step ?_ (.dispatch work (.setResult code hpoint))
    refine hclears code hslot ?_
    rw [Machine.dispatchAt_dispatch, if_pos rfl]
  | clearing code => exact hclears code hslot hpoint
  | _ => simp [hpoint, DispatchPoint.Cancels] at hcancels

theorem empties_of_shutdownCancels (hslot : m.occupied = some work)
    (hcancels : (m.failPending call).Cancels work) : Empties items m := by
  have hclears {m : Machine Work Shutdown Binding} (hslot : m.occupied = some work)
      (hpoint : m.failPending call = .clearing work) : Empties items m := by
    refine Empties.step ?_ (.failPending call (.cleared work hpoint))
    exact empties_of_clear hslot rfl
  cases hpoint : m.failPending call with
  | cancelled held code =>
    obtain rfl : held = work := by simpa [hpoint, FailPendingPoint.Cancels] using hcancels
    refine Empties.step ?_ (.failPending call (.setCancelled held code hpoint))
    refine hclears hslot ?_
    rw [Machine.failPendingAt_failPending, if_pos rfl]
  | clearing held =>
    obtain rfl : held = work := by simpa [hpoint, FailPendingPoint.Cancels] using hcancels
    exact hclears hslot hpoint
  | _ => simp [hpoint, FailPendingPoint.Cancels] at hcancels

theorem empties_of_holds (hslot : m.occupied = some work) (hheld : m.execute.Holds work) :
    Empties items m := by
  have hreleases {m : Machine Work Shutdown Binding} (hslot : m.occupied = some work)
      (hpoint : m.execute = .releasing work) : Empties items m := by
    refine Empties.step ?_ (.execute (.released work hpoint))
    exact empties_of_clear hslot rfl
  cases hpoint : m.execute with
  | running held =>
    obtain rfl : held = work := by simpa [hpoint, ExecutePoint.Holds] using hheld
    by_cases hstate : m.state held = .claimed
    · refine Empties.step ?_ (.execute (.completed held _ hpoint .threw hstate))
      refine Empties.step ?_ (.execute (.setResult held _ rfl))
      exact hreleases hslot rfl
    · refine Empties.step ?_ (.execute (.alreadyCompleted held hpoint hstate))
      exact hreleases hslot rfl
  | settling held result =>
    obtain rfl : held = work := by simpa [hpoint, ExecutePoint.Holds] using hheld
    refine Empties.step ?_ (.execute (.setResult held result hpoint))
    exact hreleases hslot rfl
  | releasing held =>
    obtain rfl : held = work := by simpa [hpoint, ExecutePoint.Holds] using hheld
    exact hreleases hslot hpoint
  | _ => simp [hpoint, ExecutePoint.Holds] at hheld

/-- A waiting call cancels its pending item at the latest when its deadline
    expires. -/
theorem empties_of_waits (hslot : m.occupied = some work) (hstate : m.state work = .pending)
    (hwaits : (m.dispatch work).Waits) : Empties items m := by
  have hmatched {m : Machine Work Shutdown Binding} (code : CertifiedFailureCode) (hslot : m.occupied = some work)
      (hstate : m.state work = .pending) (hpoint : m.dispatch work = .matched code) : Empties items m := by
    refine Empties.step ?_ (.dispatch work (.cancelled code hpoint hstate))
    refine empties_of_dispatchCancels hslot ?_
    rw [Machine.dispatchAt_dispatch, if_pos rfl]
    trivial
  have hcancelling {m : Machine Work Shutdown Binding} (code : CertifiedFailureCode) (hslot : m.occupied = some work)
      (hstate : m.state work = .pending) (hpoint : m.dispatch work = .cancelling code) : Empties items m := by
    refine Empties.step ?_ (.dispatch work (.ownSlot code hpoint hslot))
    refine hmatched code hslot hstate ?_
    rw [Machine.dispatchAt_dispatch, if_pos rfl]
  cases hpoint : m.dispatch work with
  | queued =>
    refine Empties.step ?_ (.dispatch work (.raiseRefused hpoint))
    refine hcancelling .revitUnavailable hslot hstate ?_
    rw [Machine.dispatchAt_dispatch, if_pos rfl]
  | waiting =>
    refine Empties.step ?_ (.dispatch work (.deadline hpoint))
    refine hcancelling .deadlineExceeded hslot hstate ?_
    rw [Machine.dispatchAt_dispatch, if_pos rfl]
  | cancelling code => exact hcancelling code hslot hstate hpoint
  | matched code => exact hmatched code hslot hstate hpoint
  | _ => simp [hpoint, DispatchPoint.Waits] at hwaits

theorem Reachable.empties (h : Reachable items m) : Empties items m := by
  have hconsistent := h.consistent
  cases hslot : m.occupied with
  | none => exact empties_of_none hslot
  | some work =>
    cases hstate : m.state work with
    | pending => exact empties_of_waits hslot hstate (hconsistent.waits (hconsistent.queued_of_occupied hslot) hstate).1
    | claimed =>
      refine empties_of_holds hslot ?_
      rw [hconsistent.claimed work hstate]
      rfl
    | completed => exact empties_of_holds hslot (hconsistent.completed work hslot hstate)
    | cancelled =>
      rcases hconsistent.cancelled work hslot hstate with hcancels | ⟨call, hcancels⟩
      · exact empties_of_dispatchCancels hslot hcancels
      · exact empties_of_shutdownCancels hslot hcancels

/-- The hand-off over every interleaving: completions are set once, an item
    reported as not dispatched is never claimed, a success is the UI thread's
    own, no item is claimed twice, the slot is empty when no call is in
    progress, and the calls in progress can always empty it. -/
theorem external_event_hand_off (h : Reachable items m) :
    (∀ work, (m.completion work).length ≤ 1)
      ∧ (∀ work result, m.reported items work = some result → result.requestDispatched = false →
        ∀ later, Relation.ReflTransGen (Step items) m later → later.claims work = 0)
      ∧ (∀ work result, m.reported items work = some result → result.Succeeded →
        m.claims work = 1 ∧ (Party.handler, result) ∈ m.completion work)
      ∧ (∀ work, m.claims work ≤ 1)
      ∧ (m.DispatchesDone items → m.execute = .idle → m.FailPendingDone → m.occupied = none)
      ∧ Empties items m := by
  refine ⟨h.recorded.once, fun work result hreported hnot later hlater => ?_,
    fun work result hreported hsucceeded => h.succeeded hreported hsucceeded, fun work => ?_, h.idle, h.empties⟩
  · have hstands : later.reported items work = some result := by
      induction hlater with
      | refl => exact hreported
      | tail _ hstep ih => exact hstep.reported ih
    exact Reachable.not_dispatched (h.trans hlater) hstands hnot
  · rw [h.recorded.claims]
    split <;> omega

section sample

/-- A request for the binding of a document. -/
def sampleItem (_ : Unit) : CertifiedExternalWorkItem Unit := ⟨.captureBinding, ()⟩

/-- A request is queued and waits; `FailPending` cancels it and sets its
    completion, and the call returns before the slot is cleared. -/
def cancelledByShutdown : Machine Unit Unit Unit :=
  let waiting := ({ Machine.initial with occupied := some () }.dispatchAt () .queued).dispatchAt () .waiting
  let found := (waiting.failPendingAt () (.entered .revitUnavailable)).failPendingAt () (.found () .revitUnavailable)
  let cancelled := (found.mark () .cancelled).failPendingAt () (.cancelled () .revitUnavailable)
  let settled := (cancelled.trySetResult () (.shutdown ()) (CancelledKnown .captureBinding .revitUnavailable)).failPendingAt
    () (.clearing ())
  settled.dispatchAt () (.returned (CancelledKnown .captureBinding .revitUnavailable))

private theorem reachable_cancelledByShutdown : Reachable sampleItem cancelledByShutdown := by
  refine .tail (.tail (.tail (.tail (.tail (.tail (.tail .refl (.starts (.queue () rfl rfl)))
    (.continues (.dispatch () (.raised rfl)))) (.starts (.failPending () .revitUnavailable rfl)))
    (.continues (.failPending () (.found () .revitUnavailable rfl rfl))))
    (.continues (.failPending () (.cancelled () .revitUnavailable rfl rfl))))
    (.continues (.failPending () (.setCancelled () .revitUnavailable rfl)))) ?_
  exact .continues (.dispatch () (.awaited rfl (.shutdown ()) (CancelledKnown .captureBinding .revitUnavailable) rfl))

theorem hand_off_of_cancelled_by_shutdown :
    (∀ work, (cancelledByShutdown.completion work).length ≤ 1)
      ∧ (∀ work result, cancelledByShutdown.reported sampleItem work = some result → result.requestDispatched = false →
        ∀ later, Relation.ReflTransGen (Step sampleItem) cancelledByShutdown later → later.claims work = 0)
      ∧ (∀ work result, cancelledByShutdown.reported sampleItem work = some result → result.Succeeded →
        cancelledByShutdown.claims work = 1 ∧ (Party.handler, result) ∈ cancelledByShutdown.completion work)
      ∧ (∀ work, cancelledByShutdown.claims work ≤ 1)
      ∧ (cancelledByShutdown.DispatchesDone sampleItem → cancelledByShutdown.execute = .idle →
        cancelledByShutdown.FailPendingDone → cancelledByShutdown.occupied = none)
      ∧ Empties sampleItem cancelledByShutdown :=
  external_event_hand_off reachable_cancelledByShutdown

/-- The slot can be occupied while no dispatch and no `Execute` is in
    progress: `FailPending` has not cleared it yet. -/
theorem slot_occupied_during_shutdown :
    ∃ m : Machine Unit Unit Unit, Reachable sampleItem m ∧ m.DispatchesDone sampleItem ∧ m.execute = .idle
      ∧ m.occupied ≠ none :=
  ⟨cancelledByShutdown, reachable_cancelledByShutdown, fun _ => .inr rfl, rfl, by simp [cancelledByShutdown,
    Machine.dispatchAt, Machine.failPendingAt, Machine.trySetResult, Machine.mark]⟩

end sample

end handoff

end revit_operator.safe_read_host
