import RevitOperator.AssignmentKernel.JournalBuilder
import RevitOperator.AssignmentKernel.StateHistory

open checked checked_run

namespace revit_operator.assignment_kernel

/-- Every operation and provider call in flight belongs to the current run. -/
def InFlightInCurrentRun (state : ReducerStateV2) : Prop :=
  state.Satisfies fun snapshot =>
    (∀ id operation, snapshot.operations.get? id = some operation → operation.inFlight = true →
        sameAssignmentBindingV2 operation.binding snapshot.current_binding = true)
      ∧ ∀ id call, snapshot.provider_calls.get? id = some call → call.inFlight = true →
        sameAssignmentBindingV2 call.binding snapshot.current_binding = true

/-- Two bindings share everything but the run and its generation. -/
def AssignmentBindingV2.SameScope (left right : AssignmentBindingV2) : Prop :=
  left.assignment_id = right.assignment_id ∧ left.session_id = right.session_id
    ∧ left.principal_id = right.principal_id ∧ left.document_fingerprint = right.document_fingerprint

/-- The current binding keeps its scope, and a new run advances its
    generation. -/
def RunAdvances (state : ReducerStateV2) (event : AssignmentEventV2) (next : ReducerStateV2) : Prop :=
  ∀ before after, state.snapshot = some before → next.snapshot = some after →
    before.current_binding.SameScope after.current_binding
      ∧ (event.body = .run_started →
        before.current_binding.generation < after.current_binding.generation)

/-- A recorded dispatch names an operation of the current run. -/
def DispatchesCurrentRun (state : ReducerStateV2) (event : AssignmentEventV2) : Prop :=
  ∀ id operation snapshot, event.Dispatches id → state.snapshot = some snapshot →
    snapshot.operations.get? id = some operation →
    sameAssignmentBindingV2 operation.binding snapshot.current_binding = true

section change

variable {host : JavaScriptHost} {snapshot : AssignmentSnapshotV2} {event : AssignmentEventV2}
  {id : String} {before after : OperationV2}

private theorem inFlight_of_unsettled (hunsettled : before.settlement_state ≠ .settled)
    (hfailed : before.settlement_state ≠ .observation_commit_failed) : before.inFlight = true := by
  cases hstate : before.settlement_state <;> simp_all [OperationV2.inFlight]

private theorem Changed.inFlight_or_dispatches (h : Changed host snapshot event id before after)
    (hfailed : before.settlement_state = .observation_commit_failed → before.result.isSome = true)
    (hafter : after.inFlight = true) : before.inFlight = true ∨ event.Dispatches id := by
  obtain ⟨moved, hchange, hlink⟩ := h
  have hmoved : moved.inFlight = true := by
    cases hlink with
    | unlinked => exact hafter
    | linked => exact hafter
  cases hchange with
  | kept => exact .inl hmoved
  | retained => simp [OperationV2.inFlight, retainedOperation] at hmoved
  | moved hmove =>
    cases hmove with
    | dispatch_started _ hawaits =>
      simp only [OperationV2.awaitsDispatch, Bool.and_eq_true, beq_iff_eq] at hawaits
      exact .inl (inFlight_of_unsettled (by simp [hawaits.1]) (by simp [hawaits.1]))
    | native_dispatched hbody => exact .inr (.inl hbody)
    | dispatched authority hbody => exact .inr (.inr ⟨authority, hbody⟩)
    | resulted _ _ _ _ hawaits =>
      simp only [OperationV2.awaitsResult, Bool.and_eq_true, bne_iff_ne, Option.isNone_iff_eq_none] at hawaits
      refine .inl (inFlight_of_unsettled hawaits.1 fun hstate => ?_)
      simpa [hawaits.2] using hfailed hstate
    | commit_retried => exact .inl hmoved
    | commit_failed => simp [OperationV2.inFlight, commitFailedOperation] at hmoved
    | retention_failed => simp [OperationV2.inFlight, unretainedOperation] at hmoved
    | completion_reconciled => exact .inl hmoved
    | reconciled => exact .inl hmoved

private theorem stampState_binding (previous : ProviderCallV2) (callState : ProviderCallStateV2)
    (occurredAt : String) : (stampState previous callState occurredAt).binding = previous.binding := by
  cases callState <;> rfl

private theorem ProviderEffect.binding {calls : Record ProviderCallV2}
    (h : ProviderEffect host snapshot event calls)
    (hcalls : ∀ id call, snapshot.provider_calls.get? id = some call → call.inFlight = true →
      call.binding = snapshot.current_binding) :
    ∀ id call, calls.get? id = some call → call.inFlight = true →
      call.binding = snapshot.current_binding := by
  cases h with
  | admitted => exact Record.forall_get?_set (fun _ => rfl) fun id kept _ hkept => hcalls id kept hkept
  | advanced call previous hbody hget =>
    refine Record.forall_get?_set (fun hflight => ?_) fun id kept _ hkept => hcalls id kept hkept
    exact (stampState_binding previous call.state event.occurred_at).trans
      (hcalls _ _ hget (advancedCall_inFlight hflight))
  | recorded => exact Record.forall_get?_set (fun _ => rfl) fun id kept _ hkept => hcalls id kept hkept
  | received call hbody hbinding =>
    exact Record.forall_get?_set (fun _ => hbinding) fun id kept _ hkept => hcalls id kept hkept

private theorem LedgerEffect.call_binding {next : OperationLedger} (h : LedgerEffect host snapshot event next)
    (hcalls : ∀ id call, snapshot.provider_calls.get? id = some call → call.inFlight = true →
      call.binding = snapshot.current_binding) :
    ∀ id call, next.provider_calls.get? id = some call → call.inFlight = true →
      call.binding = snapshot.current_binding := by
  cases h with
  | provider heffect => exact heffect.binding hcalls
  | quiet => exact hcalls
  | ended => exact hcalls
  | admitted => exact hcalls
  | moved => exact hcalls
  | retained => exact hcalls

end change

section step

variable {host : JavaScriptHost} {state next : ReducerStateV2} {event : AssignmentEventV2}

private theorem current_binding_kept (h : applyEvent host state event = .ok next)
    {before after : AssignmentSnapshotV2} (hbefore : state.snapshot = some before)
    (hafter : next.snapshot = some after) (hbody : event.body ≠ .run_started) :
    after.current_binding = before.current_binding := by
  cases applyEvent_effect h with
  | created spec hcreated hnone => simp [hnone] at hbefore
  | restarted snapshot hsome hopen hversion hrestarted => exact absurd hrestarted hbody
  | recorded snapshot recorded hsome hopen hversion hlive hbinding hnotStart hrecord =>
    obtain rfl : snapshot = before := by simpa using hsome.symm.trans hbefore
    obtain rfl : _ = after := Option.some.inj hafter
    exact (recordEvent_effect hrecord).current_binding

/-- A new run keeps the scope of the current binding and advances its
    generation. -/
private theorem run_advances (h : applyEvent host state event = .ok next) : RunAdvances state event next := by
  intro before after hbefore hafter
  cases applyEvent_effect h with
  | created spec hbody hnone => simp [hnone] at hbefore
  | restarted snapshot hsome hopen hversion hbody hsuperseded hscope hgeneration =>
    obtain rfl : snapshot = before := by simpa using hsome.symm.trans hbefore
    obtain rfl : _ = after := Option.some.inj hafter
    exact ⟨⟨hscope.1.symm, hscope.2.1.symm, hscope.2.2.1.symm, hscope.2.2.2.symm⟩, fun _ => hgeneration⟩
  | recorded snapshot recorded hsome hopen hversion hlive hbinding hnotStart =>
    rw [current_binding_kept h hbefore hafter hnotStart]
    exact ⟨⟨rfl, rfl, rfl, rfl⟩, fun hbody => absurd hbody hnotStart⟩

/-- A step whose dispatch names an operation of the current run brings nothing
    else back into flight. -/
private theorem fencing_step (hstate : state.Sound) (hfenced : InFlightInCurrentRun state)
    (hmeet : DispatchesCurrentRun state event) (h : applyEvent host state event = .ok next) :
    InFlightInCurrentRun next := by
  cases applyEvent_effect h with
  | created spec =>
    refine ReducerStateV2.satisfies_of_some rfl ⟨fun id operation hget => ?_, fun id call hget => ?_⟩
    · simp [createdSnapshot] at hget
    · simp [createdSnapshot] at hget
  | restarted snapshot hsome hopen hversion hbody hsuperseded =>
    obtain ⟨-, hindexed, hquiescent⟩ := hstate snapshot hsome
    obtain ⟨hoperations, hcalls⟩ := hindexed.quiescent.1 (hquiescent hsuperseded)
    refine ReducerStateV2.satisfies_of_some rfl
      ⟨fun id operation hget hflight => ?_, fun id call hget hflight => ?_⟩
    · exact absurd hflight (by simpa using hoperations id operation hget)
    · exact absurd hflight (by simpa using hcalls id call hget)
  | recorded snapshot recorded hsome hopen hversion hlive hbinding hnotStart hrecord =>
    obtain ⟨hcoherent, -, -⟩ := hstate snapshot hsome
    obtain ⟨hoperations, hcalls⟩ := hfenced snapshot hsome
    have heffect := recordEvent_effect hrecord
    have hcurrent : recorded.current_binding = snapshot.current_binding := heffect.current_binding
    refine ReducerStateV2.satisfies_of_some rfl
      ⟨fun id after hget hflight => ?_, fun id call hget hflight => ?_⟩
    · change sameAssignmentBindingV2 after.binding recorded.current_binding = true
      rw [hcurrent]
      obtain ⟨before, hbefore, hchange⟩ | ⟨operation, -, hvalid, -, rfl⟩ :=
        heffect.lookup (hcoherent.keyedAt _) hget
      · rw [hchange.binding]
        obtain hbeforeFlight | hdispatch :=
          hchange.inFlight_or_dispatches (hcoherent.failed id before hbefore) hflight
        · exact hoperations id before hbefore hbeforeFlight
        · exact hmeet id before snapshot hdispatch hsome hbefore
      · have hsame : operation.binding = snapshot.current_binding :=
          (validateOperationAdmission_accepted hvalid).current_binding
        exact sameAssignmentBindingV2_iff.2 hsame
    · change sameAssignmentBindingV2 call.binding recorded.current_binding = true
      rw [hcurrent]
      refine sameAssignmentBindingV2_iff.2
        (heffect.call_binding (fun id kept hkept hkeptFlight => ?_) id call hget hflight)
      exact sameAssignmentBindingV2_iff.1 (hcalls id kept hkept hkeptFlight)

private theorem stale_dispatch_breaks (hstate : state.Sound) (hmiss : ¬ DispatchesCurrentRun state event)
    (h : applyEvent host state event = .ok next) : ¬ InFlightInCurrentRun next := by
  simp only [DispatchesCurrentRun, not_forall] at hmiss
  obtain ⟨id, before, snapshot, hdispatch, hsome, hbefore, hstale⟩ := hmiss
  obtain ⟨-, authority, effect, hafter⟩ :=
    dispatch_recorded hstate h hdispatch ((ReducerStateV2.operation?_of_some hsome).trans hbefore)
  obtain ⟨reached, hreached, hget⟩ := ReducerStateV2.operation?_eq_some.1 hafter
  intro hfenced
  have hsame := (hfenced reached hreached).1 id _ hget rfl
  have hcurrent : reached.current_binding = snapshot.current_binding :=
    current_binding_kept h hsome hreached fun hbody => by
      obtain hother | ⟨authority, hother⟩ := hdispatch <;> simp [hbody] at hother
  rw [hcurrent] at hsame
  exact hstale hsame

end step

/-- Along a run everything in flight belongs to the current run, whose scope
    stays fixed and whose generation advances at every start, if and only if no
    recorded dispatch names an operation of an earlier run. The runs are those
    whose provider calls are named apart from the inherited members. -/
theorem run_fencing_iff (host : JavaScriptHost) {events : List AssignmentEventV2}
    {snapshot : AssignmentSnapshotV2} (hrun : reduceAssignmentEventsV2 host events = .ok snapshot) :
    ((AlongRun (applyEvent host) .initial events InFlightInCurrentRun
        ∧ AlongSteps (applyEvent host) .initial events RunAdvances)
        ∧ ∀ event ∈ events, event.NamesOwnCall)
      ↔ StepsMeet (applyEvent host) .initial events fun state event =>
        DispatchesCurrentRun state event ∧ event.NamesOwnCall := by
  obtain ⟨final, hfeed, -⟩ := reduceAssignmentEventsV2_eq_ok.1 hrun
  rw [stepsMeet_and_inputs_iff hfeed]
  refine and_congr_left' ?_
  exact alongRun_and_alongSteps_iff_stepsMeet sound_steps
    (fun _ _ _ hstate hfenced hmeet hnext =>
      ⟨fencing_step hstate hfenced hmeet hnext, run_advances hnext⟩)
    (fun _ _ _ hstate _ hmiss hnext hboth => stale_dispatch_breaks hstate hmiss hnext hboth.1)
    (ReducerStateV2.satisfies_initial _) (ReducerStateV2.satisfies_initial _) hfeed

/-- The sample assignment in its second run. -/
def laterBinding : AssignmentBindingV2 :=
  { sampleBinding with
    run_id := "run-2"
    generation := 2 }

/-- An operation whose commit failed before it was ever dispatched outlives its
    run and is dispatched in the next one. -/
def staleDispatchJournal : List AssignmentEventV2 :=
  sampleJournal [
    ("assignment-kernel", .operation_admitted (sampleRead "read-1")),
    ("assignment-kernel", .operation_result_recorded (submittedResult (sampleRead "read-1")
      .failed_before_dispatch .not_dispatched .none .not_applicable "backend" true sampleTime) none),
    ("assignment-kernel", .observation_commit_failed "read-1" "result:read-1" 1 "commit_failed"),
    ("assignment-kernel", .run_superseded 2)]
  ++ journalFrom laterBinding sampleTime 6 [
    ("assignment-kernel", .run_started),
    ("assignment-kernel", .native_dispatch_recorded "read-1")]

/-- The dispatch is accepted and leaves an operation of the first run in flight
    in the second. -/
theorem stale_dispatch_revives :
    (∃ snapshot, reduceAssignmentEventsV2 asciiHost staleDispatchJournal = .ok snapshot)
      ∧ ¬ AlongRun (applyEvent asciiHost) .initial staleDispatchJournal InFlightInCurrentRun := by
  have hreached : (reduceAssignmentEventsV2 asciiHost staleDispatchJournal).toOption.map (fun snapshot =>
      ((snapshot.operations.get? "read-1").map (fun operation => (operation.inFlight, operation.binding)),
        snapshot.current_binding)) = some (some (true, sampleBinding), laterBinding) := by decide
  simp only [Option.map_eq_some_iff, Prod.mk.injEq, toOption_eq_some] at hreached
  obtain ⟨snapshot, hrun, ⟨operation, hget, hflight, hbinding⟩, hcurrent⟩ := hreached
  refine ⟨⟨snapshot, hrun⟩, fun hfenced => ?_⟩
  obtain ⟨final, hfeed, hsome⟩ := reduceAssignmentEventsV2_eq_ok.1 hrun
  have hsame := (hfenced _ (List.prefix_refl _) final hfeed snapshot hsome).1 "read-1" operation hget hflight
  rw [sameAssignmentBindingV2_iff, hbinding, hcurrent] at hsame
  exact absurd hsame (by decide)

theorem run_fencing_iff_on_stale_read :
    ((AlongRun (applyEvent asciiHost) .initial (staleDispatchJournal.take 6) InFlightInCurrentRun
        ∧ AlongSteps (applyEvent asciiHost) .initial (staleDispatchJournal.take 6) RunAdvances)
        ∧ ∀ event ∈ staleDispatchJournal.take 6, event.NamesOwnCall)
      ↔ StepsMeet (applyEvent asciiHost) .initial (staleDispatchJournal.take 6) fun state event =>
        DispatchesCurrentRun state event ∧ event.NamesOwnCall := by
  have haccepted : (reduceAssignmentEventsV2 asciiHost (staleDispatchJournal.take 6)).isOk = true := by decide
  obtain ⟨snapshot, hrun⟩ := exists_of_isOk haccepted
  exact run_fencing_iff asciiHost hrun

/-- Along every run nothing is in flight under a superseded run, and only a later
    run of the same scope is accepted then. -/
theorem superseded_runs_rest (host : JavaScriptHost) (events : List AssignmentEventV2) :
    AlongRun (applyEvent host) .initial events fun state =>
      state.superseded = true → state.Satisfies fun snapshot =>
        (∀ id operation, snapshot.operations.get? id = some operation → operation.inFlight = false)
          ∧ (∀ id call, snapshot.provider_calls.get? id = some call → call.inFlight = false)
          ∧ ∀ event next, applyEvent host state event = .ok next → event.body = .run_started
            ∧ event.binding.SameScope snapshot.current_binding
            ∧ snapshot.current_binding.generation < event.binding.generation := by
  intro pre _ state hstate hsuperseded snapshot hsome
  obtain ⟨-, hindexed, hrests⟩ := feed_sound hstate snapshot hsome
  obtain ⟨hoperations, hcalls⟩ := hindexed.quiescent.1 (hrests hsuperseded)
  refine ⟨hoperations, hcalls, fun event next h => ?_⟩
  cases applyEvent_effect h with
  | created _ _ hnone => simp [hsome] at hnone
  | restarted before hbefore _ _ hbody _ hscope hgeneration =>
    obtain rfl := Option.some.inj (hsome.symm.trans hbefore)
    exact ⟨hbody, hscope, hgeneration⟩
  | recorded _ _ _ _ _ hlive => simp [hsuperseded] at hlive

end revit_operator.assignment_kernel
