import RevitOperator.AssignmentKernel.JournalBuilder
import RevitOperator.AssignmentKernel.StateHistory

open checked checked_run

namespace revit_operator.assignment_kernel

/-- A value that is set stays as it is. -/
def Kept {α : Type} (before after : Option α) : Prop :=
  ∀ value, before = some value → after = some value

/-- A reported value agrees with the retained one where both are there. -/
def Agrees {α : Type} (reported retained : Option α) : Prop :=
  ∀ value kept, reported = some value → retained = some kept → value = kept

section kept

variable {α : Type} {reported retained : Option α}

@[simp]
theorem Kept.rfl : Kept retained retained :=
  fun _ h => h

@[simp]
theorem Kept.stamp (time : α) : Kept retained (some (retained.getD time)) := by
  rintro value rfl
  simp

/-- A report leaves the retained value alone if and only if it agrees with
    it. -/
theorem kept_or_iff : Kept retained (reported.or retained) ↔ Agrees reported retained := by
  cases reported <;> cases retained <;> simp [Kept, Agrees, eq_comm]

end kept

/-- The later call is the earlier one with its state no further back, its times
    and its results as they were, and at most values added. -/
structure ProviderCallV2.Extends (after before : ProviderCallV2) : Prop where
  rank : PROVIDER_STATE_RANK before.state ≤ PROVIDER_STATE_RANK after.state
  admitted_at : after.admitted_at = before.admitted_at
  dispatched_at : Kept before.dispatched_at after.dispatched_at
  response_started_at : Kept before.response_started_at after.response_started_at
  usage_received_at : Kept before.usage_received_at after.usage_received_at
  completed_at : Kept before.completed_at after.completed_at
  response_transport_completed_at :
    Kept before.response_transport_completed_at after.response_transport_completed_at
  usage : Kept before.usage after.usage
  success : Kept before.success after.success
  error_class : Kept before.error_class after.error_class

/-- Every provider call is still there after the step and only extended. -/
def ProviderLedgerExtends (state : ReducerStateV2) (_ : AssignmentEventV2) (next : ReducerStateV2) : Prop :=
  ∀ id before, state.providerCall? id = some before →
    ∃ after, next.providerCall? id = some after ∧ after.Extends before

/-- What a state event reports agrees with what the call retains. -/
structure ProviderCallStateEvent.AgreesWith (reported : ProviderCallStateEvent) (call : ProviderCallV2) :
    Prop where
  usage : Agrees reported.usage call.usage
  success : Agrees reported.success call.success
  error_class : Agrees reported.error_class call.error_class

/-- A state event of a retained call agrees with it in usage, success and error
    class, whichever state it reports. -/
def ReportsAgree (state : ReducerStateV2) (event : AssignmentEventV2) : Prop :=
  ∀ reported call, event.body = .provider_call_state_recorded reported →
    state.providerCall? reported.call_id = some call → reported.AgreesWith call

section call

variable {previous : ProviderCallV2} {occurredAt : String} {reported : ProviderCallStateEvent}

theorem ProviderCallV2.Extends.rfl : previous.Extends previous := by
  constructor <;> simp

theorem advancedCall_extends :
    (advancedCall previous occurredAt reported).Extends previous ↔ reported.AgreesWith previous := by
  constructor
  · intro h
    exact ⟨kept_or_iff.1 h.usage, kept_or_iff.1 h.success, kept_or_iff.1 h.error_class⟩
  · intro h
    have hrank : PROVIDER_STATE_RANK previous.state
        ≤ PROVIDER_STATE_RANK (advancedCall previous occurredAt reported).state := by
      simp only [advancedCall]
      split <;> omega
    refine ⟨hrank, ?_, ?_, ?_, ?_, ?_, ?_, kept_or_iff.2 h.usage, kept_or_iff.2 h.success,
      kept_or_iff.2 h.error_class⟩ <;>
      cases hstate : reported.state <;> simp [advancedCall, stampState, hstate]

end call

variable {before : ProviderCallV2}

section step

variable {host : JavaScriptHost} {state next : ReducerStateV2} {event : AssignmentEventV2} {id : String}

/-- A retained call stays under its identity, the same or moved on by a state
    event. -/
private theorem ProviderEffect.persists {snapshot : AssignmentSnapshotV2} {calls : Record ProviderCallV2}
    (h : ProviderEffect host snapshot event calls)
    (hbefore : snapshot.provider_calls.get? id = some before) :
    calls.get? id = some before ∨ ∃ reported, event.body = .provider_call_state_recorded reported
      ∧ reported.call_id = id ∧ calls.get? id = some (advancedCall before event.occurred_at reported) := by
  cases h with
  | admitted call hbody hid hnew =>
    have hne : id ≠ call.call_id := fun h => by simp [← h, hbefore] at hnew
    exact .inl ((Record.get?_set_of_ne hne).trans hbefore)
  | recorded callId _ _ _ _ hbody hid hnew =>
    have hne : id ≠ callId := fun h => by simp [← h, hbefore] at hnew
    exact .inl ((Record.get?_set_of_ne hne).trans hbefore)
  | received call hbody hbinding hcompleted hnew =>
    have hne : id ≠ call.call_id := fun h => by simp [← h, hbefore] at hnew
    exact .inl ((Record.get?_set_of_ne hne).trans hbefore)
  | advanced reported previous hbody hget =>
    by_cases hid : id = reported.call_id
    · obtain rfl : previous = before := by simpa [← hid, hbefore] using hget.symm
      exact .inr ⟨reported, hbody, hid.symm, by rw [hid]; exact Record.get?_set_self _ _ _⟩
    · exact .inl ((Record.get?_set_of_ne hid).trans hbefore)

private theorem LedgerEffect.keeps_call {snapshot : AssignmentSnapshotV2} {ledger : OperationLedger}
    (h : LedgerEffect host snapshot event ledger)
    (hbefore : snapshot.provider_calls.get? id = some before) :
    ledger.provider_calls.get? id = some before
      ∨ ∃ reported, event.body = .provider_call_state_recorded reported ∧ reported.call_id = id
        ∧ ledger.provider_calls.get? id = some (advancedCall before event.occurred_at reported) := by
  cases h with
  | provider hcalls => exact hcalls.persists hbefore
  | quiet => exact .inl hbefore
  | ended => exact .inl hbefore
  | admitted => exact .inl hbefore
  | moved => exact .inl hbefore
  | retained => exact .inl hbefore

private theorem applyEvent_keeps_call (h : applyEvent host state event = .ok next)
    (hbefore : state.providerCall? id = some before) :
    next.providerCall? id = some before ∨ ∃ reported, event.body = .provider_call_state_recorded reported
      ∧ reported.call_id = id
      ∧ next.providerCall? id = some (advancedCall before event.occurred_at reported) := by
  obtain ⟨snapshot, hsome, hget⟩ := ReducerStateV2.providerCall?_eq_some.1 hbefore
  cases applyEvent_effect h with
  | created spec hbody hnone => simp [hnone] at hsome
  | restarted kept hkept =>
    obtain rfl : kept = snapshot := by simpa using hkept.symm.trans hsome
    exact .inl hget
  | recorded kept recorded hkept hopen hversion hlive hbinding hnotStart hrecord =>
    obtain rfl : kept = snapshot := by simpa using hkept.symm.trans hsome
    exact (recordEvent_effect hrecord).keeps_call hget

private theorem state_recorded (h : applyEvent host state event = .ok next)
    {reported : ProviderCallStateEvent}
    (hbody : event.body = .provider_call_state_recorded reported)
    (hbefore : state.providerCall? reported.call_id = some before) :
    next.providerCall? reported.call_id = some (advancedCall before event.occurred_at reported) := by
  obtain ⟨snapshot, hsome, hget⟩ := ReducerStateV2.providerCall?_eq_some.1 hbefore
  cases applyEvent_effect h with
  | created spec hcreated => simp [hbody] at hcreated
  | restarted kept hkept hopen hversion hrestarted => simp [hbody] at hrestarted
  | recorded kept recorded hkept hopen hversion hlive hbinding hnotStart hrecord =>
    obtain rfl : kept = snapshot := by simpa using hkept.symm.trans hsome
    have hmoved : (kept.atVersion event.assignment_version).provider_calls.get? reported.call_id
        = some before := hget
    simp only [recordEvent, hbody, applyProviderState, hmoved, check_bind_eq_ok, pure_eq_ok] at hrecord
    obtain ⟨-, -, rfl⟩ := hrecord
    rw [ReducerStateV2.providerCall?_of_some rfl]
    exact Record.get?_set_self _ _ _

private theorem ledger_extends_iff (h : applyEvent host state event = .ok next) :
    ProviderLedgerExtends state event next ↔ ReportsAgree state event := by
  constructor
  · intro hextends reported before hbody hbefore
    obtain ⟨after, hafter, hextended⟩ := hextends _ before hbefore
    obtain rfl : _ = after := Option.some.inj ((state_recorded h hbody hbefore).symm.trans hafter)
    exact advancedCall_extends.1 hextended
  · intro hagree id before hbefore
    obtain hkept | ⟨reported, hbody, rfl, hmoved⟩ := applyEvent_keeps_call h hbefore
    · exact ⟨before, hkept, .rfl⟩
    · exact ⟨_, hmoved, advancedCall_extends.2 (hagree reported before hbody hbefore)⟩

end step

/-- Along a run no provider call moves back, is stamped again or has a result
    replaced if and only if every state event agrees with the call it is
    about. -/
theorem provider_ledger_extends_iff (host : JavaScriptHost) {events : List AssignmentEventV2}
    {snapshot : AssignmentSnapshotV2} (hrun : reduceAssignmentEventsV2 host events = .ok snapshot) :
    AlongSteps (applyEvent host) .initial events ProviderLedgerExtends
      ↔ StepsMeet (applyEvent host) .initial events ReportsAgree := by
  obtain ⟨final, hfeed, -⟩ := reduceAssignmentEventsV2_eq_ok.1 hrun
  refine alongSteps_iff_stepsMeet sound_steps ?_ (ReducerStateV2.satisfies_initial _) hfeed
  intro state event next _ hnext
  exact ledger_extends_iff hnext

/-- A state event of the sample assignment's only provider call. -/
def sampleCallState (state : ProviderCallStateV2) (success : Option Bool) : ProviderCallStateEvent where
  call_id := "call-1"
  state
  provider := some "provider-1"
  model := some "model-1"
  reasoning_effort := none
  gap_ids := ["gap-1"]
  criterion_ids := ["criterion-1"]
  expected_information := ["wall position"]
  usage := none
  upstream_receipt := none
  success
  error_class := none

/-- A call completes and a late response state reports another success. -/
def replacedSuccessJournal : List AssignmentEventV2 :=
  sampleJournal [
    ("assignment-kernel", .provider_call_state_recorded (sampleCallState .admitted none)),
    ("assignment-kernel", .provider_call_state_recorded (sampleCallState .completed (some true))),
    ("assignment-kernel", .provider_call_state_recorded (sampleCallState .response_started (some false)))]

/-- The call the journal leaves under an identity. -/
def providerCallAfter (host : JavaScriptHost) (events : List AssignmentEventV2) (id : String) :
    Option ProviderCallV2 :=
  (feed (applyEvent host) .initial events).toOption.bind fun state => state.providerCall? id

/-- The late state is accepted and replaces the retained success. -/
theorem late_state_replaces_success :
    (∃ snapshot, reduceAssignmentEventsV2 asciiHost replacedSuccessJournal = .ok snapshot)
      ∧ ¬ AlongSteps (applyEvent asciiHost) .initial replacedSuccessJournal ProviderLedgerExtends := by
  have hbefore : (providerCallAfter asciiHost (replacedSuccessJournal.take 3) "call-1").map
      ProviderCallV2.success = some (some true) := by decide
  have hafter : (providerCallAfter asciiHost replacedSuccessJournal "call-1").map
      ProviderCallV2.success = some (some false) := by decide
  simp only [providerCallAfter, Option.map_eq_some_iff, Option.bind_eq_some_iff, toOption_eq_some]
    at hbefore hafter
  obtain ⟨before, ⟨state, hstate, hget⟩, hsuccess⟩ := hbefore
  obtain ⟨after, ⟨final, hfinal, hfinalGet⟩, hreplaced⟩ := hafter
  refine ⟨?_, fun hextends => ?_⟩
  · obtain ⟨snapshot, hsome, -⟩ := ReducerStateV2.providerCall?_eq_some.1 hfinalGet
    exact ⟨snapshot, reduceAssignmentEventsV2_eq_ok.2 ⟨final, hfinal, hsome⟩⟩
  · obtain ⟨mid, hmid, hlast⟩ := feed_snoc_eq_ok.1 (show feed (applyEvent asciiHost) .initial
      (replacedSuccessJournal.take 3 ++ [_]) = .ok final from hfinal)
    obtain rfl : state = mid := by simpa using hstate.symm.trans hmid
    obtain ⟨kept, hkept, hextended⟩ := hextends _ _ (List.prefix_refl _) state final hstate hlast "call-1"
      before hget
    obtain rfl : after = kept := by simpa using hfinalGet.symm.trans hkept
    have hsame := hextended.success true hsuccess
    simp [hreplaced] at hsame

theorem provider_ledger_extends_iff_on_completed_call :
    AlongSteps (applyEvent asciiHost) .initial (replacedSuccessJournal.take 3) ProviderLedgerExtends
      ↔ StepsMeet (applyEvent asciiHost) .initial (replacedSuccessJournal.take 3) ReportsAgree := by
  have haccepted : (reduceAssignmentEventsV2 asciiHost (replacedSuccessJournal.take 3)).isOk = true := by
    decide
  obtain ⟨snapshot, hrun⟩ := exists_of_isOk haccepted
  exact provider_ledger_extends_iff asciiHost hrun

end revit_operator.assignment_kernel
