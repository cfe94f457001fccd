import RevitOperator.AssignmentKernel.OperationHistory

open checked checked_run

namespace revit_operator.assignment_kernel

/-- The versions an operation carries: it was admitted by the given version,
    and it has a later settlement version exactly when it is settled. -/
def OperationV2.Dated (version : Nat) (operation : OperationV2) : Prop :=
  ∃ admitted, operation.admitted_assignment_version = some admitted ∧ admitted ≤ version ∧
    match operation.settled_assignment_version with
    | none => operation.settlement_state ≠ .settled
    | some settled => operation.settlement_state = .settled ∧ admitted < settled ∧ settled ≤ version

/-- What holds of the ledger after every run: operations and calls are kept
    under their own identities, operations are dated, a failed commit has a
    result to commit, and no two operations were admitted by the same event. -/
structure OperationLedger.Coherent (ledger : OperationLedger) : Prop where
  keyed : KeyedById ledger.operations
  dated : ∀ id operation, ledger.operations.get? id = some operation →
    operation.Dated ledger.assignment_version
  failed : ∀ id operation, ledger.operations.get? id = some operation →
    operation.settlement_state = .observation_commit_failed → operation.result.isSome = true
  distinct : ∀ id other operation otherOperation, ledger.operations.get? id = some operation →
    ledger.operations.get? other = some otherOperation →
    operation.admitted_assignment_version = otherOperation.admitted_assignment_version → id = other
  calls : ∀ id call, ledger.provider_calls.get? id = some call →
    call.call_id = id ∧ (call.inFlight = true → text.nonBlank id = true)

section dated

variable {host : JavaScriptHost} {snapshot : AssignmentSnapshotV2} {event : AssignmentEventV2}
  {id : String} {before after : OperationV2} {version : Nat}

theorem OperationV2.Dated.mono {operation : OperationV2} {later : Nat} (h : operation.Dated version)
    (hle : version ≤ later) : operation.Dated later := by
  obtain ⟨admitted, hadmitted, hadmittedLe, hsettled⟩ := h
  refine ⟨admitted, hadmitted, hadmittedLe.trans hle, ?_⟩
  cases hversion : operation.settled_assignment_version with
  | none => simpa [hversion] using hsettled
  | some settled =>
    simp only [hversion] at hsettled ⊢
    exact ⟨hsettled.1, hsettled.2.1, hsettled.2.2.trans hle⟩

/-- A settled operation settled after its admission and no later than the
    version. -/
theorem OperationV2.Dated.settled_version {operation : OperationV2} (h : operation.Dated version)
    (hsettled : operation.settlement_state = .settled) :
    ∃ admitted settled, operation.admitted_assignment_version = some admitted
      ∧ operation.settled_assignment_version = some settled ∧ admitted < settled ∧ settled ≤ version := by
  obtain ⟨admitted, hadmitted, -, hstate⟩ := h
  cases hversion : operation.settled_assignment_version with
  | none => simp [hversion, hsettled] at hstate
  | some settled =>
    simp only [hversion] at hstate
    exact ⟨admitted, settled, hadmitted, rfl, hstate.2⟩

/-- An operation that is not settled gets its settlement version from the
    event that settles it. -/
private theorem OperationChange.settlement_version (h : OperationChange host snapshot event id before after)
    (hnone : before.settled_assignment_version = none) (hunsettled : before.settlement_state ≠ .settled) :
    (after.settlement_state ≠ .settled ∧ after.settled_assignment_version = none)
      ∨ (after.settlement_state = .settled
        ∧ after.settled_assignment_version = some snapshot.assignment_version) := by
  cases h with
  | kept => exact .inl ⟨hunsettled, hnone⟩
  | moved hmove =>
    cases hmove with
    | dispatch_started => exact .inl ⟨by simp [startedOperation], hnone⟩
    | native_dispatched => exact .inl ⟨by simp [dispatchedOperation], hnone⟩
    | dispatched => exact .inl ⟨by simp [dispatchedOperation], hnone⟩
    | resulted result commit =>
      cases hrequired : result.observation_required with
      | true => exact .inl (by simp [resultedOperation, hrequired])
      | false => exact .inr (by simp [resultedOperation, hrequired])
    | commit_retried => exact .inl ⟨hunsettled, hnone⟩
    | commit_failed => exact .inl ⟨by simp [commitFailedOperation], hnone⟩
    | retention_failed => exact .inr ⟨rfl, rfl⟩
    | completion_reconciled => exact .inl ⟨hunsettled, hnone⟩
    | reconciled => exact .inl ⟨hunsettled, hnone⟩
  | retained => exact .inr ⟨rfl, rfl⟩

private theorem Changed.settlement_version (h : Changed host snapshot event id before after)
    (hnone : before.settled_assignment_version = none) (hunsettled : before.settlement_state ≠ .settled) :
    (after.settlement_state ≠ .settled ∧ after.settled_assignment_version = none)
      ∨ (after.settlement_state = .settled
        ∧ after.settled_assignment_version = some snapshot.assignment_version) := by
  obtain ⟨moved, hchange, hlink⟩ := h
  cases hlink with
  | unlinked => exact hchange.settlement_version hnone hunsettled
  | linked => exact hchange.settlement_version hnone hunsettled

theorem Changed.dated (h : Changed host snapshot event id before after) (hbefore : before.Dated version)
    (hversion : version < snapshot.assignment_version) : after.Dated snapshot.assignment_version := by
  obtain ⟨admitted, hadmitted, hle, hsettled⟩ := hbefore
  refine ⟨admitted, h.admitted_assignment_version.trans hadmitted, by omega, ?_⟩
  cases hbeforeVersion : before.settled_assignment_version with
  | none =>
    simp only [hbeforeVersion] at hsettled
    obtain ⟨hstate, hnext⟩ | ⟨hstate, hnext⟩ := h.settlement_version hbeforeVersion hsettled
    · simpa [hnext] using hstate
    · simp only [hnext]
      exact ⟨hstate, by omega, le_refl _⟩
  | some settled =>
    simp only [hbeforeVersion] at hsettled
    have hkept : after.settled_assignment_version = before.settled_assignment_version :=
      (congrArg OperationV2.settled_assignment_version (h.record_of_settled hsettled.1) :)
    simp only [hkept, hbeforeVersion]
    exact ⟨h.settled_of_settled hsettled.1, hsettled.2.1, by omega⟩

theorem Changed.result_of_failed (h : Changed host snapshot event id before after)
    (hbefore : before.settlement_state = .observation_commit_failed → before.result.isSome = true)
    (hafter : after.settlement_state = .observation_commit_failed) : after.result.isSome = true := by
  obtain ⟨moved, hchange, hlink⟩ := h
  have hmoved : moved.settlement_state = .observation_commit_failed → moved.result.isSome = true := by
    cases hchange with
    | kept => exact hbefore
    | retained => exact fun hfailed => by cases hfailed
    | moved hmove =>
      cases hmove with
      | dispatch_started => exact fun hfailed => by cases hfailed
      | native_dispatched => exact fun hfailed => by cases hfailed
      | dispatched => exact fun hfailed => by cases hfailed
      | resulted => exact fun _ => rfl
      | commit_retried => exact hbefore
      | commit_failed _ _ _ _ hretaining =>
        simp only [OperationV2.retaining, Bool.and_eq_true] at hretaining
        exact fun _ => hretaining.2
      | retention_failed => exact fun hfailed => by cases hfailed
      | completion_reconciled => exact hbefore
      | reconciled => exact hbefore
  cases hlink with
  | unlinked => exact hmoved hafter
  | linked => exact hmoved hafter

theorem Admitted.dated (h : Admitted host snapshot event id after) :
    after.Dated snapshot.assignment_version := by
  obtain ⟨operation, -, hvalid, -, rfl⟩ := h
  refine ⟨snapshot.assignment_version, rfl, le_refl _, ?_⟩
  simp [admittedOperation, (validateOperationAdmission_accepted hvalid).settlement_open]

end dated

namespace LedgerEffect

variable {host : JavaScriptHost} {snapshot : AssignmentSnapshotV2} {event : AssignmentEventV2}
  {next : OperationLedger}

theorem spec (h : LedgerEffect host snapshot event next) : next.spec = snapshot.spec := by
  cases h <;> rfl

theorem current_binding (h : LedgerEffect host snapshot event next) :
    next.current_binding = snapshot.current_binding := by
  cases h <;> rfl

theorem assignment_version (h : LedgerEffect host snapshot event next) :
    next.assignment_version = snapshot.assignment_version := by
  cases h <;> rfl

end LedgerEffect

theorem advancedCall_inFlight {previous : ProviderCallV2} {occurredAt : String}
    {call : ProviderCallStateEvent} (h : (advancedCall previous occurredAt call).inFlight = true) :
    previous.inFlight = true := by
  cases hcompleted : previous.completed_at with
  | none => simp [ProviderCallV2.inFlight, hcompleted, truthy]
  | some time =>
    cases hstate : call.state <;>
      simpa [ProviderCallV2.inFlight, advancedCall, stampState, hstate, hcompleted] using h

theorem stampState_call_id (previous : ProviderCallV2) (callState : ProviderCallStateV2)
    (occurredAt : String) : (stampState previous callState occurredAt).call_id = previous.call_id := by
  cases callState <;> rfl

private theorem providerEffect_calls {host : JavaScriptHost} {snapshot : AssignmentSnapshotV2}
    {event : AssignmentEventV2} {calls : Record ProviderCallV2} (h : ProviderEffect host snapshot event calls)
    (hcalls : ∀ id call, snapshot.provider_calls.get? id = some call →
      call.call_id = id ∧ (call.inFlight = true → text.nonBlank id = true)) :
    ∀ id call, calls.get? id = some call →
      call.call_id = id ∧ (call.inFlight = true → text.nonBlank id = true) := by
  cases h with
  | admitted call hbody hid hnew =>
    exact Record.forall_get?_set ⟨rfl, fun _ => hid⟩ fun id kept _ hkept => hcalls id kept hkept
  | advanced call previous hbody hget hcheck =>
    obtain ⟨hprevious, hnonBlank⟩ := hcalls _ _ hget
    refine Record.forall_get?_set ⟨?_, fun hflight => hnonBlank (advancedCall_inFlight hflight)⟩
      fun id kept _ hkept => hcalls id kept hkept
    exact (stampState_call_id previous call.state event.occurred_at).trans hprevious
  | recorded callId provider model effort success hbody hid hnew =>
    exact Record.forall_get?_set ⟨rfl, fun _ => hid⟩ fun id kept _ hkept => hcalls id kept hkept
  | received call hbody hbinding hcompleted hnew =>
    refine Record.forall_get?_set ⟨rfl, fun hflight => ?_⟩ fun id kept _ hkept => hcalls id kept hkept
    simp [ProviderCallV2.inFlight, hcompleted] at hflight

section coherent

variable {host : JavaScriptHost} {snapshot : AssignmentSnapshotV2} {event : AssignmentEventV2}
  {next : OperationLedger}

theorem OperationLedger.Coherent.keyedAt (h : snapshot.ledger.Coherent) (version : Nat) :
    KeyedById (snapshot.atVersion version).operations :=
  h.keyed

private theorem LedgerEffect.distinct (heffect : LedgerEffect host (snapshot.atVersion
      (snapshot.assignment_version + 1)) event next) (h : snapshot.ledger.Coherent) :
    ∀ id other operation otherOperation, next.operations.get? id = some operation →
      next.operations.get? other = some otherOperation →
      operation.admitted_assignment_version = otherOperation.admitted_assignment_version →
      id = other := by
  have hold : ∀ {id operation}, snapshot.operations.get? id = some operation →
      operation.admitted_assignment_version ≠ some (snapshot.assignment_version + 1) := by
    intro id operation hget hversion
    obtain ⟨admitted, hadmitted, hle, -⟩ := h.dated id operation hget
    obtain rfl : admitted = _ := by simpa using hadmitted.symm.trans hversion
    have : snapshot.assignment_version + 1 ≤ snapshot.assignment_version := hle
    omega
  intro id other operation otherOperation hget hother hsame
  obtain ⟨left, hleft, hleftChange⟩ | ⟨left, hleftBody, -, hleftId, rfl⟩ := heffect.lookup (h.keyedAt _) hget
  · rw [hleftChange.admitted_assignment_version] at hsame
    obtain ⟨right, hright, hrightChange⟩ | ⟨right, -, -, -, rfl⟩ := heffect.lookup (h.keyedAt _) hother
    · exact h.distinct id other left right hleft hright
        (hsame.trans hrightChange.admitted_assignment_version)
    · exact absurd hsame (hold hleft)
  · obtain ⟨right, hright, hrightChange⟩ | ⟨right, hrightBody, -, hrightId, -⟩ :=
      heffect.lookup (h.keyedAt _) hother
    · exact absurd (hrightChange.admitted_assignment_version.symm.trans hsame.symm) (hold hright)
    · obtain rfl : left = right := by simpa using hleftBody.symm.trans hrightBody
      exact hleftId.symm.trans hrightId

theorem LedgerEffect.coherent (heffect : LedgerEffect host (snapshot.atVersion
    (snapshot.assignment_version + 1)) event next) (h : snapshot.ledger.Coherent) : next.Coherent where
  keyed := heffect.keyedById (h.keyedAt _)
  dated := by
    intro id operation hget
    rw [heffect.assignment_version]
    obtain ⟨before, hbefore, hchange⟩ | hadmitted := heffect.lookup (h.keyedAt _) hget
    · exact hchange.dated (h.dated id before hbefore) (Nat.lt_succ_self snapshot.assignment_version)
    · exact hadmitted.dated
  failed := by
    intro id operation hget
    obtain ⟨before, hbefore, hchange⟩ | ⟨admitted, -, hvalid, -, rfl⟩ := heffect.lookup (h.keyedAt _) hget
    · exact hchange.result_of_failed (h.failed id before hbefore)
    · simp [admittedOperation, (validateOperationAdmission_accepted hvalid).settlement_open]
  distinct := heffect.distinct h
  calls := by
    cases heffect with
    | quiet => exact h.calls
    | ended => exact h.calls
    | provider hcalls => exact providerEffect_calls hcalls h.calls
    | admitted => exact h.calls
    | moved => exact h.calls
    | retained => exact h.calls

private theorem created_coherent (event : AssignmentEventV2) (spec : AssignmentSpecV2) :
    (createdSnapshot event spec).ledger.Coherent where
  keyed := by
    intro id operation hget
    simp [AssignmentSnapshotV2.ledger, createdSnapshot] at hget
  dated := by
    intro id operation hget
    simp [AssignmentSnapshotV2.ledger, createdSnapshot] at hget
  failed := by
    intro id operation hget
    simp [AssignmentSnapshotV2.ledger, createdSnapshot] at hget
  distinct := by
    intro id other operation otherOperation hget
    simp [AssignmentSnapshotV2.ledger, createdSnapshot] at hget
  calls := by
    intro id call hget
    simp [AssignmentSnapshotV2.ledger, createdSnapshot] at hget

private theorem OperationLedger.Coherent.restarted {ledger : OperationLedger} (h : ledger.Coherent)
    (binding : AssignmentBindingV2) :
    OperationLedger.Coherent { ledger with
      current_binding := binding
      assignment_version := ledger.assignment_version + 1 } where
  keyed := h.keyed
  dated := fun id operation hget => (h.dated id operation hget).mono (Nat.le_succ _)
  failed := h.failed
  distinct := h.distinct
  calls := h.calls

end coherent

/-- The index fields of a snapshot say what the ledger says. -/
structure AssignmentSnapshotV2.Indexed (snapshot : AssignmentSnapshotV2) : Prop where
  quiescent : snapshot.quiescent = true ↔
    (∀ id operation, snapshot.operations.get? id = some operation → operation.inFlight = false)
      ∧ ∀ id call, snapshot.provider_calls.get? id = some call → call.inFlight = false
  unknown : snapshot.unresolved_unknown_operation_ids = [] ↔
    ∀ id operation, snapshot.operations.get? id = some operation → operation.persistent_effect ≠ .unknown

private theorem sorted_filter_eq_nil {α : Type} {record : Record α} {kind : α → Bool} {name : α → String} :
    text.sorted ((record.values.filter kind).map name) = [] ↔
      ∀ id value, record.get? id = some value → kind value = false := by
  simp only [text.sorted_eq_nil, List.map_eq_nil_iff, List.filter_eq_nil_iff, Bool.not_eq_true]
  constructor
  · exact fun h id value hget => h value (Record.mem_values_of_get? hget)
  · intro h value hmem
    obtain ⟨id, hget⟩ := Record.mem_values.1 hmem
    exact h id value hget

theorem withDerivedState_indexed (host : JavaScriptHost) (snapshot : AssignmentSnapshotV2) :
    (withDerivedState host snapshot).Indexed where
  quiescent := by
    change ((operationIdsWhere snapshot OperationV2.inFlight).isEmpty && (text.sorted
      ((snapshot.provider_calls.values.filter ProviderCallV2.inFlight).map
        ProviderCallV2.call_id)).isEmpty) = true ↔ _
    simp only [Bool.and_eq_true, List.isEmpty_iff, operationIdsWhere, sorted_filter_eq_nil,
      withDerivedState_operations, withDerivedState_provider_calls]
  unknown := by
    change operationIdsWhere snapshot OperationV2.isUnknown = [] ↔ _
    simp [operationIdsWhere, sorted_filter_eq_nil, OperationV2.isUnknown]

/-- What holds of the state of the reducer after every run. -/
def ReducerStateV2.Sound (state : ReducerStateV2) : Prop :=
  state.Satisfies fun snapshot => snapshot.ledger.Coherent ∧ snapshot.Indexed
    ∧ (state.superseded = true → snapshot.quiescent = true)

section sound

variable {host : JavaScriptHost} {state next : ReducerStateV2} {event : AssignmentEventV2}

private theorem remember_superseded (h : (remember state event).superseded = true)
    (hlive : state.superseded = false) : ∃ generation, event.body = .run_superseded generation := by
  cases hbody : event.body <;> simp [remember, hbody, hlive] at h ⊢

private theorem satisfies_indexed (h : applyEvent host state event = .ok next) :
    next.Satisfies AssignmentSnapshotV2.Indexed := by
  cases applyEvent_effect h with
  | created => exact ReducerStateV2.satisfies_of_some rfl (withDerivedState_indexed _ _)
  | restarted => exact ReducerStateV2.satisfies_of_some rfl (withDerivedState_indexed _ _)
  | recorded => exact ReducerStateV2.satisfies_of_some rfl (withDerivedState_indexed _ _)

private theorem superseded_quiescent (hstate : state.Sound) (h : applyEvent host state event = .ok next) :
    next.Satisfies fun snapshot => next.superseded = true → snapshot.quiescent = true := by
  cases applyEvent_effect h with
  | created spec hbody hnone =>
    exact ReducerStateV2.satisfies_of_some rfl fun _ => rfl
  | restarted => exact ReducerStateV2.satisfies_of_some rfl (by simp)
  | recorded snapshot recorded hsome hopen hversion hlive hbinding hnotStart hrecord =>
    refine ReducerStateV2.satisfies_of_some rfl fun hsuperseded => ?_
    obtain ⟨generation, hbody⟩ := remember_superseded hsuperseded hlive
    simp only [recordEvent, hbody, checkSupersession, check_bind_eq_ok, require_eq_ok, pure_eq_ok] at hrecord
    obtain ⟨⟨-, -, hquiescent⟩, rfl⟩ := hrecord
    have hindexed := (hstate snapshot hsome).2.1.quiescent.1 hquiescent
    exact (withDerivedState_indexed host _).quiescent.2 hindexed

theorem applyEvent_sound (hstate : state.Sound) (h : applyEvent host state event = .ok next) :
    next.Sound := by
  have hcoherent : next.Satisfies fun snapshot => snapshot.ledger.Coherent :=
    ledger_step created_coherent (fun ledger binding hledger => hledger.restarted binding)
      (fun snapshot event next hsnapshot heffect => heffect.coherent hsnapshot)
      (fun snapshot hsome => (hstate snapshot hsome).1) h
  intro snapshot hsome
  exact ⟨hcoherent snapshot hsome, satisfies_indexed h snapshot hsome,
    superseded_quiescent hstate h snapshot hsome⟩

theorem sound_steps : ∀ state event next, ReducerStateV2.Sound state → applyEvent host state event = .ok next →
    next.Sound :=
  fun _ _ _ hstate hnext => applyEvent_sound hstate hnext

theorem feed_sound {events : List AssignmentEventV2} (h : feed (applyEvent host) .initial events = .ok state) :
    state.Sound :=
  feed_invariant sound_steps (ReducerStateV2.satisfies_initial _) h

end sound

end revit_operator.assignment_kernel
