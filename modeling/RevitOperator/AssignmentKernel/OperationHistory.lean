import RevitOperator.AssignmentKernel.AdmissionContract
import RevitOperator.AssignmentKernel.Journal

open checked checked_run

namespace revit_operator.assignment_kernel

/-- Every operation is retained under its own identity. -/
def KeyedById (operations : Record OperationV2) : Prop :=
  ∀ id operation, operations.get? id = some operation → operation.operation_id = id

/-- What an accepted event does to one retained operation, apart from listing
    its verification. -/
inductive OperationChange (host : JavaScriptHost) (snapshot : AssignmentSnapshotV2)
    (event : AssignmentEventV2) (id : String) (before : OperationV2) : OperationV2 → Prop
  | kept (huntouched : event.body.touched ≠ some id) :
      OperationChange host snapshot event id before before
  | moved {after : OperationV2} (hmove : OperationMove host snapshot event id before after) :
      OperationChange host snapshot event id before after
  | retained (observation : ObservationV2) (hbody : event.body = .observation_retained observation)
      (hid : observation.operation_id = id) (hretaining : before.retaining = true)
      (hcheck : checkObservation snapshot before observation = .ok ()) :
      OperationChange host snapshot event id before
        (retainedOperation host snapshot.assignment_version event.occurred_at observation before)

/-- A verification the event settles is listed on the operation it verified. -/
inductive VerificationLink (snapshot : AssignmentSnapshotV2) (event : AssignmentEventV2) (id : String)
    (operation : OperationV2) : OperationV2 → Prop
  | unlinked : VerificationLink snapshot event id operation operation
  | linked (observation : ObservationV2) (verification : OperationV2)
      (hbody : event.body = .observation_retained observation)
      (hget : snapshot.operations.get? observation.operation_id = some verification)
      (hsubject : verification.verification_of_operation_id = some id) (hid : id ≠ "") :
      VerificationLink snapshot event id operation
        (verifiedSubject verification.operation_id operation)

/-- What an accepted event does to one retained operation. -/
def Changed (host : JavaScriptHost) (snapshot : AssignmentSnapshotV2) (event : AssignmentEventV2)
    (id : String) (before after : OperationV2) : Prop :=
  ∃ moved, OperationChange host snapshot event id before moved
    ∧ VerificationLink snapshot event id moved after

/-- The operation an accepted event admits. -/
def Admitted (host : JavaScriptHost) (snapshot : AssignmentSnapshotV2) (event : AssignmentEventV2)
    (id : String) (after : OperationV2) : Prop :=
  ∃ operation, event.body = .operation_admitted operation
    ∧ validateOperationAdmission host snapshot operation = .ok () ∧ operation.operation_id = id
    ∧ after = admittedOperation snapshot.assignment_version operation

/-- The terms an operation is admitted on, with everything its lifecycle may
    change cleared. -/
def OperationV2.contract (operation : OperationV2) : OperationV2 :=
  { operation with
    dispatch_state := .not_dispatched
    persistent_effect := .none
    settlement_state := .open_
    result := none
    native_completion_reconciliation := none
    native_failure_context := none
    native_inventory_workload := none
    observation_commit := none
    observation_commit_attempts := none
    observation_ids := []
    verification_operation_ids := []
    native_template_state := none
    native_schedule_filter_state := none
    settled_assignment_version := none
    dispatch_started_at := none
    dispatched_at := none
    dispatch_authority := none
    settled_at := none
    observation_retention_error := none }

/-- What settlement fixes: everything but the effect, which a reconciliation
    may still establish, and the list of verifications. -/
def OperationV2.record (operation : OperationV2) : OperationV2 :=
  { operation with
    persistent_effect := .none
    native_completion_reconciliation := none
    verification_operation_ids := [] }

section change

variable {host : JavaScriptHost} {snapshot : AssignmentSnapshotV2} {event : AssignmentEventV2}
  {id : String} {before after : OperationV2}

theorem Changed.kept (huntouched : event.body.touched ≠ some id) :
    Changed host snapshot event id before before :=
  ⟨before, .kept huntouched, .unlinked⟩

theorem Changed.moved (hmove : OperationMove host snapshot event id before after) :
    Changed host snapshot event id before after :=
  ⟨after, .moved hmove, .unlinked⟩

private theorem OperationMove.contract (h : OperationMove host snapshot event id before after) :
    after.contract = before.contract := by
  cases h <;> rfl

theorem Changed.contract (h : Changed host snapshot event id before after) :
    after.contract = before.contract := by
  obtain ⟨moved, hchange, hlink⟩ := h
  have hmoved : moved.contract = before.contract := by
    cases hchange with
    | kept => rfl
    | moved hmove => exact hmove.contract
    | retained => rfl
  cases hlink with
  | unlinked => exact hmoved
  | linked => exact hmoved

theorem Changed.operation_id (h : Changed host snapshot event id before after) :
    after.operation_id = before.operation_id :=
  (congrArg OperationV2.operation_id h.contract :)

theorem Changed.binding (h : Changed host snapshot event id before after) :
    after.binding = before.binding :=
  (congrArg OperationV2.binding h.contract :)

theorem Changed.requested_effect (h : Changed host snapshot event id before after) :
    after.requested_effect = before.requested_effect :=
  (congrArg OperationV2.requested_effect h.contract :)

theorem Changed.admitted_assignment_version (h : Changed host snapshot event id before after) :
    after.admitted_assignment_version = before.admitted_assignment_version :=
  (congrArg OperationV2.admitted_assignment_version h.contract :)

/-- A settled operation only has its effect reconciled and its verifications
    listed. -/
theorem Changed.record_of_settled (h : Changed host snapshot event id before after)
    (hsettled : before.settlement_state = .settled) : after.record = before.record := by
  obtain ⟨moved, hchange, hlink⟩ := h
  have hmoved : moved.record = before.record := by
    cases hchange with
    | kept => rfl
    | moved hmove =>
      cases hmove with
      | dispatch_started _ hawaits => simp [OperationV2.awaitsDispatch, hsettled] at hawaits
      | native_dispatched _ hdispatchable => simp [OperationV2.dispatchable, hsettled] at hdispatchable
      | dispatched _ _ hdispatchable => simp [OperationV2.dispatchable, hsettled] at hdispatchable
      | resulted _ _ _ _ hawaits => simp [OperationV2.awaitsResult, hsettled] at hawaits
      | commit_retried _ _ _ _ hretaining => simp [OperationV2.retaining, hsettled] at hretaining
      | commit_failed _ _ _ _ hretaining => simp [OperationV2.retaining, hsettled] at hretaining
      | retention_failed _ _ hretaining => simp [OperationV2.retaining, hsettled] at hretaining
      | completion_reconciled => rfl
      | reconciled => rfl
    | retained _ _ _ hretaining => simp [OperationV2.retaining, hsettled] at hretaining
  cases hlink with
  | unlinked => exact hmoved
  | linked => exact hmoved

/-- An event about another operation changes at most the list of
    verifications. -/
theorem Changed.of_untouched (h : Changed host snapshot event id before after)
    (huntouched : event.body.touched ≠ some id) :
    after = before ∨ ∃ verificationId, after = verifiedSubject verificationId before := by
  obtain ⟨moved, hchange, hlink⟩ := h
  cases hchange with
  | kept =>
    cases hlink with
    | unlinked => exact .inl rfl
    | linked _ verification => exact .inr ⟨verification.operation_id, rfl⟩
  | moved hmove => exact absurd hmove.touched huntouched
  | retained observation hbody hid =>
    exact absurd (by simp [hbody, AssignmentEventBodyV2.touched, hid]) huntouched

theorem Changed.settled_of_settled (h : Changed host snapshot event id before after)
    (hsettled : before.settlement_state = .settled) : after.settlement_state = .settled :=
  (congrArg OperationV2.settlement_state (h.record_of_settled hsettled)).trans hsettled

end change

section lookup

variable {host : JavaScriptHost} {snapshot : AssignmentSnapshotV2} {event : AssignmentEventV2}
  {next : OperationLedger}

private theorem linkVerification_eq_ok {operations linked : Record OperationV2} {operation : OperationV2}
    (h : linkVerification operations operation = .ok linked) :
    linked = operations ∨ ∃ id subject, operation.verification_of_operation_id = some id ∧ id ≠ ""
      ∧ operations.get? id = some subject
      ∧ linked = operations.set subject.operation_id (verifiedSubject operation.operation_id subject) := by
  unfold linkVerification at h
  split at h
  · next htruthy =>
    split at h
    · cases h
    · next subject hsubject =>
      obtain rfl : _ = linked := by simpa using h
      cases hid : operation.verification_of_operation_id with
      | none => simp [hid, truthy] at htruthy
      | some id => exact .inr ⟨id, subject, rfl, by simpa [hid, truthy] using htruthy,
          by simpa [hid] using hsubject, rfl⟩
  · exact .inl (by simpa using h.symm)

private theorem set_lookup {operations : Record OperationV2} {key id : String} {after moved : OperationV2}
    (hlookup : (operations.set key moved).get? id = some after) :
    (id = key ∧ after = moved) ∨ (id ≠ key ∧ operations.get? id = some after) := by
  rw [Record.get?_set] at hlookup
  split at hlookup
  · next h => exact .inl ⟨h, by simpa using hlookup.symm⟩
  · next h => exact .inr ⟨h, hlookup⟩

private theorem retained_lookup (hkeys : KeyedById snapshot.operations) {observation : ObservationV2}
    {before : OperationV2} {operations : Record OperationV2}
    (hbody : event.body = .observation_retained observation)
    (hget : snapshot.operations.get? observation.operation_id = some before)
    (hretaining : before.retaining = true)
    (hcheck : checkObservation snapshot before observation = .ok ())
    (hlink : linkVerification (snapshot.operations.set before.operation_id
      (retainedOperation host snapshot.assignment_version event.occurred_at observation before)) before
        = .ok operations) {id : String} {after : OperationV2} (hlookup : operations.get? id = some after) :
    ∃ kept, snapshot.operations.get? id = some kept ∧ Changed host snapshot event id kept after := by
  have hkey : before.operation_id = observation.operation_id := hkeys _ _ hget
  rw [hkey] at hlink
  have hsettled : ∀ id after, (snapshot.operations.set observation.operation_id (retainedOperation host
      snapshot.assignment_version event.occurred_at observation before)).get? id = some after →
      ∃ kept, snapshot.operations.get? id = some kept
        ∧ OperationChange host snapshot event id kept after := by
    intro id after hlookup
    obtain ⟨rfl, rfl⟩ | ⟨hne, hkept⟩ := set_lookup hlookup
    · exact ⟨before, hget, .retained observation hbody rfl hretaining hcheck⟩
    · exact ⟨after, hkept, .kept (by simpa [hbody, AssignmentEventBodyV2.touched] using Ne.symm hne)⟩
  obtain rfl | ⟨subjectId, subject, hsubjectId, hne, hsubject, rfl⟩ := linkVerification_eq_ok hlink
  · obtain ⟨kept, hkept, hchange⟩ := hsettled id after hlookup
    exact ⟨kept, hkept, after, hchange, .unlinked⟩
  · obtain ⟨kept, hkept, hchange⟩ := hsettled subjectId subject hsubject
    have hsubjectKey : subject.operation_id = subjectId :=
      (Changed.operation_id ⟨subject, hchange, .unlinked⟩).trans (hkeys _ _ hkept)
    rw [hsubjectKey] at hlookup
    obtain ⟨rfl, rfl⟩ | ⟨-, hother⟩ := set_lookup hlookup
    · exact ⟨kept, hkept, subject, hchange, .linked observation before hbody hget hsubjectId hne⟩
    · obtain ⟨kept, hkept, hchange⟩ := hsettled id after hother
      exact ⟨kept, hkept, after, hchange, .unlinked⟩

/-- Every operation after an event was there before it, or is the one it
    admits. -/
theorem LedgerEffect.lookup (hkeys : KeyedById snapshot.operations)
    (heffect : LedgerEffect host snapshot event next) {id : String} {after : OperationV2}
    (hlookup : next.operations.get? id = some after) :
    (∃ before, snapshot.operations.get? id = some before ∧ Changed host snapshot event id before after)
      ∨ Admitted host snapshot event id after := by
  cases heffect with
  | quiet huntouched => exact .inl ⟨after, hlookup, .kept (by simp [huntouched])⟩
  | ended _ _ hbody =>
    exact .inl ⟨after, hlookup, .kept (by simp [hbody, AssignmentEventBodyV2.touched])⟩
  | provider hcalls => exact .inl ⟨after, hlookup, .kept (by simp [hcalls.touched])⟩
  | admitted operation hbody hvalid =>
    rw [Record.get?_set] at hlookup
    split at hlookup
    · next h =>
      exact .inr ⟨operation, hbody, hvalid, h.symm, by simpa using hlookup.symm⟩
    · exact .inl ⟨after, hlookup, .kept (by simp [hbody, AssignmentEventBodyV2.touched])⟩
  | moved hget hmove =>
    rw [hkeys _ _ hget] at hlookup
    obtain ⟨rfl, rfl⟩ | ⟨hne, hkept⟩ := set_lookup hlookup
    · exact .inl ⟨_, hget, .moved hmove⟩
    · exact .inl ⟨after, hkept, .kept (by simpa [hmove.touched] using Ne.symm hne)⟩
  | retained observation hbody hget hretaining hcheck hlink =>
    exact .inl (retained_lookup hkeys hbody hget hretaining hcheck hlink hlookup)

private theorem get?_set_of_isSome {operations : Record OperationV2} {key id : String}
    {moved before : OperationV2} (hget : operations.get? id = some before) :
    ∃ after, (operations.set key moved).get? id = some after := by
  rw [Record.get?_set]
  split
  · exact ⟨moved, rfl⟩
  · exact ⟨before, hget⟩

private theorem LedgerEffect.get?_of_get? (heffect : LedgerEffect host snapshot event next) {id : String}
    {before : OperationV2} (hget : snapshot.operations.get? id = some before) :
    ∃ after, next.operations.get? id = some after := by
  cases heffect with
  | quiet => exact ⟨before, hget⟩
  | ended => exact ⟨before, hget⟩
  | provider => exact ⟨before, hget⟩
  | admitted => exact get?_set_of_isSome hget
  | moved => exact get?_set_of_isSome hget
  | retained observation hbody hgetVerification hretaining hcheck hlink =>
    obtain rfl | ⟨-, -, -, -, -, rfl⟩ := linkVerification_eq_ok hlink
    · exact get?_set_of_isSome hget
    · obtain ⟨settled, hsettled⟩ := get?_set_of_isSome hget
      exact get?_set_of_isSome hsettled

/-- Every operation is still retained after an event, changed only as the
    event allows. -/
theorem LedgerEffect.persists (hkeys : KeyedById snapshot.operations)
    (heffect : LedgerEffect host snapshot event next) {id : String} {before : OperationV2}
    (hget : snapshot.operations.get? id = some before) :
    ∃ after, next.operations.get? id = some after ∧ Changed host snapshot event id before after := by
  obtain ⟨after, hafter⟩ := heffect.get?_of_get? hget
  refine ⟨after, hafter, ?_⟩
  obtain ⟨kept, hkept, hchange⟩ | ⟨operation, hbody, hvalid, rfl, rfl⟩ := heffect.lookup hkeys hafter
  · obtain rfl : before = kept := by simpa using hget.symm.trans hkept
    exact hchange
  · rw [(validateOperationAdmission_accepted hvalid).fresh] at hget
    cases hget

theorem LedgerEffect.keyedById (hkeys : KeyedById snapshot.operations)
    (heffect : LedgerEffect host snapshot event next) : KeyedById next.operations := by
  intro id after hafter
  obtain ⟨before, hbefore, hchange⟩ | ⟨operation, hbody, hvalid, hid, rfl⟩ := heffect.lookup hkeys hafter
  · exact hchange.operation_id.trans (hkeys id before hbefore)
  · exact hid

end lookup

end revit_operator.assignment_kernel
