import RevitOperator.AssignmentKernel.JournalBuilder
import RevitOperator.AssignmentKernel.StateHistory

open checked checked_run

namespace revit_operator.assignment_kernel

/-- Nothing is in flight and every effect is known. -/
structure AssignmentSnapshotV2.AtRest (snapshot : AssignmentSnapshotV2) : Prop where
  operations : ∀ id operation, snapshot.operations.get? id = some operation → operation.inFlight = false
  calls : ∀ id call, snapshot.provider_calls.get? id = some call → call.inFlight = false
  effects : ∀ id operation, snapshot.operations.get? id = some operation →
    operation.persistent_effect ≠ .unknown

/-- An edit whose effect is applied. -/
def OperationV2.Applied (operation : OperationV2) : Prop :=
  operation.requested_effect = .apply ∧ operation.persistent_effect = .applied

/-- A retained observation of the operation states the verified postcondition. -/
def ObservesPostcondition (snapshot : AssignmentSnapshotV2) (verification : OperationV2) : Prop :=
  ∃ observationId observation fact, observationId ∈ verification.observation_ids
    ∧ snapshot.observations.get? observationId = some observation ∧ fact ∈ observation.facts
    ∧ fact.fact_id = "verification.postcondition_satisfied" ∧ fact.fact_class = some .verification
    ∧ fact.value.isTrue = true

/-- The operation was admitted by a later event than the one that settled the
    other. -/
def OperationV2.AdmittedAfter (operation settled : OperationV2) : Prop :=
  ∃ admittedVersion settledVersion, operation.admitted_assignment_version = some admittedVersion
    ∧ settled.settled_assignment_version = some settledVersion ∧ settledVersion < admittedVersion

/-- A successful read without effect, admitted after the applied operation
    settled, that names it and observed its postcondition. -/
structure VerifiesLater (snapshot : AssignmentSnapshotV2) (applied verification : OperationV2) : Prop where
  later : verification.AdmittedAfter applied
  settled : verification.settlement_state = .settled
  succeeded : verification.result.map OperationResultV2.status = some .succeeded
  read : verification.requested_effect = .read
  effect : verification.persistent_effect = .none
  cites : verification.verification_of_operation_id = some applied.operation_id
  observes : ObservesPostcondition snapshot verification

/-- Every applied operation is settled and verified by a later read. -/
def AppliedAreVerified (snapshot : AssignmentSnapshotV2) : Prop :=
  ∀ id applied, snapshot.operations.get? id = some applied → applied.Applied →
    applied.settlement_state = .settled
      ∧ ∃ verificationId verification, snapshot.operations.get? verificationId = some verification
        ∧ VerifiesLater snapshot applied verification

/-- Every verification names a retained operation that settled before it was
    admitted. -/
def VerificationsComeLater (state : ReducerStateV2) : Prop :=
  ∀ id verification, state.operation? id = some verification → verification.purpose = .verification →
    ∃ subjectId subject, verification.verification_of_operation_id = some subjectId
      ∧ state.operation? subjectId = some subject ∧ verification.AdmittedAfter subject

section step

variable {host : JavaScriptHost} {state next : ReducerStateV2} {event : AssignmentEventV2}

private theorem OperationV2.AdmittedAfter.of_changed {snapshot : AssignmentSnapshotV2} {id : String}
    {version : Nat} {operation before after : OperationV2} (h : operation.AdmittedAfter before)
    (hdated : before.Dated version) (hchange : Changed host snapshot event id before after) :
    operation.AdmittedAfter after := by
  obtain ⟨admittedVersion, settledVersion, hadmitted, hsettled, hlt⟩ := h
  obtain ⟨_, -, -, hstate⟩ := hdated
  simp only [hsettled] at hstate
  have hkept : after.settled_assignment_version = before.settled_assignment_version :=
    (congrArg OperationV2.settled_assignment_version (hchange.record_of_settled hstate.1) :)
  exact ⟨admittedVersion, settledVersion, hadmitted, hkept.trans hsettled, hlt⟩

private theorem verifications_step (hstate : state.Sound) (hlater : VerificationsComeLater state)
    (h : applyEvent host state event = .ok next) : VerificationsComeLater next := by
  intro id verification hget hpurpose
  obtain ⟨snapshot, hsome, ⟨before, hbefore, hchange⟩ | ⟨operation, hbody, hvalid, -, rfl⟩⟩ :=
    applyEvent_lookup hstate h hget
  · have hcited : verification.verification_of_operation_id = before.verification_of_operation_id :=
      (congrArg OperationV2.verification_of_operation_id hchange.contract :)
    have hbeforePurpose : before.purpose = .verification :=
      (congrArg OperationV2.purpose hchange.contract :).symm.trans hpurpose
    obtain ⟨subjectId, subject, hcites, hsubject, hafter⟩ :=
      hlater id before ((ReducerStateV2.operation?_of_some hsome).trans hbefore) hbeforePurpose
    rw [ReducerStateV2.operation?_of_some hsome] at hsubject
    obtain ⟨kept, hkept, hsubjectChange⟩ := applyEvent_persists hstate h hsome hsubject
    have hdated := (hstate snapshot hsome).1.dated subjectId subject hsubject
    obtain ⟨admittedVersion, settledVersion, hadmitted, hrest⟩ := hafter.of_changed hdated hsubjectChange
    exact ⟨subjectId, kept, hcited.trans hcites, hkept, admittedVersion, settledVersion,
      hchange.admitted_assignment_version.trans hadmitted, hrest⟩
  · obtain ⟨subjectId, subject, hcites, hsubject, hsettled⟩ :=
      (validateOperationAdmission_accepted hvalid).subject_settled hpurpose
    obtain ⟨kept, hkept, hchange⟩ := applyEvent_persists hstate h hsome hsubject
    have hdated := (hstate snapshot hsome).1.dated subjectId subject hsubject
    obtain ⟨-, settledVersion, -, hversion, -, hle⟩ := hdated.settled_version hsettled
    have hnext := applyEvent_version h hsome
    have hafter : (admittedOperation event.assignment_version operation).AdmittedAfter subject := by
      refine ⟨event.assignment_version, settledVersion, rfl, hversion, ?_⟩
      rw [hnext]
      exact Nat.lt_succ_of_le hle
    exact ⟨subjectId, kept, hcites, hkept, hafter.of_changed hdated hchange⟩

private theorem feed_verifications {events : List AssignmentEventV2}
    (h : feed (applyEvent host) .initial events = .ok state) : VerificationsComeLater state := by
  have hboth : state.Sound ∧ VerificationsComeLater state := by
    refine feed_invariant (I := fun state => state.Sound ∧ VerificationsComeLater state) ?_ ?_ h
    · rintro state event next ⟨hstate, hlater⟩ hnext
      exact ⟨applyEvent_sound hstate hnext, verifications_step hstate hlater hnext⟩
    · exact ⟨ReducerStateV2.satisfies_initial _, fun id verification hget => by simp at hget⟩
  exact hboth.2

end step

section outcome

variable {host : JavaScriptHost} {snapshot : AssignmentSnapshotV2}

private theorem executionFailureOutcomeV2_ne_complete (failure : ExecutionFailureClassV2) :
    executionFailureOutcomeV2 failure ≠ .complete := by
  cases failure <;> simp [executionFailureOutcomeV2]

private theorem passedOutcome_of_evaluated (h : evaluatedOutcome host snapshot = .complete) :
    passedOutcome host snapshot = .complete := by
  unfold evaluatedOutcome at h
  dsimp only at h
  split_ifs at h
  exact h

/-- A complete outcome is derived at rest, with every effect known, from
    criteria that all pass. -/
private theorem passedOutcome_of_complete (h : deriveAssignmentOutcomeV2 host snapshot = .complete) :
    snapshot.quiescent = true ∧ snapshot.unresolved_unknown_operation_ids = []
      ∧ passedOutcome host snapshot = .complete := by
  unfold deriveAssignmentOutcomeV2 at h
  cases hfailure : lastExecutionFailure snapshot with
  | some failure =>
    simp only [hfailure] at h
    split_ifs at h
    exact absurd h (executionFailureOutcomeV2_ne_complete _)
  | none =>
    simp only [hfailure] at h
    split_ifs at h with hinput hreview hquiescent hblocker hunknown
    exact ⟨by simpa using hquiescent, by simpa using hunknown, passedOutcome_of_evaluated h⟩

private theorem verified_of_passed (h : passedOutcome host snapshot = .complete)
    (heffect : snapshot.spec.requested_effect = .apply) :
    appliedOperations snapshot ≠ [] ∧ ∀ operation ∈ appliedOperations snapshot,
      appliedOperationHasVerifiedPostconditionV2 snapshot operation.operation_id = true := by
  unfold passedOutcome at h
  split_ifs at h with hdelivery hplan hother hverified
  · simp [heffect] at hother
  · simpa using hverified

private theorem mem_appliedOperations {operation : OperationV2} :
    operation ∈ appliedOperations snapshot ↔
      ∃ id, snapshot.operations.get? id = some operation ∧ operation.Applied := by
  simp [appliedOperations, Record.mem_values, OperationV2.Applied]

/-- A verified postcondition is one a successful read of the operation
    observed. -/
private theorem exists_verification {id : String} {applied : OperationV2}
    (hget : snapshot.operations.get? id = some applied)
    (h : appliedOperationHasVerifiedPostconditionV2 snapshot id = true) :
    applied.settlement_state = .settled
      ∧ ∃ verificationId verification, snapshot.operations.get? verificationId = some verification
        ∧ verification.purpose = .verification ∧ verification.settlement_state = .settled
        ∧ verification.result.map OperationResultV2.status = some .succeeded
        ∧ verification.requested_effect = .read ∧ verification.persistent_effect = .none
        ∧ verification.verification_of_operation_id = some applied.operation_id
        ∧ ObservesPostcondition snapshot verification := by
  simp only [appliedOperationHasVerifiedPostconditionV2, hget, Bool.and_eq_true, beq_iff_eq,
    List.any_eq_true] at h
  obtain ⟨⟨-, hsettled⟩, verificationId, -, hcites, hverified⟩ := h
  obtain ⟨verification, hverification, hcites⟩ := Option.bind_eq_some_iff.1 hcites
  simp only [verificationOperationHasVerifiedPostconditionV2, hverification, Bool.and_eq_true] at hverified
  obtain ⟨-, hverified⟩ := hverified
  refine ⟨hsettled, verificationId, verification, hverification, ?_⟩
  split at hverified
  · cases hverified
  · simp only [Bool.and_eq_true, beq_iff_eq] at hverified
    obtain ⟨⟨⟨⟨⟨⟨⟨-, hread⟩, hpurpose⟩, heffect⟩, hstate⟩, hsucceeded⟩, -⟩, hproves⟩ := hverified
    refine ⟨hpurpose, hstate, hsucceeded, hread, heffect, hcites, ?_⟩
    simp only [provesAppliedPostcondition, List.any_eq_true] at hproves
    obtain ⟨observationId, hmem, hobserved⟩ := hproves
    split at hobserved
    · next observation hobservation =>
      simp only [List.any_eq_true, Bool.and_eq_true, beq_iff_eq] at hobserved
      obtain ⟨fact, hfact, ⟨hid, hclass⟩, hvalue⟩ := hobserved
      exact ⟨observationId, observation, fact, hmem, hobservation, hfact, hid, hclass, hvalue⟩
    · cases hobserved

end outcome

/-- An apply assignment that is complete is at rest with every effect known,
    has applied an edit, and has every applied edit settled and verified by a
    later read. -/
theorem complete_is_verified (host : JavaScriptHost) {events : List AssignmentEventV2}
    {snapshot : AssignmentSnapshotV2} (hrun : reduceAssignmentEventsV2 host events = .ok snapshot)
    (heffect : snapshot.spec.requested_effect = .apply) (hcomplete : snapshot.outcome = .complete) :
    snapshot.AtRest
      ∧ (∃ id applied, snapshot.operations.get? id = some applied ∧ applied.Applied)
      ∧ AppliedAreVerified snapshot := by
  obtain ⟨state, hfeed, hsome⟩ := reduceAssignmentEventsV2_eq_ok.1 hrun
  obtain ⟨hcoherent, hindexed, -⟩ := feed_sound hfeed snapshot hsome
  have hlater := feed_verifications hfeed
  obtain ⟨recorded, rfl⟩ := feed_derives hfeed hsome
  obtain ⟨hquiescent, hknown, hpassed⟩ := passedOutcome_of_complete hcomplete
  obtain ⟨happlied, hverified⟩ := verified_of_passed hpassed heffect
  obtain ⟨hoperations, hcalls⟩ := hindexed.quiescent.1 hquiescent
  refine ⟨⟨hoperations, hcalls, hindexed.unknown.1 hknown⟩, ?_, ?_⟩
  · obtain ⟨applied, hmem⟩ := List.exists_mem_of_ne_nil _ happlied
    obtain ⟨id, hget, happlied⟩ := mem_appliedOperations.1 hmem
    exact ⟨id, applied, hget, happlied⟩
  · intro id applied hget happlied
    have hkey : applied.operation_id = id := hcoherent.keyed id applied hget
    have hproven := hverified applied (mem_appliedOperations.2 ⟨id, hget, happlied⟩)
    rw [hkey] at hproven
    obtain ⟨hsettled, verificationId, verification, hverification, hpurpose, hstate, hsucceeded, hread,
      hnone, hcites, hobserves⟩ := exists_verification hget hproven
    refine ⟨hsettled, verificationId, verification, hverification, ?_⟩
    obtain ⟨subjectId, subject, hnames, hsubject, hafter⟩ := hlater verificationId verification
      ((ReducerStateV2.operation?_of_some hsome).trans hverification) hpurpose
    obtain rfl : applied.operation_id = subjectId := by simpa using hcites.symm.trans hnames
    rw [hkey, ReducerStateV2.operation?_of_some hsome] at hsubject
    obtain rfl : applied = subject := by simpa using hget.symm.trans hsubject
    exact ⟨hafter, hstate, hsucceeded, hread, hnone, hcites, hobserves⟩

def sampleEditResult (id : String) : OperationResultV2 :=
  submittedResult (sampleEdit id) .succeeded .dispatched .applied .committed "native-host" true sampleTime

/-- The read that verifies the first edit. -/
def sampleVerification : OperationV2 :=
  { sampleRead "read-1" with
    purpose := .verification
    verification_of_operation_id := some "edit-1"
    target := (sampleEdit "edit-1").target }

def sampleVerificationResult : OperationResultV2 :=
  submittedResult sampleVerification .succeeded .dispatched .none .not_applicable "native-host" true sampleTime

def samplePass : CriterionEvaluationV2 where
  criterion_id := "criterion-1"
  status := .pass
  basis := .execution
  supporting_operation_ids := ["edit-1"]
  supporting_facts := [⟨"observation:edit-1", "wall.moved"⟩]
  evaluator_authority := "criterion-evaluator"
  reason := "The wall moved."
  evaluated_at := sampleTime

/-- An edit is applied, its criterion passes, and a later read verifies it. -/
def completedJournal : List AssignmentEventV2 :=
  sampleJournal [
    ("assignment-kernel", .operation_admitted (sampleEdit "edit-1")),
    ("native-host", .native_dispatch_recorded "edit-1"),
    ("native-host", .operation_result_recorded (sampleEditResult "edit-1") none),
    ("native-host", .observation_retained (submittedObservation (sampleEdit "edit-1")
      (sampleEditResult "edit-1") [sampleFact "wall.moved" .domain])),
    ("criterion-evaluator", .criterion_evaluated samplePass),
    ("assignment-kernel", .operation_admitted sampleVerification),
    ("native-host", .native_dispatch_recorded "read-1"),
    ("native-host", .operation_result_recorded sampleVerificationResult none),
    ("native-host", .observation_retained (submittedObservation sampleVerification sampleVerificationResult
      [sampleFact "verification.postcondition_satisfied" .verification]))]

theorem complete_is_verified_on_first_edit :
    ∃ snapshot, reduceAssignmentEventsV2 asciiHost completedJournal = .ok snapshot
      ∧ snapshot.AtRest
      ∧ (∃ id applied, snapshot.operations.get? id = some applied ∧ applied.Applied)
      ∧ AppliedAreVerified snapshot := by
  have hreached : (reduceAssignmentEventsV2 asciiHost completedJournal).toOption.map (fun snapshot =>
      (snapshot.spec.requested_effect, snapshot.outcome)) = some (.apply, .complete) := by decide
  simp only [Option.map_eq_some_iff, toOption_eq_some, Prod.mk.injEq] at hreached
  obtain ⟨snapshot, hrun, heffect, hcomplete⟩ := hreached
  exact ⟨snapshot, hrun, complete_is_verified asciiHost hrun heffect hcomplete⟩

/-- The terms of an operation stay, and once it is settled its record does. -/
def OperationV2.KeptAs (before after : OperationV2) : Prop :=
  after.contract = before.contract ∧ (before.settlement_state = .settled → after.record = before.record)

/-- History is write-once: whatever events follow, an operation stays retained
    on the terms it was admitted on, and what its settlement recorded stays. -/
theorem admitted_operations_kept (host : JavaScriptHost) {first rest : List AssignmentEventV2}
    {earlier later : AssignmentSnapshotV2} (hfirst : reduceAssignmentEventsV2 host first = .ok earlier)
    (hall : reduceAssignmentEventsV2 host (first ++ rest) = .ok later) {id : String} {before : OperationV2}
    (hbefore : earlier.operations.get? id = some before) :
    ∃ after, later.operations.get? id = some after ∧ before.KeptAs after := by
  obtain ⟨state, hstate, hsome⟩ := reduceAssignmentEventsV2_eq_ok.1 hfirst
  obtain ⟨final, hfinal, hlast⟩ := reduceAssignmentEventsV2_eq_ok.1 hall
  rw [feed_append, hstate, ok_bind] at hfinal
  rw [← ReducerStateV2.operation?_of_some hsome] at hbefore
  rw [← ReducerStateV2.operation?_of_some hlast]
  refine feed_relation (R := fun state _ final => state.Sound → ∀ before, state.operation? id = some before →
    ∃ after, final.operation? id = some after ∧ before.KeptAs after) (fun _ _ before h => ⟨before, h, rfl, fun _ => rfl⟩)
    ?_ hfinal (feed_sound hstate) before hbefore
  intro state event next _ final hnext ih hsound before hget
  obtain ⟨snapshot, hsome, hget⟩ := ReducerStateV2.operation?_eq_some.1 hget
  obtain ⟨moved, hmoved, hchange⟩ := applyEvent_persists hsound hnext hsome hget
  obtain ⟨after, hafter, hcontract, hrecord⟩ := ih (applyEvent_sound hsound hnext) moved hmoved
  exact ⟨after, hafter, hcontract.trans hchange.contract, fun hsettled =>
    (hrecord (hchange.settled_of_settled hsettled)).trans (hchange.record_of_settled hsettled)⟩

theorem admitted_operations_kept_of_edit : ∃ later before after,
    reduceAssignmentEventsV2 asciiHost completedJournal = .ok later ∧ before.settlement_state = .settled
      ∧ later.operations.get? "edit-1" = some after ∧ OperationV2.KeptAs before after := by
  have hsettled : (operationAfter asciiHost (completedJournal.take 6) "edit-1").map OperationV2.settlement_state
      = some .settled := by decide
  simp only [Option.map_eq_some_iff, operationAfter_eq_some, ReducerStateV2.operation?_eq_some] at hsettled
  obtain ⟨before, ⟨state, hstate, snapshot, hsome, hget⟩, hsettled⟩ := hsettled
  obtain ⟨later, hlater⟩ := exists_of_isOk
    (show (reduceAssignmentEventsV2 asciiHost completedJournal).isOk = true by decide)
  obtain ⟨after, hafter, hkept⟩ := admitted_operations_kept asciiHost
    (reduceAssignmentEventsV2_eq_ok.2 ⟨state, hstate, hsome⟩) hlater hget
  exact ⟨later, before, after, hlater, hsettled, hafter, hkept⟩

end revit_operator.assignment_kernel
