import Mathlib.Logic.Relation
import RevitOperator.AssignmentKernel.JournalBuilder
import RevitOperator.AssignmentKernel.StateHistory

open checked checked_run

namespace revit_operator.assignment_kernel

/-- The operation names the other one as its parent or its root. -/
def OperationV2.HangsFrom (operation above : OperationV2) : Prop :=
  operation.parent_operation_id = some above.operation_id
    ∨ operation.root_operation_id = some above.operation_id

/-- The operation lies above the other one among the given ones. -/
def IsAncestor (operations : List OperationV2) (above operation : OperationV2) : Prop :=
  Relation.TransGen (fun below next => next ∈ operations ∧ below.HangsFrom next) operation above

/-- The operation is settled without an effect. -/
def OperationV2.SettledWithoutEffect (operation : OperationV2) : Prop :=
  operation.settlement_state = .settled ∧ operation.persistent_effect = .none

/-- A retained edit asked for the native request of the new operation, and
    neither is an ancestor of the other. -/
structure RepeatsWrite (snapshot : AssignmentSnapshotV2) (operation prior : OperationV2) : Prop where
  retained : prior ∈ snapshot.operations.values
  edits : prior.requested_effect = .apply
  same : sameNativeRequest prior operation = true
  notAbove : ¬ IsAncestor (operation :: snapshot.operations.values) prior operation
  notBelow : ¬ IsAncestor (operation :: snapshot.operations.values) operation prior

/-- An admitted edit repeats only native requests whose earlier edits settled
    without effect, or cites a counter-state. -/
def WritesOnce (host : JavaScriptHost) (state : ReducerStateV2) (event : AssignmentEventV2)
    (_ : ReducerStateV2) : Prop :=
  ∀ snapshot operation prior, state.snapshot = some snapshot → event.body = .operation_admitted operation →
    operation.requested_effect = .apply → RepeatsWrite snapshot operation prior →
    prior.SettledWithoutEffect
      ∨ citesCounterState host (snapshot.atVersion event.assignment_version) operation = true

/-- Outside advisory mode every repeat of a write in question has the progress
    identity of the new edit, which names no retry and is no reconciliation,
    unless it cites a counter-state. -/
def RepeatsAreEquivalent (host : JavaScriptHost) (state : ReducerStateV2) (event : AssignmentEventV2) :
    Prop :=
  ∀ snapshot operation prior, state.snapshot = some snapshot → event.body = .operation_admitted operation →
    operation.requested_effect = .apply → RepeatsWrite snapshot operation prior →
    ¬ prior.SettledWithoutEffect → advisoryVerificationV2 snapshot.spec = false →
    citesCounterState host (snapshot.atVersion event.assignment_version) operation = false →
    operationProgressIdentityV2 prior = operationProgressIdentityV2 operation
      ∧ truthy operation.retry_of_operation_id = false ∧ operation.purpose ≠ .reconciliation

section admission

variable {host : JavaScriptHost} {snapshot : AssignmentSnapshotV2} {operation prior : OperationV2}

private theorem repeat_refused_in_advisory (h : AdmissionAccepted host snapshot operation)
    (hadvisory : advisoryVerificationV2 snapshot.spec = true) (heffect : operation.requested_effect = .apply)
    (hrepeat : RepeatsWrite snapshot operation prior) (hlive : ¬ prior.SettledWithoutEffect) :
    citesCounterState host snapshot operation = true := by
  have hchecked := h.unrepeated
  simp only [checkRepeat, check_bind_eq_ok, onlyIf_eq_ok, require_eq_ok] at hchecked
  refine (hchecked.2 ⟨hadvisory, heffect⟩).resolve_left fun hnone => hnone ?_
  have habove : ∀ id, operation.parent_operation_id = some id ∨ operation.root_operation_id = some id →
      prior.operation_id ≠ id := by
    rintro id hnamed rfl
    exact hrepeat.notAbove (.single ⟨List.mem_cons_of_mem _ hrepeat.retained, hnamed⟩)
  have hparent : some prior.operation_id ≠ operation.parent_operation_id :=
    fun hsame => habove _ (.inl hsame.symm) rfl
  have hroot : some prior.operation_id ≠ operation.root_operation_id :=
    fun hsame => habove _ (.inr hsame.symm) rfl
  have heffectful : prior.persistent_effect ≠ .none ∨ prior.settlement_state ≠ .settled := by
    by_contra hquiet
    simp only [not_or, not_not] at hquiet
    exact hlive ⟨hquiet.2, hquiet.1⟩
  simp only [duplicatesWrite, List.any_eq_true]
  exact ⟨prior, hrepeat.retained, by
    simpa [hrepeat.edits, hparent, hroot, hrepeat.same] using heffectful⟩

private theorem equivalent_repeat_refused (h : AdmissionAccepted host snapshot operation)
    (hcited : citesCounterState host snapshot operation = false)
    (heffect : operation.requested_effect = .apply) (hrepeat : RepeatsWrite snapshot operation prior)
    (hsame : operationProgressIdentityV2 prior = operationProgressIdentityV2 operation) :
    truthy operation.retry_of_operation_id = true ∨ operation.purpose = .reconciliation := by
  have hchecked := h.unrepeated
  have hrepeats : repeatsProgress snapshot operation = true := by
    simp only [repeatsProgress, List.any_eq_true, beq_iff_eq]
    exact ⟨prior, hrepeat.retained, hsame⟩
  simp only [checkRepeat, check_bind_eq_ok, require_eq_ok] at hchecked
  simpa [hcited, heffect, hrepeats] using hchecked.1

end admission

section step

variable {host : JavaScriptHost} {state next : ReducerStateV2} {event : AssignmentEventV2}

private theorem writes_once_iff (h : applyEvent host state event = .ok next) :
    WritesOnce host state event next ↔ RepeatsAreEquivalent host state event := by
  constructor
  · intro honce snapshot operation prior hsome hbody heffect hrepeat hlive hadvisory hcited
    obtain hquiet | hcites := honce snapshot operation prior hsome hbody heffect hrepeat
    · exact absurd hquiet hlive
    · simp [hcites] at hcited
  · intro hequivalent snapshot operation prior hsome hbody heffect hrepeat
    by_contra hneither
    simp only [not_or, Bool.not_eq_true] at hneither
    obtain ⟨hlive, hcited⟩ := hneither
    obtain ⟨admitting, hadmitting, -, hvalid, -⟩ := admission_recorded h hbody
    obtain rfl : snapshot = admitting := by simpa using hsome.symm.trans hadmitting
    have haccepted := validateOperationAdmission_accepted hvalid
    have hretained : RepeatsWrite (snapshot.atVersion event.assignment_version) operation prior :=
      ⟨hrepeat.retained, hrepeat.edits, hrepeat.same, hrepeat.notAbove, hrepeat.notBelow⟩
    cases hadvisory : advisoryVerificationV2 snapshot.spec with
    | true =>
      simp [repeat_refused_in_advisory haccepted hadvisory heffect hretained hlive] at hcited
    | false =>
      obtain ⟨hsame, hretry, hpurpose⟩ :=
        hequivalent snapshot operation prior hsome hbody heffect hrepeat hlive hadvisory hcited
      obtain hretried | hreconciles := equivalent_repeat_refused haccepted hcited heffect hretained hsame
      · simp [hretry] at hretried
      · exact hpurpose hreconciles

end step

/-- No admission of a run repeats an unrelated write that may have had an effect
    if and only if every such repeat is one the equivalence of progress
    catches. -/
theorem no_double_write_iff (host : JavaScriptHost) {events : List AssignmentEventV2}
    {snapshot : AssignmentSnapshotV2} (hrun : reduceAssignmentEventsV2 host events = .ok snapshot) :
    AlongSteps (applyEvent host) .initial events (WritesOnce host)
      ↔ StepsMeet (applyEvent host) .initial events (RepeatsAreEquivalent host) := by
  obtain ⟨final, hfeed, -⟩ := reduceAssignmentEventsV2_eq_ok.1 hrun
  refine alongSteps_iff_stepsMeet sound_steps ?_ (ReducerStateV2.satisfies_initial _) hfeed
  intro state event next _ hnext
  exact writes_once_iff hnext

/-- An edit with a native request of its own. -/
def sampleRequest (id signature : String) : OperationV2 :=
  { sampleEdit id with request_identity := some ⟨"move_wall", some .POST, some "/walls/move", signature⟩ }

/-- The first edit once more, as a retry of the other one. -/
def sampleReplay : OperationV2 :=
  { sampleRequest "edit-1" "signature-1" with
    operation_id := "edit-2"
    retry_of_operation_id := some "edit-0"
    retry_basis := some .host_recovered }

/-- One edit fails before its dispatch, another is applied, and the applied one
    is admitted again as a retry of the failed one. -/
def replayedWriteJournal : List AssignmentEventV2 :=
  sampleJournal [
    ("assignment-kernel", .operation_admitted (sampleRequest "edit-0" "signature-0")),
    ("assignment-kernel", .operation_result_recorded (submittedResult (sampleRequest "edit-0" "signature-0")
      .failed_before_dispatch .not_dispatched .none .not_applicable "backend" false sampleTime) none),
    ("assignment-kernel", .operation_admitted (sampleRequest "edit-1" "signature-1")),
    ("native-host", .native_dispatch_recorded "edit-1"),
    ("native-host", .operation_result_recorded (submittedResult (sampleRequest "edit-1" "signature-1")
      .succeeded .dispatched .applied .committed "native-host" false sampleTime) none),
    ("assignment-kernel", .operation_admitted sampleReplay)]

/-- The replay of the applied edit is admitted. -/
theorem retry_replays_write :
    (∃ snapshot, reduceAssignmentEventsV2 asciiHost replayedWriteJournal = .ok snapshot)
      ∧ ¬ AlongSteps (applyEvent asciiHost) .initial replayedWriteJournal (WritesOnce asciiHost) := by
  have haccepted : (reduceAssignmentEventsV2 asciiHost replayedWriteJournal).isOk = true := by decide
  have happlied : (operationAfter asciiHost (replayedWriteJournal.take 6) "edit-1").map (fun operation =>
      (operation.requested_effect, sameNativeRequest operation sampleReplay, operation.parent_operation_id,
        operation.root_operation_id, operation.persistent_effect))
        = some (.apply, true, none, none, .applied) := by decide
  simp only [Option.map_eq_some_iff, operationAfter_eq_some, Prod.mk.injEq] at happlied
  obtain ⟨prior, ⟨state, hstate, hget⟩, hedits, hsame, hparent, hroot, heffect⟩ := happlied
  obtain ⟨snapshot, hrun⟩ := exists_of_isOk haccepted
  refine ⟨⟨snapshot, hrun⟩, fun honce => ?_⟩
  obtain ⟨final, hfinal, -⟩ := reduceAssignmentEventsV2_eq_ok.1 hrun
  obtain ⟨mid, hmid, hlast⟩ := feed_snoc_eq_ok.1 (show feed (applyEvent asciiHost) .initial
    (replayedWriteJournal.take 6 ++ [_]) = .ok final from hfinal)
  obtain rfl : state = mid := by simpa using hstate.symm.trans hmid
  obtain ⟨before, hsome, hretained⟩ := ReducerStateV2.operation?_eq_some.1 hget
  have hrepeat : RepeatsWrite before sampleReplay prior := by
    refine ⟨Record.mem_values_of_get? hretained, hedits, hsame, fun habove => ?_, fun hbelow => ?_⟩
    · obtain ⟨_, ⟨-, hnamed | hnamed⟩, -⟩ := Relation.TransGen.head'_iff.1 habove <;> cases hnamed
    · obtain ⟨_, ⟨-, hnamed | hnamed⟩, -⟩ := Relation.TransGen.head'_iff.1 hbelow
      · simp [hparent] at hnamed
      · simp [hroot] at hnamed
  obtain ⟨-, hnone⟩ | hcites := honce _ _ (List.prefix_refl _) state final hstate hlast before sampleReplay
    prior hsome rfl rfl hrepeat
  · simp [heffect] at hnone
  · cases hcites

theorem no_double_write_iff_on_applied_edit :
    AlongSteps (applyEvent asciiHost) .initial (replayedWriteJournal.take 6) (WritesOnce asciiHost)
      ↔ StepsMeet (applyEvent asciiHost) .initial (replayedWriteJournal.take 6)
        (RepeatsAreEquivalent asciiHost) := by
  have haccepted : (reduceAssignmentEventsV2 asciiHost (replayedWriteJournal.take 6)).isOk = true := by decide
  obtain ⟨snapshot, hrun⟩ := exists_of_isOk haccepted
  exact no_double_write_iff asciiHost hrun

end revit_operator.assignment_kernel
