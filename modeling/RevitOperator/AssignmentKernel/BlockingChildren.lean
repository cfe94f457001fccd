import RevitOperator.AssignmentKernel.JournalBuilder
import RevitOperator.AssignmentKernel.StateHistory

open checked checked_run

namespace revit_operator.assignment_kernel

/-- No settled operation has a blocking child that is not settled. -/
def ParentsOutlastChildren (state : ReducerStateV2) : Prop :=
  ∀ id childId parent child, state.operation? id = some parent → state.operation? childId = some child →
    parent.settlement_state = .settled → child.blocks id = false

/-- The event ends the retention of the operation, with its observation or
    without. -/
def AssignmentEventV2.EndsRetention (event : AssignmentEventV2) (id : String) : Prop :=
  (∃ observation, event.body = .observation_retained observation ∧ observation.operation_id = id)
    ∨ ∃ errorCode, event.body = .observation_retention_failed id errorCode

/-- Another retained operation is an unsettled blocking child. -/
def BlockedByChild (state : ReducerStateV2) (id : String) : Prop :=
  ∃ childId child, state.operation? childId = some child ∧ childId ≠ id ∧ child.blocks id = true

/-- The event does not end the retention of an operation that an unsettled child
    blocks, and does not admit a blocking child below a settled operation. -/
def LeavesNoChildBehind (state : ReducerStateV2) (event : AssignmentEventV2) : Prop :=
  (∀ id operation, event.EndsRetention id → state.operation? id = some operation →
      ¬ BlockedByChild state id)
    ∧ ∀ operation parentId parent, event.body = .operation_admitted operation →
      operation.parent_operation_id = some parentId → operation.blocks_parent_settlement ≠ some false →
      state.operation? parentId = some parent → parent.settlement_state ≠ .settled

theorem OperationV2.blocks_eq_true {operation : OperationV2} {parent : String} :
    operation.blocks parent = true ↔ operation.parent_operation_id = some parent
      ∧ operation.blocks_parent_settlement ≠ some false ∧ operation.settlement_state ≠ .settled := by
  simp [blocks, and_assoc]

theorem childrenSettled_eq_true {snapshot : AssignmentSnapshotV2} {id : String} :
    childrenSettled snapshot id = true ↔
      ∀ childId child, snapshot.operations.get? childId = some child → child.blocks id = false := by
  simp only [childrenSettled, Bool.not_eq_true', List.any_eq_false, Record.mem_values]
  constructor
  · exact fun h childId child hget => by simpa using h child ⟨childId, hget⟩
  · rintro h child ⟨childId, hget⟩
    simpa using h childId child hget

theorem AssignmentEventV2.EndsRetention.touched {event : AssignmentEventV2} {id : String}
    (h : event.EndsRetention id) : event.body.touched = some id := by
  obtain ⟨observation, hbody, rfl⟩ | ⟨errorCode, hbody⟩ := h <;>
    simp [hbody, AssignmentEventBodyV2.touched]

section change

variable {host : JavaScriptHost} {snapshot : AssignmentSnapshotV2} {event : AssignmentEventV2}
  {id : String} {before after : OperationV2}

/-- Settlement never comes undone, so a child that blocks after an event
    blocked before it. -/
private theorem Changed.blocks_of_blocks {parent : String} (h : Changed host snapshot event id before after)
    (hblocks : after.blocks parent = true) : before.blocks parent = true := by
  obtain ⟨hparent, hflag, hunsettled⟩ := OperationV2.blocks_eq_true.1 hblocks
  refine OperationV2.blocks_eq_true.2 ⟨?_, ?_, fun hsettled => hunsettled (h.settled_of_settled hsettled)⟩
  · exact (congrArg OperationV2.parent_operation_id h.contract :).symm.trans hparent
  · have hsame : after.blocks_parent_settlement = before.blocks_parent_settlement :=
      (congrArg OperationV2.blocks_parent_settlement h.contract :)
    rwa [← hsame]

/-- An operation settles by a result whose operation has no unsettled blocking
    child, or at the end of its retention. -/
private theorem Changed.settles (h : Changed host snapshot event id before after)
    (hbefore : before.settlement_state ≠ .settled) (hafter : after.settlement_state = .settled) :
    (event.body.touched = some id ∧ childrenSettled snapshot before.operation_id = true)
      ∨ event.EndsRetention id := by
  obtain ⟨moved, hchange, hlink⟩ := h
  have hmoved : moved.settlement_state = .settled := by
    cases hlink with
    | unlinked => exact hafter
    | linked => exact hafter
  cases hchange with
  | kept => exact absurd hmoved hbefore
  | retained observation hbody hid => exact .inr (.inl ⟨observation, hbody, hid⟩)
  | moved hmove =>
    have htouched := hmove.touched
    cases hmove with
    | dispatch_started => simp [startedOperation] at hmoved
    | native_dispatched => simp [dispatchedOperation] at hmoved
    | dispatched => simp [dispatchedOperation] at hmoved
    | resulted result commit hbody hid hawaits hvalid =>
      simp only [validateResult, check_bind_eq_ok, require_eq_ok] at hvalid
      exact .inl ⟨htouched, hvalid.2.2.1⟩
    | commit_retried => exact absurd hmoved hbefore
    | commit_failed => simp [commitFailedOperation] at hmoved
    | retention_failed errorCode hbody => exact .inr (.inr ⟨errorCode, hbody⟩)
    | completion_reconciled => exact absurd hmoved hbefore
    | reconciled => exact absurd hmoved hbefore

private theorem Changed.settled_of_endsRetention (h : Changed host snapshot event id before after)
    (hends : event.EndsRetention id) : after.settlement_state = .settled := by
  have hkind : ∀ body, event.body = body →
      (∃ observation, body = .observation_retained observation ∧ observation.operation_id = id)
        ∨ ∃ errorCode, body = .observation_retention_failed id errorCode :=
    fun body hbody => hbody ▸ hends
  obtain ⟨moved, hchange, hlink⟩ := h
  have hmoved : moved.settlement_state = .settled := by
    cases hchange with
    | kept huntouched => exact absurd hends.touched huntouched
    | retained => rfl
    | moved hmove =>
      cases hmove with
      | retention_failed => rfl
      | native_dispatched hbody => simpa using hkind _ hbody
      | dispatched _ hbody => simpa using hkind _ hbody
      | dispatch_started hbody => simpa using hkind _ hbody
      | resulted _ _ hbody => simpa using hkind _ hbody
      | commit_retried _ _ _ hbody => simpa using hkind _ hbody
      | commit_failed _ _ _ hbody => simpa using hkind _ hbody
      | completion_reconciled _ _ hbody => simpa using hkind _ hbody
      | reconciled _ _ hbody => simpa using hkind _ hbody
  cases hlink with
  | unlinked => exact hmoved
  | linked => exact hmoved

private theorem Admitted.unsettled (h : Admitted host snapshot event id after) :
    after.settlement_state ≠ .settled := by
  obtain ⟨operation, -, hvalid, -, rfl⟩ := h
  simp [admittedOperation, (validateOperationAdmission_accepted hvalid).settlement_open]

end change

section step

variable {host : JavaScriptHost} {state next : ReducerStateV2} {event : AssignmentEventV2}

private theorem children_step (hstate : state.Sound) (hparents : ParentsOutlastChildren state)
    (hmeet : LeavesNoChildBehind state event) (h : applyEvent host state event = .ok next) :
    ParentsOutlastChildren next := by
  intro id childId parent child hparent hchild hsettled
  by_contra hblocks
  have hblocks : child.blocks id = true := by simpa using hblocks
  obtain ⟨snapshot, hsome, ⟨before, hbefore, hchange⟩ | hadmitted⟩ := applyEvent_lookup hstate h hparent
  swap
  · exact hadmitted.unsettled hsettled
  have hbeforeGet := (ReducerStateV2.operation?_of_some hsome).trans hbefore
  obtain ⟨_, hsome', hcases⟩ := applyEvent_lookup hstate h hchild
  obtain rfl := Option.some.inj (hsome'.symm.trans hsome)
  obtain ⟨childBefore, hchildBefore, hchildChange⟩ | ⟨operation, hbody, hvalid, hid, rfl⟩ := hcases
  · have hchildGet := (ReducerStateV2.operation?_of_some hsome).trans hchildBefore
    have hchildBlocks := hchildChange.blocks_of_blocks hblocks
    by_cases hold : before.settlement_state = .settled
    · simp [hparents id childId before childBefore hbeforeGet hchildGet hold] at hchildBlocks
    · obtain ⟨-, hfree⟩ | hends := hchange.settles hold hsettled
      · have hkey : before.operation_id = id := (hstate _ hsome).1.keyed id before hbefore
        rw [hkey, childrenSettled_eq_true] at hfree
        simp [hfree childId childBefore hchildBefore] at hchildBlocks
      · have hself : childId ≠ id := by
          rintro rfl
          obtain rfl : parent = child := by simpa using hparent.symm.trans hchild
          exact (OperationV2.blocks_eq_true.1 hblocks).2.2 hsettled
        exact hmeet.1 id before hends hbeforeGet ⟨childId, childBefore, hchildGet, hself, hchildBlocks⟩
  · obtain ⟨hparentId, hflag, -⟩ := OperationV2.blocks_eq_true.1 hblocks
    have hold : before.settlement_state ≠ .settled :=
      hmeet.2 operation id before hbody hparentId hflag hbeforeGet
    obtain ⟨htouched, -⟩ | hends := hchange.settles hold hsettled
    · simp [hbody, AssignmentEventBodyV2.touched] at htouched
    · simp [AssignmentEventV2.EndsRetention, hbody] at hends

private theorem child_left_behind (hstate : state.Sound) (hmiss : ¬ LeavesNoChildBehind state event)
    (h : applyEvent host state event = .ok next) : ¬ ParentsOutlastChildren next := by
  intro hparents
  apply hmiss
  constructor
  · rintro id operation hends hoperation ⟨childId, child, hchild, hne, hblocks⟩
    obtain ⟨snapshot, hsome, hget⟩ := ReducerStateV2.operation?_eq_some.1 hoperation
    obtain ⟨after, hafter, hchange⟩ := applyEvent_persists hstate h hsome hget
    rw [ReducerStateV2.operation?_of_some hsome] at hchild
    obtain ⟨childAfter, hchildAfter, hchildChange⟩ := applyEvent_persists hstate h hsome hchild
    have hstill : childAfter.blocks id = true := by
      obtain rfl | ⟨_, rfl⟩ := hchildChange.of_untouched (by simpa [hends.touched] using Ne.symm hne)
      · exact hblocks
      · exact hblocks
    simp [hparents id childId after childAfter hafter hchildAfter
      (hchange.settled_of_endsRetention hends)] at hstill
  · intro operation parentId parent hbody hparentId hflag hparent hsettled
    obtain ⟨snapshot, hsome, -, hvalid, hadmitted⟩ := admission_recorded h hbody
    rw [ReducerStateV2.operation?_of_some hsome] at hparent
    obtain ⟨parentAfter, hparentAfter, hchange⟩ := applyEvent_persists hstate h hsome hparent
    have hblocks : (admittedOperation event.assignment_version operation).blocks parentId = true :=
      OperationV2.blocks_eq_true.2 ⟨hparentId, hflag, by
        simp [admittedOperation, (validateOperationAdmission_accepted hvalid).settlement_open]⟩
    simp [hparents parentId _ parentAfter _ hparentAfter hadmitted
      (hchange.settled_of_settled hsettled)] at hblocks

end step

/-- No operation is ever settled over an unsettled blocking child if and only if
    no event of the run ends a retention over one or admits one below a settled
    operation. -/
theorem parents_outlast_children_iff (host : JavaScriptHost) {events : List AssignmentEventV2}
    {snapshot : AssignmentSnapshotV2} (hrun : reduceAssignmentEventsV2 host events = .ok snapshot) :
    AlongRun (applyEvent host) .initial events ParentsOutlastChildren
      ↔ StepsMeet (applyEvent host) .initial events LeavesNoChildBehind := by
  obtain ⟨final, hfeed, -⟩ := reduceAssignmentEventsV2_eq_ok.1 hrun
  refine alongRun_iff_stepsMeet (I := ReducerStateV2.Sound) sound_steps
    (fun state event next hstate hparents hmeet hnext => children_step hstate hparents hmeet hnext)
    (fun state event next hstate _ hmiss hnext => child_left_behind hstate hmiss hnext)
    (ReducerStateV2.satisfies_initial _) ?_ hfeed
  intro id childId parent child hget
  simp at hget

def sampleReadResult (id : String) : OperationResultV2 :=
  submittedResult (sampleRead id) .succeeded .dispatched .none .not_applicable "native-host" true sampleTime

/-- A read delegates to a child while its own observation is being retained,
    and the observation is then retained. -/
def abandonedChildJournal : List AssignmentEventV2 :=
  sampleJournal [
    ("assignment-kernel", .operation_admitted (sampleRead "read-1")),
    ("native-host", .native_dispatch_recorded "read-1"),
    ("native-host", .operation_result_recorded (sampleReadResult "read-1") none),
    ("assignment-kernel", .operation_admitted ((sampleRead "read-2").childOf (sampleRead "read-1"))),
    ("native-host", .observation_retained
      (submittedObservation (sampleRead "read-1") (sampleReadResult "read-1") []))]

/-- The parent settles over its open child. -/
theorem parent_settles_over_child :
    (∃ snapshot, reduceAssignmentEventsV2 asciiHost abandonedChildJournal = .ok snapshot)
      ∧ ¬ AlongRun (applyEvent asciiHost) .initial abandonedChildJournal ParentsOutlastChildren := by
  have hparent : (operationAfter asciiHost abandonedChildJournal "read-1").map
      OperationV2.settlement_state = some .settled := by decide
  have hchild : (operationAfter asciiHost abandonedChildJournal "read-2").map
      (OperationV2.blocks · "read-1") = some true := by decide
  simp only [Option.map_eq_some_iff, operationAfter_eq_some] at hparent hchild
  obtain ⟨parent, ⟨state, hstate, hget⟩, hsettled⟩ := hparent
  obtain ⟨child, ⟨_, hsame, hchildGet⟩, hblocks⟩ := hchild
  obtain rfl := Except.ok.inj (hstate.symm.trans hsame)
  constructor
  · obtain ⟨snapshot, hsome, -⟩ := ReducerStateV2.operation?_eq_some.1 hget
    exact ⟨snapshot, reduceAssignmentEventsV2_eq_ok.2 ⟨state, hstate, hsome⟩⟩
  · intro hparents
    have hfree := hparents _ (List.prefix_refl _) state hstate "read-1" "read-2" parent child hget
      hchildGet hsettled
    simp [hblocks] at hfree

theorem parents_outlast_children_iff_on_abandoned_child :
    AlongRun (applyEvent asciiHost) .initial abandonedChildJournal ParentsOutlastChildren
      ↔ StepsMeet (applyEvent asciiHost) .initial abandonedChildJournal LeavesNoChildBehind := by
  have haccepted : (reduceAssignmentEventsV2 asciiHost abandonedChildJournal).isOk = true := by decide
  obtain ⟨snapshot, hrun⟩ := exists_of_isOk haccepted
  exact parents_outlast_children_iff asciiHost hrun

end revit_operator.assignment_kernel
