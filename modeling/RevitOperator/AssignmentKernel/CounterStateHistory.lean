import Mathlib.Tactic.MkIffOfInductiveProp
import RevitOperator.AssignmentKernel.CounterStateProof
import RevitOperator.AssignmentKernel.RepeatedWrites

open checked checked_run
open revit_operator.contracts

namespace revit_operator.assignment_kernel

/-- No two operations name the same identity. -/
def UsedOnce (operations : Record OperationV2) (cited : OperationV2 → Option String) : Prop :=
  ∀ id other operation otherOperation cite, operations.get? id = some operation →
    operations.get? other = some otherOperation → cited operation = some cite →
    cited otherOperation = some cite → id = other

/-- The ends of the pair an operation names: settled in turn before the
    operation was admitted. -/
structure CitesPair (operations : Record OperationV2) (kind : CounterStateKind) (operation : OperationV2)
    (ofId afterId : String) : Prop where
  named : operation.citedOf kind = some ofId ∧ operation.citedAfter kind = some afterId
  ends : ∃ earlier counter admitted, operations.get? ofId = some earlier
    ∧ operations.get? afterId = some counter ∧ CounterStateEnd operations operation.binding kind earlier
    ∧ CounterStateEnd operations operation.binding kind counter
    ∧ operation.admitted_assignment_version = some admitted ∧ SettledInTurn earlier counter admitted

/-- An operation names both ends of a proved pair or neither. -/
def CitationsBacked (operations : Record OperationV2) (kind : CounterStateKind) : Prop :=
  ∀ id operation, operations.get? id = some operation →
    (operation.citedOf kind).isSome = true ∨ (operation.citedAfter kind).isSome = true →
    ∃ ofId afterId, CitesPair operations kind operation ofId afterId

/-- Every checkpoint names a committed change of elements. -/
def CheckpointsSaveChanges (snapshot : AssignmentSnapshotV2) : Prop :=
  ∀ id operation afterId, snapshot.operations.get? id = some operation →
    operation.checkpoint_after_operation_id = some afterId →
    ∃ change, snapshot.operations.get? afterId = some change
      ∧ committedElementChange snapshot change.binding change = true

section frozen

variable {host : JavaScriptHost} {snapshot : AssignmentSnapshotV2} {event : AssignmentEventV2}
  {id : String} {before after : OperationV2}

/-- The two operations agree on everything settlement fixes and on their
    effect. -/
def OperationV2.SameSettlement (after before : OperationV2) : Prop :=
  after.record = before.record ∧ after.persistent_effect = before.persistent_effect

theorem Changed.sameSettlement (h : Changed host snapshot event id before after)
    (hsettled : before.settlement_state = .settled) (hknown : before.persistent_effect ≠ .unknown) :
    after.SameSettlement before := by
  refine ⟨h.record_of_settled hsettled, ?_⟩
  obtain ⟨moved, hchange, hlink⟩ := h
  have hmoved : moved.persistent_effect = before.persistent_effect := by
    cases hchange with
    | kept => rfl
    | retained => rfl
    | moved hmove =>
      cases hmove with
      | dispatch_started => rfl
      | native_dispatched _ hdispatchable => simp [OperationV2.dispatchable, hsettled] at hdispatchable
      | dispatched _ _ hdispatchable => simp [OperationV2.dispatchable, hsettled] at hdispatchable
      | resulted _ _ _ _ hawaits => simp [OperationV2.awaitsResult, hsettled] at hawaits
      | commit_retried => rfl
      | commit_failed => rfl
      | retention_failed => rfl
      | completion_reconciled _ _ _ hunknown => exact absurd hunknown hknown
      | reconciled _ _ _ hunknown => exact absurd hunknown hknown
  cases hlink with
  | unlinked => exact hmoved
  | linked => exact hmoved

theorem Changed.citedOf (h : Changed host snapshot event id before after) (kind : CounterStateKind) :
    after.citedOf kind = before.citedOf kind :=
  (congrArg (OperationV2.citedOf · kind) h.contract :)

theorem Changed.citedAfter (h : Changed host snapshot event id before after) (kind : CounterStateKind) :
    after.citedAfter kind = before.citedAfter kind :=
  (congrArg (OperationV2.citedAfter · kind) h.contract :)

end frozen

/-- Every settled operation with a known effect is still retained as it was. -/
def KeepsSettled (operations next : Record OperationV2) : Prop :=
  ∀ id before, operations.get? id = some before → before.settlement_state = .settled →
    before.persistent_effect ≠ .unknown →
    ∃ after, next.get? id = some after ∧ after.SameSettlement before

section kept

variable {operations next : Record OperationV2} {binding : AssignmentBindingV2} {kind : CounterStateKind}
  {id : String} {before after : OperationV2}

namespace OperationV2.SameSettlement

theorem operation_id (h : after.SameSettlement before) : after.operation_id = before.operation_id :=
  (congrArg OperationV2.operation_id h.1 :)

theorem parent_operation_id (h : after.SameSettlement before) :
    after.parent_operation_id = before.parent_operation_id :=
  (congrArg OperationV2.parent_operation_id h.1 :)

theorem admitted_assignment_version (h : after.SameSettlement before) :
    after.admitted_assignment_version = before.admitted_assignment_version :=
  (congrArg OperationV2.admitted_assignment_version h.1 :)

theorem settled_assignment_version (h : after.SameSettlement before) :
    after.settled_assignment_version = before.settled_assignment_version :=
  (congrArg OperationV2.settled_assignment_version h.1 :)

end OperationV2.SameSettlement

private theorem NativeEdit.of_sameSettlement (h : NativeEdit binding before)
    (hsame : after.SameSettlement before) : NativeEdit binding after where
  settled := (congrArg OperationV2.settlement_state hsame.1 :).trans h.settled
  applied := hsame.2.trans h.applied
  native := (congrArg OperationV2.dispatch_authority hsame.1 :).trans h.native
  bound := (congrArg OperationV2.binding hsame.1 :).trans h.bound
  document := (congrArg (fun operation => operation.target.document_fingerprint) hsame.1 :).trans h.document
  result := by
    obtain ⟨result, hresult, hrest⟩ := h.result
    exact ⟨result, (congrArg OperationV2.result hsame.1 :).trans hresult, hrest⟩

private theorem WrapsNativeEdit.kept (hkept : KeepsSettled operations next)
    (h : WrapsNativeEdit operations binding before) (hsame : after.SameSettlement before) :
    WrapsNativeEdit next binding after where
  settled := (congrArg OperationV2.settlement_state hsame.1 :).trans h.settled
  effect := hsame.2.trans h.effect
  bound := (congrArg OperationV2.binding hsame.1 :).trans h.bound
  child := by
    obtain ⟨id, child, hget, hparent, hedit, hadmitted, hsettled⟩ := h.child
    obtain ⟨childAfter, hafter, hchild⟩ := hkept id child hget hedit.settled (by simp [hedit.applied])
    refine ⟨id, childAfter, hafter, ?_, hedit.of_sameSettlement hchild, ?_, ?_⟩
    · rw [hchild.parent_operation_id, hparent, hsame.operation_id]
    · rwa [hchild.admitted_assignment_version, hsame.admitted_assignment_version]
    · rwa [hchild.settled_assignment_version, hsame.settled_assignment_version]

private theorem CounterStateEnd.kept (hkept : KeepsSettled operations next)
    (hget : operations.get? id = some before) (h : CounterStateEnd operations binding kind before) :
    ∃ after, next.get? id = some after ∧ after.SameSettlement before
      ∧ CounterStateEnd next binding kind after := by
  have hknown : before.persistent_effect ≠ .unknown := by
    obtain hedit | ⟨-, hwraps⟩ := h
    · simp [hedit.applied]
    · simp [hwraps.effect]
  obtain ⟨after, hafter, hsame⟩ := hkept id before hget h.settled hknown
  refine ⟨after, hafter, hsame, ?_⟩
  obtain hedit | ⟨hkind, hwraps⟩ := h
  · exact .inl (hedit.of_sameSettlement hsame)
  · exact .inr ⟨hkind, hwraps.kept hkept hsame⟩

private theorem SettledInTurn.of_sameSettlement {earlier counter earlierAfter counterAfter : OperationV2}
    {version : Nat} (h : SettledInTurn earlier counter version)
    (hearlier : earlierAfter.SameSettlement earlier) (hcounter : counterAfter.SameSettlement counter) :
    SettledInTurn earlierAfter counterAfter version := by
  obtain ⟨earlierSettled, counterAdmitted, counterSettled, h1, h2, h3, hrest⟩ := h
  exact ⟨earlierSettled, counterAdmitted, counterSettled,
    hearlier.settled_assignment_version.trans h1, hcounter.admitted_assignment_version.trans h2,
    hcounter.settled_assignment_version.trans h3, hrest⟩

private theorem pair_kept (hkept : KeepsSettled operations next) {earlier counter : OperationV2}
    {ofId afterId : String} {version : Nat} (hearlier : operations.get? ofId = some earlier)
    (hcounter : operations.get? afterId = some counter)
    (hends : CounterStateEnd operations binding kind earlier ∧ CounterStateEnd operations binding kind counter)
    (hturn : SettledInTurn earlier counter version) :
    ∃ earlierAfter counterAfter, next.get? ofId = some earlierAfter ∧ next.get? afterId = some counterAfter
      ∧ CounterStateEnd next binding kind earlierAfter ∧ CounterStateEnd next binding kind counterAfter
      ∧ SettledInTurn earlierAfter counterAfter version := by
  obtain ⟨earlierAfter, hearlierGet, hearlierSame, hearlierEnd⟩ := hends.1.kept hkept hearlier
  obtain ⟨counterAfter, hcounterGet, hcounterSame, hcounterEnd⟩ := hends.2.kept hkept hcounter
  exact ⟨earlierAfter, counterAfter, hearlierGet, hcounterGet, hearlierEnd, hcounterEnd,
    hturn.of_sameSettlement hearlierSame hcounterSame⟩

private theorem nativeApplied_mono {snapshot nextSnapshot : AssignmentSnapshotV2}
    (hversion : snapshot.assignment_version ≤ nextSnapshot.assignment_version)
    (h : nativeApplied snapshot binding before = true) : nativeApplied nextSnapshot binding before = true := by
  have hstamped : stampedInOrder snapshot before = true → stampedInOrder nextSnapshot before = true := by
    unfold stampedInOrder versionsOrdered
    split
    · simp only [Bool.and_eq_true, decide_eq_true_eq]
      exact fun ⟨⟨hadmitted, hsettled⟩, hpositive⟩ => ⟨⟨hadmitted, hsettled.trans hversion⟩, hpositive⟩
    · simp
  unfold nativeApplied at h ⊢
  split at h
  · cases h
  · simp only [Bool.and_eq_true] at h ⊢
    exact ⟨h.1, hstamped h.2⟩

/-- A committed change of elements rests on nothing that settlement leaves
    open. -/
private theorem committedElementChange_kept {snapshot nextSnapshot : AssignmentSnapshotV2}
    (hversion : snapshot.assignment_version ≤ nextSnapshot.assignment_version)
    (hsame : after.SameSettlement before)
    (h : committedElementChange snapshot binding before = true) :
    committedElementChange nextSnapshot binding after = true := by
  have hsettlement : ∀ operation, committedElementChange nextSnapshot binding operation =
      committedElementChange nextSnapshot binding
        { operation.record with persistent_effect := operation.persistent_effect } := fun _ => rfl
  rw [hsettlement, hsame.1, hsame.2, ← hsettlement]
  unfold committedElementChange at h ⊢
  cases hresult : before.result with
  | none => simp [hresult] at h
  | some result =>
    simp only [hresult, Bool.and_eq_true, and_assoc] at h ⊢
    exact ⟨nativeApplied_mono hversion h.1, h.2⟩

end kept

section step

variable {host : JavaScriptHost} {state next : ReducerStateV2} {event : AssignmentEventV2}
  {snapshot nextSnapshot : AssignmentSnapshotV2}

private theorem applyEvent_keepsSettled (hstate : state.Sound) (h : applyEvent host state event = .ok next)
    (hsome : state.snapshot = some snapshot) (hnext : next.snapshot = some nextSnapshot) :
    KeepsSettled snapshot.operations nextSnapshot.operations := by
  intro id before hget hsettled hknown
  obtain ⟨after, hafter, hchange⟩ := applyEvent_persists hstate h hsome hget
  rw [ReducerStateV2.operation?_of_some hnext] at hafter
  exact ⟨after, hafter, hchange.sameSettlement hsettled hknown⟩

private theorem admission_pair (hstate : state.Sound) (h : applyEvent host state event = .ok next)
    (hsome : state.snapshot = some snapshot) {operation : OperationV2}
    (hbody : event.body = .operation_admitted operation) (kind : CounterStateKind)
    (hcites : (operation.citedOf kind).isSome = true ∨ (operation.citedAfter kind).isSome = true) :
    ∃ pair, operation.citedOf kind = some pair.of_operation_id
      ∧ operation.citedAfter kind = some pair.after_operation_id
      ∧ derivedPair host (snapshot.atVersion event.assignment_version) operation kind = some pair
      ∧ PairProved snapshot.operations snapshot.assignment_version operation.binding kind pair := by
  obtain ⟨admitting, hadmitting, -, hvalid, -⟩ := admission_recorded h hbody
  obtain rfl : snapshot = admitting := by simpa using hsome.symm.trans hadmitting
  have haccepted := validateOperationAdmission_accepted hvalid
  obtain ⟨pair, hpair, hof, hafter⟩ := haccepted.cited_pair kind hcites
  have hcoherent := (hstate snapshot hsome).1
  have hproved := derivedPair_proved (hcoherent.keyedAt _) hcoherent.dated haccepted.fresh hpair
  exact ⟨pair, hof, hafter, hpair, hproved⟩

/-- A citation that every event keeps and that is new with each admission is
    used once. -/
private theorem usedOnce_step {cited : OperationV2 → Option String} (hstate : state.Sound)
    (h : applyEvent host state event = .ok next) (hsome : state.snapshot = some snapshot)
    (hnext : next.snapshot = some nextSnapshot)
    (hkept : ∀ {id before after},
      Changed host (snapshot.atVersion event.assignment_version) event id before after →
      cited after = cited before)
    (hadmitted : ∀ version operation, cited (admittedOperation version operation) = cited operation)
    (hnew : ∀ operation cite, event.body = .operation_admitted operation → cited operation = some cite →
      ∀ id retained, snapshot.operations.get? id = some retained → cited retained ≠ some cite)
    (honce : UsedOnce snapshot.operations cited) : UsedOnce nextSnapshot.operations cited := by
  intro id other operation otherOperation cite hget hother hcites hotherCites
  rw [← ReducerStateV2.operation?_of_some hnext] at hget hother
  obtain ⟨_, hfrom, hleft⟩ := applyEvent_lookup hstate h hget
  obtain rfl : snapshot = _ := by simpa using hsome.symm.trans hfrom
  obtain ⟨_, hfrom', hright⟩ := applyEvent_lookup hstate h hother
  obtain rfl : snapshot = _ := by simpa using hsome.symm.trans hfrom'
  obtain ⟨left, hleft, hleftChange⟩ | ⟨left, hleftBody, -, hleftId, rfl⟩ := hleft
  · rw [hkept hleftChange] at hcites
    obtain ⟨right, hright, hrightChange⟩ | ⟨right, hrightBody, -, -, rfl⟩ := hright
    · rw [hkept hrightChange] at hotherCites
      exact honce id other left right cite hleft hright hcites hotherCites
    · rw [hadmitted] at hotherCites
      exact absurd hcites (hnew right cite hrightBody hotherCites id left hleft)
  · rw [hadmitted] at hcites
    obtain ⟨right, hright, hrightChange⟩ | ⟨right, hrightBody, -, hrightId, rfl⟩ := hright
    · rw [hkept hrightChange] at hotherCites
      exact absurd hotherCites (hnew left cite hleftBody hcites other right hright)
    · obtain rfl : left = right := by simpa using hleftBody.symm.trans hrightBody
      exact hleftId.symm.trans hrightId

/-- Every operation names both ends of a proved pair or neither, after an event
    as before it. -/
private theorem backed_step {kind : CounterStateKind} (hstate : state.Sound)
    (h : applyEvent host state event = .ok next) (hsome : state.snapshot = some snapshot)
    (hnext : next.snapshot = some nextSnapshot) (hbacked : CitationsBacked snapshot.operations kind) :
    CitationsBacked nextSnapshot.operations kind := by
  have hkept := applyEvent_keepsSettled hstate h hsome hnext
  intro id after hget hcites
  rw [← ReducerStateV2.operation?_of_some hnext] at hget
  obtain ⟨_, hfrom, hlookup⟩ := applyEvent_lookup hstate h hget
  obtain rfl : snapshot = _ := by simpa using hsome.symm.trans hfrom
  obtain ⟨before, hbefore, hchange⟩ | ⟨operation, hbody, -, -, rfl⟩ := hlookup
  · rw [hchange.citedOf, hchange.citedAfter] at hcites
    obtain ⟨ofId, afterId, hnamed, earlier, counter, admitted, hearlier, hcounter, hearlierEnd, hcounterEnd,
      hadmitted, hturn⟩ := hbacked id before hbefore hcites
    obtain ⟨earlierAfter, counterAfter, hearlierGet, hcounterGet, hearlierEnd, hcounterEnd, hturn⟩ :=
      pair_kept hkept hearlier hcounter ⟨hearlierEnd, hcounterEnd⟩ hturn
    rw [← hchange.binding] at hearlierEnd hcounterEnd
    exact ⟨ofId, afterId, by rwa [hchange.citedOf, hchange.citedAfter], earlierAfter, counterAfter, admitted,
      hearlierGet, hcounterGet, hearlierEnd, hcounterEnd,
      hchange.admitted_assignment_version.trans hadmitted, hturn⟩
  · obtain ⟨pair, hof, hafter, -, hproved⟩ := admission_pair hstate h hsome hbody kind hcites
    obtain ⟨earlier, counter, hearlier, hcounter, hearlierEnd, hcounterEnd, hturn⟩ := hproved.ends
    obtain ⟨earlierAfter, counterAfter, hearlierGet, hcounterGet, hearlierEnd, hcounterEnd, hturn⟩ :=
      pair_kept hkept hearlier hcounter ⟨hearlierEnd, hcounterEnd⟩ hturn
    rw [← applyEvent_version h hsome] at hturn
    exact ⟨pair.of_operation_id, pair.after_operation_id, ⟨hof, hafter⟩, earlierAfter, counterAfter,
      event.assignment_version, hearlierGet, hcounterGet, hearlierEnd, hcounterEnd, rfl, hturn⟩

private theorem changes_step (hstate : state.Sound) (h : applyEvent host state event = .ok next)
    (hsome : state.snapshot = some snapshot) (hnext : next.snapshot = some nextSnapshot)
    (hchanges : CheckpointsSaveChanges snapshot) : CheckpointsSaveChanges nextSnapshot := by
  have hkept := applyEvent_keepsSettled hstate h hsome hnext
  have hversion := applyEvent_version h hsome
  have hnextVersion := applyEvent_next_version h hnext
  intro id after afterId hget hcites
  rw [← ReducerStateV2.operation?_of_some hnext] at hget
  obtain ⟨_, hfrom, hlookup⟩ := applyEvent_lookup hstate h hget
  obtain rfl : snapshot = _ := by simpa using hsome.symm.trans hfrom
  obtain ⟨before, hbefore, hchange⟩ | ⟨operation, hbody, -, -, rfl⟩ := hlookup
  · have hsame : after.checkpoint_after_operation_id = before.checkpoint_after_operation_id :=
      hchange.citedAfter .checkpoint
    obtain ⟨change, hchangeGet, hcommitted⟩ := hchanges id before afterId hbefore (hsame.symm.trans hcites)
    have hedit := committedElementChange_edit hcommitted
    obtain ⟨changed, hchanged, hsettlement⟩ := hkept afterId change hchangeGet hedit.settled
      (by simp [hedit.applied])
    have hbinding : changed.binding = change.binding := (congrArg OperationV2.binding hsettlement.1 :)
    refine ⟨changed, hchanged, ?_⟩
    rw [hbinding]
    exact committedElementChange_kept (by omega) hsettlement hcommitted
  · have hcitedAfter : operation.citedAfter .checkpoint = some afterId := hcites
    obtain ⟨pair, -, hafter, hpair, -⟩ :=
      admission_pair hstate h hsome hbody .checkpoint (.inr (by simp [hcitedAfter]))
    obtain rfl : pair.after_operation_id = afterId := by simpa using hafter.symm.trans hcitedAfter
    have hcoherent := (hstate snapshot hsome).1
    obtain ⟨-, change, hchangeGet, hcommitted⟩ :=
      documentCheckpointContinuationV2_proved (hcoherent.keyedAt _) hcoherent.dated hpair
    have hedit := committedElementChange_edit hcommitted
    obtain ⟨changed, hchanged, hsettlement⟩ := hkept _ change hchangeGet hedit.settled
      (by simp [hedit.applied])
    have hbinding : changed.binding = operation.binding :=
      (congrArg OperationV2.binding hsettlement.1 :).trans hedit.bound
    refine ⟨changed, hchanged, ?_⟩
    rw [hbinding]
    exact committedElementChange_kept (le_of_eq hnextVersion.symm) hsettlement hcommitted

/-- What holds of the counter-state citations after every run. -/
structure CitationsSound (snapshot : AssignmentSnapshotV2) : Prop where
  ofOnce : ∀ kind, kind ≠ .restoration → UsedOnce snapshot.operations (OperationV2.citedOf · kind)
  afterOnce : ∀ kind, UsedOnce snapshot.operations (OperationV2.citedAfter · kind)
  backed : ∀ kind, CitationsBacked snapshot.operations kind
  changes : CheckpointsSaveChanges snapshot

private theorem citationsSound_of_empty (hempty : snapshot.operations = ∅) : CitationsSound snapshot := by
  constructor
  · intro kind _ id other operation otherOperation cite hget
    simp [hempty] at hget
  · intro kind id other operation otherOperation cite hget
    simp [hempty] at hget
  · intro kind id operation hget
    simp [hempty] at hget
  · intro id operation afterId hget
    simp [hempty] at hget

private theorem citations_step (hstate : state.Sound) (hcitations : state.Satisfies CitationsSound)
    (h : applyEvent host state event = .ok next) : next.Satisfies CitationsSound := by
  intro nextSnapshot hnext
  cases hsome : state.snapshot with
  | none =>
    cases applyEvent_effect h with
    | created =>
      obtain rfl : _ = nextSnapshot := Option.some.inj hnext
      exact citationsSound_of_empty rfl
    | restarted snapshot hother => simp [hsome] at hother
    | recorded snapshot recorded hother => simp [hsome] at hother
  | some snapshot =>
    have hsound := hcitations snapshot hsome
    constructor
    · intro kind hkind
      refine usedOnce_step hstate h hsome hnext (fun hchange => hchange.citedOf kind) ?_ ?_
        (hsound.ofOnce kind hkind)
      · intro version operation
        cases kind <;> rfl
      · intro operation cite hbody hcites
        obtain ⟨pair, hof, -, -, hproved⟩ :=
          admission_pair hstate h hsome hbody kind (.inl (by simp [hcites]))
        obtain rfl : pair.of_operation_id = cite := by simpa using hof.symm.trans hcites
        exact hproved.unusedOf hkind
    · intro kind
      refine usedOnce_step hstate h hsome hnext (fun hchange => hchange.citedAfter kind) ?_ ?_
        (hsound.afterOnce kind)
      · intro version operation
        cases kind <;> rfl
      · intro operation cite hbody hcites
        obtain ⟨pair, -, hafter, -, hproved⟩ :=
          admission_pair hstate h hsome hbody kind (.inr (by simp [hcites]))
        obtain rfl : pair.after_operation_id = cite := by simpa using hafter.symm.trans hcites
        exact hproved.unusedAfter
    · exact fun kind => backed_step hstate h hsome hnext (hsound.backed kind)
    · exact changes_step hstate h hsome hnext hsound.changes

theorem feed_citations {events : List AssignmentEventV2}
    (h : feed (applyEvent host) .initial events = .ok state) : state.Satisfies CitationsSound := by
  have hboth : state.Sound ∧ state.Satisfies CitationsSound := by
    refine feed_invariant (I := fun state => state.Sound ∧ state.Satisfies CitationsSound) ?_ ?_ h
    · rintro state event next ⟨hstate, hcitations⟩ hnext
      exact ⟨applyEvent_sound hstate hnext, citations_step hstate hcitations hnext⟩
    · exact ⟨ReducerStateV2.satisfies_initial _, ReducerStateV2.satisfies_initial _⟩
  exact hboth.2

end step

/-- The operation is an edit of its own that asks the native host to save the
    document. -/
@[mk_iff]
structure OperationV2.SavesAlone (operation : OperationV2) : Prop where
  edits : operation.requested_effect = .apply
  noParent : operation.parent_operation_id = none
  noRoot : operation.root_operation_id = none
  method : requestMethod operation = some .POST
  path : requestPath operation = some "/revit/save-as"

instance (operation : OperationV2) : Decidable operation.SavesAlone :=
  decidable_of_iff _ (OperationV2.savesAlone_iff operation).symm

/-- A save admitted after an identical one that is not settled without effect
    names a change. -/
def LaterSavesCite (operations : Record OperationV2) : Prop :=
  ∀ id other operation earlier, operations.get? id = some operation →
    operations.get? other = some earlier → operation.SavesAlone → earlier.SavesAlone →
    sameNativeRequest earlier operation = true → ¬ earlier.SettledWithoutEffect →
    laterVersion operation.admitted_assignment_version earlier.admitted_assignment_version = true →
    operation.checkpoint_after_operation_id.isSome = true

section saves

variable {host : JavaScriptHost} {state next : ReducerStateV2} {event : AssignmentEventV2}
  {snapshot nextSnapshot : AssignmentSnapshotV2} {operation earlier prior : OperationV2} {id : String}

private theorem save_changes_no_template (hsave : operation.SavesAlone) :
    nativeTemplateRequestV1 host operation = none := by
  have hmethod := hsave.method
  have hpath := hsave.path
  unfold nativeTemplateRequestV1
  cases htyped : operation.capability_id == "revit_set_parameters" with
  | true =>
    simp only [hmethod, Option.isSome_some, Bool.or_true, Bool.true_or, Bool.and_true, if_true]
    split
    · rfl
    · split
      · rfl
      · split <;> simp
  | false =>
    simp only [hpath, Bool.false_or]
    split
    · rfl
    · rw [if_neg (by decide)]
      split <;> simp

private theorem save_changes_no_filter (hsave : operation.SavesAlone) :
    nativeScheduleFilterRequestV1 host operation = none := by
  unfold nativeScheduleFilterRequestV1
  dsimp only
  split
  · simp [hsave.path]
  · rfl

private theorem isSome_of_truthy {text : Option String} (h : truthy text = true) : text.isSome = true := by
  cases text with
  | none => cases h
  | some _ => rfl

private theorem save_cites_checkpoint (hsave : operation.SavesAlone)
    (h : citesCounterState host snapshot operation = true) :
    (operation.citedOf .checkpoint).isSome = true ∨ (operation.citedAfter .checkpoint).isSome = true := by
  have htemplate : templateReassignmentV1 host snapshot operation = none := by
    simp [templateReassignmentV1, templateReassignmentExempting, requestView, save_changes_no_template hsave]
  have hfilter : scheduleFilterRestorationV1 host snapshot operation = none := by
    simp [scheduleFilterRestorationV1, save_changes_no_filter hsave]
  simp only [citesCounterState, reassignmentCitation, restorationCitation, htemplate, hfilter,
    derivedCitation, ite_self, Option.isSome_none, Bool.or_false, checkpointCitation] at h
  split_ifs at h with hnamed
  · simp only [Bool.or_eq_true] at hnamed
    obtain hof | hafter := hnamed
    · exact .inl (isSome_of_truthy hof)
    · exact .inr (isSome_of_truthy hafter)
  · cases h

private theorem Changed.savesAlone (h : Changed host snapshot event id prior operation)
    (hsave : operation.SavesAlone) : prior.SavesAlone where
  edits := h.requested_effect.symm.trans hsave.edits
  noParent := (congrArg OperationV2.parent_operation_id h.contract :).symm.trans hsave.noParent
  noRoot := (congrArg OperationV2.root_operation_id h.contract :).symm.trans hsave.noRoot
  method := (congrArg requestMethod h.contract :).symm.trans hsave.method
  path := (congrArg requestPath h.contract :).symm.trans hsave.path

private theorem OperationV2.SavesAlone.not_isAncestor (hsave : operation.SavesAlone)
    (operations : List OperationV2) : ¬ IsAncestor operations prior operation := by
  intro habove
  obtain ⟨_, ⟨-, hnamed | hnamed⟩, -⟩ := Relation.TransGen.head'_iff.1 habove
  · simp [hsave.noParent] at hnamed
  · simp [hsave.noRoot] at hnamed

/-- A save that is admitted under single writes after an identical one names a
    change. -/
private theorem admitted_save_cites (honce : WritesOnce host state event next)
    (hstate : state.Sound) (h : applyEvent host state event = .ok next)
    (hsome : state.snapshot = some snapshot) (hbody : event.body = .operation_admitted operation)
    (hget : snapshot.operations.get? id = some prior) (hsave : operation.SavesAlone)
    (hprior : prior.SavesAlone) (hsame : sameNativeRequest prior operation = true)
    (hlive : ¬ prior.SettledWithoutEffect) : operation.checkpoint_after_operation_id.isSome = true := by
  have hrepeat : RepeatsWrite snapshot operation prior :=
    ⟨Record.mem_values_of_get? hget, hprior.edits, hsame, hsave.not_isAncestor _, hprior.not_isAncestor _⟩
  obtain hquiet | hcites := honce snapshot operation prior hsome hbody hsave.edits hrepeat
  · exact absurd hquiet hlive
  · obtain ⟨pair, -, hafter, -, -⟩ :=
      admission_pair hstate h hsome hbody .checkpoint (save_cites_checkpoint hsave hcites)
    have hnamed : operation.checkpoint_after_operation_id = some pair.after_operation_id := hafter
    simp [hnamed]

private theorem saves_step (hstate : state.Sound)
    (hsaves : state.Satisfies fun snapshot => LaterSavesCite snapshot.operations)
    (honce : WritesOnce host state event next) (h : applyEvent host state event = .ok next) :
    next.Satisfies fun snapshot => LaterSavesCite snapshot.operations := by
  intro nextSnapshot hnext id other operation earlier hget hother hsave hearlier hsame hlive hlater
  rw [← ReducerStateV2.operation?_of_some hnext] at hget hother
  obtain ⟨snapshot, hsome, hlookup⟩ := applyEvent_lookup hstate h hget
  obtain ⟨_, hfrom, hearlierLookup⟩ := applyEvent_lookup hstate h hother
  obtain rfl : snapshot = _ := by simpa using hsome.symm.trans hfrom
  have hversion := applyEvent_version h hsome
  obtain ⟨prior, hprior, hpriorChange⟩ | ⟨_, -, -, -, rfl⟩ := hearlierLookup
  · have hpriorSave : prior.SavesAlone := hpriorChange.savesAlone hearlier
    have hpriorLive : ¬ prior.SettledWithoutEffect := by
      rintro ⟨hsettled, heffect⟩
      have hkept := hpriorChange.sameSettlement hsettled (by simp [heffect])
      exact hlive ⟨(congrArg OperationV2.settlement_state hkept.1 :).trans hsettled, hkept.2.trans heffect⟩
    have hpriorSame : sameNativeRequest earlier operation = sameNativeRequest prior operation :=
      (congrArg (sameNativeRequest · operation) hpriorChange.contract :)
    rw [hpriorSame] at hsame
    rw [hpriorChange.admitted_assignment_version] at hlater
    obtain ⟨before, hbefore, hchange⟩ | ⟨admitted, hbody, -, -, rfl⟩ := hlookup
    · have hbeforeSame : sameNativeRequest prior operation = sameNativeRequest prior before :=
        (congrArg (sameNativeRequest prior ·) hchange.contract :)
      have hnamedSame : operation.checkpoint_after_operation_id = before.checkpoint_after_operation_id :=
        (congrArg OperationV2.checkpoint_after_operation_id hchange.contract :)
      rw [hbeforeSame] at hsame
      rw [hchange.admitted_assignment_version] at hlater
      have hnamed := hsaves snapshot hsome id other before prior hbefore hprior (hchange.savesAlone hsave)
        hpriorSave hsame hpriorLive hlater
      rwa [hnamedSame]
    · have hadmitted : admitted.SavesAlone := ⟨hsave.edits, hsave.noParent, hsave.noRoot, hsave.method, hsave.path⟩
      exact (admitted_save_cites honce hstate h hsome hbody hprior hadmitted hpriorSave hsame hpriorLive :)
  · obtain ⟨later, before, hlaterVersion, hbeforeVersion, hlt⟩ := laterVersion_eq_true.1 hlater
    obtain rfl : event.assignment_version = before := Option.some.inj hbeforeVersion
    obtain ⟨current, hcurrent, hchange⟩ | ⟨_, -, -, -, rfl⟩ := hlookup
    · rw [hchange.admitted_assignment_version] at hlaterVersion
      obtain ⟨admitted, hadmitted, hle, -⟩ := (hstate snapshot hsome).1.dated id current hcurrent
      obtain rfl : later = admitted := by simpa using hlaterVersion.symm.trans hadmitted
      have hpast : later ≤ event.assignment_version := hversion ▸ Nat.le_succ_of_le hle
      exact absurd hlt (not_lt.2 hpast)
    · obtain rfl : event.assignment_version = later := Option.some.inj hlaterVersion
      exact absurd hlt (lt_irrefl _)

/-- Along a run of single writes every save after an identical one names a
    change. -/
theorem feed_saves {events : List AssignmentEventV2}
    (honce : AlongSteps (applyEvent host) .initial events (WritesOnce host))
    (hfeed : feed (applyEvent host) .initial events = .ok state) :
    state.Satisfies fun snapshot => LaterSavesCite snapshot.operations := by
  have halong : AlongRun (applyEvent host) .initial events fun state =>
      state.Sound ∧ state.Satisfies fun snapshot => LaterSavesCite snapshot.operations := by
    refine AlongRun.of_alongSteps ?_ ⟨ReducerStateV2.satisfies_initial _, ReducerStateV2.satisfies_initial _⟩
      honce
    rintro state event next ⟨hstate, hsaves⟩ hsingle hnext
    exact ⟨applyEvent_sound hstate hnext, saves_step hstate hsaves hsingle hnext⟩
  exact (halong events (List.prefix_refl _) state hfeed).2

end saves

end revit_operator.assignment_kernel
