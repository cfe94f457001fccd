import Mathlib.Data.Finset.Card
import Mathlib.Data.Finset.Max
import RevitOperator.AssignmentKernel.CounterStateHistory

open checked checked_run
open revit_operator.contracts

namespace revit_operator.assignment_kernel

/-- The retained committed changes of elements. -/
def elementChanges (snapshot : AssignmentSnapshotV2) : Finset String :=
  snapshot.operations.idsWhere fun operation => committedElementChange snapshot operation.binding operation

/-- Every identity is the one of a retained operation with the property. -/
def AllRetained (snapshot : AssignmentSnapshotV2) (ids : Finset String) (P : OperationV2 → Prop) : Prop :=
  ∀ id ∈ ids, ∃ operation, snapshot.operations.get? id = some operation ∧ P operation

/-- The operation carries the citation of a checkpoint. -/
def OperationV2.CitesChange (operation : OperationV2) : Prop :=
  operation.checkpoint_after_operation_id.isSome = true

/-- The operation saves on its own with the given native request and has not
    settled without effect. -/
structure OperationV2.LiveSaveOf (operation request : OperationV2) : Prop where
  saves : operation.SavesAlone
  same : sameNativeRequest operation request = true
  live : ¬ operation.SettledWithoutEffect

section bounds

variable {snapshot : AssignmentSnapshotV2} {ids : Finset String} {request left right : OperationV2}

private theorem card_le_elementChanges (hsound : CitationsSound snapshot)
    (hids : AllRetained snapshot ids OperationV2.CitesChange) :
    ids.card ≤ (elementChanges snapshot).card := by
  let cited (id : String) : String :=
    ((snapshot.operations.get? id).bind OperationV2.checkpoint_after_operation_id).getD ""
  have hcited : ∀ id ∈ ids, ∃ operation, snapshot.operations.get? id = some operation
      ∧ operation.checkpoint_after_operation_id = some (cited id) := by
    intro id hid
    obtain ⟨operation, hget, hcites⟩ := hids id hid
    obtain ⟨afterId, hafter⟩ := Option.isSome_iff_exists.1 hcites
    exact ⟨operation, hget, by simp [cited, hget, hafter]⟩
  refine Finset.card_le_card_of_injOn cited ?_ ?_
  · intro id hid
    obtain ⟨operation, hget, hafter⟩ := hcited id hid
    obtain ⟨change, hchange, hcommitted⟩ := hsound.changes id operation (cited id) hget hafter
    exact Record.mem_idsWhere.2 ⟨change, hchange, hcommitted⟩
  · intro id hid other hother hsame
    obtain ⟨operation, hget, hafter⟩ := hcited id hid
    obtain ⟨otherOperation, hotherGet, hotherAfter⟩ := hcited other hother
    exact hsound.afterOnce .checkpoint id other operation otherOperation (cited id) hget hotherGet hafter
      (hsame ▸ hotherAfter)

private theorem sameNativeRequest_eq_true : sameNativeRequest left right = true ↔
    ∃ a b, left.request_identity = some a ∧ right.request_identity = some b
      ∧ (a.method = b.method ∧ a.path = b.path) ∧ a.request_signature = b.request_signature := by
  unfold sameNativeRequest
  cases left.request_identity <;> cases right.request_identity <;> simp

private theorem sameNativeRequest_of_common (hleft : sameNativeRequest left request = true)
    (hright : sameNativeRequest right request = true) : sameNativeRequest left right = true := by
  obtain ⟨a, c, ha, hc, ⟨hmethod, hpath⟩, hsignature⟩ := sameNativeRequest_eq_true.1 hleft
  obtain ⟨b, d, hb, hd, ⟨hmethod', hpath'⟩, hsignature'⟩ := sameNativeRequest_eq_true.1 hright
  obtain rfl : c = d := by simpa using hc.symm.trans hd
  exact sameNativeRequest_eq_true.2 ⟨a, b, ha, hb, ⟨hmethod.trans hmethod'.symm, hpath.trans hpath'.symm⟩,
    hsignature.trans hsignature'.symm⟩

private theorem later_save_cites (hcoherent : snapshot.ledger.Coherent)
    (hsaves : LaterSavesCite snapshot.operations) {id first : String} {operation earlier : OperationV2}
    (hget : snapshot.operations.get? id = some operation)
    (hfirst : snapshot.operations.get? first = some earlier) (hsave : operation.LiveSaveOf request)
    (hearlier : earlier.LiveSaveOf request) (hne : id ≠ first)
    (hle : earlier.admitted_assignment_version.getD 0 ≤ operation.admitted_assignment_version.getD 0) :
    operation.CitesChange := by
  obtain ⟨version, hversion, -⟩ := hcoherent.dated id operation hget
  obtain ⟨before, hbefore, -⟩ := hcoherent.dated first earlier hfirst
  have hdistinct : before ≠ version := by
    rintro rfl
    exact hne (hcoherent.distinct id first operation earlier hget hfirst (hversion.trans hbefore.symm))
  have hlater : laterVersion operation.admitted_assignment_version earlier.admitted_assignment_version = true := by
    simp only [hversion, hbefore, Option.getD_some] at hle
    exact laterVersion_eq_true.2 ⟨version, before, hversion, hbefore, lt_of_le_of_ne hle hdistinct⟩
  exact hsaves id first operation earlier hget hfirst hsave.saves hearlier.saves
    (sameNativeRequest_of_common hearlier.same hsave.same) hearlier.live hlater

private theorem card_le_succ_elementChanges (hcoherent : snapshot.ledger.Coherent)
    (hsound : CitationsSound snapshot) (hsaves : LaterSavesCite snapshot.operations)
    (hids : AllRetained snapshot ids (OperationV2.LiveSaveOf · request)) :
    ids.card ≤ 1 + (elementChanges snapshot).card := by
  obtain rfl | hnonempty := ids.eq_empty_or_nonempty
  · simp
  let admitted (id : String) : Nat :=
    ((snapshot.operations.get? id).bind OperationV2.admitted_assignment_version).getD 0
  obtain ⟨first, hfirst, hleast⟩ := Finset.exists_min_image ids admitted hnonempty
  obtain ⟨earlier, hearlierGet, hearlier⟩ := hids first hfirst
  have hrest : AllRetained snapshot (ids.erase first) OperationV2.CitesChange := by
    intro id hid
    obtain ⟨hne, hmem⟩ := Finset.mem_erase.1 hid
    obtain ⟨operation, hget, hsave⟩ := hids id hmem
    have hle := hleast id hmem
    simp only [admitted, hget, hearlierGet, Option.bind_some] at hle
    exact ⟨operation, hget, later_save_cites hcoherent hsaves hget hearlierGet hsave hearlier hne hle⟩
  have hcard := card_le_elementChanges hsound hrest
  have hcount := Finset.card_erase_add_one hfirst
  omega

end bounds

/-- In every run each counter-state citation names its own pair of operations,
    the pair consists of applied native edits of the same binding and document
    (or, for a template, of typed wrappers around such edits) that settled one
    after the other before the citing operation was admitted, and no more
    operations cite checkpoints than elements were changed. When no step
    repeats a live write either, identical saves exceed the changes by at most
    one. -/
theorem counter_states_used_once (host : JavaScriptHost) {events : List AssignmentEventV2}
    {snapshot : AssignmentSnapshotV2} (hrun : reduceAssignmentEventsV2 host events = .ok snapshot) :
    (UsedOnce snapshot.operations OperationV2.checkpoint_of_operation_id
        ∧ UsedOnce snapshot.operations OperationV2.checkpoint_after_operation_id
        ∧ UsedOnce snapshot.operations OperationV2.reassignment_of_operation_id
        ∧ UsedOnce snapshot.operations OperationV2.reassignment_after_operation_id
        ∧ UsedOnce snapshot.operations OperationV2.filter_restoration_after_operation_id)
      ∧ (∀ kind, CitationsBacked snapshot.operations kind)
      ∧ (∀ ids, AllRetained snapshot ids OperationV2.CitesChange →
        ids.card ≤ (elementChanges snapshot).card)
      ∧ (AlongSteps (applyEvent host) .initial events (WritesOnce host) →
        ∀ request ids, AllRetained snapshot ids (OperationV2.LiveSaveOf · request) →
          ids.card ≤ 1 + (elementChanges snapshot).card) := by
  obtain ⟨final, hfeed, hsome⟩ := reduceAssignmentEventsV2_eq_ok.1 hrun
  have hcitations := feed_citations hfeed snapshot hsome
  have hcoherent := (feed_sound hfeed snapshot hsome).1
  refine ⟨⟨?_, ?_, ?_, ?_, ?_⟩, hcitations.backed, ?_, ?_⟩
  · exact hcitations.ofOnce .checkpoint (by decide)
  · exact hcitations.afterOnce .checkpoint
  · exact hcitations.ofOnce .reassignment (by decide)
  · exact hcitations.afterOnce .reassignment
  · exact hcitations.afterOnce .restoration
  · exact fun ids hids => card_le_elementChanges hcitations hids
  · intro honce request ids hids
    exact card_le_succ_elementChanges hcoherent hcitations (feed_saves honce hfeed snapshot hsome) hids

/-- A save of the sample document. -/
def sampleSave (id : String) : OperationV2 :=
  { sampleEdit id with
    capability_id := "save_document"
    request_identity := some ⟨"save_document", some .POST, some "/revit/save-as", "save-as"⟩ }

/-- A save fails before its dispatch and is admitted again as a retry. -/
def retriedSaveJournal : List AssignmentEventV2 :=
  sampleJournal [
    ("assignment-kernel", .operation_admitted (sampleSave "save-1")),
    ("assignment-kernel", .operation_result_recorded (submittedResult (sampleSave "save-1")
      .failed_before_dispatch .not_dispatched .none .not_applicable "backend" false sampleTime) none),
    ("assignment-kernel", .operation_admitted
      { sampleSave "save-2" with retry_of_operation_id := some "save-1", retry_basis := some .host_recovered })]

/-- The input of a single change of a view's template. -/
def templateInput (value expected : Int) : Json :=
  .obj [("apply", .bool true), ("dryRun", .bool false),
    ("changes", .arr [.obj [("elementId", .num 7), ("parameterName", .str "View Template"),
      ("value", .str (toString value)), ("expectedOldValue", .str (toString expected))]])]

/-- A typed change of a view's template. -/
def templateWrapper (id : String) (value expected : Int) : OperationV2 :=
  { sampleEdit id with
    capability_id := "revit_set_parameters"
    request_identity := some ⟨"revit_set_parameters", none, none, "template-" ++ toString value⟩
    target := ⟨some "id:7", none, sampleBinding.document_fingerprint, none⟩
    input := templateInput value expected }

/-- The native call a typed change of a template makes. -/
def templateCall (id : String) (value expected : Int) (wrapper : OperationV2) : OperationV2 :=
  { (sampleEdit id).childOf wrapper with
    capability_id := "revit_native_call"
    request_identity :=
      some ⟨"revit_native_call", some .POST, some "/revit/set-parameter", "template-" ++ toString value⟩
    target := wrapper.target
    input := .obj [("method", .str "POST"), ("path", .str "/revit/set-parameter"),
      ("body", templateInput value expected)] }

/-- The native receipt of a verified change of a template. -/
def templatePayload (value expected : Int) : Json :=
  let element (id : Int) : Json := .obj [("storageType", .str "ElementId"), ("value", .num id)]
  .obj [("status", .str "Applied and Verified"), ("dryRun", .bool false),
    ("transaction", .obj [("status", .str "committed"), ("committed", .bool true)]),
    ("requestedCount", .num 1), ("effectiveCount", .num 1), ("excludedCount", .num 0),
    ("changedCount", .num 1), ("writeFailedCount", .num 0), ("verificationPerformed", .bool true),
    ("verifiedCount", .num 1), ("verificationFailedCount", .num 0), ("unresolvedElementIds", .arr []),
    ("missingAfterElementIds", .arr []),
    ("verification", .arr [.obj [("elementId", .num 7), ("parameterName", .str "View Template"),
      ("status", .str "verified"), ("expectedValue", .str (toString value)), ("actual", element value)]]),
    ("diffs", .arr [.obj [("elementId", .num 7), ("parameterName", .str "View Template"), ("ok", .bool true),
      ("changed", .bool true), ("after", element value), ("before", element expected)]])]

/-- The committed result of a native change of a template. -/
def templateResult (call : OperationV2) (value expected : Int) : OperationResultV2 :=
  { submittedResult call .succeeded .dispatched .applied .committed "native-host" true sampleTime with
    result_schema_id := nativePostSchema call.request_identity
    raw_payload_hash :=
      some (asciiHost.utf8TextSha256V2 (asciiHost.canonicalJsonV2 (templatePayload value expected)))
    affected_target_identities := some ["element_id:7"]
    receipt_id := some "receipt-1"
    native_correlation_id := some "correlation-1" }

/-- The life of a typed change of a template around its native call. -/
def templateChange (wrapperId callId : String) (value expected : Int) :
    List (String × AssignmentEventBodyV2) :=
  let wrapper := templateWrapper wrapperId value expected
  let call := templateCall callId value expected wrapper
  let result := templateResult call value expected
  [("assignment-kernel", .operation_admitted wrapper),
    ("assignment-kernel", .operation_admitted call),
    ("native-host", .native_dispatch_recorded callId),
    ("native-host", .operation_result_recorded result
      (some ⟨OBSERVATION_COMMIT_INPUT_V2_SCHEMA, result.result_id, templatePayload value expected⟩)),
    ("native-host", .observation_retained (submittedObservation call result [])),
    ("operator", .operation_result_recorded (submittedResult wrapper .completed_without_native_dispatch
      .not_dispatched .none .not_applicable "operator-mcp-transport" false sampleTime) none)]

/-- A view's template is changed and changed back, and the first change is
    admitted once more. -/
def reassignedTemplateJournal : List AssignmentEventV2 :=
  sampleJournal (templateChange "wrapper-1" "call-1" 11 10 ++ templateChange "wrapper-2" "call-2" 10 11
    ++ [("assignment-kernel", .operation_admitted { templateWrapper "wrapper-3" 11 10 with
      reassignment_of_operation_id := some "wrapper-1"
      reassignment_after_operation_id := some "wrapper-2" })])

/-- A save that had no effect is admitted again without a change between, and a
    reassignment cites typed wrappers, which have no effect of their own. -/
theorem retried_save_and_reassigned_wrapper :
    (∃ snapshot, reduceAssignmentEventsV2 asciiHost retriedSaveJournal = .ok snapshot
      ∧ AllRetained snapshot {"save-1", "save-2"} (fun operation => operation.SavesAlone
        ∧ sameNativeRequest operation (sampleSave "save-1") = true)
      ∧ elementChanges snapshot = ∅)
    ∧ ∃ snapshot citing earlier, reduceAssignmentEventsV2 asciiHost reassignedTemplateJournal = .ok snapshot
      ∧ snapshot.operations.get? "wrapper-3" = some citing
      ∧ citing.reassignment_of_operation_id = some "wrapper-1"
      ∧ snapshot.operations.get? "wrapper-1" = some earlier ∧ earlier.persistent_effect = .none := by
  constructor
  · have hsaved : (reduceAssignmentEventsV2 asciiHost retriedSaveJournal).toOption.map (fun snapshot =>
        ((elementChanges snapshot).card, ["save-1", "save-2"].map fun id =>
          (snapshot.operations.get? id).map fun operation =>
            (decide operation.SavesAlone, sameNativeRequest operation (sampleSave "save-1"))))
        = some (0, [some (true, true), some (true, true)]) := by decide
    simp only [Option.map_eq_some_iff, toOption_eq_some, Prod.mk.injEq, List.map_cons, List.map_nil,
      List.cons.injEq, decide_eq_true_eq, Finset.card_eq_zero] at hsaved
    obtain ⟨snapshot, hrun, hempty, hfirst, hsecond, -⟩ := hsaved
    refine ⟨snapshot, hrun, ?_, hempty⟩
    simpa [AllRetained] using ⟨hfirst, hsecond⟩
  · have hcited : (reduceAssignmentEventsV2 asciiHost reassignedTemplateJournal).toOption.map (fun snapshot =>
        ((snapshot.operations.get? "wrapper-3").map OperationV2.reassignment_of_operation_id,
          (snapshot.operations.get? "wrapper-1").map OperationV2.persistent_effect))
        = some (some (some "wrapper-1"), some .none) := by decide +kernel
    simp only [Option.map_eq_some_iff, toOption_eq_some, Prod.mk.injEq] at hcited
    obtain ⟨snapshot, hrun, ⟨citing, hciting, hnames⟩, earlier, hearlier, heffect⟩ := hcited
    exact ⟨snapshot, citing, earlier, hrun, hciting, hnames, hearlier, heffect⟩

theorem counter_states_used_once_on_reassigned_template :
    ∃ snapshot citing, reduceAssignmentEventsV2 asciiHost reassignedTemplateJournal = .ok snapshot
      ∧ snapshot.operations.get? "wrapper-3" = some citing
      ∧ CitesPair snapshot.operations .reassignment citing "wrapper-1" "wrapper-2" := by
  have hcited : (reduceAssignmentEventsV2 asciiHost reassignedTemplateJournal).toOption.map (fun snapshot =>
      (snapshot.operations.get? "wrapper-3").map fun operation =>
        (operation.citedOf .reassignment, operation.citedAfter .reassignment))
      = some (some (some "wrapper-1", some "wrapper-2")) := by decide +kernel
  simp only [Option.map_eq_some_iff, toOption_eq_some, Prod.mk.injEq] at hcited
  obtain ⟨snapshot, hrun, citing, hget, hof, hafter⟩ := hcited
  obtain ⟨ofId, afterId, hpair⟩ := (counter_states_used_once asciiHost hrun).2.1 .reassignment "wrapper-3" citing hget
    (.inl (by simp [hof]))
  obtain rfl : ofId = "wrapper-1" := by simpa using hpair.named.1.symm.trans hof
  obtain rfl : afterId = "wrapper-2" := by simpa using hpair.named.2.symm.trans hafter
  exact ⟨snapshot, citing, hrun, hget, hpair⟩

end revit_operator.assignment_kernel
