import RevitOperator.AssignmentKernel.Coherence

open checked

namespace revit_operator.assignment_kernel

/-- The derivations that permit one more admission of an applied request. -/
inductive CounterStateKind where
  | checkpoint
  | reassignment
  | restoration
deriving DecidableEq, Repr

/-- The earlier run of its own request that an operation names. -/
def OperationV2.citedOf (operation : OperationV2) : CounterStateKind → Option String
  | .checkpoint => operation.checkpoint_of_operation_id
  | .reassignment => operation.reassignment_of_operation_id
  | .restoration => operation.filter_restoration_of_operation_id

/-- The later counter-state that an operation names. -/
def OperationV2.citedAfter (operation : OperationV2) : CounterStateKind → Option String
  | .checkpoint => operation.checkpoint_after_operation_id
  | .reassignment => operation.reassignment_after_operation_id
  | .restoration => operation.filter_restoration_after_operation_id

/-- The pair the history permits for an operation. -/
def derivedPair (host : JavaScriptHost) (snapshot : AssignmentSnapshotV2) (operation : OperationV2) :
    CounterStateKind → Option CounterStateCitation
  | .checkpoint => documentCheckpointContinuationV2 host snapshot operation
  | .reassignment => templateReassignmentV1 host snapshot operation
  | .restoration => scheduleFilterRestorationV1 host snapshot operation

/-- A settled edit that the native host applied in the document of the
    binding. -/
structure NativeEdit (binding : AssignmentBindingV2) (operation : OperationV2) : Prop where
  settled : operation.settlement_state = .settled
  applied : operation.persistent_effect = .applied
  native : operation.dispatch_authority = some .native
  bound : operation.binding = binding
  document : operation.target.document_fingerprint = binding.document_fingerprint
  result : ∃ result, operation.result = some result ∧ result.authority = "native-host"
    ∧ result.persistent_effect = .applied

/-- A typed wrapper without an effect of its own around a native edit. -/
structure WrapsNativeEdit (operations : Record OperationV2) (binding : AssignmentBindingV2)
    (wrapper : OperationV2) : Prop where
  settled : wrapper.settlement_state = .settled
  effect : wrapper.persistent_effect = .none
  bound : wrapper.binding = binding
  child : ∃ id child, operations.get? id = some child
    ∧ child.parent_operation_id = some wrapper.operation_id ∧ NativeEdit binding child
    ∧ laterVersion child.admitted_assignment_version wrapper.admitted_assignment_version = true
    ∧ laterVersion wrapper.settled_assignment_version child.settled_assignment_version = true

/-- An end of a counter-state pair: a native edit or, for a reassignment, a typed
    wrapper around one. -/
def CounterStateEnd (operations : Record OperationV2) (binding : AssignmentBindingV2)
    (kind : CounterStateKind) (operation : OperationV2) : Prop :=
  NativeEdit binding operation
    ∨ (kind = .reassignment ∧ WrapsNativeEdit operations binding operation)

/-- The earlier operation settled before the counter-state was admitted, and
    the counter-state settled before the version. -/
def SettledInTurn (earlier counter : OperationV2) (version : Nat) : Prop :=
  ∃ earlierSettled counterAdmitted counterSettled,
    earlier.settled_assignment_version = some earlierSettled
      ∧ counter.admitted_assignment_version = some counterAdmitted
      ∧ counter.settled_assignment_version = some counterSettled
      ∧ earlierSettled < counterAdmitted ∧ counterAdmitted < counterSettled ∧ counterSettled < version

/-- What a derived pair rests on: two retained ends, settled in turn, that no
    retained operation names yet. A restoration may name its own earlier run
    more than once. -/
structure PairProved (operations : Record OperationV2) (version : Nat) (binding : AssignmentBindingV2)
    (kind : CounterStateKind) (pair : CounterStateCitation) : Prop where
  ends : ∃ earlier counter, operations.get? pair.of_operation_id = some earlier
    ∧ operations.get? pair.after_operation_id = some counter
    ∧ CounterStateEnd operations binding kind earlier ∧ CounterStateEnd operations binding kind counter
    ∧ SettledInTurn earlier counter (version + 1)
  unusedOf : kind ≠ .restoration → ∀ id operation, operations.get? id = some operation →
    operation.citedOf kind ≠ some pair.of_operation_id
  unusedAfter : ∀ id operation, operations.get? id = some operation →
    operation.citedAfter kind ≠ some pair.after_operation_id

theorem laterVersion_eq_true {version earlier : Option Nat} :
    laterVersion version earlier = true ↔
      ∃ later before, version = some later ∧ earlier = some before ∧ before < later := by
  cases version <;> cases earlier <;> simp [laterVersion]

section native

variable {host : JavaScriptHost} {snapshot : AssignmentSnapshotV2} {binding : AssignmentBindingV2}
  {operation : OperationV2}

theorem nativeApplied_edit (h : nativeApplied snapshot binding operation = true) :
    NativeEdit binding operation := by
  unfold nativeApplied at h
  split at h
  · cases h
  · next result hresult =>
    simp only [Bool.and_eq_true, beq_iff_eq, sameAssignmentBindingV2_iff, and_assoc] at h
    obtain ⟨hbinding, hdocument, -, hsettled, happlied, hnative, -, -, -, hauthority, -, heffect, -⟩ := h
    exact ⟨hsettled, happlied, hnative, hbinding.symm, hdocument, result, hresult, hauthority, heffect⟩

theorem isCheckpoint_edit (h : isCheckpoint host snapshot binding operation = true) :
    NativeEdit binding operation := by
  unfold isCheckpoint at h
  split at h
  · cases h
  · simp only [Bool.and_eq_true, and_assoc] at h
    exact nativeApplied_edit h.1

theorem committedElementChange_edit (h : committedElementChange snapshot binding operation = true) :
    NativeEdit binding operation := by
  unfold committedElementChange at h
  split at h
  · cases h
  · simp only [Bool.and_eq_true, and_assoc] at h
    exact nativeApplied_edit h.1

theorem validNativeTemplate_edit {viewId : Int}
    (h : validNativeTemplate host snapshot binding viewId operation = true) :
    NativeEdit binding operation := by
  unfold validNativeTemplate at h
  split at h
  · next state result hstate hresult =>
    simp only [Bool.and_eq_true, beq_iff_eq, sameAssignmentBindingV2_iff, and_assoc] at h
    obtain ⟨-, hbinding, hdocument, hsettled, happlied, hnative, -, -, hauthority, -, heffect, -⟩ := h
    exact ⟨hsettled, happlied, hnative, hbinding.symm, hdocument, result, hresult, hauthority, heffect⟩
  · cases h

theorem validFilterChange_edit {scheduleId : Int}
    (h : validFilterChange host snapshot binding scheduleId operation = true) :
    NativeEdit binding operation := by
  unfold validFilterChange at h
  split at h
  · next state result decoded hstate hresult hdecoded =>
    simp only [Bool.and_eq_true, beq_iff_eq, sameAssignmentBindingV2_iff, and_assoc] at h
    obtain ⟨-, -, -, -, -, hbinding, -, hdocument, hsettled, happlied, hnative, -, -, hauthority, -, heffect,
      -⟩ := h
    exact ⟨hsettled, happlied, hnative, hbinding.symm, hdocument, result, hresult, hauthority, heffect⟩
  · cases h

/-- The native change behind an operation makes it an end of a
    reassignment. -/
theorem nativeFor_end {viewId : Int} {operations : List OperationV2} {native : OperationV2}
    (hretained : ∀ other ∈ operations, ∃ id, snapshot.operations.get? id = some other)
    (h : nativeFor host snapshot binding viewId operations operation = some native) :
    CounterStateEnd snapshot.operations binding .reassignment operation := by
  unfold nativeFor at h
  split_ifs at h with hvalid hwrapper
  · exact .inl (validNativeTemplate_edit hvalid)
  · refine .inr ⟨rfl, ?_⟩
    simp only [Bool.not_eq_true, Bool.not_eq_false'] at hwrapper
    unfold typedWrapperFinished at hwrapper
    split at hwrapper
    · cases hwrapper
    · simp only [Bool.and_eq_true, beq_iff_eq, sameAssignmentBindingV2_iff, and_assoc] at hwrapper
      obtain ⟨-, -, -, hbinding, hsettled, heffect, -⟩ := hwrapper
      refine ⟨hsettled, heffect, hbinding.symm, ?_⟩
      split at h
      · next child hchildren =>
        split_ifs at h with hchild
        simp only [wrapsNativeChild, Bool.and_eq_true, beq_iff_eq, and_assoc] at hchild
        obtain ⟨hnative, -, -, -, -, -, hadmitted, hsettledInside⟩ := hchild
        have hmem : child ∈ operations.filter fun child =>
            child.parent_operation_id == some operation.operation_id := by simp [hchildren]
        rw [List.mem_filter, beq_iff_eq] at hmem
        obtain ⟨id, hid⟩ := hretained child hmem.1
        exact ⟨id, child, hid, hmem.2, validNativeTemplate_edit hnative, hadmitted, hsettledInside⟩
      · cases h

end native

theorem CounterStateEnd.settled {operations : Record OperationV2} {binding : AssignmentBindingV2}
    {kind : CounterStateKind} {operation : OperationV2}
    (h : CounterStateEnd operations binding kind operation) : operation.settlement_state = .settled := by
  obtain hedit | ⟨-, hwraps⟩ := h
  · exact hedit.settled
  · exact hwraps.settled

section pairs

variable {host : JavaScriptHost} {snapshot : AssignmentSnapshotV2} {operation : OperationV2} {version : Nat}
  {pair : CounterStateCitation}

private theorem settledInTurn {earlier counter : OperationV2} (hdated : counter.Dated version)
    (hsettled : counter.settlement_state = .settled)
    (hlater : laterVersion counter.admitted_assignment_version earlier.settled_assignment_version = true) :
    SettledInTurn earlier counter (version + 1) := by
  obtain ⟨counterAdmitted, earlierSettled, hadmitted, hearlier, hlt⟩ := laterVersion_eq_true.1 hlater
  obtain ⟨_, counterSettled, hsame, hcounter, hinside, hle⟩ := hdated.settled_version hsettled
  obtain rfl := Option.some.inj (hadmitted.symm.trans hsame)
  exact ⟨earlierSettled, counterAdmitted, counterSettled, hearlier, hadmitted, hcounter, hlt, hinside,
    Nat.lt_succ_of_le hle⟩

private theorem get?_of_mem (hkeys : KeyedById snapshot.operations) {other : OperationV2}
    (hmem : other ∈ snapshot.operations.values) :
    snapshot.operations.get? other.operation_id = some other := by
  obtain ⟨id, hget⟩ := Record.mem_values.1 hmem
  rwa [hkeys id other hget]

private theorem mem_otherOperations (hkeys : KeyedById snapshot.operations)
    (hfresh : snapshot.operations.get? operation.operation_id = none) {other : OperationV2} :
    other ∈ otherOperations snapshot operation ↔ other ∈ snapshot.operations.values := by
  simp only [otherOperations, List.mem_filter, bne_iff_ne, ne_eq, and_iff_left_iff_imp]
  intro hmem hsame
  have hget := get?_of_mem hkeys hmem
  rw [hsame, hfresh] at hget
  cases hget

private theorem dated_of_mem (hdated : ∀ id other, snapshot.operations.get? id = some other → other.Dated version)
    {other : OperationV2} (hmem : other ∈ snapshot.operations.values) : other.Dated version := by
  obtain ⟨id, hget⟩ := Record.mem_values.1 hmem
  exact hdated id other hget

private theorem later_of_settled_le {later earlier : OperationV2} {admitted : Option Nat}
    (hearlier : earlier.Dated version) (hsettled : earlier.settlement_state = .settled)
    (hle : earlier.settled_assignment_version.getD 0 ≤ later.settled_assignment_version.getD 0)
    (hlater : laterVersion admitted later.settled_assignment_version = true) :
    laterVersion admitted earlier.settled_assignment_version = true := by
  obtain ⟨_, earlierSettled, -, hversion, -⟩ := hearlier.settled_version hsettled
  obtain ⟨admittedVersion, laterSettled, rfl, hlaterVersion, hlt⟩ := laterVersion_eq_true.1 hlater
  simp only [hversion, hlaterVersion, Option.getD_some] at hle
  exact laterVersion_eq_true.2 ⟨admittedVersion, earlierSettled, rfl, hversion, hle.trans_lt hlt⟩

private theorem not_cited {operations : List OperationV2} {cited : OperationV2 → Option String} {id : String}
    (hcovers : ∀ other ∈ snapshot.operations.values, other ∈ operations)
    (h : (operations.any fun other => cited other == some id) = false) :
    ∀ other retained, snapshot.operations.get? other = some retained → cited retained ≠ some id := by
  intro other retained hget
  simp only [List.any_eq_false, beq_iff_eq] at h
  exact h retained (hcovers retained (Record.mem_values_of_get? hget))

/-- A checkpoint continues the latest identical save after a change of elements
    that no later save covers. -/
theorem documentCheckpointContinuationV2_proved (hkeys : KeyedById snapshot.operations)
    (hdated : ∀ id other, snapshot.operations.get? id = some other → other.Dated version)
    (h : documentCheckpointContinuationV2 host snapshot operation = some pair) :
    PairProved snapshot.operations version operation.binding .checkpoint pair
      ∧ ∃ change, snapshot.operations.get? pair.after_operation_id = some change
        ∧ committedElementChange snapshot operation.binding change = true := by
  unfold documentCheckpointContinuationV2 at h
  split at h
  · cases h
  · next request hrequest =>
    dsimp only at h
    split_ifs at h with hguard
    simp only [Bool.or_eq_true, not_or, Bool.not_eq_true, Bool.not_eq_false'] at hguard
    split at h
    · cases h
    · next prior hprior =>
      split_ifs at h with hused
      split at h
      · cases h
      · next lastCheckpoint hlast =>
        obtain ⟨change, hchange, rfl⟩ := Option.map_eq_some_iff.1 h
        have hrepeats := hguard.2
        obtain ⟨hpriorMem, -⟩ := List.mem_filter.1 (choice.maxBy_mem hprior)
        have hsave : isCheckpoint host snapshot operation.binding prior = true := by
          simp only [List.all_eq_true] at hrepeats
          have hsame := hrepeats prior (choice.maxBy_mem hprior)
          simp only [sameSave, Bool.and_eq_true, and_assoc] at hsame
          exact hsame.1
        obtain ⟨-, hlatest⟩ := choice.maxBy_spec hlast
        have hle := hlatest prior (List.mem_filter.2 ⟨hpriorMem, hsave⟩)
        have hchanged := choice.maxBy_mem hchange
        simp only [List.mem_filter, Bool.and_eq_true, Bool.not_eq_eq_eq_not, Bool.not_true, and_assoc] at hchanged
        obtain ⟨hchangeMem, hcommitted, hlater, hunused⟩ := hchanged
        have hpriorEdit := isCheckpoint_edit hsave
        have hchangeEdit := committedElementChange_edit hcommitted
        have hturn := settledInTurn (dated_of_mem hdated hchangeMem) hchangeEdit.settled
          (later_of_settled_le (dated_of_mem hdated hpriorMem) hpriorEdit.settled hle hlater)
        refine ⟨⟨⟨prior, change, get?_of_mem hkeys hpriorMem, get?_of_mem hkeys hchangeMem, .inl hpriorEdit,
          .inl hchangeEdit, hturn⟩, fun _ => ?_, ?_⟩, change, get?_of_mem hkeys hchangeMem, hcommitted⟩
        · exact not_cited (fun _ => id) (Bool.eq_false_iff.2 hused)
        · exact not_cited (fun _ => id) hunused

/-- A reassignment follows the latest identical change after a native change to
    another template. -/
theorem templateReassignmentV1_proved (hkeys : KeyedById snapshot.operations)
    (hdated : ∀ id other, snapshot.operations.get? id = some other → other.Dated version)
    (hfresh : snapshot.operations.get? operation.operation_id = none)
    (h : templateReassignmentV1 host snapshot operation = some pair) :
    PairProved snapshot.operations version operation.binding .reassignment pair := by
  unfold templateReassignmentV1 templateReassignmentExempting at h
  split at h
  · cases h
  · next viewId hview =>
    dsimp only at h
    split_ifs at h with hguard
    split at h
    · cases h
    · next prior hprior =>
      split_ifs at h with hused
      split at h
      · cases h
      · next counter hcounter =>
        split_ifs at h with hspent
        obtain rfl : _ = pair := Option.some.inj h
        simp only [Bool.or_eq_true, not_or, Bool.not_eq_true] at hguard hspent
        have hretained : ∀ other ∈ otherOperations snapshot operation,
            ∃ id, snapshot.operations.get? id = some other := fun other hmem =>
          Record.mem_values.1 ((mem_otherOperations hkeys hfresh).1 hmem)
        obtain ⟨hpriorMem, hpriorRepeat⟩ := List.mem_filter.1 (choice.maxBy_mem hprior)
        have hpriorNative := (List.any_eq_false.1 hguard.2) prior (choice.maxBy_mem hprior)
        simp only [Bool.or_eq_true, not_or, Bool.not_eq_true, Option.isNone_eq_false_iff] at hpriorNative
        obtain ⟨priorNative, hpriorFor⟩ := Option.isSome_iff_exists.1 hpriorNative.1
        have hcounterMem := choice.maxBy_mem hcounter
        simp only [List.mem_filter, Bool.and_eq_true, and_assoc] at hcounterMem
        obtain ⟨hcounterMem, hcounterNative, hlater, -⟩ := hcounterMem
        obtain ⟨counterNative, hcounterFor⟩ := Option.isSome_iff_exists.1 hcounterNative
        have hpriorEnd := nativeFor_end hretained hpriorFor
        have hcounterEnd := nativeFor_end hretained hcounterFor
        rw [mem_otherOperations hkeys hfresh] at hpriorMem hcounterMem
        refine ⟨⟨prior, counter, get?_of_mem hkeys hpriorMem, get?_of_mem hkeys hcounterMem, hpriorEnd,
          hcounterEnd, settledInTurn (dated_of_mem hdated hcounterMem) hcounterEnd.settled hlater⟩, ?_, ?_⟩
        · exact fun _ => not_cited (fun _ => (mem_otherOperations hkeys hfresh).2) (Bool.eq_false_iff.2 hused)
        · exact not_cited (fun _ => (mem_otherOperations hkeys hfresh).2) hspent.1.1

/-- A restoration follows the latest identical change after a native change to
    another filter state. -/
theorem scheduleFilterRestorationV1_proved (hkeys : KeyedById snapshot.operations)
    (hdated : ∀ id other, snapshot.operations.get? id = some other → other.Dated version)
    (hfresh : snapshot.operations.get? operation.operation_id = none)
    (h : scheduleFilterRestorationV1 host snapshot operation = some pair) :
    PairProved snapshot.operations version operation.binding .restoration pair := by
  unfold scheduleFilterRestorationV1 at h
  split at h
  · cases h
  · next request hrequest =>
    dsimp only at h
    split_ifs at h with hguard
    split at h
    · cases h
    · next prior hprior =>
      split at h
      · cases h
      · next counter hcounter =>
        split_ifs at h with hspent
        obtain rfl : _ = pair := Option.some.inj h
        simp only [Bool.or_eq_true, not_or, Bool.not_eq_true] at hguard hspent
        obtain ⟨hpriorMem, -⟩ := List.mem_filter.1 (choice.maxBy_mem hprior)
        have hpriorValid := (List.any_eq_false.1 hguard.2) prior (choice.maxBy_mem hprior)
        simp only [Bool.or_eq_true, not_or, Bool.not_eq_true, Bool.not_eq_false'] at hpriorValid
        have hcounterMem := choice.maxBy_mem hcounter
        simp only [List.mem_filter, Bool.and_eq_true, and_assoc] at hcounterMem
        obtain ⟨hcounterMem, hcounterValid, hlater, -⟩ := hcounterMem
        have hpriorEdit := validFilterChange_edit hpriorValid.1
        have hcounterEdit := validFilterChange_edit hcounterValid
        rw [mem_otherOperations hkeys hfresh] at hpriorMem hcounterMem
        refine ⟨⟨prior, counter, get?_of_mem hkeys hpriorMem, get?_of_mem hkeys hcounterMem, .inl hpriorEdit,
          .inl hcounterEdit, settledInTurn (dated_of_mem hdated hcounterMem) hcounterEdit.settled hlater⟩,
          fun hother => absurd rfl hother, ?_⟩
        exact not_cited (fun _ => (mem_otherOperations hkeys hfresh).2) hspent.1

theorem derivedPair_proved {kind : CounterStateKind} (hkeys : KeyedById snapshot.operations)
    (hdated : ∀ id other, snapshot.operations.get? id = some other → other.Dated version)
    (hfresh : snapshot.operations.get? operation.operation_id = none)
    (h : derivedPair host snapshot operation kind = some pair) :
    PairProved snapshot.operations version operation.binding kind pair := by
  cases kind with
  | checkpoint => exact (documentCheckpointContinuationV2_proved hkeys hdated h).1
  | reassignment => exact templateReassignmentV1_proved hkeys hdated hfresh h
  | restoration => exact scheduleFilterRestorationV1_proved hkeys hdated hfresh h

end pairs

section admission

variable {host : JavaScriptHost} {snapshot : AssignmentSnapshotV2} {operation : OperationV2}

private theorem checkCitation_eq_ok {of_ after : Option String} {derived : Option CounterStateCitation}
    {code message : String}
    (h : checkCitation of_ after (derivedCitation of_ after derived) code message = .ok ())
    (hcites : of_.isSome = true ∨ after.isSome = true) :
    ∃ pair, derived = some pair ∧ of_ = some pair.of_operation_id ∧ after = some pair.after_operation_id := by
  simp only [checkCitation, onlyIf_eq_ok, require_eq_ok] at h
  have hpair := h hcites
  simp only [Option.any_eq_true, Bool.and_eq_true, beq_iff_eq] at hpair
  obtain ⟨pair, hderived, hof, hafter⟩ := hpair
  unfold derivedCitation at hderived
  split_ifs at hderived
  exact ⟨pair, hderived, hof.symm, hafter.symm⟩

theorem AdmissionAccepted.cited_pair (h : AdmissionAccepted host snapshot operation) (kind : CounterStateKind)
    (hcites : (operation.citedOf kind).isSome = true ∨ (operation.citedAfter kind).isSome = true) :
    ∃ pair, derivedPair host snapshot operation kind = some pair
      ∧ operation.citedOf kind = some pair.of_operation_id
      ∧ operation.citedAfter kind = some pair.after_operation_id := by
  have hcitations := h.citations
  simp only [checkCitations, check_bind_eq_ok] at hcitations
  obtain ⟨hcheckpoint, hreassignment, hrestoration⟩ := hcitations
  cases kind with
  | checkpoint => exact checkCitation_eq_ok hcheckpoint hcites
  | reassignment => exact checkCitation_eq_ok hreassignment hcites
  | restoration => exact checkCitation_eq_ok hrestoration hcites

end admission

end revit_operator.assignment_kernel
