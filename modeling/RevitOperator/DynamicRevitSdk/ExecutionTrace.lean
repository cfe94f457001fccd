import RevitOperator.DynamicRevitSdk.EffectBudget
import RevitOperator.Library.Dependency

open checked checked_run

/-! The execution trace of a program: its steps, what each bound of the graph, and
    the observed facts it cites. -/

namespace revit_operator.dynamic_revit_sdk

open DynamicCanonical

section selector

namespace DynamicBuildingSystemsObservationContractV1

def SelectorSchema : String := "dynamic-revit-building-systems-selector/v1"

def MaximumPageSize : Int := 128

def MaximumElementSelectors : Nat := 256

def MaximumCategorySelectors : Nat := 32

def MaximumKindSelectors : Nat := 7

def MaximumParameterSelectors : Nat := 32

end DynamicBuildingSystemsObservationContractV1

open DynamicBuildingSystemsObservationContractV1

structure DynamicBuildingSystemsSelectorV1 where
  Schema : String
  ElementUniqueIds : List String
  CategoryStableIds : List String
  Kinds : List String
  ParameterNames : List String
  IncludeTypeParameters : Bool
  PageSize : Int
  Cursor : Option String

namespace DynamicBuildingSystemsObservationPolicyV1

def Kinds : List String :=
  ["mep_curve", "equipment", "device", "accessory", "system", "text_note", "independent_tag"]

def Strings (values : List String) (maximum maximumLength : Nat) (label : String) : Except SdkException Unit :=
  require (values.length ≤ maximum
      ∧ (∀ value ∈ values, text.isBlank value = false ∧ text.length value ≤ maximumLength) ∧ values.Nodup)
    (.argument (label ++ " are invalid, duplicated, or unbounded."))

/-- `ValidateSelector` of a selector without a cursor. -/
def ValidateSelector (value : DynamicBuildingSystemsSelectorV1) : Except SdkException Unit := do
  require (value.Schema = SelectorSchema) (.argument "Building-systems selector schema is invalid.")
  Strings value.ElementUniqueIds MaximumElementSelectors 256 "element selectors"
  Strings value.CategoryStableIds MaximumCategorySelectors 256 "category selectors"
  Strings value.Kinds MaximumKindSelectors 32 "kind selectors"
  require (∀ item ∈ value.Kinds, item ∈ Kinds) (.argument "Building-systems kind selector is unknown.")
  Strings value.ParameterNames MaximumParameterSelectors 256 "parameter selectors"
  require (1 ≤ value.PageSize ∧ value.PageSize ≤ MaximumPageSize)
    (.argument "Building-systems page size is outside bounds.")

/-- `ScopeHash` of a selector that has been validated. -/
def ScopeHash (host : SdkHost) (value : DynamicBuildingSystemsSelectorV1) : String :=
  host.Sha256 (JoinAll [SelectorSchema, DynamicCanonical.Set value.ElementUniqueIds,
    DynamicCanonical.Set value.CategoryStableIds, DynamicCanonical.Set value.Kinds,
    DynamicCanonical.Set value.ParameterNames, if value.IncludeTypeParameters then "1" else "0",
    toString value.PageSize])

end DynamicBuildingSystemsObservationPolicyV1

end selector

namespace DynamicExecutionProtocolV1

def ManifestSchema : String := "dynamic-revit-execution-protocol-manifest/v1"

def TraceSchema : String := "dynamic-revit-execution-trace/v1"

def FactRequestSchema : String := "dynamic-revit-fact-request/v1"

def MaximumSteps : Nat := 256

def MaximumAssertions : Nat := 256

def MaximumFactReferencesPerStep : Nat := 128

def MaximumNodesPerStep : Nat := 64

def MaximumFactRequestSelectors : Nat := 256

def AssertionKinds : List String :=
  ["condition", "cardinality", "identity", "geometry", "topology", "state", "scope", "custom"]

end DynamicExecutionProtocolV1

open DynamicExecutionProtocolV1

structure DynamicProgramFactReferenceV1 where
  SnapshotHash : String
  RevisionHash : String
  ScopeHash : String
  FactStableId : String
  FieldPath : String
  ReferenceHash : String

structure DynamicProgramStepV1 where
  StepId : String
  Purpose : String
  DependsOn : List String
  NodeIds : List String
  FactReferences : List DynamicProgramFactReferenceV1

structure DynamicProgramAssertionV1 where
  AssertionId : String
  StepId : String
  Kind : String
  Passed : Bool
  Message : String
  FactReferences : List DynamicProgramFactReferenceV1

structure DynamicProgramFactRequestV1 where
  Schema : String
  RequestId : String
  Reason : String
  Selector : DynamicBuildingSystemsSelectorV1
  KnownScopeHashes : List String
  AuthorizationGranted : Bool
  RequestHash : String

structure DynamicProgramExecutionTraceV1 where
  Schema : String
  ProtocolIdentity : String
  Outcome : String
  GraphHash : String
  FactRequestHash : String
  Steps : List DynamicProgramStepV1
  Assertions : List DynamicProgramAssertionV1
  AuthorizationGranted : Bool
  TraceHash : String

/-- What the trace reads of an observed page: its hashes, and the stable identity of
    the element of each of its facts. -/
structure DynamicBuildingSystemsEnvelopeV1 where
  SnapshotHash : String
  RevisionHash : String
  ScopeHash : String
  Facts : List String

section identity

variable (host : SdkHost)

def ContractIdentity : String :=
  host.Sha256 (JoinAll ["dynamic-revit-execution-protocol/v1", ManifestSchema, TraceSchema, FactRequestSchema,
    "bounded-needs-facts", "semantic-step-node-binding", "observation-provenance", "structured-assertions",
    "non-authorizing", "deterministic-replay-attestation", "dynamic-revit-worker-observation-delta/v1", "5", "64",
    "320", "retained-supervisor-host-snapshot", "delta-only-worker-transport", "bounded-scope-set"])

def FactReferenceHash (value : DynamicProgramFactReferenceV1) : String :=
  host.Sha256 (JoinAll ["dynamic-revit-fact-reference/v1", value.SnapshotHash, value.RevisionHash, value.ScopeHash,
    value.FactStableId, value.FieldPath])

def FactRequestHash (value : DynamicProgramFactRequestV1) : String :=
  host.Sha256 (JoinAll [FactRequestSchema, value.RequestId, value.Reason,
    DynamicBuildingSystemsObservationPolicyV1.ScopeHash host value.Selector, DynamicCanonical.Set value.KnownScopeHashes,
    if value.AuthorizationGranted then "1" else "0"])

def StepCanonical (value : DynamicProgramStepV1) : String :=
  JoinAll [value.StepId, value.Purpose, DynamicCanonical.Set value.DependsOn, DynamicCanonical.Set value.NodeIds,
    joinSorted (value.FactReferences.map (FactReferenceHash host))]

def AssertionCanonical (value : DynamicProgramAssertionV1) : String :=
  JoinAll [value.AssertionId, value.StepId, value.Kind, if value.Passed then "1" else "0", value.Message,
    joinSorted (value.FactReferences.map (FactReferenceHash host))]

def TraceHash (value : DynamicProgramExecutionTraceV1) : String :=
  host.Sha256 (JoinAll [TraceSchema, value.ProtocolIdentity, value.Outcome, value.GraphHash, value.FactRequestHash,
    text.joinWith "\n" (value.Steps.map (StepCanonical host)),
    text.joinWith "\n" (value.Assertions.map (AssertionCanonical host)),
    if value.AuthorizationGranted then "1" else "0"])

end identity

section validation

variable (host : SdkHost)

def ValidateFactRequest (value : DynamicProgramFactRequestV1) : Except SdkException Unit := do
  require (value.Schema = FactRequestSchema ∧ Id value.RequestId 128 ∧ text.isBlank value.Reason = false
      ∧ text.length value.Reason ≤ 320 ∧ value.AuthorizationGranted = false ∧ value.Selector.Cursor = none)
    (.argument "Dynamic fact request is malformed, cursor-bearing, or authorizing.")
  DynamicBuildingSystemsObservationPolicyV1.ValidateSelector value.Selector
  require (value.Selector.ElementUniqueIds.length + value.Selector.CategoryStableIds.length
      + value.Selector.Kinds.length + value.Selector.ParameterNames.length ≤ MaximumFactRequestSelectors)
    (.argument "Dynamic fact request selector count exceeds its aggregate bound.")
  require (value.KnownScopeHashes.length ≤ 16 ∧ (∀ hash ∈ value.KnownScopeHashes, Hash hash)
      ∧ value.KnownScopeHashes.Nodup ∧ value.KnownScopeHashes = text.sorted value.KnownScopeHashes)
    (.argument "Dynamic fact request known scopes are invalid, duplicated, or non-canonical.")
  require (DynamicBuildingSystemsObservationPolicyV1.ScopeHash host value.Selector ∉ value.KnownScopeHashes)
    (.argument "Dynamic fact request repeats an observation scope already supplied to the program.")
  require (value.RequestHash = FactRequestHash host value) (.argument "Dynamic fact request identity is invalid.")

def ValidateFactReference (value : DynamicProgramFactReferenceV1) : Except SdkException Unit :=
  require (Hash value.SnapshotHash ∧ Hash value.RevisionHash ∧ Hash value.ScopeHash ∧ Id value.FactStableId 256
      ∧ Id value.FieldPath 256 ∧ value.ReferenceHash = FactReferenceHash host value)
    (.argument "Dynamic program fact reference is malformed or substituted.")

/-- The identities of the steps seen, and the nodes they bound. -/
structure TraceScan where
  stepIds : List String
  nodeIds : List String

def bindNode (nodeIds : List String) (nodeId : String) : Except SdkException (List String) := do
  require (Hash nodeId ∧ nodeId ∉ nodeIds)
    (.argument "Dynamic execution trace binds a graph node zero or multiple times.")
  return nodeId :: nodeIds

/-- The dependencies are looked up once the step itself is in the set. -/
def traceStep (scan : TraceScan) (step : DynamicProgramStepV1) : Except SdkException TraceScan := do
  require (Id step.StepId 128 ∧ text.isBlank step.Purpose = false ∧ text.length step.Purpose ≤ 320
      ∧ step.NodeIds.length ≤ MaximumNodesPerStep ∧ step.FactReferences.length ≤ MaximumFactReferencesPerStep
      ∧ step.StepId ∉ scan.stepIds ∧ (∀ dependency ∈ step.DependsOn, dependency ∈ step.StepId :: scan.stepIds)
      ∧ step.DependsOn.Nodup)
    (.argument "Dynamic execution step is malformed, duplicated, forward-dependent, or unbounded.")
  let nodeIds ← step.NodeIds.foldlM bindNode scan.nodeIds
  forEach step.FactReferences (ValidateFactReference host)
  return ⟨step.StepId :: scan.stepIds, nodeIds⟩

/-- A completed trace with steps binds the nodes of its graph. The graph is there: the
    outcome names its hash. -/
def traceCovers (graph : Option DynamicResultReferenceGraphV1) (factRequest : Option DynamicProgramFactRequestV1)
    (steps : List DynamicProgramStepV1) (nodeIds : List String) : Except SdkException Unit :=
  match factRequest with
  | some _ =>
    require (nodeIds.length = 0) (.argument "A needs-facts trace cannot bind executable graph nodes.")
  | none =>
    onlyIf (0 < steps.length) <|
      match graph with
      | none => .error (.invalidOperation "Object reference not set to an instance of an object.")
      | some graph =>
        require ((∀ nodeId ∈ nodeIds, nodeId ∈ graph.Nodes.map fun node => node.NodeId)
            ∧ ∀ node ∈ graph.Nodes, node.NodeId ∈ nodeIds)
          (.argument "Dynamic execution trace does not bind every graph node exactly once.")

def traceAssertion (stepIds : List String) (assertionIds : List String) (assertion : DynamicProgramAssertionV1) :
    Except SdkException (List String) := do
  require (Id assertion.AssertionId 128 ∧ assertion.StepId ∈ stepIds ∧ assertion.Kind ∈ AssertionKinds
      ∧ assertion.Passed = true ∧ text.isBlank assertion.Message = false ∧ text.length assertion.Message ≤ 320
      ∧ assertion.FactReferences.length ≤ MaximumFactReferencesPerStep ∧ assertion.AssertionId ∉ assertionIds)
    (.argument "Dynamic execution assertion is malformed, failed, unbound, duplicated, or unbounded.")
  forEach assertion.FactReferences (ValidateFactReference host)
  return assertion.AssertionId :: assertionIds

def traceBinding (value : DynamicProgramExecutionTraceV1) (graph : Option DynamicResultReferenceGraphV1)
    (factRequest : Option DynamicProgramFactRequestV1) : Except SdkException Unit :=
  match factRequest with
  | some request => do
    require (value.Outcome = "needs_facts" ∧ value.GraphHash = "" ∧ value.FactRequestHash = request.RequestHash)
      (.argument "Dynamic execution trace outcome binding is invalid.")
    ValidateFactRequest host request
  | none =>
    require (value.Outcome = "completed" ∧ some value.GraphHash = graph.map (fun graph => graph.GraphHash)
        ∧ value.FactRequestHash = "")
      (.argument "Dynamic execution trace outcome binding is invalid.")

def ValidateTrace (value : DynamicProgramExecutionTraceV1) (graph : Option DynamicResultReferenceGraphV1)
    (factRequest : Option DynamicProgramFactRequestV1) : Except SdkException Unit := do
  require (value.Schema = TraceSchema ∧ value.ProtocolIdentity = ContractIdentity host
      ∧ value.AuthorizationGranted = false ∧ value.Steps.length ≤ MaximumSteps
      ∧ value.Assertions.length ≤ MaximumAssertions)
    (.argument "Dynamic execution trace envelope is malformed, unbounded, or authorizing.")
  traceBinding host value graph factRequest
  let scan ← value.Steps.foldlM (traceStep host) ⟨[], []⟩
  traceCovers graph factRequest value.Steps scan.nodeIds
  let _ ← value.Assertions.foldlM (traceAssertion host scan.stepIds) []
  require (value.TraceHash = TraceHash host value) (.argument "Dynamic execution trace identity is invalid.")

/-- The facts a trace cites, in its steps and in its assertions. -/
def DynamicProgramExecutionTraceV1.references (value : DynamicProgramExecutionTraceV1) :
    List DynamicProgramFactReferenceV1 :=
  value.Steps.flatMap (fun step => step.FactReferences)
    ++ value.Assertions.flatMap (fun assertion => assertion.FactReferences)

/-- The page shows the fact that is cited. -/
def Shows (reference : DynamicProgramFactReferenceV1) (page : DynamicBuildingSystemsEnvelopeV1) : Prop :=
  page.SnapshotHash = reference.SnapshotHash ∧ page.RevisionHash = reference.RevisionHash
    ∧ page.ScopeHash = reference.ScopeHash ∧ reference.FactStableId ∈ page.Facts

instance (reference : DynamicProgramFactReferenceV1) (page : DynamicBuildingSystemsEnvelopeV1) :
    Decidable (Shows reference page) := inferInstanceAs (Decidable (_ ∧ _))

def ValidateTraceFactReferences (value : DynamicProgramExecutionTraceV1)
    (pages : List DynamicBuildingSystemsEnvelopeV1) : Except SdkException Unit :=
  forEach value.references fun reference => do
    ValidateFactReference host reference
    require (pages.countP (fun page => Shows reference page) = 1)
      (.argument "Dynamic execution provenance does not bind exactly one supplied observation fact.")

end validation

variable {steps : List DynamicProgramStepV1}

section pass

variable {host : SdkHost}

theorem bindNodes_ok {nodeIds seen next : List String} (h : nodeIds.foldlM bindNode seen = .ok next) :
    next = nodeIds.reverse ++ seen ∧ (seen.Nodup → next.Nodup) := by
  refine feed_relation (R := fun seen nodeIds next => next = nodeIds.reverse ++ seen ∧ (seen.Nodup → next.Nodup))
    (fun _ => ⟨rfl, id⟩) ?_ h
  rintro seen nodeId mid nodeIds next hstep ⟨rfl, hrest⟩
  simp only [bindNode, bind_eq_ok, require_eq_ok, pure_eq_ok] at hstep
  obtain ⟨_, ⟨_, hnew⟩, rfl⟩ := hstep
  refine ⟨by simp, fun hseen => hrest (List.nodup_cons.2 ⟨hnew, hseen⟩)⟩

theorem traceStep_ok {scan next : TraceScan} {step : DynamicProgramStepV1} (h : traceStep host scan step = .ok next) :
    step.StepId ∉ scan.stepIds ∧ next.stepIds = step.StepId :: scan.stepIds
      ∧ (∀ dependency ∈ step.DependsOn, dependency ∈ next.stepIds)
      ∧ step.NodeIds.foldlM bindNode scan.nodeIds = .ok next.nodeIds := by
  simp only [traceStep, bind_eq_ok, require_eq_ok, pure_eq_ok] at h
  obtain ⟨_, ⟨_, _, _, _, _, hnew, hdepends, _⟩, nodeIds, hnodes, _, _, rfl⟩ := h
  exact ⟨hnew, rfl, hdepends, hnodes⟩

/-- What the pass over some steps leaves. -/
structure Traced (scan : TraceScan) (steps : List DynamicProgramStepV1) (next : TraceScan) : Prop where
  stepIds : next.stepIds = (steps.map fun step => step.StepId).reverse ++ scan.stepIds
  nodeIds : next.nodeIds = (steps.flatMap fun step => step.NodeIds).reverse ++ scan.nodeIds
  distinct : scan.stepIds.Nodup → next.stepIds.Nodup
  boundOnce : scan.nodeIds.Nodup → next.nodeIds.Nodup
  dependsOn : ∀ index step, steps[index]? = some step → ∀ dependency ∈ step.DependsOn,
    dependency = step.StepId ∨ dependency ∈ scan.stepIds
      ∨ ∃ prior ∈ steps.take index, prior.StepId = dependency

theorem Traced.cons {scan mid next : TraceScan} {step : DynamicProgramStepV1}
    (hstep : traceStep host scan step = .ok mid) (h : Traced mid steps next) : Traced scan (step :: steps) next := by
  obtain ⟨hnew, hids, hdepends, hnodes⟩ := traceStep_ok hstep
  obtain ⟨hbound, honce⟩ := bindNodes_ok hnodes
  refine ⟨by simp [h.stepIds, hids], by simp [h.nodeIds, hbound], fun hscan => h.distinct ?_,
    fun hscan => h.boundOnce (honce hscan), ?_⟩
  · rw [hids]
    exact List.nodup_cons.2 ⟨hnew, hscan⟩
  · intro index entry hentry dependency hdependency
    cases index with
    | zero =>
      obtain rfl : step = entry := by simpa using hentry
      have hseen := hdepends dependency hdependency
      rw [hids, List.mem_cons] at hseen
      exact hseen.imp_right Or.inl
    | succ index =>
      obtain hown | hscan | ⟨prior, hprior, hsame⟩ := h.dependsOn index entry (by simpa using hentry) dependency hdependency
      · exact .inl hown
      · rw [hids, List.mem_cons] at hscan
        obtain rfl | hscan := hscan
        · exact .inr (.inr ⟨step, by simp, rfl⟩)
        · exact .inr (.inl hscan)
      · exact .inr (.inr ⟨prior, by simp [hprior], hsame⟩)

theorem traced_of_run {scan next : TraceScan}
    (h : steps.foldlM (traceStep host) scan = .ok next) : Traced scan steps next := by
  refine feed_relation (R := Traced) (fun scan => ⟨rfl, rfl, id, id, by simp⟩) ?_ h
  intro scan step mid steps next hstep hrest
  exact hrest.cons hstep

end pass

section sound

variable {host : SdkHost}

theorem countP_binds {nodeId : String}
    (honce : (steps.flatMap fun step => step.NodeIds).Nodup) (hbound : nodeId ∈ steps.flatMap fun step => step.NodeIds) :
    steps.countP (fun step => nodeId ∈ step.NodeIds) = 1 := by
  induction steps with
  | nil => simp at hbound
  | cons step steps ih =>
    rw [List.flatMap_cons] at honce hbound
    obtain ⟨_, hrest, hapart⟩ := List.nodup_append.1 honce
    rw [List.countP_cons]
    by_cases hown : nodeId ∈ step.NodeIds
    · have hnone : steps.countP (fun step => nodeId ∈ step.NodeIds) = 0 := by
        refine List.countP_eq_zero.2 fun other hother hbinds => ?_
        have hlater : nodeId ∈ steps.flatMap fun step => step.NodeIds :=
          List.mem_flatMap.2 ⟨other, hother, by simpa using hbinds⟩
        exact hapart nodeId hown nodeId hlater rfl
      simp [hnone, hown]
    · have hlater := (List.mem_append.1 hbound).resolve_left hown
      simp [ih hrest hlater, hown]

/-- What an accepted trace is meant to guarantee. -/
structure TraceSound (value : DynamicProgramExecutionTraceV1) (graph : Option DynamicResultReferenceGraphV1)
    (factRequest : Option DynamicProgramFactRequestV1) (pages : List DynamicBuildingSystemsEnvelopeV1) : Prop where
  distinct : (value.Steps.map fun step => step.StepId).Nodup
  earlier : dependency.Earlier (fun step => step.StepId) (fun step => step.DependsOn) value.Steps
  acyclic : ∀ stepId, ¬ Relation.TransGen
    (dependency.Directly (fun step => step.StepId) (fun step => step.DependsOn) value.Steps) stepId stepId
  covers : factRequest = none → value.Steps ≠ [] → ∃ nodes, graph.map (fun graph => graph.Nodes) = some nodes
    ∧ ∀ node ∈ nodes, value.Steps.countP (fun step => node.NodeId ∈ step.NodeIds) = 1
  bindsNone : factRequest ≠ none → ∀ step ∈ value.Steps, step.NodeIds = []
  asserted : ∀ assertion ∈ value.Assertions, ∃ step ∈ value.Steps, step.StepId = assertion.StepId
  cited : ∀ reference ∈ value.references, pages.countP (fun page => Shows reference page) = 1

theorem asserted_of_run {stepIds seen next : List String} {assertions : List DynamicProgramAssertionV1}
    (h : assertions.foldlM (traceAssertion host stepIds) seen = .ok next) :
    ∀ assertion ∈ assertions, assertion.StepId ∈ stepIds := by
  refine feed_relation (R := fun _ assertions _ => ∀ assertion ∈ assertions, assertion.StepId ∈ stepIds)
    (fun _ => by simp) ?_ h
  intro seen assertion mid assertions next hstep hrest
  simp only [traceAssertion, bind_eq_ok, require_eq_ok] at hstep
  obtain ⟨_, ⟨_, hbelongs, _⟩, _⟩ := hstep
  exact List.forall_mem_cons.2 ⟨hbelongs, hrest⟩

theorem Traced.earlier_iff {next : TraceScan} (h : Traced ⟨[], []⟩ steps next) :
    dependency.Earlier (fun step => step.StepId) (fun step => step.DependsOn) steps ↔
      ∀ step ∈ steps, step.StepId ∉ step.DependsOn := by
  have hdistinct : (steps.map fun step => step.StepId).Nodup := by
    have hnext := h.distinct List.nodup_nil
    rwa [h.stepIds, List.append_nil, List.nodup_reverse] at hnext
  constructor
  · intro hearlier step hstep hown
    exact dependency.Earlier.acyclic hdistinct hearlier step.StepId (.single ⟨step, hstep, rfl, hown⟩)
  · intro hown index step hindex dependency hdependency
    obtain rfl | hnone | hprior := h.dependsOn index step hindex dependency hdependency
    · exact absurd hdependency (hown step (List.mem_of_getElem? hindex))
    · cases hnone
    · exact hprior

theorem covers_of_traceCovers {graph : Option DynamicResultReferenceGraphV1}
    {next : TraceScan} (htraced : Traced ⟨[], []⟩ steps next)
    (h : traceCovers graph none steps next.nodeIds = .ok ()) (hsome : steps ≠ []) :
    ∃ nodes, graph.map (fun graph => graph.Nodes) = some nodes
      ∧ ∀ node ∈ nodes, steps.countP (fun step => node.NodeId ∈ step.NodeIds) = 1 := by
  have honce := htraced.boundOnce List.nodup_nil
  have hids := htraced.nodeIds
  rw [List.append_nil] at hids
  rw [hids, List.nodup_reverse] at honce
  simp only [traceCovers, onlyIf_eq_ok] at h
  have hcovers := h (List.length_pos_iff.2 hsome)
  cases graph with
  | none => cases hcovers
  | some graph =>
    obtain ⟨_, hall⟩ := require_eq_ok.1 hcovers
    refine ⟨graph.Nodes, rfl, fun node hnode => countP_binds honce ?_⟩
    simpa [hids] using hall node hnode

/-- An accepted trace is sound exactly when none of its steps depends on itself. -/
theorem trace_sound_iff {value : DynamicProgramExecutionTraceV1} {graph : Option DynamicResultReferenceGraphV1}
    {factRequest : Option DynamicProgramFactRequestV1} {pages : List DynamicBuildingSystemsEnvelopeV1}
    (hvalid : ValidateTrace host value graph factRequest = .ok ())
    (hfacts : ValidateTraceFactReferences host value pages = .ok ()) :
    TraceSound value graph factRequest pages ↔ ∀ step ∈ value.Steps, step.StepId ∉ step.DependsOn := by
  simp only [ValidateTrace, bind_eq_ok] at hvalid
  obtain ⟨_, _, _, _, scan, hscan, _, hcovers, _, hassertions, _⟩ := hvalid
  have htraced := traced_of_run hscan
  have hids := htraced.stepIds
  have hnodes := htraced.nodeIds
  rw [List.append_nil] at hids hnodes
  constructor
  · intro hsound
    exact htraced.earlier_iff.1 hsound.earlier
  · intro hown
    have hearlier := htraced.earlier_iff.2 hown
    have hdistinct : (value.Steps.map fun step => step.StepId).Nodup := by
      have hnext := htraced.distinct List.nodup_nil
      rwa [hids, List.nodup_reverse] at hnext
    refine ⟨hdistinct, hearlier, hearlier.acyclic hdistinct, ?_, ?_, ?_, ?_⟩
    · rintro rfl hsome
      exact covers_of_traceCovers htraced hcovers hsome
    · intro hrequest step hstep
      obtain ⟨request, rfl⟩ := Option.ne_none_iff_exists'.1 hrequest
      have hnone : scan.nodeIds = [] := List.length_eq_zero_iff.1 (require_eq_ok.1 hcovers)
      rw [hnodes, List.reverse_eq_nil_iff, List.flatMap_eq_nil_iff] at hnone
      exact hnone step hstep
    · intro assertion hassertion
      have hbelongs := asserted_of_run hassertions assertion hassertion
      rw [hids, List.mem_reverse] at hbelongs
      obtain ⟨step, hstep, hsame⟩ := List.mem_map.1 hbelongs
      exact ⟨step, hstep, hsame⟩
    · intro reference hreference
      have hcited := forEach_eq_ok.1 hfacts reference hreference
      simp only [bind_eq_ok, require_eq_ok] at hcited
      obtain ⟨_, _, hone⟩ := hcited
      exact hone

/-- A cited fact. -/
def sampleReference : DynamicProgramFactReferenceV1 := ⟨zeroHash, zeroHash, zeroHash, "wall-1", "type", zeroHash⟩

/-- One step that binds one node, with the dependencies given. -/
def sampleStep (dependsOn : List String) : DynamicProgramStepV1 :=
  ⟨"delete-wall", "Delete the observed wall.", dependsOn, [zeroHash], [sampleReference]⟩

def sampleTrace (dependsOn : List String) : DynamicProgramExecutionTraceV1 where
  Schema := TraceSchema
  ProtocolIdentity := zeroHash
  Outcome := "completed"
  GraphHash := zeroHash
  FactRequestHash := ""
  Steps := [sampleStep dependsOn]
  Assertions := [⟨"one-wall", "delete-wall", "cardinality", true, "Exactly one wall.", [sampleReference]⟩]
  AuthorizationGranted := false
  TraceHash := zeroHash

def sampleTraceGraph : DynamicResultReferenceGraphV1 where
  Schema := DynamicResultReferenceContractV1.GraphSchema
  ContractManifestHash := zeroHash
  InputHash := zeroHash
  DocumentFingerprint := zeroHash
  DocumentSessionId := "session"
  DocumentRevision := 0
  Nodes := [⟨zeroHash, "delete_element", [], [], [], [], ⟨[], List.nodup_nil⟩⟩]
  GraphHash := zeroHash

theorem sampleReference_valid : ValidateFactReference constantSdk sampleReference = .ok () :=
  require_of ⟨hash_zeroHash, hash_zeroHash, hash_zeroHash, by decide +kernel, by decide +kernel, rfl⟩

theorem sampleTrace_valid {dependsOn : List String} (hown : ∀ dependency ∈ dependsOn, dependency = "delete-wall")
    (hdistinct : dependsOn.Nodup) :
    ValidateTrace constantSdk (sampleTrace dependsOn) (some sampleTraceGraph) none = .ok () := by
  have hreferences : forEach [sampleReference] (ValidateFactReference constantSdk) = .ok () :=
    forEach_eq_ok.2 (List.forall_mem_singleton.2 sampleReference_valid)
  have hnodes : [zeroHash].foldlM bindNode [] = .ok [zeroHash] := by
    rw [List.foldlM_cons, bindNode, require_of ⟨hash_zeroHash, List.not_mem_nil⟩]
    rfl
  have hstep : traceStep constantSdk ⟨[], []⟩ (sampleStep dependsOn) = .ok ⟨["delete-wall"], [zeroHash]⟩ := by
    have hid : Id "delete-wall" 128 := by decide +kernel
    have hpurpose : text.isBlank "Delete the observed wall." = false ∧ text.length "Delete the observed wall." ≤ 320 := by
      decide +kernel
    rw [traceStep, require_of ⟨hid, hpurpose.1, hpurpose.2, by simp [sampleStep, MaximumNodesPerStep],
      by simp [sampleStep, MaximumFactReferencesPerStep], List.not_mem_nil,
      fun dependency h => List.mem_singleton.2 (hown dependency h), hdistinct⟩]
    simp only [ok_bind, sampleStep, hnodes, hreferences]
    rfl
  have hassertion : traceAssertion constantSdk ["delete-wall"] []
      ⟨"one-wall", "delete-wall", "cardinality", true, "Exactly one wall.", [sampleReference]⟩ = .ok ["one-wall"] := by
    rw [traceAssertion, require_of ⟨by decide +kernel, by decide +kernel, by decide +kernel, rfl, by decide +kernel,
      by decide +kernel, by decide +kernel, List.not_mem_nil⟩]
    simp only [ok_bind, hreferences]
    rfl
  simp only [ValidateTrace, bind_eq_ok, require_eq_ok]
  refine ⟨(), ⟨rfl, rfl, rfl, by simp [sampleTrace, MaximumSteps], by simp [sampleTrace, MaximumAssertions]⟩, (),
    require_of ⟨rfl, rfl, rfl⟩, ⟨["delete-wall"], [zeroHash]⟩, ?_, (), ?_, ["one-wall"], ?_, rfl⟩
  · rw [sampleTrace, List.foldlM_cons, hstep]
    rfl
  · exact onlyIf_eq_ok.2 fun _ => require_of (by simp [sampleTraceGraph])
  · rw [sampleTrace, List.foldlM_cons, hassertion]
    rfl

theorem sampleTrace_cites (dependsOn : List String) : ValidateTraceFactReferences constantSdk (sampleTrace dependsOn)
    [⟨zeroHash, zeroHash, zeroHash, ["wall-1"]⟩] = .ok () := by
  refine forEach_eq_ok.2 fun reference hreference => ?_
  obtain rfl : reference = sampleReference := by
    simpa [DynamicProgramExecutionTraceV1.references, sampleTrace, sampleStep] using hreference
  rw [sampleReference_valid, ok_bind, require_of]
  decide +kernel

/-- A trace of a single independent step is sound. -/
theorem independent_step_sound :
    TraceSound (sampleTrace []) (some sampleTraceGraph) none [⟨zeroHash, zeroHash, zeroHash, ["wall-1"]⟩] := by
  refine (trace_sound_iff (sampleTrace_valid (by simp) List.nodup_nil) (sampleTrace_cites [])).2 ?_
  simp [sampleTrace, sampleStep]

/-- A step that depends on itself is accepted. -/
theorem self_dependency_accepted : ¬ ∀ (host : SdkHost) value graph factRequest pages,
    ValidateTrace host value graph factRequest = .ok () → ValidateTraceFactReferences host value pages = .ok () →
    TraceSound value graph factRequest pages := by
  intro h
  have hsound := h constantSdk (sampleTrace ["delete-wall"]) (some sampleTraceGraph) none _
    (sampleTrace_valid (by simp) (List.nodup_singleton _)) (sampleTrace_cites _)
  obtain ⟨prior, hprior, _⟩ := hsound.earlier 0 (sampleStep ["delete-wall"]) rfl "delete-wall" List.mem_cons_self
  cases hprior

end sound

end revit_operator.dynamic_revit_sdk
