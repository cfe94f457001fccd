import Mathlib.Algebra.Group.Int.Defs
import RevitOperator.DynamicRevitSdk.NodeIdentity
import RevitOperator.Library.Run

open checked checked_run

/-! The effect budget of a program, and the policy that holds a graph to it. -/

namespace revit_operator.dynamic_revit_sdk

open DynamicCanonical DynamicResultReferenceContractV1

section budget

def EffectBudgetV1 : String := "dynamic_effect_budget/v1"

structure DynamicEffectBudgetV1 where
  Schema : String
  BudgetId : String
  TargetDocumentFingerprints : List String
  AllowedCategories : List String
  ExplicitTargetUniqueIds : List String
  AllowedSdkDomains : List String
  AllowedExternalEffectClasses : List String
  ViewScopeHash : String
  LevelScopeHash : String
  WorksetScopeHash : String
  PhaseScopeHash : String
  MaximumOperationCount : Int32
  MaximumAffectedElements : Int32
  MaximumCreates : Int32
  MaximumModifications : Int32
  MaximumDeletes : Int32
  MaximumExecutionMilliseconds : Int32
  MaximumRegenerations : Int32
  MaximumOutputCount : Int32
  MaximumOutputBytes : Int64
  FileCapabilitySetHash : String

def DynamicEffectBudgetV1.Validate (budget : DynamicEffectBudgetV1) : Except SdkException Unit := do
  require (budget.Schema = EffectBudgetV1 ∧ Id budget.BudgetId 160
      ∧ 1 ≤ budget.TargetDocumentFingerprints.length ∧ budget.TargetDocumentFingerprints.length ≤ 8
      ∧ 1 ≤ budget.AllowedSdkDomains.length ∧ budget.AllowedSdkDomains.length ≤ 32
      ∧ 1 ≤ budget.MaximumOperationCount ∧ budget.MaximumOperationCount ≤ 10000
      ∧ 1 ≤ budget.MaximumAffectedElements ∧ budget.MaximumAffectedElements ≤ 50000
      ∧ 0 ≤ budget.MaximumCreates ∧ 0 ≤ budget.MaximumModifications ∧ 0 ≤ budget.MaximumDeletes
      ∧ budget.MaximumCreates + budget.MaximumModifications + budget.MaximumDeletes ≤ budget.MaximumOperationCount
      ∧ 100 ≤ budget.MaximumExecutionMilliseconds ∧ budget.MaximumExecutionMilliseconds ≤ 600000
      ∧ 0 ≤ budget.MaximumRegenerations ∧ budget.MaximumRegenerations ≤ 1000
      ∧ 0 ≤ budget.MaximumOutputCount ∧ budget.MaximumOutputCount ≤ 10000
      ∧ 0 ≤ budget.MaximumOutputBytes ∧ budget.MaximumOutputBytes ≤ 20 * 1024 * 1024 * 1024)
    (.argument "Dynamic effect budget is invalid.")
  RequireHashes (budget.TargetDocumentFingerprints ++ [budget.ViewScopeHash, budget.LevelScopeHash,
    budget.WorksetScopeHash, budget.PhaseScopeHash, budget.FileCapabilitySetHash])
  RequireDistinct budget.AllowedCategories 256 256 "category"
  RequireDistinct budget.ExplicitTargetUniqueIds 50000 256 "target"
  RequireDistinct budget.AllowedSdkDomains 32 128 "SDK domain"
  RequireDistinct budget.AllowedExternalEffectClasses 16 128 "external effect"

end budget

section policy

structure DynamicTrustedElementFactV1 where
  UniqueId : String
  ElementId : Int
  DocumentFingerprint : String
  CategoryStableId : String
  TypeUniqueId : String
  StateHash : String
  Exists : Bool
  Verified : Bool
  Visible : Bool
  deriving DecidableEq

def ValidateExternalAgainstFact (expected : DynamicExternalTargetReferenceV1) (fact : DynamicTrustedElementFactV1)
    (document : String) : Except SdkException Unit :=
  require (fact.Exists = true ∧ fact.Verified = true ∧ fact.Visible = true ∧ fact.UniqueId = expected.TargetUniqueId
      ∧ fact.ElementId = expected.TargetElementId ∧ fact.DocumentFingerprint = document
      ∧ fact.DocumentFingerprint = expected.DocumentFingerprint
      ∧ fact.CategoryStableId = expected.ExpectedCategoryStableId ∧ fact.TypeUniqueId = expected.ExpectedTypeUniqueId
      ∧ fact.StateHash = expected.ExpectedStateHash)
    (.invalidOperation "External target is stale, hidden, unverified, missing, or mismatched.")

/-- What `Validate` keeps while it goes through the nodes. The counters stay below
    256 nodes of 16 outputs each. -/
structure PolicyScan extends WorkerScan where
  outputCount : Nat
  createCount : Nat
  modifyCount : Nat
  deleteCount : Nat
  affected : List String

variable (budget : DynamicEffectBudgetV1) (trustedExternalTargets : String → Option DynamicTrustedElementFactV1)

def policyExternal (documentFingerprint effectClass : String) (scan : PolicyScan)
    (external : DynamicExternalTargetReferenceV1) : Except SdkException PolicyScan :=
  match trustedExternalTargets external.TargetUniqueId with
  | none => .error (.invalidOperation "External target is unresolved.")
  | some fact => do
    ValidateExternalAgainstFact external fact documentFingerprint
    require (budget.ExplicitTargetUniqueIds = [] ∨ external.TargetUniqueId ∈ budget.ExplicitTargetUniqueIds)
      (.argument "External target is outside explicit scope.")
    require (fact.CategoryStableId ∈ budget.AllowedCategories)
      (.argument "External target category is outside scope.")
    if effectClass ≠ "create" then
      return { scan with affected := scan.affected.insert ("external\n" ++ external.TargetUniqueId) }
    else return scan

def policyReference (node : DynamicResultReferenceNodeV1) (effectClass : String) (scan : PolicyScan)
    (reference : DynamicSymbolicResultReferenceV1) : Except SdkException PolicyScan :=
  match scan.outputs.lookup (Key reference.ResultId reference.OutputSlot) with
  | none => .error (.invalidOperation "Symbolic result is unresolved or forward.")
  | some prior => do
    require (ReferenceMatches reference prior.2 ∧ prior.1 ∈ node.DependsOn)
      (.invalidOperation "Symbolic result dependency, type, category, or document is invalid.")
    if effectClass ≠ "create" then
      return { scan with
        affected := scan.affected.insert ("result\n" ++ Key reference.ResultId reference.OutputSlot) }
    else return scan

def policyOutput (documentFingerprint nodeId : String) (scan : PolicyScan)
    (output : DynamicResultOutputDeclarationV1) : Except SdkException PolicyScan := do
  require (scan.outputs.lookup (Key output.ResultId output.OutputSlot) = none ∧ output.ResultId ∉ scan.resultIds)
    (.argument "Duplicate symbolic result ID or output slot.")
  require (output.ExpectedDocumentFingerprint = documentFingerprint)
    (.invalidOperation "Symbolic output targets another document.")
  require (output.ExpectedCategoryStableId ∈ budget.AllowedCategories)
    (.argument "Symbolic output category is outside scope.")
  return { scan with
    toWorkerScan := scan.toWorkerScan.declare nodeId output
    affected := scan.affected.insert ("output\n" ++ Key output.ResultId output.OutputSlot)
    outputCount := scan.outputCount + 1 }

/-- The effect of a node is counted by its class. -/
def countEffect (node : DynamicResultReferenceNodeV1) (effectClass : String) (scan : PolicyScan) :
    Except SdkException PolicyScan :=
  if effectClass = "create" then .ok { scan with createCount := scan.createCount + node.Outputs.length }
  else if effectClass = "modify" then .ok { scan with modifyCount := scan.modifyCount + 1 }
  else if effectClass = "delete" then .ok { scan with deleteCount := scan.deleteCount + 1 }
  else if effectClass = "external" then do
    require (node.Kind ∈ budget.AllowedExternalEffectClasses)
      (.argument "Result-reference external effect is not authorized.")
    return scan
  else .error (.argument "Result-reference primitive effect class is unsupported.")

def policyNode (host : SdkHost) (documentFingerprint : String) (kinds : List String) (scan : PolicyScan)
    (node : DynamicResultReferenceNodeV1) : Except SdkException PolicyScan := do
  ValidateNodeShape node
  require (node.NodeId = NodeId host node ∧ node.NodeId ∉ scan.seenNodes)
    (.argument "Result-reference node identity is invalid or duplicated.")
  let scan := { scan with toWorkerScan := scan.toWorkerScan.see node }
  require (∀ dependency ∈ node.DependsOn, dependency ∈ scan.seenNodes)
    (.argument "Result-reference dependency is missing, forward, or cyclic.")
  match ResultReferencePrimitive node.Kind with
  | none => .error (.argument "Result-reference primitive kind or domain is not authorized.")
  | some descriptor =>
    require (node.Kind ∈ kinds ∧ descriptor.Domain ∈ budget.AllowedSdkDomains)
      (.argument "Result-reference primitive kind or domain is not authorized.")
    require (∀ required ∈ descriptor.RequiredAttributes, node.Attributes.ContainsKey required)
      (.argument "Result-reference primitive is missing a required attribute.")
    require (∀ key ∈ node.Attributes.Keys, key ∈ descriptor.RequiredAttributes)
      (.argument "Result-reference primitive contains an unknown or extra attribute.")
    require (descriptor.EffectClass = "create" ↔ 0 < node.Outputs.length)
      (.argument "Create primitives require symbolic outputs and only create primitives may declare them.")
    let scan ← countEffect budget node descriptor.EffectClass scan
    require (descriptor.EffectClass = "modify" ∨ descriptor.EffectClass = "delete" →
        1 ≤ node.ExternalTargets.length + node.ResultReferences.length)
      (.argument "Result-reference modifying and deleting primitives require an exact target reference.")
    let scan ← node.ExternalTargets.foldlM
      (policyExternal budget trustedExternalTargets documentFingerprint descriptor.EffectClass) scan
    let scan ← node.ResultReferences.foldlM (policyReference node descriptor.EffectClass) scan
    node.Outputs.foldlM (policyOutput budget documentFingerprint node.NodeId) scan

def PolicyScan.start : PolicyScan := ⟨⟨[], [], []⟩, 0, 0, 0, 0, []⟩

/-- `DynamicResultReferencePolicyV1.Validate` -/
def Validate (host : SdkHost) (graph : DynamicResultReferenceGraphV1) (allowedKinds : List String) :
    Except SdkException Unit := do
  require (graph.Schema = GraphSchema ∧ graph.ContractManifestHash = host.ManifestHash ∧ 0 ≤ graph.DocumentRevision
      ∧ 1 ≤ graph.Nodes.length ∧ graph.Nodes.length ≤ MaximumNodes ∧ Id graph.DocumentSessionId 256)
    (.argument "Result-reference graph envelope is invalid.")
  RequireHashes [graph.InputHash, graph.DocumentFingerprint, graph.GraphHash]
  budget.Validate
  require (graph.DocumentFingerprint ∈ budget.TargetDocumentFingerprints
      ∧ graph.Nodes.length ≤ budget.MaximumOperationCount.toInt)
    (.argument "Result-reference graph exceeds its document or operation budget.")
  let scan ← graph.Nodes.foldlM
    (policyNode budget trustedExternalTargets host graph.DocumentFingerprint allowedKinds) .start
  require (scan.createCount ≤ budget.MaximumCreates.toInt ∧ scan.modifyCount ≤ budget.MaximumModifications.toInt
      ∧ scan.deleteCount ≤ budget.MaximumDeletes.toInt
      ∧ scan.affected.length ≤ budget.MaximumAffectedElements.toInt
      ∧ scan.outputCount ≤ budget.MaximumOutputCount.toInt)
    (.argument "Result-reference graph exceeds effect, affected-element, or output bounds.")
  require (graph.GraphHash = GraphHash host graph) (.argument "Result-reference graph hash is invalid.")

end policy

section effects

/-- The effect class of a node's primitive. -/
def effectClass (node : DynamicResultReferenceNodeV1) : String :=
  ((ResultReferencePrimitive node.Kind).map fun descriptor => descriptor.EffectClass).getD ""

/-- The outputs of the create primitives. -/
def createdOutputs (nodes : List DynamicResultReferenceNodeV1) : List DynamicResultOutputDeclarationV1 :=
  (nodes.filter fun node => effectClass node = "create").flatMap fun node => node.Outputs

def nodesOfClass (kind : String) (nodes : List DynamicResultReferenceNodeV1) : List DynamicResultReferenceNodeV1 :=
  nodes.filter fun node => effectClass node = kind

def externalName (external : DynamicExternalTargetReferenceV1) : String := "external\n" ++ external.TargetUniqueId

def resultName (reference : DynamicSymbolicResultReferenceV1) : String :=
  "result\n" ++ Key reference.ResultId reference.OutputSlot

def outputName (output : DynamicResultOutputDeclarationV1) : String :=
  "output\n" ++ Key output.ResultId output.OutputSlot

/-- What a node affects: the targets and results it changes, and its outputs. -/
def affectedBy (node : DynamicResultReferenceNodeV1) : List String :=
  (if effectClass node ≠ "create" then node.ExternalTargets.map externalName ++ node.ResultReferences.map resultName
    else []) ++ node.Outputs.map outputName

/-- The distinct identities a graph affects. -/
def affectedIdentities (nodes : List DynamicResultReferenceNodeV1) : List String := (nodes.flatMap affectedBy).dedup

variable {budget : DynamicEffectBudgetV1} {trusted : String → Option DynamicTrustedElementFactV1}
  {documentFingerprint : String} {scan next : PolicyScan}

/-- A set of affected identities grows by some names. -/
structure Grows (before names after : List String) : Prop where
  mem_iff : ∀ name, name ∈ after ↔ name ∈ before ∨ name ∈ names
  nodup : before.Nodup → after.Nodup

theorem Grows.nil (before : List String) : Grows before [] before :=
  ⟨fun _ => by simp, id⟩

theorem Grows.insert (before : List String) (name : String) : Grows before [name] (before.insert name) :=
  ⟨fun other => by simp [or_comm], fun h => h.insert⟩

theorem Grows.trans {before names mid rest after : List String} (hfirst : Grows before names mid)
    (hrest : Grows mid rest after) : Grows before (names ++ rest) after :=
  ⟨fun name => by rw [hrest.mem_iff, hfirst.mem_iff, List.mem_append, or_assoc],
    fun h => hrest.nodup (hfirst.nodup h)⟩

theorem policyExternal_ok {kind : String} {external : DynamicExternalTargetReferenceV1}
    (h : policyExternal budget trusted documentFingerprint kind scan external = .ok next) :
    next = { scan with affected := next.affected }
      ∧ Grows scan.affected (if kind ≠ "create" then [externalName external] else []) next.affected
      ∧ external.DocumentFingerprint = documentFingerprint := by
  unfold policyExternal at h
  split at h
  · cases h
  · simp only [check_bind_eq_ok, ValidateExternalAgainstFact, require_eq_ok] at h
    obtain ⟨⟨_, _, _, _, _, hdocument, hexpected, _⟩, _, _, h⟩ := h
    have hforeign : external.DocumentFingerprint = documentFingerprint := hexpected.symm.trans hdocument
    split_ifs at h with hkind
    · obtain rfl := Except.ok.inj h
      rw [if_pos hkind]
      exact ⟨rfl, Grows.insert _ _, hforeign⟩
    · obtain rfl := Except.ok.inj h
      rw [if_neg hkind]
      exact ⟨rfl, Grows.nil _, hforeign⟩

theorem policyExternals_ok {kind : String} {externals : List DynamicExternalTargetReferenceV1}
    (h : externals.foldlM (policyExternal budget trusted documentFingerprint kind) scan = .ok next) :
    next = { scan with affected := next.affected }
      ∧ Grows scan.affected (if kind ≠ "create" then externals.map externalName else []) next.affected
      ∧ ∀ external ∈ externals, external.DocumentFingerprint = documentFingerprint := by
  refine feed_relation (R := fun scan externals next => next = { scan with affected := next.affected }
    ∧ Grows scan.affected (if kind ≠ "create" then externals.map externalName else []) next.affected
    ∧ ∀ external ∈ externals, external.DocumentFingerprint = documentFingerprint) ?_ ?_ h
  · intro scan
    refine ⟨rfl, ?_, by simp⟩
    split_ifs <;> exact Grows.nil _
  · rintro scan external mid externals next hstep ⟨hkept, hgrows, hforeign⟩
    obtain ⟨hkeptStep, hgrowsStep, hforeignStep⟩ := policyExternal_ok hstep
    refine ⟨?_, ?_, List.forall_mem_cons.2 ⟨hforeignStep, hforeign⟩⟩
    · rw [hkept, hkeptStep]
    · have hboth := hgrowsStep.trans hgrows
      split_ifs at hboth ⊢ <;> exact hboth

variable {node : DynamicResultReferenceNodeV1} {kind : String}

theorem policyReference_ok {reference : DynamicSymbolicResultReferenceV1}
    (h : policyReference node kind scan reference = .ok next) :
    next = { scan with affected := next.affected }
      ∧ Grows scan.affected (if kind ≠ "create" then [resultName reference] else []) next.affected
      ∧ workerReference scan.outputs node reference = .ok () := by
  unfold policyReference at h
  split at h
  · cases h
  · rename_i prior hprior
    simp only [check_bind_eq_ok, require_eq_ok] at h
    obtain ⟨hmatches, h⟩ := h
    have hworker : workerReference scan.outputs node reference = .ok () := by
      rw [workerReference, hprior]
      exact require_of hmatches
    split_ifs at h with hkind
    · obtain rfl := Except.ok.inj h
      rw [if_pos hkind]
      exact ⟨rfl, Grows.insert _ _, hworker⟩
    · obtain rfl := Except.ok.inj h
      rw [if_neg hkind]
      exact ⟨rfl, Grows.nil _, hworker⟩

theorem policyReferences_ok {references : List DynamicSymbolicResultReferenceV1}
    (h : references.foldlM (policyReference node kind) scan = .ok next) :
    next = { scan with affected := next.affected }
      ∧ Grows scan.affected (if kind ≠ "create" then references.map resultName else []) next.affected
      ∧ ∀ reference ∈ references, workerReference scan.outputs node reference = .ok () := by
  refine feed_relation (R := fun scan references next => next = { scan with affected := next.affected }
    ∧ Grows scan.affected (if kind ≠ "create" then references.map resultName else []) next.affected
    ∧ ∀ reference ∈ references, workerReference scan.outputs node reference = .ok ()) ?_ ?_ h
  · intro scan
    refine ⟨rfl, ?_, by simp⟩
    split_ifs <;> exact Grows.nil _
  · rintro scan reference mid references next hstep ⟨hkept, hgrows, hworker⟩
    obtain ⟨hkeptStep, hgrowsStep, hworkerStep⟩ := policyReference_ok hstep
    refine ⟨?_, ?_, List.forall_mem_cons.2 ⟨hworkerStep, ?_⟩⟩
    · rw [hkept, hkeptStep]
    · have hboth := hgrowsStep.trans hgrows
      split_ifs at hboth ⊢ <;> exact hboth
    · rwa [hkeptStep] at hworker

theorem policyOutputs_ok {nodeId : String} {outputs : List DynamicResultOutputDeclarationV1}
    (h : outputs.foldlM (policyOutput budget documentFingerprint nodeId) scan = .ok next) :
    next = { scan with
        toWorkerScan := next.toWorkerScan, affected := next.affected, outputCount := next.outputCount }
      ∧ Grows scan.affected (outputs.map outputName) next.affected
      ∧ outputs.foldlM (workerOutput documentFingerprint nodeId) scan.toWorkerScan = .ok next.toWorkerScan := by
  refine feed_relation (R := fun scan outputs next => next = { scan with
      toWorkerScan := next.toWorkerScan, affected := next.affected, outputCount := next.outputCount }
    ∧ Grows scan.affected (outputs.map outputName) next.affected
    ∧ outputs.foldlM (workerOutput documentFingerprint nodeId) scan.toWorkerScan = .ok next.toWorkerScan) ?_ ?_ h
  · exact fun scan => ⟨rfl, Grows.nil _, rfl⟩
  · rintro scan output mid outputs next hstep ⟨hkept, hgrows, hworker⟩
    simp only [policyOutput, check_bind_eq_ok, require_eq_ok, pure_eq_ok] at hstep
    obtain ⟨⟨hnew, hresult⟩, hdocument, _, rfl⟩ := hstep
    refine ⟨hkept, (Grows.insert _ _).trans hgrows, ?_⟩
    rw [List.foldlM_cons, workerOutput, require_of ⟨hdocument, hresult, hnew⟩]
    exact hworker

theorem countEffect_ok (h : countEffect budget node kind scan = .ok next) :
    next = { scan with
      createCount := scan.createCount + if kind = "create" then node.Outputs.length else 0
      modifyCount := scan.modifyCount + if kind = "modify" then 1 else 0
      deleteCount := scan.deleteCount + if kind = "delete" then 1 else 0 } := by
  unfold countEffect at h
  split_ifs at h with hcreate hmodify hdelete hexternal
  · obtain rfl := Except.ok.inj h
    simp [hcreate]
  · obtain rfl := Except.ok.inj h
    simp [hmodify]
  · obtain rfl := Except.ok.inj h
    simp [hdelete]
  · simp only [check_bind_eq_ok, pure_eq_ok] at h
    obtain ⟨_, rfl⟩ := h
    simp [hcreate, hmodify, hdelete]

/-- What the policy keeps after some nodes: their effects are counted and named, and
    the worker's validation of the same nodes keeps the same sets. -/
structure Tallies (host : SdkHost) (documentFingerprint : String) (scan : PolicyScan)
    (nodes : List DynamicResultReferenceNodeV1) (next : PolicyScan) : Prop where
  create : next.createCount = scan.createCount + (createdOutputs nodes).length
  modify : next.modifyCount = scan.modifyCount + (nodesOfClass "modify" nodes).length
  delete : next.deleteCount = scan.deleteCount + (nodesOfClass "delete" nodes).length
  affected : Grows scan.affected (nodes.flatMap affectedBy) next.affected
  worker : nodes.foldlM (workerNode host documentFingerprint) scan.toWorkerScan = .ok next.toWorkerScan

theorem createdOutputs_cons (node : DynamicResultReferenceNodeV1) (nodes : List DynamicResultReferenceNodeV1) :
    createdOutputs (node :: nodes) = createdOutputs [node] ++ createdOutputs nodes := by
  by_cases h : effectClass node = "create" <;> simp [createdOutputs, h]

theorem nodesOfClass_cons (kind : String) (node : DynamicResultReferenceNodeV1)
    (nodes : List DynamicResultReferenceNodeV1) :
    nodesOfClass kind (node :: nodes) = nodesOfClass kind [node] ++ nodesOfClass kind nodes := by
  by_cases h : effectClass node = kind <;> simp [nodesOfClass, h]

theorem length_createdOutputs_singleton (node : DynamicResultReferenceNodeV1) :
    (createdOutputs [node]).length = if effectClass node = "create" then node.Outputs.length else 0 := by
  by_cases h : effectClass node = "create" <;> simp [createdOutputs, h]

theorem length_nodesOfClass_singleton (kind : String) (node : DynamicResultReferenceNodeV1) :
    (nodesOfClass kind [node]).length = if effectClass node = kind then 1 else 0 := by
  by_cases h : effectClass node = kind <;> simp [nodesOfClass, h]

variable {host : SdkHost} {kinds : List String}

theorem policyNode_tallies (h : policyNode budget trusted host documentFingerprint kinds scan node = .ok next) :
    Tallies host documentFingerprint scan [node] next := by
  simp only [policyNode, check_bind_eq_ok, require_eq_ok] at h
  obtain ⟨hshape, ⟨hid, hnew⟩, hdepends, h⟩ := h
  split at h
  · cases h
  rename_i descriptor hdescriptor
  simp only [require_eq_ok, bind_eq_ok] at h
  obtain ⟨_, _, _, hrequired, _, hextra, _, hcreate, counted, hcounted, _, _, external, hexternal, referred, hreferred,
    houtputs⟩ := h
  obtain ⟨hexternalKept, hexternalGrows, hforeign⟩ := policyExternals_ok hexternal
  obtain ⟨hreferredKept, hreferredGrows, hworker⟩ := policyReferences_ok hreferred
  obtain ⟨houtputsKept, houtputsGrows, hdeclared⟩ := policyOutputs_ok houtputs
  have hclass : effectClass node = descriptor.EffectClass := by simp [effectClass, hdescriptor]
  have hcounts := countEffect_ok hcounted
  have hnext : next = { counted with
      toWorkerScan := next.toWorkerScan, affected := next.affected, outputCount := next.outputCount } := by
    rw [houtputsKept, hreferredKept, hexternalKept]
  have hseen : referred.toWorkerScan = scan.toWorkerScan.see node := by
    rw [hreferredKept, hexternalKept, hcounts]
  have houtputsSeen : external.outputs = scan.outputs := by
    rw [hexternalKept, hcounts]
    rfl
  refine ⟨?_, ?_, ?_, ?_, ?_⟩
  · rw [hnext, hcounts, length_createdOutputs_singleton, hclass]
  · rw [hnext, hcounts, length_nodesOfClass_singleton, hclass]
  · rw [hnext, hcounts, length_nodesOfClass_singleton, hclass]
  · have hgrows := (hexternalGrows.trans hreferredGrows).trans houtputsGrows
    have hstart : counted.affected = scan.affected := by rw [hcounts]
    rw [hstart] at hgrows
    rw [List.flatMap_cons, List.flatMap_nil, List.append_nil, affectedBy, hclass]
    split_ifs at hgrows ⊢ <;> exact hgrows
  · have hworkerNode : workerNode host documentFingerprint scan.toWorkerScan node = .ok next.toWorkerScan :=
      workerNode_eq_ok.2 ⟨⟨descriptor, hshape, hid, hnew, hdepends, hdescriptor, ⟨hrequired, hextra⟩, hcreate, hforeign,
        fun reference hmem => houtputsSeen ▸ hworker reference hmem⟩, hseen ▸ hdeclared⟩
    rw [List.foldlM_cons, hworkerNode]
    rfl

theorem policyNodes_tallies {nodes : List DynamicResultReferenceNodeV1}
    (h : nodes.foldlM (policyNode budget trusted host documentFingerprint kinds) scan = .ok next) :
    Tallies host documentFingerprint scan nodes next := by
  refine feed_relation (R := Tallies host documentFingerprint) ?_ ?_ h
  · exact fun scan => ⟨rfl, rfl, rfl, Grows.nil _, rfl⟩
  · intro scan node mid nodes next hstep hrest
    have hnode := policyNode_tallies hstep
    refine ⟨?_, ?_, ?_, ?_, ?_⟩
    · rw [hrest.create, hnode.create, createdOutputs_cons node nodes, List.length_append, Nat.add_assoc]
    · rw [hrest.modify, hnode.modify, nodesOfClass_cons _ node nodes, List.length_append, Nat.add_assoc]
    · rw [hrest.delete, hnode.delete, nodesOfClass_cons _ node nodes, List.length_append, Nat.add_assoc]
    · have hboth := hnode.affected.trans hrest.affected
      rwa [List.flatMap_cons, List.flatMap_nil, List.append_nil] at hboth
    · rw [← List.singleton_append, List.foldlM_append, hnode.worker]
      exact hrest.worker

/-- What an accepted graph spends. -/
structure Spends (budget : DynamicEffectBudgetV1) (graph : DynamicResultReferenceGraphV1) : Prop where
  creates : (createdOutputs graph.Nodes).length ≤ budget.MaximumCreates.toInt
  modifications : (nodesOfClass "modify" graph.Nodes).length ≤ budget.MaximumModifications.toInt
  deletes : (nodesOfClass "delete" graph.Nodes).length ≤ budget.MaximumDeletes.toInt
  affected : (affectedIdentities graph.Nodes).length ≤ budget.MaximumAffectedElements.toInt

theorem validate_spends {graph : DynamicResultReferenceGraphV1}
    (h : Validate budget trusted host graph kinds = .ok ()) : Spends budget graph := by
  simp only [Validate, bind_eq_ok, require_eq_ok] at h
  obtain ⟨_, _, _, _, _, _, _, _, scan, hscan, _, ⟨hcreate, hmodify, hdelete, haffected, _⟩, _⟩ := h
  have htallies := policyNodes_tallies hscan
  have hdistinct : scan.affected.Perm (affectedIdentities graph.Nodes) := by
    refine (List.perm_ext_iff_of_nodup (htallies.affected.nodup List.nodup_nil) (List.nodup_dedup _)).2 fun name => ?_
    rw [htallies.affected.mem_iff]
    simp [PolicyScan.start]
  have hcreated := htallies.create
  have hmodified := htallies.modify
  have hdeleted := htallies.delete
  simp only [PolicyScan.start, Nat.zero_add] at hcreated hmodified hdeleted
  exact ⟨hcreated ▸ hcreate, hmodified ▸ hmodify, hdeleted ▸ hdelete, hdistinct.length_eq ▸ haffected⟩

/-- The sum of the three limits, as integers. -/
def DynamicEffectBudgetV1.limitSum (budget : DynamicEffectBudgetV1) : Int :=
  budget.MaximumCreates.toInt + budget.MaximumModifications.toInt + budget.MaximumDeletes.toInt

theorem limitSum_le_iff (h : budget.Validate = .ok ()) :
    budget.limitSum ≤ budget.MaximumOperationCount.toInt ↔ budget.limitSum < 2 ^ 31 := by
  simp only [DynamicEffectBudgetV1.Validate, bind_eq_ok, require_eq_ok] at h
  obtain ⟨_, ⟨_, _, _, _, _, _, _, _, _, _, hcreates, hmodifications, hdeletes, hsum, _⟩, _⟩ := h
  rw [Int32.le_iff_toInt_le] at hcreates hmodifications hdeletes hsum
  rw [Int32.toInt_add, Int32.toInt_add] at hsum
  rw [Int32.toInt_zero] at hcreates hmodifications hdeletes
  have hlimit := budget.MaximumOperationCount.toInt_lt
  rw [DynamicEffectBudgetV1.limitSum]
  constructor
  · intro hle
    omega
  · intro hlt
    rwa [Int.bmod_eq_of_le (n := budget.MaximumCreates.toInt + budget.MaximumModifications.toInt) (by omega) (by omega),
      Int.bmod_eq_of_le (by omega) (by omega)] at hsum

/-- Under an accepted budget the limits and every accepted graph keep to the bound
    exactly when the sum of the limits does not wrap; the affected identities
    always do. -/
theorem effect_budget_bounds (h : budget.Validate = .ok ()) :
    ((budget.limitSum ≤ budget.MaximumOperationCount.toInt
        ∧ ∀ trusted host graph kinds, Validate budget trusted host graph kinds = .ok () →
          ((createdOutputs graph.Nodes).length + (nodesOfClass "modify" graph.Nodes).length
            + (nodesOfClass "delete" graph.Nodes).length : Int) ≤ budget.MaximumOperationCount.toInt
          ∧ (affectedIdentities graph.Nodes).length ≤ budget.MaximumAffectedElements.toInt)
      ↔ budget.limitSum < 2 ^ 31)
    ∧ ∀ trusted host graph kinds, Validate budget trusted host graph kinds = .ok () →
      (affectedIdentities graph.Nodes).length ≤ budget.MaximumAffectedElements.toInt := by
  refine ⟨⟨fun hbounds => (limitSum_le_iff h).1 hbounds.1, fun hsum => ?_⟩,
    fun trusted host graph kinds hgraph => (validate_spends hgraph).affected⟩
  have hfits := (limitSum_le_iff h).2 hsum
  refine ⟨hfits, fun trusted host graph kinds hgraph => ?_⟩
  have hspends := validate_spends hgraph
  have hcreates := hspends.creates
  have hmodifications := hspends.modifications
  have hdeletes := hspends.deletes
  rw [DynamicEffectBudgetV1.limitSum] at hfits
  exact ⟨by omega, hspends.affected⟩

end effects

section samples

def zeroHash : String := "sha256:0000000000000000000000000000000000000000000000000000000000000000"

/-- A budget with the default bounds and the given limits. -/
def sampleBudget (creates modifications deletes : Int32) : DynamicEffectBudgetV1 where
  Schema := EffectBudgetV1
  BudgetId := "budget"
  TargetDocumentFingerprints := [zeroHash]
  AllowedCategories := ["walls"]
  ExplicitTargetUniqueIds := []
  AllowedSdkDomains := ["elements", "sheets"]
  AllowedExternalEffectClasses := []
  ViewScopeHash := zeroHash
  LevelScopeHash := zeroHash
  WorksetScopeHash := zeroHash
  PhaseScopeHash := zeroHash
  MaximumOperationCount := 256
  MaximumAffectedElements := 512
  MaximumCreates := creates
  MaximumModifications := modifications
  MaximumDeletes := deletes
  MaximumExecutionMilliseconds := 30000
  MaximumRegenerations := 8
  MaximumOutputCount := 16
  MaximumOutputBytes := 256 * 1024 * 1024
  FileCapabilitySetHash := zeroHash

theorem hash_zeroHash : Hash zeroHash := by
  decide +kernel

/-- Every text has the same digest. -/
def constantSdk : SdkHost := ⟨fun _ => zeroHash, zeroHash⟩

theorem sampleBudget_valid {creates modifications deletes : Int32} (hcreates : 0 ≤ creates)
    (hmodifications : 0 ≤ modifications) (hdeletes : 0 ≤ deletes) (hsum : creates + modifications + deletes ≤ 256) :
    (sampleBudget creates modifications deletes).Validate = .ok () := by
  simp only [sampleBudget, DynamicEffectBudgetV1.Validate, check_bind_eq_ok, require_eq_ok, RequireHashes,
    RequireDistinct]
  exact ⟨⟨trivial, by decide +kernel, by decide, by decide, by decide, by decide, by decide, by decide, by decide,
    by decide, hcreates, hmodifications, hdeletes, hsum, by decide, by decide, by decide, by decide, by decide,
    by decide, by decide, by decide⟩, by simp [hash_zeroHash], require_of (by decide +kernel),
    require_of (by decide +kernel), require_of (by decide +kernel), require_of (by decide +kernel)⟩

theorem default_budget_bounds : (sampleBudget 32 224 0).limitSum ≤ (sampleBudget 32 224 0).MaximumOperationCount.toInt :=
  ((effect_budget_bounds (sampleBudget_valid (by decide) (by decide) (by decide) (by decide))).1.2 (by decide)).1

/-- Limits whose sum wraps to 0 are accepted. -/
theorem wrapped_budget_accepted : ¬ ∀ budget : DynamicEffectBudgetV1, budget.Validate = .ok () →
    budget.limitSum ≤ budget.MaximumOperationCount.toInt := by
  intro h
  have hvalid : (sampleBudget 2147483647 2147483647 2).Validate = .ok () :=
    sampleBudget_valid (by decide) (by decide) (by decide) (by decide)
  exact absurd (h _ hvalid) (by decide)

end samples

end revit_operator.dynamic_revit_sdk
