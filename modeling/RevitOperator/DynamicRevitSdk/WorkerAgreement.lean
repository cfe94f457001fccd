import RevitOperator.DynamicRevitSdk.EffectBudget
import RevitOperator.DynamicRevitSdk.GraphBuilder

open checked checked_run

/-! Which built graphs the worker's validation accepts, and that it accepts whatever
    the policy does. -/

namespace revit_operator.dynamic_revit_sdk

open DynamicCanonical DynamicResultReferenceContractV1 DynamicResultReferenceGraphBuilderV1

/-- A known primitive with exactly its attributes, with outputs if it creates, and
    with targets in the document. -/
def Describes (document : String) (operation : GraphOperation) : Prop :=
  ∃ descriptor, ResultReferencePrimitive operation.kind = some descriptor
    ∧ descriptor.ExactAttributes operation.attributes
    ∧ (descriptor.EffectClass = "create" ↔ operation.outputs ≠ [])
    ∧ ∀ external ∈ operation.externalTargets, external.DocumentFingerprint = document

/-- Two operations that create nothing and differ in the order of their lists at
    most. -/
structure Alike (first second : GraphOperation) : Prop where
  kind : first.kind = second.kind
  externalTargets : first.externalTargets.Perm second.externalTargets
  resultReferences : first.resultReferences.Perm second.resultReferences
  attributes : first.attributes.pairs.Perm second.attributes.pairs
  outputs : first.outputs = [] ∧ second.outputs = []

/-- No two of the texts have one digest. -/
def CollisionFree (host : SdkHost) (texts : List String) : Prop :=
  ∀ first ∈ texts, ∀ second ∈ texts, host.Sha256 first = host.Sha256 second → first = second

/-- What the identities of the declared results hash. -/
def resultTexts (inputHash document : String) (operations : List GraphOperation) : List String :=
  (operations.mapIdx fun index operation => operation.outputs.map fun spec =>
    resultPreimage inputHash document index spec.OutputSlot operation.kind).flatten

variable {host : SdkHost} {inputHash document : String} {builder next : DynamicResultReferenceGraphBuilderV1}
  {operation : GraphOperation} {operations : List GraphOperation}

section declaring

variable {nodeId : String} {outputs declared : DeclaredOutputs} {entries : List DynamicResultOutputDeclarationV1}

theorem declareOutputs_lookup (h : entries.foldlM (declareOutput nodeId) outputs = .ok declared) {key : String}
    {prior : String × DynamicResultOutputDeclarationV1} (hprior : outputs.lookup key = some prior) :
    declared.lookup key = some prior := by
  refine feed_relation (R := fun outputs _ declared => outputs.lookup key = some prior →
    declared.lookup key = some prior) (fun _ => id) ?_ h hprior
  intro outputs output mid rest declared hstep hrest hlookup
  simp only [declareOutput, check_bind_eq_ok, require_eq_ok, pure_eq_ok] at hstep
  obtain ⟨hnew, rfl⟩ := hstep
  refine hrest ?_
  rw [List.lookup_cons]
  have hne : (key == Key output.ResultId output.OutputSlot) = false := by
    refine beq_eq_false_iff_ne.2 fun hkey => ?_
    rw [← hkey, hlookup] at hnew
    cases hnew
  rw [hne, hlookup]

theorem declareOutputs_node (h : entries.foldlM (declareOutput nodeId) outputs = .ok declared) :
    ∀ entry ∈ declared, entry ∈ outputs ∨ entry.2.1 = nodeId := by
  refine feed_relation (R := fun outputs _ declared => ∀ entry ∈ declared, entry ∈ outputs ∨ entry.2.1 = nodeId)
    (fun _ entry hentry => .inl hentry) ?_ h
  intro outputs output mid rest declared hstep hrest entry hentry
  simp only [declareOutput, check_bind_eq_ok, require_eq_ok, pure_eq_ok] at hstep
  obtain ⟨_, rfl⟩ := hstep
  rcases hrest entry hentry with hmid | hown
  · rcases List.mem_cons.1 hmid with rfl | hearlier
    · exact .inr rfl
    · exact .inl hearlier
  · exact .inr hown

theorem workerOutputs_of_declareOutputs (scan : WorkerScan)
    (h : entries.foldlM (declareOutput nodeId) scan.outputs = .ok declared)
    (hdocument : ∀ output ∈ entries, output.ExpectedDocumentFingerprint = document)
    (hnew : ∀ output ∈ entries, output.ResultId ∉ scan.resultIds)
    (hdistinct : (entries.map fun output => output.ResultId).Nodup) :
    ∃ next, entries.foldlM (workerOutput document nodeId) scan = .ok next ∧ next.seenNodes = scan.seenNodes
      ∧ next.outputs = declared
      ∧ ∀ id ∈ next.resultIds, id ∈ scan.resultIds ∨ id ∈ entries.map fun output => output.ResultId := by
  induction entries generalizing scan with
  | nil =>
    obtain rfl := Except.ok.inj h
    exact ⟨scan, rfl, rfl, rfl, fun id hid => .inl hid⟩
  | cons output rest ih =>
    rw [List.foldlM_cons, bind_eq_ok] at h
    obtain ⟨mid, hstep, hrest⟩ := h
    simp only [declareOutput, check_bind_eq_ok, require_eq_ok, pure_eq_ok] at hstep
    obtain ⟨hfree, rfl⟩ := hstep
    obtain ⟨hfirst, hdistinct⟩ := List.nodup_cons.1 hdistinct
    have hnewRest : ∀ other ∈ rest, other.ResultId ∉ (scan.declare nodeId output).resultIds := by
      intro other hother hseen
      rcases List.mem_cons.1 hseen with hsame | hearlier
      · have hmem : other.ResultId ∈ rest.map fun output => output.ResultId := List.mem_map_of_mem hother
        rw [hsame] at hmem
        exact hfirst hmem
      · exact hnew other (List.mem_cons_of_mem _ hother) hearlier
    obtain ⟨next, hnext, hseen, houtputs, hids⟩ := ih (scan.declare nodeId output) hrest
      (fun other hother => hdocument other (List.mem_cons_of_mem _ hother)) hnewRest hdistinct
    refine ⟨next, ?_, hseen, houtputs, fun id hid => ?_⟩
    · rw [List.foldlM_cons, workerOutput, require_of ⟨hdocument output List.mem_cons_self,
        hnew output List.mem_cons_self, hfree⟩]
      exact hnext
    · rcases hids id hid with hmid | hlater
      · rcases List.mem_cons.1 hmid with rfl | hearlier
        · exact .inr List.mem_cons_self
        · exact .inl hearlier
      · exact .inr (List.mem_cons_of_mem _ hlater)

end declaring

section built

/-- The nodes whose outputs an operation refers to. -/
def dependenciesIn (outputs : DeclaredOutputs) (operation : GraphOperation) : List String :=
  operation.resultReferences.map fun reference =>
    ((outputs.lookup (Key reference.ResultId reference.OutputSlot)).map Prod.fst).getD ""

/-- The node an operation becomes at a place. -/
def builtNode (host : SdkHost) (inputHash document : String) (outputs : DeclaredOutputs) (index : Nat)
    (operation : GraphOperation) : DynamicResultReferenceNodeV1 :=
  nodeOf host inputHash document index (dependenciesIn outputs operation) operation

/-- Every reference names a declared output that it matches. -/
def Resolves (outputs : DeclaredOutputs) (operation : GraphOperation) : Prop :=
  ∀ reference ∈ operation.resultReferences, ∃ nodeId output,
    outputs.lookup (Key reference.ResultId reference.OutputSlot) = some (nodeId, output)
      ∧ ReferenceMatches reference output

theorem resolve_eq_ok {outputs : DeclaredOutputs} {reference : DynamicSymbolicResultReferenceV1} {nodeId : String} :
    resolve outputs reference = .ok nodeId ↔ ∃ output,
      outputs.lookup (Key reference.ResultId reference.OutputSlot) = some (nodeId, output)
        ∧ ReferenceMatches reference output := by
  unfold resolve
  split
  · rename_i hnone
    simp [hnone]
  · rename_i prior hprior
    simp only [check_bind_eq_ok, require_eq_ok, pure_eq_ok, hprior, Option.some.injEq, referenceMatches_iff]
    constructor
    · rintro ⟨hmatches, rfl⟩
      exact ⟨prior.2, rfl, hmatches⟩
    · rintro ⟨output, rfl, hmatches⟩
      exact ⟨hmatches, rfl⟩

theorem resolved_of_mapM {outputs : DeclaredOutputs} {dependencies : List String}
    (h : operation.resultReferences.mapM (resolve outputs) = .ok dependencies) :
    Resolves outputs operation ∧ dependencies = dependenciesIn outputs operation := by
  have hall := mapM_eq_ok.1 h
  clear h
  rw [Resolves, dependenciesIn]
  generalize operation.resultReferences = references at hall
  induction hall with
  | nil => exact ⟨by simp, rfl⟩
  | cons hstep _ ih =>
    obtain ⟨output, hlookup, hmatches⟩ := resolve_eq_ok.1 hstep
    refine ⟨List.forall_mem_cons.2 ⟨⟨_, output, hlookup, hmatches⟩, ih.1⟩, ?_⟩
    rw [List.map_cons, hlookup, ← ih.2]
    rfl

theorem added_ok (h : added host builder operation = .ok next) :
    Resolves builder.outputs operation
      ∧ ∃ node declared, node = builtNode host builder.inputHash builder.document builder.outputs builder.nodes.length
          operation
        ∧ ValidateNodeShape node = .ok ()
        ∧ node.Outputs.foldlM (declareOutput node.NodeId) builder.outputs = .ok declared
        ∧ builder.nodes.length < MaximumNodes
        ∧ next = { builder with nodes := builder.nodes ++ [node], outputs := declared } := by
  obtain ⟨⟨result, handle⟩, hadd, rfl⟩ := map_eq_ok.1 h
  simp only [AddOperation, bind_eq_ok, require_eq_ok, pure_eq_ok] at hadd
  obtain ⟨_, hbound, _, _, dependencies, hdependencies, _, hshape, declared, hdeclared, hnext⟩ := hadd
  obtain ⟨hresolves, rfl⟩ := resolved_of_mapM hdependencies
  refine ⟨hresolves, _, declared, rfl, hshape, hdeclared, hbound, ?_⟩
  exact (Prod.mk.inj hnext).1.symm

/-- What a builder holds after some operations. -/
structure Built (host : SdkHost) (inputHash document : String) (operations : List GraphOperation)
    (builder : DynamicResultReferenceGraphBuilderV1) : Prop where
  input : builder.inputHash = inputHash
  native : builder.document = document
  nodes : builder.nodes = operations.mapIdx (builtNode host inputHash document builder.outputs)
  resolves : ∀ operation ∈ operations, Resolves builder.outputs operation

theorem builtNode_congr {outputs declared : DeclaredOutputs} (hresolves : Resolves outputs operation)
    (hkept : ∀ key prior, outputs.lookup key = some prior → declared.lookup key = some prior) (index : Nat) :
    builtNode host inputHash document declared index operation
      = builtNode host inputHash document outputs index operation := by
  have hsame : dependenciesIn declared operation = dependenciesIn outputs operation := by
    refine List.map_congr_left fun reference hreference => ?_
    obtain ⟨nodeId, output, hlookup, _⟩ := hresolves reference hreference
    rw [hkept _ _ hlookup, hlookup]
  rw [builtNode, builtNode, hsame]

theorem Built.added (h : Built host inputHash document operations builder)
    (hadded : added host builder operation = .ok next) :
    Built host inputHash document (operations ++ [operation]) next := by
  obtain ⟨hresolves, node, declared, hnode, _, hdeclared, _, rfl⟩ := added_ok hadded
  have hkept : ∀ key prior, builder.outputs.lookup key = some prior → declared.lookup key = some prior :=
    fun key prior => declareOutputs_lookup hdeclared
  have hlength : builder.nodes.length = operations.length := by rw [h.nodes, List.length_mapIdx]
  have hearlier : operations.mapIdx (builtNode host inputHash document declared) = builder.nodes := by
    rw [h.nodes]
    refine List.mapIdx_eq_mapIdx_iff.2 fun index hindex => ?_
    exact builtNode_congr (h.resolves _ (List.getElem_mem hindex)) hkept index
  refine ⟨h.input, h.native, ?_, ?_⟩
  · show builder.nodes ++ [node] = (operations ++ [operation]).mapIdx (builtNode host inputHash document declared)
    rw [List.mapIdx_concat, hearlier, builtNode_congr hresolves hkept, hnode, h.input, h.native, hlength]
  · intro other hother reference hreference
    have hearlier : Resolves builder.outputs other := by
      rcases List.mem_append.1 hother with hmem | hlast
      · exact h.resolves other hmem
      · exact List.mem_singleton.1 hlast ▸ hresolves
    obtain ⟨nodeId, output, hlookup, hmatches⟩ := hearlier reference hreference
    exact ⟨nodeId, output, hkept _ _ hlookup, hmatches⟩

theorem built_of_run {start : DynamicResultReferenceGraphBuilderV1} (hstart : Built host inputHash document [] start)
    (hrun : feed (DynamicResultReferenceGraphBuilderV1.added host) start operations = .ok builder) :
    Built host inputHash document operations builder := by
  induction operations using List.reverseRecOn generalizing builder with
  | nil => exact Except.ok.inj hrun ▸ hstart
  | append_singleton operations operation ih =>
    obtain ⟨mid, hmid, hlast⟩ := feed_snoc_eq_ok.1 hrun
    exact (ih hmid).added hlast

end built

section worker

theorem resultId_of_mem_declarations {index : Nat} {output : DynamicResultOutputDeclarationV1}
    (h : output ∈ declarations host inputHash document index operation) :
    output.ExpectedDocumentFingerprint = document ∧ ∃ slot,
      output.ResultId = host.Sha256 (resultPreimage inputHash document index slot operation.kind)
        ∧ resultPreimage inputHash document index slot operation.kind ∈ operation.outputs.map fun spec =>
          resultPreimage inputHash document index spec.OutputSlot operation.kind := by
  obtain ⟨spec, hspec, rfl⟩ := List.mem_map.1 h
  exact ⟨rfl, spec.OutputSlot, rfl, List.mem_map.2 ⟨spec, hspec, rfl⟩⟩

theorem resultPreimage_index {index other : Nat} {slot slot' kind kind' : String}
    (h : resultPreimage inputHash document index slot kind = resultPreimage inputHash document other slot' kind') :
    index = other := by
  have hfields := joinAll_injective h
  simp only [List.cons.injEq] at hfields
  have hindex := toString_int_injective hfields.2.2.2.1
  exact_mod_cast hindex

theorem resultTexts_concat (operations : List GraphOperation) (operation : GraphOperation) :
    resultTexts inputHash document (operations ++ [operation]) = resultTexts inputHash document operations
      ++ operation.outputs.map fun spec =>
        resultPreimage inputHash document operations.length spec.OutputSlot operation.kind := by
  rw [resultTexts, resultTexts, List.mapIdx_concat, List.flatten_append]
  simp

/-- The worker's sets after the nodes of a builder. -/
structure Accepted (host : SdkHost) (inputHash document : String) (operations : List GraphOperation)
    (builder : DynamicResultReferenceGraphBuilderV1) (scan : WorkerScan) : Prop where
  accepted : builder.nodes.foldlM (workerNode host document) ⟨[], [], []⟩ = .ok scan
  seen : ∀ id, id ∈ scan.seenNodes ↔ id ∈ builder.nodes.map fun node => node.NodeId
  outputs : scan.outputs = builder.outputs
  resultIds : ∀ id ∈ scan.resultIds, ∃ index slot kind, index < operations.length
    ∧ resultPreimage inputHash document index slot kind ∈ resultTexts inputHash document operations
    ∧ id = host.Sha256 (resultPreimage inputHash document index slot kind)
  declared : ∀ entry ∈ builder.outputs, entry.2.1 ∈ builder.nodes.map fun node => node.NodeId

theorem outputs_nodup {node : DynamicResultReferenceNodeV1} (h : ValidateNodeShape node = .ok ()) :
    (node.Outputs.map fun output => output.ResultId).Nodup := by
  obtain ⟨_, _, _, _, _, _, _, houtputs, _⟩ := nodeShape_eq_ok.1 h
  exact houtputs

theorem mem_dependsOn {outputs : DeclaredOutputs} {index : Nat} {id : String} (hresolves : Resolves outputs operation) :
    id ∈ (builtNode host inputHash document outputs index operation).DependsOn ↔
      ∃ reference ∈ operation.resultReferences, ∃ output,
        outputs.lookup (Key reference.ResultId reference.OutputSlot) = some (id, output) := by
  show id ∈ text.sorted (dependenciesIn outputs operation).dedup ↔ _
  rw [text.mem_sorted, List.mem_dedup, dependenciesIn, List.mem_map]
  constructor
  · rintro ⟨reference, hreference, rfl⟩
    obtain ⟨nodeId, output, hlookup, _⟩ := hresolves reference hreference
    exact ⟨reference, hreference, output, by rw [hlookup]; rfl⟩
  · rintro ⟨reference, hreference, output, hlookup⟩
    exact ⟨reference, hreference, by rw [hlookup]; rfl⟩

theorem mem_of_lookup {outputs : DeclaredOutputs} {key : String} {prior : String × DynamicResultOutputDeclarationV1}
    (h : outputs.lookup key = some prior) : (key, prior) ∈ outputs := by
  obtain ⟨before, after, rfl, _⟩ := List.lookup_eq_some_iff.1 h
  exact List.mem_append_right _ List.mem_cons_self

theorem Accepted.accepts {scan : WorkerScan} (h : Accepted host inputHash document operations builder scan)
    {index : Nat} {node : DynamicResultReferenceNodeV1}
    (hnode : node = builtNode host inputHash document builder.outputs index operation)
    (hresolves : Resolves builder.outputs operation) (hshape : ValidateNodeShape node = .ok ())
    (hdescribes : Describes document operation)
    (hnew : node.NodeId ∉ builder.nodes.map fun node => node.NodeId) :
    ∃ descriptor, WorkerAccepts host document scan node descriptor := by
  obtain ⟨descriptor, hdescriptor, hattributes, hcreates, hnative⟩ := hdescribes
  have hdepends := fun id => @mem_dependsOn host inputHash document operation builder.outputs index id hresolves
  rw [← hnode] at hdepends
  refine ⟨descriptor, hshape, ?_, ?_, ?_, ?_, ?_, ?_, ?_, ?_⟩
  · rw [hnode]
    rfl
  · rwa [h.seen]
  · intro id hid
    obtain ⟨_, _, output, hlookup⟩ := (hdepends id).1 hid
    exact List.mem_cons_of_mem _ ((h.seen id).2 (h.declared _ (mem_of_lookup hlookup)))
  · rw [hnode]
    exact hdescriptor
  · rw [hnode]
    exact hattributes
  · rw [hcreates, hnode]
    show operation.outputs ≠ [] ↔ 0 < (declarations host inputHash document index operation).length
    rw [declarations, List.length_map, List.length_pos_iff]
  · rw [hnode]
    exact hnative
  · intro reference hreference
    have hmem : reference ∈ operation.resultReferences := by rwa [hnode] at hreference
    obtain ⟨nodeId, output, hlookup, hmatches⟩ := hresolves reference hmem
    rw [workerReference, h.outputs, hlookup]
    exact require_of ⟨hmatches, (hdepends nodeId).2 ⟨reference, hmem, output, hlookup⟩⟩

theorem Accepted.added {scan : WorkerScan} (h : Accepted host inputHash document operations builder scan)
    (hbuilt : Built host inputHash document operations builder) (hadded : added host builder operation = .ok next)
    (hdescribes : Describes document operation)
    (hfree : CollisionFree host (resultTexts inputHash document (operations ++ [operation])))
    (hdistinct : (next.nodes.map fun node => node.NodeId).Nodup) :
    ∃ scan', Accepted host inputHash document (operations ++ [operation]) next scan' := by
  obtain ⟨hresolves, node, declared, hnode, hshape, hdeclared, _, rfl⟩ := added_ok hadded
  have hlength : builder.nodes.length = operations.length := by rw [hbuilt.nodes, List.length_mapIdx]
  rw [hbuilt.input, hbuilt.native, hlength] at hnode
  have houtputs : node.Outputs = declarations host inputHash document operations.length operation := by
    rw [hnode]
    rfl
  have hnew : node.NodeId ∉ builder.nodes.map fun node => node.NodeId := by
    rw [List.map_append, List.nodup_append] at hdistinct
    exact fun hold => hdistinct.2.2 _ hold node.NodeId List.mem_cons_self rfl
  have haccepts := h.accepts hnode hresolves hshape hdescribes hnew
  have hresults : ∀ output ∈ node.Outputs, output.ExpectedDocumentFingerprint = document ∧ ∃ slot,
      resultPreimage inputHash document operations.length slot operation.kind
          ∈ resultTexts inputHash document (operations ++ [operation])
        ∧ output.ResultId = host.Sha256 (resultPreimage inputHash document operations.length slot operation.kind) := by
    intro output houtput
    obtain ⟨hforeign, slot, hid, hmem⟩ := resultId_of_mem_declarations (houtputs ▸ houtput)
    exact ⟨hforeign, slot, resultTexts_concat operations operation ▸ List.mem_append_right _ hmem, hid⟩
  have hearlier : ∀ text ∈ resultTexts inputHash document operations,
      text ∈ resultTexts inputHash document (operations ++ [operation]) := fun text htext =>
    resultTexts_concat operations operation ▸ List.mem_append_left _ htext
  obtain ⟨scan', hscan', hseen, hdeclaredNext, hids⟩ := workerOutputs_of_declareOutputs
    (scan.see node) (h.outputs ▸ hdeclared) (fun output houtput => (hresults output houtput).1) (fun output houtput hold => by
      obtain ⟨_, slot, htext, hid⟩ := hresults output houtput
      obtain ⟨index, slot', kind, hindex, hold, hsame⟩ := h.resultIds _ hold
      have hplace := resultPreimage_index (hfree _ htext _ (hearlier _ hold) (hid.symm.trans hsame))
      omega) (outputs_nodup hshape)
  refine ⟨scan', ?_, ?_, hdeclaredNext, ?_, ?_⟩
  · show (builder.nodes ++ [node]).foldlM (workerNode host document) ⟨[], [], []⟩ = .ok scan'
    rw [List.foldlM_append, h.accepted, ok_bind, List.foldlM_cons, workerNode_eq_ok.2 ⟨haccepts, hscan'⟩]
    rfl
  · intro id
    rw [hseen, List.map_append, List.mem_append, ← h.seen]
    simp [WorkerScan.see, or_comm]
  · intro id hid
    rw [List.length_append, List.length_singleton]
    rcases hids id hid with hold | hown
    · obtain ⟨index, slot, kind, hindex, htext, rfl⟩ := h.resultIds id hold
      exact ⟨index, slot, kind, by omega, hearlier _ htext, rfl⟩
    · obtain ⟨output, houtput, rfl⟩ := List.mem_map.1 hown
      obtain ⟨_, slot, htext, hid⟩ := hresults output houtput
      exact ⟨operations.length, slot, operation.kind, by omega, htext, hid⟩
  · intro entry hentry
    rw [List.map_append]
    rcases declareOutputs_node hdeclared entry hentry with hold | hown
    · exact List.mem_append_left _ (h.declared entry hold)
    · exact List.mem_append_right _ (by simp [hown])

theorem worker_of_run {start : DynamicResultReferenceGraphBuilderV1}
    (hbuilt : Built host inputHash document [] start) (hnone : start.outputs = [])
    (hrun : feed (DynamicResultReferenceGraphBuilderV1.added host) start operations = .ok builder)
    (hdescribes : ∀ operation ∈ operations, Describes document operation)
    (hfree : CollisionFree host (resultTexts inputHash document operations))
    (hdistinct : (builder.nodes.map fun node => node.NodeId).Nodup) :
    ∃ scan, Accepted host inputHash document operations builder scan := by
  induction operations using List.reverseRecOn generalizing builder with
  | nil =>
    obtain rfl := Except.ok.inj hrun
    have hempty : start.nodes = [] := hbuilt.nodes
    exact ⟨⟨[], [], []⟩, by rw [hempty]; rfl, by simp [hempty], hnone.symm, by simp, by simp [hnone]⟩
  | append_singleton operations operation ih =>
    obtain ⟨mid, hmid, hlast⟩ := feed_snoc_eq_ok.1 hrun
    obtain ⟨_, node, declared, _, _, _, _, hnext⟩ := added_ok hlast
    have hdistinctMid : (mid.nodes.map fun node => node.NodeId).Nodup := by
      rw [hnext] at hdistinct
      simp only [List.map_append, List.nodup_append] at hdistinct
      exact hdistinct.1
    have hfreeMid : CollisionFree host (resultTexts inputHash document operations) := fun first hfirst second hsecond =>
      hfree first (resultTexts_concat operations operation ▸ List.mem_append_left _ hfirst) second
        (resultTexts_concat operations operation ▸ List.mem_append_left _ hsecond)
    obtain ⟨scan, hscan⟩ := ih hmid (fun other hother => hdescribes other (List.mem_append_left _ hother)) hfreeMid
      hdistinctMid
    exact hscan.added (built_of_run hbuilt hmid) hlast
      (hdescribes operation (List.mem_append_right _ List.mem_cons_self)) hfree hdistinct

theorem workerOutputs_seen {nodeId : String} {entries : List DynamicResultOutputDeclarationV1} {scan scan' : WorkerScan}
    (h : entries.foldlM (workerOutput document nodeId) scan = .ok scan') : scan'.seenNodes = scan.seenNodes := by
  refine feed_relation (R := fun scan _ scan' => scan'.seenNodes = scan.seenNodes) (fun _ => rfl) ?_ h
  intro scan output mid rest scan' hstep hrest
  simp only [workerOutput, check_bind_eq_ok, pure_eq_ok] at hstep
  obtain ⟨_, rfl⟩ := hstep
  exact hrest

theorem worker_nodup {nodes : List DynamicResultReferenceNodeV1} {scan scan' : WorkerScan}
    (h : nodes.foldlM (workerNode host document) scan = .ok scan') :
    (nodes.map fun node => node.NodeId).Nodup ∧ ∀ node ∈ nodes, node.NodeId ∉ scan.seenNodes := by
  refine feed_relation (R := fun scan nodes _ => (nodes.map fun node => node.NodeId).Nodup
    ∧ ∀ node ∈ nodes, node.NodeId ∉ scan.seenNodes) (fun _ => ⟨List.nodup_nil, by simp⟩) ?_ h
  rintro scan node mid nodes scan' hstep ⟨hdistinct, hfresh⟩
  obtain ⟨⟨descriptor, haccepts⟩, houtputs⟩ := workerNode_eq_ok.1 hstep
  have hseen : mid.seenNodes = node.NodeId :: scan.seenNodes := workerOutputs_seen houtputs
  refine ⟨List.nodup_cons.2 ⟨fun hlater => ?_, hdistinct⟩, List.forall_mem_cons.2 ⟨haccepts.fresh, fun other hother => ?_⟩⟩
  · obtain ⟨other, hother, hsame⟩ := List.mem_map.1 hlater
    exact hfresh other hother (by rw [hsame, hseen]; exact List.mem_cons_self)
  · exact fun hold => hfresh other hother (by rw [hseen]; exact List.mem_cons_of_mem _ hold)

end worker

section repeated

variable {outputs : DeclaredOutputs} {first second : GraphOperation} {index other : Nat}

/-- Operations at two places become the same node up to order exactly when they are
    alike: declared results carry their place. -/
theorem builtNode_same_iff
    (hfree : ∀ slot ∈ first.outputs, ∀ slot' ∈ second.outputs,
      host.Sha256 (resultPreimage inputHash document index slot.OutputSlot first.kind)
        ≠ host.Sha256 (resultPreimage inputHash document other slot'.OutputSlot second.kind)) :
    SameUpToOrder (builtNode host inputHash document outputs index first)
      (builtNode host inputHash document outputs other second) ↔ Alike first second := by
  constructor
  · intro h
    have houtputs : (declarations host inputHash document index first).Perm
        (declarations host inputHash document other second) := h.outputs
    have hnone : first.outputs = [] := by
      cases hspecs : first.outputs with
      | nil => rfl
      | cons spec specs =>
        exfalso
        have hspec : spec ∈ first.outputs := by rw [hspecs]; exact List.mem_cons_self
        obtain ⟨spec', hspec', hsame⟩ := List.mem_map.1 (houtputs.mem_iff.1 (List.mem_map_of_mem hspec))
        exact hfree spec hspec spec' hspec' (congrArg (fun output => output.ResultId) hsame).symm
    have hnone' : second.outputs = [] := by
      have hlength := houtputs.length_eq
      rw [declarations, declarations, List.length_map, List.length_map, hnone] at hlength
      exact List.length_eq_zero_iff.1 hlength.symm
    exact ⟨h.kind, h.externalTargets, h.resultReferences, h.attributes, hnone, hnone'⟩
  · intro h
    refine ⟨h.kind, ?_, h.externalTargets, h.resultReferences, ?_, h.attributes⟩
    · have hdependencies : (dependenciesIn outputs first).Perm (dependenciesIn outputs second) :=
        h.resultReferences.map _
      have hsorted := text.sorted_eq_of_perm (hdependencies.dedup)
      exact List.Perm.of_eq hsorted
    · show (declarations host inputHash document index first).Perm (declarations host inputHash document other second)
      rw [declarations, declarations, h.outputs.1, h.outputs.2]
      exact List.Perm.refl _

theorem mem_resultTexts {index : Nat} (hindex : index < operations.length) {spec : DynamicResultOutputSpecV1}
    (hspec : spec ∈ operations[index].outputs) :
    resultPreimage inputHash document index spec.OutputSlot operations[index].kind
      ∈ resultTexts inputHash document operations := by
  refine List.mem_flatten.2 ⟨_, List.mem_mapIdx.2 ⟨index, hindex, rfl⟩, ?_⟩
  exact List.mem_map.2 ⟨spec, hspec, rfl⟩

/-- The nodes of a builder have distinct identities exactly when no two operations
    are alike. -/
theorem Built.nodup_iff (h : Built host inputHash document operations builder)
    (hfree : CollisionFree host (builder.nodes.map NodePreimage ++ resultTexts inputHash document operations)) :
    (builder.nodes.map fun node => node.NodeId).Nodup ↔ operations.Pairwise fun first second => ¬ Alike first second := by
  have hpreimage : ∀ index (hindex : index < operations.length),
      NodePreimage (builtNode host inputHash document builder.outputs index operations[index])
        ∈ builder.nodes.map NodePreimage ++ resultTexts inputHash document operations := by
    intro index hindex
    refine List.mem_append_left _ (List.mem_map_of_mem ?_)
    rw [h.nodes]
    exact List.mem_mapIdx.2 ⟨index, hindex, rfl⟩
  rw [List.Nodup, h.nodes, List.pairwise_iff_getElem, List.pairwise_iff_getElem]
  simp only [List.length_map, List.length_mapIdx, List.getElem_map, List.getElem_mapIdx]
  refine forall_congr' fun index => forall_congr' fun other => forall_congr' fun hindex => forall_congr' fun hother =>
    forall_congr' fun hlt => not_congr ?_
  have hsame := @builtNode_same_iff host inputHash document builder.outputs operations[index] operations[other] index
    other (fun spec hspec spec' hspec' hdigest => by
      have htext := hfree _ (List.mem_append_right _ (mem_resultTexts hindex hspec)) _
        (List.mem_append_right _ (mem_resultTexts hother hspec')) hdigest
      exact Nat.ne_of_lt hlt (resultPreimage_index htext))
  rw [← hsame, ← nodePreimage_eq_iff]
  exact ⟨fun hid => hfree _ (hpreimage index hindex) _ (hpreimage other hother) hid, fun htext => congrArg host.Sha256 htext⟩

end repeated

section agreement

variable {start : DynamicResultReferenceGraphBuilderV1} {graph : DynamicResultReferenceGraphV1} {session : String}
  {revision : Int}

theorem create_eq_ok (h : create inputHash document session revision = .ok start) :
    Hash inputHash ∧ Hash document ∧ 0 ≤ revision ∧ start = ⟨inputHash, document, session, revision, [], []⟩ := by
  simp only [create, bind_eq_ok, require_eq_ok, pure_eq_ok] at h
  obtain ⟨_, hinput, _, hdocument, _, _, _, hrevision, rfl⟩ := h
  exact ⟨hinput, hdocument, hrevision, rfl⟩

theorem envelope_of_run (hstart : start.nodes = [])
    (hrun : feed (DynamicResultReferenceGraphBuilderV1.added host) start operations = .ok builder) :
    builder.session = start.session ∧ builder.revision = start.revision ∧ builder.nodes.length ≤ MaximumNodes := by
  refine feed_invariant (I := fun builder : DynamicResultReferenceGraphBuilderV1 => builder.session = start.session
    ∧ builder.revision = start.revision ∧ builder.nodes.length ≤ MaximumNodes) ?_ ⟨rfl, rfl, by simp [hstart]⟩ hrun
  rintro builder operation next ⟨hsession, hrevision, _⟩ hadded
  obtain ⟨_, node, declared, _, _, _, hbound, rfl⟩ := added_ok hadded
  refine ⟨hsession, hrevision, ?_⟩
  rw [List.length_append, List.length_singleton]
  exact hbound

theorem build_eq_ok (h : builder.Build host = .ok graph) : builder.nodes ≠ [] ∧ graph.Schema = GraphSchema
    ∧ graph.ContractManifestHash = host.ManifestHash ∧ graph.InputHash = builder.inputHash
    ∧ graph.DocumentFingerprint = builder.document ∧ graph.DocumentSessionId = builder.session
    ∧ graph.DocumentRevision = builder.revision ∧ graph.Nodes = builder.nodes
    ∧ graph.GraphHash = GraphHash host graph := by
  simp only [Build, check_bind_eq_ok, require_eq_ok, pure_eq_ok] at h
  obtain ⟨hnodes, rfl⟩ := h
  exact ⟨hnodes, rfl, rfl, rfl, rfl, rfl, rfl, rfl, rfl⟩

theorem exists_build (host : SdkHost) (h : builder.nodes ≠ []) : ∃ graph, builder.Build host = .ok graph := by
  rw [Build, require_of h]
  exact ⟨_, rfl⟩

theorem validateWorkerOutput_of_validate {budget : DynamicEffectBudgetV1} {kinds : List String}
    {trusted : String → Option DynamicTrustedElementFactV1} (h : Validate budget trusted host graph kinds = .ok ()) :
    ValidateWorkerOutput host graph graph.InputHash graph.DocumentFingerprint graph.DocumentSessionId
      graph.DocumentRevision = .ok () := by
  simp only [Validate, RequireHashes, bind_eq_ok, require_eq_ok] at h
  obtain ⟨_, ⟨hschema, hmanifest, hrevision, hsome, hbound, _⟩, _, hhashes, _, _, _, _, scan, hscan, _, _, hgraph⟩ := h
  simp only [ValidateWorkerOutput, RequireHashes, bind_eq_ok, require_eq_ok]
  exact ⟨(), ⟨hschema, hmanifest, trivial, trivial, trivial, trivial, hrevision, hsome, hbound⟩, (), hhashes, _,
    (policyNodes_tallies hscan).worker, hgraph⟩

end agreement

section samples

/-- A digest that counts characters. -/
def sampleDigest (text : String) : String :=
  .ofList ("sha256:".toList ++ List.replicate 63 '0' ++ [Nat.digitChar (text.length % 10)])

theorem hash_sampleDigest (message : String) : Hash (sampleDigest message) := by
  have hdigits : ∀ digit < 10,
      Hash (.ofList ("sha256:".toList ++ List.replicate 63 '0' ++ [Nat.digitChar digit])) := by
    -- over the characters themselves; the bytes of ten texts take the kernel seconds
    simp only [Hash, text.length, text.codeUnits, text.startsWith, String.toList_ofList]
    decide +kernel
  exact hdigits _ (Nat.mod_lt _ (by decide))

def sampleSdk : SdkHost := ⟨sampleDigest, zeroHash⟩

/-- Delete one wall. -/
def deletion : GraphOperation where
  kind := "delete_element"
  externalTargets := [⟨"wall-1", 1, zeroHash, "walls", "type-1", zeroHash⟩]
  resultReferences := []
  outputs := []
  attributes := ⟨[], List.nodup_nil⟩

def deletionNode : DynamicResultReferenceNodeV1 := nodeOf sampleSdk zeroHash zeroHash 0 [] deletion

def builderAfter (count : Nat) : DynamicResultReferenceGraphBuilderV1 :=
  ⟨zeroHash, zeroHash, "session", 0, List.replicate count deletionNode, []⟩

theorem deletion_described : Describes zeroHash deletion :=
  ⟨⟨"delete_element", "elements", "delete", []⟩, rfl, by simp [DynamicPrimitiveDescriptorV1.ExactAttributes, Dictionary.Keys, deletion],
    by simp [deletion], by simp [deletion]⟩

/-- What the samples name is an identifier. -/
theorem id_names {most : Nat} (hmost : 128 ≤ most) : ∀ name ∈ ["delete_element", "copy_element", "session", "wall-1",
    "wall-2", "wall-3", "walls", "type-1", "copy", "first", "second", "transform"], Id name most := by
  have hids : ∀ name ∈ ["delete_element", "copy_element", "session", "wall-1", "wall-2", "wall-3", "walls", "type-1",
      "copy", "first", "second", "transform"], Id name 128 := by decide +kernel
  intro name hname
  obtain ⟨hblank, hlength, hcharacters⟩ := hids name hname
  exact ⟨hblank, hlength.trans hmost, hcharacters⟩

theorem wall_shape : ValidateExternalShape ⟨"wall-1", 1, zeroHash, "walls", "type-1", zeroHash⟩ = .ok () := by
  have hids := @id_names 256 (by decide)
  exact require_of ⟨hids _ (by simp), by decide, hash_zeroHash, hids _ (by simp), hids _ (by simp), hash_zeroHash⟩

theorem walls_shape {resultId slot : String} (hresult : Hash resultId) (hslot : Id slot 128) :
    Hash resultId ∧ Id slot 128 ∧ Hash zeroHash ∧ Id "walls" 256 ∧ Id "type-1" 256 := by
  have hids := @id_names 256 (by decide)
  exact ⟨hresult, hslot, hash_zeroHash, hids _ (by simp), hids _ (by simp)⟩

theorem deletionNode_shape : ValidateNodeShape deletionNode = .ok () :=
  nodeShape_eq_ok.2 ⟨⟨id_names le_rfl "delete_element" (by simp), by decide, by decide, by decide, by decide, by decide,
    by simp [deletionNode, nodeOf, deletion]⟩, by simp [show deletionNode.DependsOn = [] from rfl],
    List.forall_mem_singleton.2 wall_shape, by simp [deletionNode, nodeOf, deletion],
    by simp [show deletionNode.Outputs = [] from rfl], by decide⟩

theorem nodeOf_deletion (index : Nat) : nodeOf sampleSdk zeroHash zeroHash index [] deletion = deletionNode := by
  have hnone : ∀ index, declarations sampleSdk zeroHash zeroHash index deletion = [] := fun _ => rfl
  rw [deletionNode, nodeOf, nodeOf, hnone, hnone]

theorem added_deletion {count : Nat} (h : count < MaximumNodes) :
    added sampleSdk (builderAfter count) deletion = .ok (builderAfter (count + 1)) := by
  have hbound : (builderAfter count).nodes.length < MaximumNodes := by simpa [builderAfter] using h
  have hkind : Id deletion.kind 128 := id_names le_rfl "delete_element" (by simp)
  rw [added, AddOperation, require_of hbound, ok_bind, require_of hkind, ok_bind,
    show deletion.resultReferences.mapM (resolve (builderAfter count).outputs) = .ok [] from rfl, ok_bind]
  simp only [builderAfter, nodeOf_deletion, deletionNode_shape, ok_bind]
  have houtputs : deletionNode.Outputs = [] := rfl
  rw [houtputs, List.foldlM_nil, List.replicate_succ']
  rfl

theorem created_builder : create zeroHash zeroHash "session" 0 = .ok (builderAfter 0) := by
  rw [create, require_of hash_zeroHash, ok_bind, ok_bind, require_of (id_names (by decide) "session" (by simp)), ok_bind,
    require_of (by decide)]
  rfl

/-- Copy one wall. -/
def duplication : GraphOperation where
  kind := "copy_element"
  externalTargets := [⟨"wall-1", 1, zeroHash, "walls", "type-1", zeroHash⟩]
  resultReferences := []
  outputs := [⟨"copy", "walls", "type-1"⟩]
  attributes := ⟨[("transform", "1,0,0")], List.nodup_singleton _⟩

/-- Delete the copy. -/
def removal : GraphOperation where
  kind := "delete_element"
  externalTargets := []
  resultReferences := [⟨zeroHash, "copy", zeroHash, "walls", "type-1"⟩]
  outputs := []
  attributes := ⟨[], List.nodup_nil⟩

def duplicationNode : DynamicResultReferenceNodeV1 where
  NodeId := "sha256:1111111111111111111111111111111111111111111111111111111111111111"
  Kind := "copy_element"
  DependsOn := []
  ExternalTargets := duplication.externalTargets
  ResultReferences := []
  Outputs := [⟨zeroHash, "copy", zeroHash, "walls", "type-1"⟩]
  Attributes := duplication.attributes

def removalNode : DynamicResultReferenceNodeV1 where
  NodeId := "sha256:2222222222222222222222222222222222222222222222222222222222222222"
  Kind := "delete_element"
  DependsOn := [duplicationNode.NodeId]
  ExternalTargets := []
  ResultReferences := removal.resultReferences
  Outputs := []
  Attributes := removal.attributes

/-- A digest that tells the two nodes apart, and both from the result. -/
def linkedSdk : SdkHost where
  Sha256 text :=
    if text = NodePreimage duplicationNode then duplicationNode.NodeId
    else if text = NodePreimage removalNode then removalNode.NodeId
    else zeroHash
  ManifestHash := zeroHash

theorem nodeIds_apart : Hash duplicationNode.NodeId ∧ Hash removalNode.NodeId
    ∧ [duplicationNode.NodeId, removalNode.NodeId, zeroHash].Nodup := by
  decide +kernel

theorem hash_linkedSdk (text : String) : Hash (linkedSdk.Sha256 text) := by
  obtain ⟨hduplication, hremoval, _⟩ := nodeIds_apart
  simp only [linkedSdk]
  split_ifs
  · exact hduplication
  · exact hremoval
  · exact hash_zeroHash

theorem joinAll_ne {first second : String} (rest others : List String) (h : first ≠ second) :
    JoinAll (first :: rest) ≠ JoinAll (second :: others) :=
  fun hjoined => h (List.cons.inj (joinAll_injective hjoined)).1

theorem linkedSdk_duplication : linkedSdk.Sha256 (NodePreimage duplicationNode) = duplicationNode.NodeId := by
  simp only [linkedSdk, if_pos]

theorem linkedSdk_removal : linkedSdk.Sha256 (NodePreimage removalNode) = removalNode.NodeId := by
  have hkinds : NodePreimage removalNode ≠ NodePreimage duplicationNode := joinAll_ne _ _ (by decide)
  simp only [linkedSdk, if_neg hkinds, if_pos]

theorem linkedSdk_result :
    linkedSdk.Sha256 (resultPreimage zeroHash zeroHash 0 "copy" "copy_element") = zeroHash := by
  have hcopy : resultPreimage zeroHash zeroHash 0 "copy" "copy_element" ≠ NodePreimage duplicationNode :=
    joinAll_ne _ _ (by decide)
  have hdelete : resultPreimage zeroHash zeroHash 0 "copy" "copy_element" ≠ NodePreimage removalNode :=
    joinAll_ne _ _ (by decide)
  simp only [linkedSdk, if_neg hcopy, if_neg hdelete]

theorem nodeOf_duplication : nodeOf linkedSdk zeroHash zeroHash 0 [] duplication = duplicationNode := by
  have houtputs : declarations linkedSdk zeroHash zeroHash 0 duplication = duplicationNode.Outputs := by
    simp only [declarations, duplication, List.map_cons, List.map_nil, linkedSdk_result, duplicationNode]
  rw [nodeOf, houtputs]
  simp only [NodeId]
  exact congrArg (fun id => { duplicationNode with NodeId := id }) linkedSdk_duplication

theorem nodeOf_removal : nodeOf linkedSdk zeroHash zeroHash 1 [duplicationNode.NodeId] removal = removalNode := by
  have hdepends : text.sorted [duplicationNode.NodeId].dedup = removalNode.DependsOn := by
    rw [(List.nodup_singleton _).dedup]
    rfl
  rw [nodeOf, hdepends]
  simp only [NodeId]
  exact congrArg (fun id => { removalNode with NodeId := id }) linkedSdk_removal

/-- The builder after the copy. -/
def copiedBuilder : DynamicResultReferenceGraphBuilderV1 :=
  ⟨zeroHash, zeroHash, "session", 0, [duplicationNode],
    [(Key zeroHash "copy", duplicationNode.NodeId, ⟨zeroHash, "copy", zeroHash, "walls", "type-1"⟩)]⟩

/-- The builder after the copy and the deletion of the copy. -/
def linkedBuilder : DynamicResultReferenceGraphBuilderV1 :=
  { copiedBuilder with nodes := [duplicationNode, removalNode] }

theorem duplicationNode_shape : ValidateNodeShape duplicationNode = .ok () :=
  nodeShape_eq_ok.2 ⟨⟨id_names le_rfl "copy_element" (by simp), by decide, by decide, by decide, by decide, by decide,
    List.forall_mem_singleton.2 ⟨id_names le_rfl "transform" (by simp), by decide⟩⟩, by simp [duplicationNode],
    List.forall_mem_singleton.2 wall_shape, by simp [duplicationNode],
    List.forall_mem_singleton.2 (require_of (walls_shape hash_zeroHash (id_names le_rfl "copy" (by simp)))), by simp [duplicationNode, duplication]⟩

theorem removalNode_shape : ValidateNodeShape removalNode = .ok () :=
  nodeShape_eq_ok.2 ⟨⟨id_names le_rfl "delete_element" (by simp), by decide, by decide, by decide, by decide, by decide,
    by simp [removalNode, removal]⟩, by simp [removalNode, nodeIds_apart.1], by simp [removalNode],
    List.forall_mem_singleton.2 (require_of (walls_shape hash_zeroHash (id_names le_rfl "copy" (by simp)))), by simp [removalNode],
    by simp [removalNode, removal]⟩

theorem added_duplication : added linkedSdk (builderAfter 0) duplication = .ok copiedBuilder := by
  have hkind : Id duplication.kind 128 := id_names le_rfl "copy_element" (by simp)
  rw [added, AddOperation, require_of (by decide), ok_bind, require_of hkind, ok_bind,
    show duplication.resultReferences.mapM (resolve (builderAfter 0).outputs) = .ok [] from rfl, ok_bind]
  simp only [builderAfter, List.replicate_zero, List.length_nil, nodeOf_duplication, duplicationNode_shape, ok_bind]
  rfl

theorem added_removal : added linkedSdk copiedBuilder removal = .ok linkedBuilder := by
  have hkind : Id removal.kind 128 := id_names le_rfl "delete_element" (by simp)
  have hresolved : removal.resultReferences.mapM (resolve copiedBuilder.outputs) = .ok [duplicationNode.NodeId] := by
    rfl
  rw [added, AddOperation, require_of (by decide), ok_bind, require_of hkind, ok_bind, hresolved, ok_bind]
  simp only [copiedBuilder, List.length_singleton, nodeOf_removal, removalNode_shape, ok_bind]
  rfl

theorem linked_described : ∀ operation ∈ [duplication, removal], Describes zeroHash operation := by
  have hcopy : Describes zeroHash duplication :=
    ⟨⟨"copy_element", "elements", "create", ["transform"]⟩, rfl,
      by simp [DynamicPrimitiveDescriptorV1.ExactAttributes, Dictionary.ContainsKey, Dictionary.Keys, duplication], by simp [duplication],
      by simp [duplication]⟩
  have hdelete : Describes zeroHash removal :=
    ⟨⟨"delete_element", "elements", "delete", []⟩, rfl, by simp [DynamicPrimitiveDescriptorV1.ExactAttributes, Dictionary.Keys, removal],
      by simp [removal], by simp [removal]⟩
  simp [hcopy, hdelete]

end samples

end revit_operator.dynamic_revit_sdk
