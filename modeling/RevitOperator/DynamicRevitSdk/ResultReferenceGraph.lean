import RevitOperator.DynamicRevitSdk.DynamicCanonical

open checked

/-! The result-reference graph: operations that name the elements earlier ones
    create, and the identities hashed from them. -/

namespace revit_operator.dynamic_revit_sdk

open DynamicCanonical

/-- What lies outside the contract classes: the SHA-256 of a text, and the identity
    of the compiled contract. -/
structure SdkHost where
  Sha256 : String → String
  ManifestHash : String

namespace DynamicResultReferenceContractV1

def GraphSchema : String := "dynamic-revit-result-reference-graph/v1"

def OutputFactSchema : String := "dynamic-revit-result-output-fact/v1"

def ReceiptSchema : String := "dynamic-revit-result-reference-receipt/v1"

def MaximumNodes : Nat := 256

def MaximumOutputsPerNode : Nat := 16

def MaximumReferencesPerNode : Nat := 64

def MaximumAttributesPerNode : Nat := 64

end DynamicResultReferenceContractV1

open DynamicResultReferenceContractV1

structure DynamicExternalTargetReferenceV1 where
  TargetUniqueId : String
  TargetElementId : Int
  DocumentFingerprint : String
  ExpectedCategoryStableId : String
  ExpectedTypeUniqueId : String
  ExpectedStateHash : String
  deriving DecidableEq

structure DynamicSymbolicResultReferenceV1 where
  ResultId : String
  OutputSlot : String
  ExpectedDocumentFingerprint : String
  ExpectedCategoryStableId : String
  ExpectedTypeUniqueId : String
  deriving DecidableEq

structure DynamicResultOutputDeclarationV1 where
  ResultId : String
  OutputSlot : String
  ExpectedDocumentFingerprint : String
  ExpectedCategoryStableId : String
  ExpectedTypeUniqueId : String
  deriving DecidableEq

structure DynamicResultReferenceNodeV1 where
  NodeId : String
  Kind : String
  DependsOn : List String
  ExternalTargets : List DynamicExternalTargetReferenceV1
  ResultReferences : List DynamicSymbolicResultReferenceV1
  Outputs : List DynamicResultOutputDeclarationV1
  Attributes : Dictionary
  deriving DecidableEq

structure DynamicResultReferenceGraphV1 where
  Schema : String
  ContractManifestHash : String
  InputHash : String
  DocumentFingerprint : String
  DocumentSessionId : String
  DocumentRevision : Int
  Nodes : List DynamicResultReferenceNodeV1
  GraphHash : String

section primitives

structure DynamicPrimitiveDescriptorV1 where
  Kind : String
  Domain : String
  EffectClass : String
  RequiredAttributes : List String

/-- `DynamicAnnotationOperationManifestV1`, as descriptors. -/
def DynamicAnnotationOperationManifestV1 : List DynamicPrimitiveDescriptorV1 := [
  ⟨"edit_text_note", "annotation", "modify",
    ["expected_owner_view_unique_id", "expected_text", "expected_text_type_unique_id", "replacement_text"]⟩,
  ⟨"create_tag", "annotation", "create",
    ["expected_tag_type_state_hash", "expected_view_state_hash", "head_position_feet", "leader_elbow_feet",
      "leader_enabled", "leader_end_feet", "output_slot", "tag_orientation", "tag_type_unique_id",
      "target_unique_id", "view_unique_id"]⟩]

def DynamicPrimitiveManifestV1 : List DynamicPrimitiveDescriptorV1 := [
  ⟨"move_element", "elements", "modify", ["vector_feet"]⟩,
  ⟨"rotate_element", "elements", "modify", ["axis", "angle_radians"]⟩,
  ⟨"copy_element", "elements", "create", ["transform"]⟩,
  ⟨"delete_element", "elements", "delete", []⟩,
  ⟨"set_parameter", "parameters", "modify", ["parameter_identity", "value", "value_kind"]⟩,
  ⟨"change_type", "elements", "modify", ["replacement_type_unique_id", "expected_target_state_hash"]⟩,
  ⟨"create_family_instance", "families", "create", ["family_type_identity", "placement"]⟩,
  ⟨"create_model_curve", "geometry", "create", ["curve"]⟩,
  ⟨"create_mep_curve", "mep", "create", ["curve", "size", "system_type", "type_identity"]⟩,
  ⟨"set_mep_curve_size", "mep", "modify", ["size"]⟩,
  ⟨"connect_mep", "mep", "modify", ["connector_a", "connector_b"]⟩,
  ⟨"create_elbow_fitting", "mep", "create", ["connector_a", "connector_b", "expected_fitting_type"]⟩,
  ⟨"create_transition_fitting", "mep", "create", ["connector_a", "connector_b", "expected_fitting_type"]⟩,
  ⟨"create_view", "views", "create", ["view_kind"]⟩,
  ⟨"duplicate_view", "views", "create", ["duplicate_mode"]⟩,
  ⟨"create_sheet", "sheets", "create", ["number", "name", "titleblock_type"]⟩,
  ⟨"place_viewport", "sheets", "create", ["sheet_identity", "view_identity", "point"]⟩,
  ⟨"create_schedule", "schedules", "create", ["category", "fields"]⟩,
  ⟨"modify_schedule", "schedules", "modify", ["changes"]⟩,
  ⟨"create_tag", "annotation", "create", ["tag_type", "view_identity", "point"]⟩,
  ⟨"create_text", "annotation", "create", ["view_identity", "point", "text"]⟩,
  ⟨"create_dimension", "annotation", "create", ["view_identity", "references"]⟩,
  ⟨"reload_link", "links", "external", ["file_capability_id"]⟩,
  ⟨"load_family", "families", "external", ["file_capability_id"]⟩,
  ⟨"export", "files", "external", ["file_capability_id", "export_manifest_hash"]⟩,
  ⟨"save_as", "files", "external", ["file_capability_id"]⟩,
  ⟨"print", "files", "external", ["print_manifest_hash"]⟩]

/-- The annotation manifest goes first. -/
def ResultReferencePrimitive (kind : String) : Option DynamicPrimitiveDescriptorV1 :=
  match DynamicAnnotationOperationManifestV1.find? fun item => item.Kind = kind with
  | some annotation => some annotation
  | none => DynamicPrimitiveManifestV1.find? fun item => item.Kind = kind

namespace DynamicPrimitiveDescriptorV1

/-- The attributes of the node are the required ones. -/
def ExactAttributes (descriptor : DynamicPrimitiveDescriptorV1) (attributes : Dictionary) : Prop :=
  (∀ required ∈ descriptor.RequiredAttributes, attributes.ContainsKey required)
    ∧ ∀ key ∈ attributes.Keys, key ∈ descriptor.RequiredAttributes

instance (descriptor : DynamicPrimitiveDescriptorV1) (attributes : Dictionary) :
    Decidable (descriptor.ExactAttributes attributes) := inferInstanceAs (Decidable (_ ∧ _))

end DynamicPrimitiveDescriptorV1

end primitives

def Key (resultId slot : String) : String := resultId ++ "\n" ++ slot

section canonical

def ExternalCanonical (value : DynamicExternalTargetReferenceV1) : String :=
  JoinAll [value.TargetUniqueId, toString value.TargetElementId, value.DocumentFingerprint,
    value.ExpectedCategoryStableId, value.ExpectedTypeUniqueId, value.ExpectedStateHash]

def ReferenceCanonical (value : DynamicSymbolicResultReferenceV1) : String :=
  JoinAll [value.ResultId, value.OutputSlot, value.ExpectedDocumentFingerprint, value.ExpectedCategoryStableId,
    value.ExpectedTypeUniqueId]

def OutputCanonical (value : DynamicResultOutputDeclarationV1) : String :=
  JoinAll [value.ResultId, value.OutputSlot, value.ExpectedDocumentFingerprint, value.ExpectedCategoryStableId,
    value.ExpectedTypeUniqueId]

/-- `string.Join("\n", values.OrderBy(value => value, StringComparer.Ordinal))` -/
def joinSorted (records : List String) : String := text.joinWith "\n" (text.sorted records)

/-- What `NodeId` hashes. -/
def NodePreimage (node : DynamicResultReferenceNodeV1) : String :=
  JoinAll [node.Kind, DynamicCanonical.Set node.DependsOn, joinSorted (node.ExternalTargets.map ExternalCanonical),
    joinSorted (node.ResultReferences.map ReferenceCanonical), joinSorted (node.Outputs.map OutputCanonical),
    DynamicCanonical.Map node.Attributes]

def NodeId (host : SdkHost) (node : DynamicResultReferenceNodeV1) : String := host.Sha256 (NodePreimage node)

def GraphHash (host : SdkHost) (graph : DynamicResultReferenceGraphV1) : String :=
  host.Sha256 (JoinAll [graph.Schema, graph.ContractManifestHash, graph.InputHash, graph.DocumentFingerprint,
    graph.DocumentSessionId, toString graph.DocumentRevision,
    text.joinWith "\n" (graph.Nodes.map fun node => NodeId host node)])

def ReferenceMatches (value : DynamicSymbolicResultReferenceV1) (output : DynamicResultOutputDeclarationV1) : Prop :=
  ReferenceCanonical value = OutputCanonical output

instance (value : DynamicSymbolicResultReferenceV1) (output : DynamicResultOutputDeclarationV1) :
    Decidable (ReferenceMatches value output) := inferInstanceAs (Decidable (_ = _))

end canonical

section shape

def ValidateExternalShape (value : DynamicExternalTargetReferenceV1) : Except SdkException Unit :=
  require (Id value.TargetUniqueId 256 ∧ 0 ≤ value.TargetElementId ∧ Hash value.DocumentFingerprint
      ∧ Id value.ExpectedCategoryStableId 256 ∧ Id value.ExpectedTypeUniqueId 256 ∧ Hash value.ExpectedStateHash)
    (.argument "External target reference shape is invalid.")

def ValidateReferenceShape (value : DynamicSymbolicResultReferenceV1) : Except SdkException Unit :=
  require (Hash value.ResultId ∧ Id value.OutputSlot 128 ∧ Hash value.ExpectedDocumentFingerprint
      ∧ Id value.ExpectedCategoryStableId 256 ∧ Id value.ExpectedTypeUniqueId 256)
    (.argument "Symbolic result reference shape is invalid.")

def ValidateOutputShape (value : DynamicResultOutputDeclarationV1) : Except SdkException Unit :=
  require (Hash value.ResultId ∧ Id value.OutputSlot 128 ∧ Hash value.ExpectedDocumentFingerprint
      ∧ Id value.ExpectedCategoryStableId 256 ∧ Id value.ExpectedTypeUniqueId 256)
    (.argument "Symbolic output declaration shape is invalid.")

/-- `RequireDistinct(values, name)` of the policy. -/
def RequireDistinctHashes (values : List String) (name : String) : Except SdkException Unit :=
  require ((∀ value ∈ values, Hash value) ∧ values.Nodup)
    (.argument ("Result-reference " ++ name ++ " identities are invalid or duplicated."))

def ValidateNodeShape (node : DynamicResultReferenceNodeV1) : Except SdkException Unit := do
  require (Id node.Kind 128 ∧ node.DependsOn.length ≤ MaximumNodes
      ∧ node.ResultReferences.length ≤ MaximumReferencesPerNode
      ∧ node.ExternalTargets.length ≤ MaximumReferencesPerNode ∧ node.Outputs.length ≤ MaximumOutputsPerNode
      ∧ node.Attributes.Count ≤ MaximumAttributesPerNode
      ∧ ∀ pair ∈ node.Attributes.pairs, Id pair.1 128 ∧ text.length pair.2 ≤ 8192)
    (.argument "Result-reference node is invalid or unbounded.")
  RequireDistinctHashes node.DependsOn "dependency"
  forEach node.ExternalTargets ValidateExternalShape
  forEach node.ResultReferences ValidateReferenceShape
  forEach node.Outputs ValidateOutputShape
  require ((node.ExternalTargets.map fun value => value.TargetUniqueId).Nodup
      ∧ (node.ResultReferences.map fun value => Key value.ResultId value.OutputSlot).Nodup
      ∧ (node.Outputs.map fun value => value.ResultId).Nodup
      ∧ (node.Outputs.map fun value => value.OutputSlot).Nodup)
    (.argument "Result-reference node contains duplicate targets, references, or outputs.")

theorem nodeShape_eq_ok {node : DynamicResultReferenceNodeV1} : ValidateNodeShape node = .ok () ↔
    (Id node.Kind 128 ∧ node.DependsOn.length ≤ MaximumNodes
        ∧ node.ResultReferences.length ≤ MaximumReferencesPerNode
        ∧ node.ExternalTargets.length ≤ MaximumReferencesPerNode ∧ node.Outputs.length ≤ MaximumOutputsPerNode
        ∧ node.Attributes.Count ≤ MaximumAttributesPerNode
        ∧ ∀ pair ∈ node.Attributes.pairs, Id pair.1 128 ∧ text.length pair.2 ≤ 8192)
      ∧ ((∀ value ∈ node.DependsOn, Hash value) ∧ node.DependsOn.Nodup)
      ∧ (∀ target ∈ node.ExternalTargets, ValidateExternalShape target = .ok ())
      ∧ (∀ reference ∈ node.ResultReferences, ValidateReferenceShape reference = .ok ())
      ∧ (∀ output ∈ node.Outputs, ValidateOutputShape output = .ok ())
      ∧ (node.ExternalTargets.map fun value => value.TargetUniqueId).Nodup
      ∧ (node.ResultReferences.map fun value => Key value.ResultId value.OutputSlot).Nodup
      ∧ (node.Outputs.map fun value => value.ResultId).Nodup
      ∧ (node.Outputs.map fun value => value.OutputSlot).Nodup := by
  simp only [ValidateNodeShape, RequireDistinctHashes, bind_eq_ok, require_eq_ok, forEach_eq_ok, exists_const]

end shape

section worker

/-- The declared outputs by their keys, each with the node that declares it. -/
abbrev DeclaredOutputs := List (String × String × DynamicResultOutputDeclarationV1)

/-- The sets a validator keeps while it goes through the nodes. -/
structure WorkerScan where
  seenNodes : List String
  outputs : DeclaredOutputs
  resultIds : List String

def WorkerScan.declare (scan : WorkerScan) (nodeId : String) (output : DynamicResultOutputDeclarationV1) : WorkerScan :=
  { scan with
    outputs := (Key output.ResultId output.OutputSlot, nodeId, output) :: scan.outputs
    resultIds := output.ResultId :: scan.resultIds }

/-- The identities seen once the node is: a node may name itself. -/
def WorkerScan.see (scan : WorkerScan) (node : DynamicResultReferenceNodeV1) : WorkerScan :=
  { scan with seenNodes := node.NodeId :: scan.seenNodes }

def workerReference (outputs : DeclaredOutputs) (node : DynamicResultReferenceNodeV1)
    (reference : DynamicSymbolicResultReferenceV1) : Except SdkException Unit :=
  match outputs.lookup (Key reference.ResultId reference.OutputSlot) with
  | none => .error (.argument "Worker symbolic result is unresolved, forward, or mismatched.")
  | some prior =>
    require (ReferenceMatches reference prior.2 ∧ prior.1 ∈ node.DependsOn)
      (.argument "Worker symbolic result is unresolved, forward, or mismatched.")

def workerOutput (documentFingerprint nodeId : String) (scan : WorkerScan)
    (output : DynamicResultOutputDeclarationV1) : Except SdkException WorkerScan := do
  require (output.ExpectedDocumentFingerprint = documentFingerprint ∧ output.ResultId ∉ scan.resultIds
      ∧ scan.outputs.lookup (Key output.ResultId output.OutputSlot) = none)
    (.argument "Worker symbolic output is foreign or duplicated.")
  return scan.declare nodeId output

def workerNode (host : SdkHost) (documentFingerprint : String) (scan : WorkerScan)
    (node : DynamicResultReferenceNodeV1) : Except SdkException WorkerScan := do
  ValidateNodeShape node
  require (node.NodeId = NodeId host node ∧ node.NodeId ∉ scan.seenNodes
      ∧ ∀ dependency ∈ node.DependsOn, dependency ∈ (scan.see node).seenNodes)
    (.argument "Result-reference worker node identity or dependency is invalid, forward, or cyclic.")
  match ResultReferencePrimitive node.Kind with
  | none => .error (.argument "Result-reference worker primitive is unknown.")
  | some descriptor =>
    require (descriptor.ExactAttributes node.Attributes)
      (.argument "Result-reference worker primitive attributes are missing, unknown, or extra.")
    require (descriptor.EffectClass = "create" ↔ 0 < node.Outputs.length)
      (.argument "Worker create primitives require outputs and only create primitives may declare them.")
    forEach node.ExternalTargets fun external =>
      require (external.DocumentFingerprint = documentFingerprint)
        (.argument "Worker external target references another document.")
    forEach node.ResultReferences (workerReference scan.outputs node)
    node.Outputs.foldlM (workerOutput documentFingerprint node.NodeId) (scan.see node)

def ValidateWorkerOutput (host : SdkHost) (graph : DynamicResultReferenceGraphV1)
    (inputHash documentFingerprint documentSessionId : String) (documentRevision : Int) :
    Except SdkException Unit := do
  require (graph.Schema = GraphSchema ∧ graph.ContractManifestHash = host.ManifestHash ∧ graph.InputHash = inputHash
      ∧ graph.DocumentFingerprint = documentFingerprint ∧ graph.DocumentSessionId = documentSessionId
      ∧ graph.DocumentRevision = documentRevision ∧ 0 ≤ documentRevision ∧ 1 ≤ graph.Nodes.length
      ∧ graph.Nodes.length ≤ MaximumNodes)
    (.argument "Result-reference worker graph envelope is invalid or substituted.")
  RequireHashes [inputHash, documentFingerprint, graph.GraphHash]
  let _ ← graph.Nodes.foldlM (workerNode host documentFingerprint) ⟨[], [], []⟩
  require (graph.GraphHash = GraphHash host graph) (.argument "Result-reference worker graph hash is invalid.")

/-- What the worker's validation checks of a node before its outputs. -/
structure WorkerAccepts (host : SdkHost) (documentFingerprint : String) (scan : WorkerScan)
    (node : DynamicResultReferenceNodeV1) (descriptor : DynamicPrimitiveDescriptorV1) : Prop where
  shape : ValidateNodeShape node = .ok ()
  identity : node.NodeId = NodeId host node
  fresh : node.NodeId ∉ scan.seenNodes
  dependsOn : ∀ dependency ∈ node.DependsOn, dependency ∈ (scan.see node).seenNodes
  primitive : ResultReferencePrimitive node.Kind = some descriptor
  attributes : descriptor.ExactAttributes node.Attributes
  creates : descriptor.EffectClass = "create" ↔ 0 < node.Outputs.length
  native : ∀ external ∈ node.ExternalTargets, external.DocumentFingerprint = documentFingerprint
  resolved : ∀ reference ∈ node.ResultReferences, workerReference scan.outputs node reference = .ok ()

theorem workerNode_eq_ok {host : SdkHost} {documentFingerprint : String} {scan next : WorkerScan}
    {node : DynamicResultReferenceNodeV1} :
    workerNode host documentFingerprint scan node = .ok next ↔
      (∃ descriptor, WorkerAccepts host documentFingerprint scan node descriptor)
        ∧ node.Outputs.foldlM (workerOutput documentFingerprint node.NodeId) (scan.see node) = .ok next := by
  simp only [workerNode, bind_eq_ok, require_eq_ok]
  constructor
  · rintro ⟨_, hshape, _, ⟨hid, hnew, hdepends⟩, h⟩
    split at h
    · cases h
    · rename_i descriptor hdescriptor
      simp only [bind_eq_ok, require_eq_ok, forEach_eq_ok] at h
      obtain ⟨_, hattributes, _, hcreate, _, hnative, _, hresolved, houtputs⟩ := h
      exact ⟨⟨descriptor, hshape, hid, hnew, hdepends, hdescriptor, hattributes, hcreate, hnative, hresolved⟩, houtputs⟩
  · rintro ⟨⟨descriptor, h⟩, houtputs⟩
    refine ⟨(), h.shape, (), ⟨h.identity, h.fresh, h.dependsOn⟩, ?_⟩
    rw [h.primitive]
    simp only [bind_eq_ok, require_eq_ok, forEach_eq_ok]
    exact ⟨(), h.attributes, (), h.creates, (), h.native, (), h.resolved, houtputs⟩

end worker

end revit_operator.dynamic_revit_sdk
