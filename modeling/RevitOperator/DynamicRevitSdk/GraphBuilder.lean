import RevitOperator.DynamicRevitSdk.NodeIdentity
import RevitOperator.Library.Run

open checked checked_run

/-! The builder of result-reference graphs: operations are added one by one, each
    under the identity of its node. -/

namespace revit_operator.dynamic_revit_sdk

open DynamicCanonical DynamicResultReferenceContractV1

structure DynamicResultOutputSpecV1 where
  OutputSlot : String
  ExpectedCategoryStableId : String
  ExpectedTypeUniqueId : String
  deriving DecidableEq

/-- The arguments of one `AddOperation`. -/
structure GraphOperation where
  kind : String
  externalTargets : List DynamicExternalTargetReferenceV1
  resultReferences : List DynamicSymbolicResultReferenceV1
  outputs : List DynamicResultOutputSpecV1
  attributes : Dictionary

structure DynamicResultOperationHandleV1 where
  NodeId : String
  Outputs : List DynamicResultOutputDeclarationV1

structure DynamicResultReferenceGraphBuilderV1 where
  inputHash : String
  document : String
  session : String
  revision : Int
  nodes : List DynamicResultReferenceNodeV1
  outputs : DeclaredOutputs

namespace DynamicResultReferenceGraphBuilderV1

def create (inputHash documentFingerprint documentSessionId : String) (documentRevision : Int) :
    Except SdkException DynamicResultReferenceGraphBuilderV1 := do
  require (Hash inputHash) (.argument "A SHA-256 identity is required.")
  require (Hash documentFingerprint) (.argument "A SHA-256 identity is required.")
  require (Id documentSessionId 256) (.argument "A bounded identity is required.")
  require (0 ≤ documentRevision) (.argument "documentRevision")
  return ⟨inputHash, documentFingerprint, documentSessionId, documentRevision, [], []⟩

/-- The node whose output a reference names. -/
def resolve (outputs : DeclaredOutputs) (reference : DynamicSymbolicResultReferenceV1) : Except SdkException String :=
  match outputs.lookup (Key reference.ResultId reference.OutputSlot) with
  | none => .error (.invalidOperation "Result reference is unresolved or forward.")
  | some prior => do
    require (reference.ResultId = prior.2.ResultId ∧ reference.OutputSlot = prior.2.OutputSlot
        ∧ reference.ExpectedDocumentFingerprint = prior.2.ExpectedDocumentFingerprint
        ∧ reference.ExpectedCategoryStableId = prior.2.ExpectedCategoryStableId
        ∧ reference.ExpectedTypeUniqueId = prior.2.ExpectedTypeUniqueId)
      (.invalidOperation "Result reference type, category, or document contract was substituted.")
    return prior.1

/-- What the identity of a declared result hashes. -/
def resultPreimage (inputHash document : String) (index : Nat) (slot kind : String) : String :=
  JoinAll ["dynamic-result-id/v1", inputHash, document, toString (index : Int), slot, kind]

def declarations (host : SdkHost) (inputHash document : String) (index : Nat) (operation : GraphOperation) :
    List DynamicResultOutputDeclarationV1 :=
  operation.outputs.map fun spec => {
    ResultId := host.Sha256 (resultPreimage inputHash document index spec.OutputSlot operation.kind)
    OutputSlot := spec.OutputSlot
    ExpectedDocumentFingerprint := document
    ExpectedCategoryStableId := spec.ExpectedCategoryStableId
    ExpectedTypeUniqueId := spec.ExpectedTypeUniqueId }

/-- The node of an operation, with the dependencies found for it. -/
def nodeOf (host : SdkHost) (inputHash document : String) (index : Nat) (dependencies : List String)
    (operation : GraphOperation) : DynamicResultReferenceNodeV1 :=
  let node : DynamicResultReferenceNodeV1 := {
    NodeId := ""
    Kind := operation.kind
    DependsOn := text.sorted dependencies.dedup
    ExternalTargets := operation.externalTargets
    ResultReferences := operation.resultReferences
    Outputs := declarations host inputHash document index operation
    Attributes := operation.attributes }
  { node with NodeId := NodeId host node }

def declareOutput (nodeId : String) (outputs : DeclaredOutputs) (output : DynamicResultOutputDeclarationV1) :
    Except SdkException DeclaredOutputs := do
  require (outputs.lookup (Key output.ResultId output.OutputSlot) = none)
    (.invalidOperation "Duplicate symbolic result ID/output slot.")
  return (Key output.ResultId output.OutputSlot, nodeId, output) :: outputs

def AddOperation (host : SdkHost) (builder : DynamicResultReferenceGraphBuilderV1) (operation : GraphOperation) :
    Except SdkException (DynamicResultReferenceGraphBuilderV1 × DynamicResultOperationHandleV1) := do
  require (builder.nodes.length < MaximumNodes) (.invalidOperation "Result-reference operation bound exceeded.")
  require (Id operation.kind 128) (.argument "A bounded identity is required.")
  let dependencies ← operation.resultReferences.mapM (resolve builder.outputs)
  let node := nodeOf host builder.inputHash builder.document builder.nodes.length dependencies operation
  ValidateNodeShape node
  let outputs ← node.Outputs.foldlM (declareOutput node.NodeId) builder.outputs
  return ({ builder with nodes := builder.nodes ++ [node], outputs := outputs }, ⟨node.NodeId, node.Outputs⟩)

def Build (host : SdkHost) (builder : DynamicResultReferenceGraphBuilderV1) :
    Except SdkException DynamicResultReferenceGraphV1 := do
  require (builder.nodes ≠ []) (.invalidOperation "Result-reference graph is empty.")
  let graph : DynamicResultReferenceGraphV1 := {
    Schema := GraphSchema
    ContractManifestHash := host.ManifestHash
    InputHash := builder.inputHash
    DocumentFingerprint := builder.document
    DocumentSessionId := builder.session
    DocumentRevision := builder.revision
    Nodes := builder.nodes
    GraphHash := "" }
  return { graph with GraphHash := GraphHash host graph }

/-- One more operation, its handle aside. -/
def added (host : SdkHost) (builder : DynamicResultReferenceGraphBuilderV1) (operation : GraphOperation) :
    Except SdkException DynamicResultReferenceGraphBuilderV1 :=
  Prod.fst <$> AddOperation host builder operation

end DynamicResultReferenceGraphBuilderV1

end revit_operator.dynamic_revit_sdk
