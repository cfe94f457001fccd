import RevitOperator.DynamicRevitSdk.EffectBudget

open checked

/-! The facts of created elements, the receipts that list them, and the resolver that
    binds the symbolic results of a graph to them. -/

namespace revit_operator.dynamic_revit_sdk

open DynamicCanonical DynamicResultReferenceContractV1

structure DynamicCreatedResultFactV1 where
  Schema : String
  ProducerNodeId : String
  ResultId : String
  OutputSlot : String
  CreatedUniqueId : String
  CreatedElementId : Int
  DocumentFingerprint : String
  CategoryStableId : String
  TypeUniqueId : String
  StateHash : String
  Status : String
  Verified : Bool
  Visible : Bool
  OutputHash : String
  deriving DecidableEq

structure DynamicResultReferenceReceiptV1 where
  Schema : String
  ContractManifestHash : String
  GraphHash : String
  DocumentFingerprint : String
  DocumentSessionId : String
  DocumentRevision : Int
  Outcome : String
  RollbackVerified : Bool
  PartialFailureRolledBack : Bool
  FailureNodeId : String
  Outputs : List DynamicCreatedResultFactV1
  ReceiptHash : String

structure DynamicResolvedElementTargetV1 where
  SourceKind : String
  SourceIdentity : String
  UniqueId : String
  ElementId : Int
  DocumentFingerprint : String
  CategoryStableId : String
  TypeUniqueId : String
  StateHash : String

namespace DynamicCreatedResultFactV1

/-- What a fact shows, hash apart. -/
def Shape (value : DynamicCreatedResultFactV1) : Prop :=
  value.Schema = OutputFactSchema ∧ Hash value.ProducerNodeId ∧ Hash value.ResultId ∧ Id value.OutputSlot 128
    ∧ Id value.CreatedUniqueId 256 ∧ 0 ≤ value.CreatedElementId ∧ Hash value.DocumentFingerprint
    ∧ Id value.CategoryStableId 256 ∧ Id value.TypeUniqueId 256 ∧ Hash value.StateHash
    ∧ value.Status ∈ ["created_verified", "rolled_back_verified"] ∧ value.Verified = true
    ∧ (value.Status = "created_verified" → value.Visible = true)

instance (value : DynamicCreatedResultFactV1) : Decidable value.Shape := inferInstanceAs (Decidable (_ ∧ _))

/-- The declaration that the fact answers. -/
def declaration (value : DynamicCreatedResultFactV1) : DynamicResultOutputDeclarationV1 :=
  ⟨value.ResultId, value.OutputSlot, value.DocumentFingerprint, value.CategoryStableId, value.TypeUniqueId⟩

/-- `Clone` gives the schema its default. -/
def Clone (value : DynamicCreatedResultFactV1) : DynamicCreatedResultFactV1 :=
  { value with Schema := OutputFactSchema }

theorem clone_of_shape {value : DynamicCreatedResultFactV1} (h : value.Shape) : value.Clone = value := by
  rw [Clone, ← h.1]

end DynamicCreatedResultFactV1

section facts

variable (host : SdkHost)

def OutputPreimage (value : DynamicCreatedResultFactV1) : String :=
  JoinAll [value.Schema, value.ProducerNodeId, value.ResultId, value.OutputSlot, value.CreatedUniqueId,
    toString value.CreatedElementId, value.DocumentFingerprint, value.CategoryStableId, value.TypeUniqueId,
    value.StateHash, value.Status, if value.Verified then "1" else "0", if value.Visible then "1" else "0"]

def ValidateCreatedFactShape (value : DynamicCreatedResultFactV1) (requireHash : Bool) : Except SdkException Unit :=
  require (value.Shape ∧ (requireHash = true → value.OutputHash = host.Sha256 (OutputPreimage value)))
    (.argument "Created symbolic output fact is invalid, hidden, unverified, failed, skipped, or stale.")

def OutputHash (value : DynamicCreatedResultFactV1) : Except SdkException String := do
  ValidateCreatedFactShape host value false
  return host.Sha256 (OutputPreimage value)

def receiptOutput (output : DynamicCreatedResultFactV1) : Except SdkException Unit := do
  ValidateCreatedFactShape host output true
  require (output.Status = "rolled_back_verified" ∧ output.Visible = false)
    (.argument "Rollback receipt exposes a live or non-rolled-back symbolic output.")

def ReceiptPreimage (value : DynamicResultReferenceReceiptV1) : String :=
  JoinAll [value.Schema, value.ContractManifestHash, value.GraphHash, value.DocumentFingerprint,
    value.DocumentSessionId, toString value.DocumentRevision, value.Outcome,
    if value.RollbackVerified then "1" else "0", if value.PartialFailureRolledBack then "1" else "0",
    value.FailureNodeId, joinSorted (value.Outputs.map fun output => output.OutputHash)]

def ReceiptHash (value : DynamicResultReferenceReceiptV1) : Except SdkException String := do
  require (value.Schema = ReceiptSchema ∧ value.ContractManifestHash = host.ManifestHash ∧ Hash value.GraphHash
      ∧ Hash value.DocumentFingerprint ∧ Id value.DocumentSessionId 256 ∧ 0 ≤ value.DocumentRevision
      ∧ value.Outcome ∈ ["preview_rolled_back_verified", "failed_rolled_back"] ∧ value.RollbackVerified = true
      ∧ value.Outputs.length ≤ MaximumNodes * MaximumOutputsPerNode)
    (.argument "Result-reference receipt is invalid.")
  require (value.Outcome = "failed_rolled_back" → value.PartialFailureRolledBack = true ∧ Hash value.FailureNodeId)
    (.argument "Partial failure receipt lacks exact rollback identity.")
  require (value.Outcome = "preview_rolled_back_verified" →
      value.PartialFailureRolledBack = false ∧ text.length value.FailureNodeId = 0)
    (.argument "Successful rollback receipt contains contradictory failure state.")
  forEach value.Outputs (receiptOutput host)
  require ((value.Outputs.map fun output => Key output.ResultId output.OutputSlot).Nodup
      ∧ (value.Outputs.map fun output => output.CreatedUniqueId).Nodup
      ∧ (value.Outputs.map fun output => output.CreatedElementId).Nodup)
    (.argument "Rollback receipt contains duplicate symbolic or Revit output identities.")
  return host.Sha256 (ReceiptPreimage value)

end facts

section resolver

/-- `DynamicResultReferenceHostResolverV1`: the outputs registered so far by their keys,
    and the nodes they were registered for. -/
structure Resolver where
  created : List (String × DynamicCreatedResultFactV1)
  executed : List String

/-- The order of `ResultId`, then of `OutputSlot`. -/
def resultLe (a b : String × String) : Bool :=
  if a.1 = b.1 then text.ordinalLe a.2 b.2 else text.ordinalLe a.1 b.1

def byResult (values : List DynamicCreatedResultFactV1) : List DynamicCreatedResultFactV1 :=
  values.insertionSort fun a b => resultLe (a.ResultId, a.OutputSlot) (b.ResultId, b.OutputSlot) = true

variable (host : SdkHost) (graph : DynamicResultReferenceGraphV1)

/-- The node is one of the graph, under its own identity, and new. -/
def Resolver.Expects (resolver : Resolver) (node : DynamicResultReferenceNodeV1) : Prop :=
  node.NodeId = NodeId host node ∧ (∃ value ∈ graph.Nodes, value.NodeId = node.NodeId)
    ∧ node.NodeId ∉ resolver.executed

instance (resolver : Resolver) (node : DynamicResultReferenceNodeV1) : Decidable (resolver.Expects host graph node) :=
  inferInstanceAs (Decidable (_ ∧ _))

def resolveReference (resolver : Resolver) (reference : DynamicSymbolicResultReferenceV1) :
    Except SdkException DynamicResolvedElementTargetV1 :=
  match resolver.created.lookup (Key reference.ResultId reference.OutputSlot) with
  | none => .error (.invalidOperation "Symbolic output is unresolved, failed, skipped, or hidden.")
  | some fact => do
    ValidateCreatedFactShape host fact true
    require (fact.Status = "created_verified" ∧ fact.Visible = true
        ∧ fact.DocumentFingerprint = reference.ExpectedDocumentFingerprint
        ∧ fact.CategoryStableId = reference.ExpectedCategoryStableId
        ∧ fact.TypeUniqueId = reference.ExpectedTypeUniqueId)
      (.invalidOperation "Symbolic output is failed, skipped, hidden, unverified, or mismatched.")
    return ⟨"result", Key reference.ResultId reference.OutputSlot, fact.CreatedUniqueId, fact.CreatedElementId,
      fact.DocumentFingerprint, fact.CategoryStableId, fact.TypeUniqueId, fact.StateHash⟩

/-- The fact among the host's that answers a declaration: `SingleOrDefault`, and the
    checks on what it finds. -/
def declaredFact (node : DynamicResultReferenceNodeV1) (values : List DynamicCreatedResultFactV1)
    (declaration : DynamicResultOutputDeclarationV1) : Except SdkException DynamicCreatedResultFactV1 :=
  match values.filter fun value =>
      value.ResultId = declaration.ResultId ∧ value.OutputSlot = declaration.OutputSlot with
  | [] => .error (.invalidOperation "Declared symbolic output is missing.")
  | [fact] => do
    ValidateCreatedFactShape host fact true
    require (fact.ProducerNodeId = node.NodeId ∧ fact.Status = "created_verified"
        ∧ fact.DocumentFingerprint = declaration.ExpectedDocumentFingerprint
        ∧ fact.CategoryStableId = declaration.ExpectedCategoryStableId
        ∧ fact.TypeUniqueId = declaration.ExpectedTypeUniqueId)
      (.invalidOperation "Host output producer, type, category, document, status, or visibility is invalid.")
    return fact
  | _ => .error (.invalidOperation "Sequence contains more than one matching element")

/-- The outputs in the order of their declarations. What was registered before a fault
    stays. -/
def registerOutputs (node : DynamicResultReferenceNodeV1) (values : List DynamicCreatedResultFactV1) :
    List DynamicResultOutputDeclarationV1 → Resolver → Except SdkException Unit × Resolver
  | [], resolver => (.ok (), { resolver with executed := node.NodeId :: resolver.executed })
  | declaration :: rest, resolver =>
    match declaredFact host node values declaration with
    | .error fault => (.error fault, resolver)
    | .ok fact =>
      if Key fact.ResultId fact.OutputSlot ∈ resolver.created.map Prod.fst then
        (.error (.invalidOperation "Host returned a duplicate symbolic output."), resolver)
      else
        registerOutputs node values rest
          { resolver with created := resolver.created ++ [(Key fact.ResultId fact.OutputSlot, fact.Clone)] }

def RegisterSuccessfulOutputs (resolver : Resolver) (node : DynamicResultReferenceNodeV1)
    (values : List DynamicCreatedResultFactV1) : Except SdkException Unit × Resolver :=
  if resolver.Expects host graph node then
    if values.length = node.Outputs.length then registerOutputs host node values node.Outputs resolver
    else (.error (.invalidOperation "Host output set does not exactly cover declared slots."), resolver)
  else
    (.error (.invalidOperation "Result-reference node cannot be foreign, substituted, or registered twice."), resolver)

/-- `CloseAndSnapshot`, once. -/
def CloseAndSnapshot (resolver : Resolver) : List DynamicCreatedResultFactV1 :=
  (byResult (resolver.created.map Prod.snd)).map DynamicCreatedResultFactV1.Clone

end resolver

section registration

variable {host : SdkHost} {graph : DynamicResultReferenceGraphV1} {node : DynamicResultReferenceNodeV1}
  {values : List DynamicCreatedResultFactV1}

/-- A fact answers a declaration of a node. -/
structure Answers (host : SdkHost) (node : DynamicResultReferenceNodeV1)
    (declaration : DynamicResultOutputDeclarationV1) (fact : DynamicCreatedResultFactV1) : Prop where
  shape : fact.Shape
  hash : fact.OutputHash = host.Sha256 (OutputPreimage fact)
  producer : fact.ProducerNodeId = node.NodeId
  status : fact.Status = "created_verified"
  declared : fact.declaration = declaration

theorem declaredFact_ok {declaration : DynamicResultOutputDeclarationV1} {fact : DynamicCreatedResultFactV1}
    (h : declaredFact host node values declaration = .ok fact) : fact ∈ values ∧ Answers host node declaration fact := by
  unfold declaredFact at h
  split at h
  · cases h
  · rename_i found hfound
    have hmem : found ∈ values.filter fun value =>
        value.ResultId = declaration.ResultId ∧ value.OutputSlot = declaration.OutputSlot :=
      hfound ▸ List.mem_singleton_self _
    obtain ⟨hvalue, hkey⟩ := List.mem_filter.1 hmem
    obtain ⟨hresult, hslot⟩ := of_decide_eq_true hkey
    simp only [check_bind_eq_ok, ValidateCreatedFactShape, require_eq_ok, pure_eq_ok] at h
    obtain ⟨⟨hshape, hhash⟩, ⟨hproducer, hstatus, hdocument, hcategory, htype⟩, rfl⟩ := h
    refine ⟨hvalue, hshape, hhash trivial, hproducer, hstatus, ?_⟩
    rw [DynamicCreatedResultFactV1.declaration, hresult, hslot, hdocument, hcategory, htype]
  · cases h

/-- The host's outputs are those that the node declares. -/
def Covers (host : SdkHost) (node : DynamicResultReferenceNodeV1) (values : List DynamicCreatedResultFactV1) : Prop :=
  values.length = node.Outputs.length
    ∧ ∀ declaration ∈ node.Outputs, (declaredFact host node values declaration).isOk = true

/-- The host's outputs are as many as the node declares and its first output is there,
    another one is not. -/
def CoversInPart (host : SdkHost) (node : DynamicResultReferenceNodeV1) (values : List DynamicCreatedResultFactV1) :
    Prop :=
  values.length = node.Outputs.length ∧ ¬ Covers host node values
    ∧ ∃ first rest, node.Outputs = first :: rest ∧ (declaredFact host node values first).isOk = true

def declaredKey (declaration : DynamicResultOutputDeclarationV1) : String :=
  Key declaration.ResultId declaration.OutputSlot

theorem Answers.key {declaration : DynamicResultOutputDeclarationV1} {fact : DynamicCreatedResultFactV1}
    (h : Answers host node declaration fact) : Key fact.ResultId fact.OutputSlot = declaredKey declaration := by
  rw [← h.declared]
  rfl

def entryOf (fact : DynamicCreatedResultFactV1) : String × DynamicCreatedResultFactV1 :=
  (Key fact.ResultId fact.OutputSlot, fact)

theorem registerOutputs_ok {declarations : List DynamicResultOutputDeclarationV1} {resolver resolver' : Resolver}
    (h : registerOutputs host node values declarations resolver = (.ok (), resolver')) :
    ∃ facts, List.Forall₂ (fun declaration fact => declaredFact host node values declaration = .ok fact)
        declarations facts
      ∧ resolver'.created = resolver.created ++ facts.map entryOf
      ∧ resolver'.executed = node.NodeId :: resolver.executed := by
  induction declarations generalizing resolver with
  | nil =>
    obtain ⟨_, rfl⟩ := Prod.mk.inj h
    exact ⟨[], .nil, (List.append_nil _).symm, rfl⟩
  | cons declaration rest ih =>
    unfold registerOutputs at h
    split at h
    · cases h
    · rename_i fact hfact
      split_ifs at h with hknown
      · cases h
      · obtain ⟨facts, hfacts, hcreated, hexecuted⟩ := ih h
        refine ⟨fact :: facts, .cons hfact hfacts, ?_, hexecuted⟩
        rw [hcreated, DynamicCreatedResultFactV1.clone_of_shape (declaredFact_ok hfact).2.shape]
        simp [entryOf]

theorem registerOutputs_error {declarations : List DynamicResultOutputDeclarationV1} {resolver resolver' : Resolver}
    {fault : SdkException} (hdistinct : (declarations.map declaredKey).Nodup)
    (hfresh : ∀ declaration ∈ declarations, declaredKey declaration ∉ resolver.created.map Prod.fst)
    (h : registerOutputs host node values declarations resolver = (.error fault, resolver')) :
    ∃ facts, (∀ fact ∈ facts, fact.ProducerNodeId = node.NodeId)
      ∧ resolver'.created = resolver.created ++ facts.map entryOf ∧ resolver'.executed = resolver.executed
      ∧ (∃ declaration ∈ declarations, (declaredFact host node values declaration).isOk = false)
      ∧ (facts ≠ [] ↔ ∃ first rest, declarations = first :: rest
        ∧ (declaredFact host node values first).isOk = true) := by
  induction declarations generalizing resolver with
  | nil => cases h
  | cons declaration rest ih =>
    unfold registerOutputs at h
    split at h
    · rename_i reported hfact
      obtain ⟨_, rfl⟩ := Prod.mk.inj h
      have hrefused : (declaredFact host node values declaration).isOk = false := by rw [hfact]; rfl
      refine ⟨[], by simp, by simp, rfl, ⟨declaration, List.mem_cons_self, hrefused⟩, ?_⟩
      simp [hrefused]
    · rename_i fact hfact
      have hanswers := (declaredFact_ok hfact).2
      have hprovided : (declaredFact host node values declaration).isOk = true := by rw [hfact]; rfl
      have hkey : Key fact.ResultId fact.OutputSlot = declaredKey declaration := hanswers.key
      obtain ⟨hapart, hrest⟩ := List.nodup_cons.1 hdistinct
      rw [if_neg (hkey ▸ hfresh declaration List.mem_cons_self)] at h
      obtain ⟨facts, hproducer, hcreated, hexecuted, ⟨refused, hmem, hrefused⟩, _⟩ := ih hrest (by
        intro other hother
        rw [List.map_append, List.mem_append, not_or]
        refine ⟨hfresh other (List.mem_cons_of_mem _ hother), fun hsame => ?_⟩
        have hown : declaredKey other = declaredKey declaration := (List.mem_singleton.1 hsame).trans hkey
        exact hapart (hown ▸ List.mem_map_of_mem hother)) h
      refine ⟨fact :: facts, List.forall_mem_cons.2 ⟨hanswers.producer, hproducer⟩, ?_, hexecuted,
        ⟨refused, List.mem_cons_of_mem _ hmem, hrefused⟩, by simp [hprovided]⟩
      rw [hcreated, DynamicCreatedResultFactV1.clone_of_shape hanswers.shape]
      simp [entryOf]

theorem exists_of_forall₂ {α β : Type} {R : α → β → Prop} {xs : List α} {ys : List β} (h : List.Forall₂ R xs ys) :
    ∀ y ∈ ys, ∃ x ∈ xs, R x y := by
  induction h with
  | nil => exact fun _ hmem => nomatch hmem
  | cons hhead _ ih =>
    refine List.forall_mem_cons.2 ⟨⟨_, List.mem_cons_self, hhead⟩, fun y hy => ?_⟩
    obtain ⟨x, hx, hR⟩ := ih y hy
    exact ⟨x, List.mem_cons_of_mem _ hx, hR⟩

theorem perm_of_covers {facts : List DynamicCreatedResultFactV1} (hlength : values.length = node.Outputs.length)
    (hdistinct : (node.Outputs.map declaredKey).Nodup)
    (hfacts : List.Forall₂ (fun declaration fact => declaredFact host node values declaration = .ok fact)
      node.Outputs facts) : facts.Perm values := by
  have hkeys : facts.map (fun fact => Key fact.ResultId fact.OutputSlot) = node.Outputs.map declaredKey := by
    symm
    refine List.forall₂_eq_eq_eq ▸ ?_
    rw [List.forall₂_map_left_iff, List.forall₂_map_right_iff]
    exact hfacts.imp fun declaration fact hfact => (declaredFact_ok hfact).2.key.symm
  have hnodup : facts.Nodup := List.Nodup.of_map _ (hkeys ▸ hdistinct)
  have hsubset : facts ⊆ values := by
    intro fact hfact
    obtain ⟨declaration, _, hfound⟩ := exists_of_forall₂ hfacts fact hfact
    exact (declaredFact_ok hfound).1
  exact (List.subperm_of_subset hnodup hsubset).perm_of_length_le (by rw [hlength, hfacts.length_eq])

end registration

end revit_operator.dynamic_revit_sdk
