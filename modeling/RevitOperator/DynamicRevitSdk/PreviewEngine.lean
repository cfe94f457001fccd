import RevitOperator.DynamicRevitSdk.ResultReferenceResolver
import RevitOperator.DynamicRevitSdk.WorkerAgreement

open checked checked_run

/-! The preview of a graph: its nodes are executed by a host in a transaction that is
    always rolled back, and a receipt says which outputs they created. -/

namespace revit_operator.dynamic_revit_sdk

open DynamicCanonical DynamicResultReferenceContractV1

section engine

/-- What the engine may throw: a check of its own, or an exception of the host. -/
inductive PreviewFault where
  | sdk (fault : SdkException)
  | host (message : String)

/-- A call that may change the outside and may throw. -/
abbrev Outside (σ α : Type) := ExceptT PreviewFault (StateM σ) α

def Outside.check {σ α : Type} (checked : Except SdkException α) : Outside σ α :=
  match checked with
  | .ok value => pure value
  | .error fault => throw (.sdk fault)

/-- `IDynamicResultReferenceTransactionalHostV1` over a state of its own, with the live
    targets that share it. -/
structure TransactionalHost (σ : Type) where
  Begin : DynamicResultReferenceGraphV1 → Outside σ Unit
  ExecuteNode : DynamicResultReferenceNodeV1 → List DynamicResolvedElementTargetV1 →
    Outside σ (List DynamicCreatedResultFactV1)
  Rollback : Outside σ Bool
  liveExternalTarget : String → Outside σ (Option DynamicTrustedElementFactV1)

/-- The calls the engine makes, with what the host answered. -/
inductive HostCall where
  | begin
  | executeNode (node : DynamicResultReferenceNodeV1) (answer : Option (List DynamicCreatedResultFactV1))
  | rollback (verified : Option Bool)

variable {σ : Type} (sdk : SdkHost) (graph : DynamicResultReferenceGraphV1) (host : TransactionalHost σ)

def resolveExternal (external : DynamicExternalTargetReferenceV1) : Outside σ DynamicResolvedElementTargetV1 := do
  match ← host.liveExternalTarget external.TargetUniqueId with
  | none => throw (.sdk (.invalidOperation "External target disappeared before execution."))
  | some fact =>
    Outside.check (ValidateExternalAgainstFact external fact graph.DocumentFingerprint)
    return ⟨"external", external.TargetUniqueId, fact.UniqueId, fact.ElementId, fact.DocumentFingerprint,
      fact.CategoryStableId, fact.TypeUniqueId, fact.StateHash⟩

def Resolve (resolver : Resolver) (node : DynamicResultReferenceNodeV1) :
    Outside σ (List DynamicResolvedElementTargetV1) := do
  Outside.check (require (resolver.Expects sdk graph node)
    (.invalidOperation "Result-reference resolver state is invalid."))
  Outside.check (require (∀ dependency ∈ node.DependsOn, dependency ∈ resolver.executed)
    (.invalidOperation "Result-reference dependency has not completed successfully."))
  let externals := node.ExternalTargets.insertionSort fun a b =>
    text.ordinalLe a.TargetUniqueId b.TargetUniqueId = true
  let references := node.ResultReferences.insertionSort fun a b =>
    resultLe (a.ResultId, a.OutputSlot) (b.ResultId, b.OutputSlot) = true
  let resolved ← externals.mapM (resolveExternal graph host)
  let results ← Outside.check (references.mapM (resolveReference sdk resolver))
  return resolved ++ results

/-- What the loop over the nodes changes, and the calls it has made. -/
structure PreviewState (σ : Type) where
  outside : σ
  resolver : Resolver
  failureNode : String
  calls : List HostCall

/-- One turn of the loop. -/
def visit (node : DynamicResultReferenceNodeV1) (state : PreviewState σ) :
    Except PreviewFault Unit × PreviewState σ :=
  let state := { state with failureNode := node.NodeId }
  match Resolve sdk graph host state.resolver node state.outside with
  | (.error fault, outside) => (.error fault, { state with outside })
  | (.ok resolved, outside) =>
    match host.ExecuteNode node resolved outside with
    | (.error fault, outside) =>
      (.error fault, { state with outside, calls := state.calls ++ [.executeNode node none] })
    | (.ok values, outside) =>
      let registered := RegisterSuccessfulOutputs sdk graph state.resolver node values
      (registered.1.mapError .sdk,
        { state with outside, resolver := registered.2, calls := state.calls ++ [.executeNode node (some values)] })

/-- The loop, up to the first node that fails. -/
def visitAll : List DynamicResultReferenceNodeV1 → PreviewState σ → Option PreviewFault × PreviewState σ
  | [], state => (none, state)
  | node :: rest, state =>
    match visit sdk graph host node state with
    | (.error fault, state) => (some fault, state)
    | (.ok (), state) => visitAll rest state

/-- The nodes the loop executed before it stopped. -/
def executedNodes : List DynamicResultReferenceNodeV1 → PreviewState σ → List DynamicResultReferenceNodeV1
  | [], _ => []
  | node :: rest, state =>
    match visit sdk graph host node state with
    | (.error _, _) => []
    | (.ok (), state) => node :: executedNodes rest state

def rolledBack (value : DynamicCreatedResultFactV1) : Except SdkException DynamicCreatedResultFactV1 := do
  let copy := { value.Clone with Status := "rolled_back_verified", Visible := false }
  let hash ← OutputHash sdk copy
  return { copy with OutputHash := hash }

def previewReceipt (failure : Option PreviewFault) (state : PreviewState σ) :
    Except SdkException DynamicResultReferenceReceiptV1 := do
  let outputs ← (CloseAndSnapshot state.resolver).mapM (rolledBack sdk)
  let receipt : DynamicResultReferenceReceiptV1 := {
    Schema := ReceiptSchema
    ContractManifestHash := sdk.ManifestHash
    GraphHash := graph.GraphHash
    DocumentFingerprint := graph.DocumentFingerprint
    DocumentSessionId := graph.DocumentSessionId
    DocumentRevision := graph.DocumentRevision
    Outcome := if failure.isNone then "preview_rolled_back_verified" else "failed_rolled_back"
    RollbackVerified := true
    PartialFailureRolledBack := failure.isSome
    FailureNodeId := if failure.isNone then "" else state.failureNode
    Outputs := outputs
    ReceiptHash := "" }
  let hash ← ReceiptHash sdk receipt
  return { receipt with ReceiptHash := hash }

/-- What a preview returned or threw, and the calls it made. -/
structure PreviewRun where
  result : Except PreviewFault DynamicResultReferenceReceiptV1
  calls : List HostCall

/-- The state of the loop once the transaction is open. -/
def PreviewState.start (outside : σ) : PreviewState σ := ⟨outside, ⟨[], []⟩, "", [.begin]⟩

/-- The rollback, and the receipt when it is verified. -/
def finishPreview (failure : Option PreviewFault) (state : PreviewState σ) : PreviewRun :=
  match (host.Rollback state.outside).1 with
  | .error fault => ⟨.error fault, state.calls ++ [.rollback none]⟩
  | .ok false =>
    ⟨.error (.sdk (.invalidOperation "Result-reference host failed to verify rollback.")),
      state.calls ++ [.rollback (some false)]⟩
  | .ok true => ⟨(previewReceipt sdk graph failure state).mapError .sdk, state.calls ++ [.rollback (some true)]⟩

/-- `DynamicResultReferencePreviewEngineV1.Execute` -/
def Execute (budget : DynamicEffectBudgetV1) (allowedKinds : List String)
    (admissionTargets : String → Option DynamicTrustedElementFactV1) (outside : σ) : PreviewRun :=
  match Validate budget admissionTargets sdk graph allowedKinds with
  | .error fault => ⟨.error (.sdk fault), []⟩
  | .ok () =>
    match ValidateWorkerOutput sdk graph graph.InputHash graph.DocumentFingerprint graph.DocumentSessionId
      graph.DocumentRevision with
    | .error fault => ⟨.error (.sdk fault), []⟩
    | .ok () =>
      match host.Begin graph outside with
      | (.error fault, _) => ⟨.error fault, [.begin]⟩
      | (.ok (), outside) =>
        let looped := visitAll sdk graph host graph.Nodes (.start outside)
        finishPreview sdk graph host looped.1 looped.2

end engine

section graph

variable {sdk : SdkHost} {graph : DynamicResultReferenceGraphV1} {documentFingerprint : String}

/-- What the loop relies on in a graph the policy accepts. -/
structure AcceptedGraph (sdk : SdkHost) (graph : DynamicResultReferenceGraphV1) : Prop where
  graphHash : Hash graph.GraphHash
  document : Hash graph.DocumentFingerprint
  session : Id graph.DocumentSessionId 256
  revision : 0 ≤ graph.DocumentRevision
  count : graph.Nodes.length ≤ MaximumNodes
  identity : ∀ node ∈ graph.Nodes, node.NodeId = NodeId sdk node
  outputs : ∀ node ∈ graph.Nodes, node.Outputs.length ≤ MaximumOutputsPerNode
  distinct : (graph.Nodes.map fun node => node.NodeId).Nodup
  keys : (graph.Nodes.flatMap fun node => node.Outputs.map declaredKey).Nodup

theorem workerOutputs_keys {nodeId : String} {entries : List DynamicResultOutputDeclarationV1} {scan scan' : WorkerScan}
    (h : entries.foldlM (workerOutput documentFingerprint nodeId) scan = .ok scan') :
    scan'.outputs.map Prod.fst = (entries.map declaredKey).reverse ++ scan.outputs.map Prod.fst
      ∧ ((scan.outputs.map Prod.fst).Nodup → (scan'.outputs.map Prod.fst).Nodup) := by
  refine feed_relation (R := fun scan entries scan' =>
    scan'.outputs.map Prod.fst = (entries.map declaredKey).reverse ++ scan.outputs.map Prod.fst
      ∧ ((scan.outputs.map Prod.fst).Nodup → (scan'.outputs.map Prod.fst).Nodup)) (fun _ => ⟨rfl, id⟩) ?_ h
  rintro scan output mid rest scan' hstep ⟨hkeys, hnodup⟩
  simp only [workerOutput, check_bind_eq_ok, require_eq_ok, pure_eq_ok] at hstep
  obtain ⟨⟨_, _, hnew⟩, rfl⟩ := hstep
  refine ⟨by simp [hkeys, WorkerScan.declare, declaredKey], fun hscan => hnodup (List.nodup_cons.2 ⟨?_, hscan⟩)⟩
  intro hknown
  obtain ⟨entry, hentry, hkey⟩ := List.mem_map.1 hknown
  have hnone := List.lookup_eq_none_iff.1 hnew entry hentry
  simp [hkey] at hnone

theorem workerNodes_keys {nodes : List DynamicResultReferenceNodeV1} {scan scan' : WorkerScan}
    (h : nodes.foldlM (workerNode sdk documentFingerprint) scan = .ok scan') :
    scan'.outputs.map Prod.fst = (nodes.flatMap fun node => node.Outputs.map declaredKey).reverse
        ++ scan.outputs.map Prod.fst
      ∧ ((scan.outputs.map Prod.fst).Nodup → (scan'.outputs.map Prod.fst).Nodup)
      ∧ ∀ node ∈ nodes, node.NodeId = NodeId sdk node ∧ node.Outputs.length ≤ MaximumOutputsPerNode := by
  refine feed_relation (R := fun scan nodes scan' =>
    scan'.outputs.map Prod.fst = (nodes.flatMap fun node => node.Outputs.map declaredKey).reverse
        ++ scan.outputs.map Prod.fst
      ∧ ((scan.outputs.map Prod.fst).Nodup → (scan'.outputs.map Prod.fst).Nodup)
      ∧ ∀ node ∈ nodes, node.NodeId = NodeId sdk node ∧ node.Outputs.length ≤ MaximumOutputsPerNode)
    (fun _ => ⟨rfl, id, by simp⟩) ?_ h
  rintro scan node mid rest scan' hstep ⟨hkeys, hnodup, hrest⟩
  obtain ⟨⟨descriptor, haccepts⟩, houtputs⟩ := workerNode_eq_ok.1 hstep
  obtain ⟨hmid, hmidNodup⟩ := workerOutputs_keys houtputs
  obtain ⟨⟨_, _, _, _, hbound, _⟩, _⟩ := nodeShape_eq_ok.1 haccepts.shape
  refine ⟨?_, fun hscan => hnodup (hmidNodup hscan), List.forall_mem_cons.2 ⟨⟨haccepts.identity, hbound⟩, hrest⟩⟩
  rw [hkeys, hmid]
  simp [WorkerScan.see]

theorem acceptedGraph_of_validate {budget : DynamicEffectBudgetV1} {kinds : List String}
    {trusted : String → Option DynamicTrustedElementFactV1} (h : Validate budget trusted sdk graph kinds = .ok ()) :
    AcceptedGraph sdk graph := by
  have hworker := validateWorkerOutput_of_validate h
  simp only [ValidateWorkerOutput, bind_eq_ok] at hworker
  obtain ⟨_, _, _, _, scan, hscan, _⟩ := hworker
  obtain ⟨hkeys, hnodup, hnodes⟩ := workerNodes_keys hscan
  have hkeysNodup := hnodup List.nodup_nil
  rw [hkeys, List.map_nil, List.append_nil, List.nodup_reverse] at hkeysNodup
  simp only [Validate, RequireHashes, bind_eq_ok, require_eq_ok] at h
  obtain ⟨_, ⟨_, _, hrevision, _, hcount, hsession⟩, _, hhashes, _⟩ := h
  exact {
    graphHash := hhashes _ (by simp)
    document := hhashes _ (by simp)
    session := hsession
    revision := hrevision
    count := hcount
    identity := fun node hnode => (hnodes node hnode).1
    outputs := fun node hnode => (hnodes node hnode).2
    distinct := (worker_nodup hscan).1
    keys := hkeysNodup }

end graph

section loop

variable {σ : Type} {sdk : SdkHost} {graph : DynamicResultReferenceGraphV1} {host : TransactionalHost σ}
  {node : DynamicResultReferenceNodeV1} {state state' : PreviewState σ}

/-- What the host returned for the nodes it executed. -/
def hostAnswers (calls : List HostCall) : List (DynamicResultReferenceNodeV1 × List DynamicCreatedResultFactV1) :=
  calls.filterMap fun call =>
    match call with
    | .executeNode node (some values) => some (node, values)
    | _ => none

def HostCall.isRollback : HostCall → Bool
  | .rollback _ => true
  | _ => false

/-- The outputs that nodes declare, each with its node. -/
def declaredBy (nodes : List DynamicResultReferenceNodeV1) :
    List (DynamicResultReferenceNodeV1 × DynamicResultOutputDeclarationV1) :=
  nodes.flatMap fun node => node.Outputs.map fun declaration => (node, declaration)

/-- The facts answer what the nodes declare, and are what the host returned for them. -/
structure Progress (sdk : SdkHost) (executed : List DynamicResultReferenceNodeV1)
    (facts : List DynamicCreatedResultFactV1) (state : PreviewState σ) : Prop where
  registered : state.resolver.executed = (executed.map fun node => node.NodeId).reverse
  created : state.resolver.created = facts.map entryOf
  answers : List.Forall₂ (fun place fact => Answers sdk place.1 place.2 fact) (declaredBy executed) facts
  covered : ∀ answer ∈ hostAnswers state.calls, Covers sdk answer.1 answer.2
  given : facts.Perm ((hostAnswers state.calls).flatMap Prod.snd)
  unfinished : ∀ call ∈ state.calls, call.isRollback = false

theorem visit_ok (h : visit sdk graph host node state = (.ok (), state')) :
    ∃ values, RegisterSuccessfulOutputs sdk graph state.resolver node values = (.ok (), state'.resolver)
      ∧ state'.calls = state.calls ++ [.executeNode node (some values)] := by
  unfold visit at h
  dsimp only at h
  split at h
  · cases (Prod.mk.inj h).1
  · split at h
    · cases (Prod.mk.inj h).1
    · rename_i values outside _
      obtain ⟨hdone, rfl⟩ := Prod.mk.inj h
      refine ⟨values, Prod.ext ?_ rfl, rfl⟩
      cases houtcome : (RegisterSuccessfulOutputs sdk graph state.resolver node values).1 with
      | error fault =>
        rw [houtcome] at hdone
        cases hdone
      | ok done => rfl

theorem visit_error {fault : PreviewFault} (h : visit sdk graph host node state = (.error fault, state')) :
    state'.failureNode = node.NodeId
      ∧ ((state'.resolver = state.resolver
          ∧ (state'.calls = state.calls ∨ state'.calls = state.calls ++ [.executeNode node none]))
        ∨ ∃ values refusal, RegisterSuccessfulOutputs sdk graph state.resolver node values
            = (.error refusal, state'.resolver)
          ∧ state'.calls = state.calls ++ [.executeNode node (some values)]) := by
  unfold visit at h
  dsimp only at h
  split at h
  · obtain ⟨_, rfl⟩ := Prod.mk.inj h
    exact ⟨rfl, .inl ⟨rfl, .inl rfl⟩⟩
  · split at h
    · obtain ⟨_, rfl⟩ := Prod.mk.inj h
      exact ⟨rfl, .inl ⟨rfl, .inr rfl⟩⟩
    · rename_i values outside _
      obtain ⟨hfailed, rfl⟩ := Prod.mk.inj h
      cases houtcome : (RegisterSuccessfulOutputs sdk graph state.resolver node values).1 with
      | error refusal => exact ⟨rfl, .inr ⟨values, refusal, Prod.ext houtcome rfl, rfl⟩⟩
      | ok done =>
        rw [houtcome] at hfailed
        cases hfailed

section turn

variable {executed rest : List DynamicResultReferenceNodeV1} {facts values : List DynamicCreatedResultFactV1}
  {resolver : Resolver}

theorem answers_keys (h : List.Forall₂ (fun place fact => Answers sdk place.1 place.2 fact) (declaredBy executed) facts) :
    facts.map (fun fact => Key fact.ResultId fact.OutputSlot)
      = executed.flatMap fun node => node.Outputs.map declaredKey := by
  have hplaces : executed.flatMap (fun node => node.Outputs.map declaredKey)
      = (declaredBy executed).map fun place => declaredKey place.2 := by
    simp [declaredBy, List.map_flatMap, Function.comp_def]
  rw [hplaces]
  generalize declaredBy executed = places at h
  induction h with
  | nil => rfl
  | cons hanswers _ ih => rw [List.map_cons, List.map_cons, ih, hanswers.key]

theorem Progress.expects (h : Progress sdk executed facts state) (hgraph : AcceptedGraph sdk graph)
    (hsplit : graph.Nodes = executed ++ node :: rest) : state.resolver.Expects sdk graph node := by
  have hnode : node ∈ graph.Nodes := by simp [hsplit]
  refine ⟨hgraph.identity node hnode, ⟨node, hnode, rfl⟩, ?_⟩
  have hdistinct := hgraph.distinct
  rw [hsplit, List.map_append, List.map_cons] at hdistinct
  have hapart := (List.nodup_append.1 hdistinct).2.2
  rw [h.registered, List.mem_reverse]
  exact fun hearlier => hapart _ hearlier _ List.mem_cons_self rfl

theorem Progress.fresh (h : Progress sdk executed facts state) (hgraph : AcceptedGraph sdk graph)
    (hsplit : graph.Nodes = executed ++ node :: rest) : (node.Outputs.map declaredKey).Nodup
      ∧ ∀ declaration ∈ node.Outputs, declaredKey declaration ∉ state.resolver.created.map Prod.fst := by
  have hkeys := hgraph.keys
  rw [hsplit, List.flatMap_append, List.flatMap_cons] at hkeys
  obtain ⟨_, hlater, hapart⟩ := List.nodup_append.1 hkeys
  refine ⟨(List.nodup_append.1 hlater).1, fun declaration hdeclaration hknown => ?_⟩
  have hcreated : state.resolver.created.map Prod.fst = executed.flatMap fun node => node.Outputs.map declaredKey := by
    rw [h.created, List.map_map, ← answers_keys h.answers]
    rfl
  rw [hcreated] at hknown
  exact hapart _ hknown _ (List.mem_append_left _ (List.mem_map_of_mem hdeclaration)) rfl

theorem Progress.registered_ok (h : Progress sdk executed facts state) (hgraph : AcceptedGraph sdk graph)
    (hsplit : graph.Nodes = executed ++ node :: rest)
    (hregister : RegisterSuccessfulOutputs sdk graph state.resolver node values = (.ok (), resolver)) :
    ∃ more, List.Forall₂ (fun declaration fact => Answers sdk node declaration fact) node.Outputs more
      ∧ resolver.created = (facts ++ more).map entryOf ∧ resolver.executed = node.NodeId :: state.resolver.executed
      ∧ Covers sdk node values ∧ more.Perm values := by
  rw [RegisterSuccessfulOutputs, if_pos (h.expects hgraph hsplit)] at hregister
  split_ifs at hregister with hlength
  · obtain ⟨more, hmore, hcreated, hexecuted⟩ := registerOutputs_ok hregister
    refine ⟨more, hmore.imp fun _ _ hfact => (declaredFact_ok hfact).2, ?_, hexecuted, ⟨hlength, ?_⟩,
      perm_of_covers hlength (h.fresh hgraph hsplit).1 hmore⟩
    · rw [hcreated, h.created, List.map_append]
    · intro declaration hdeclaration
      obtain ⟨fact, _, hfact⟩ := exists_of_forall₂ hmore.flip declaration hdeclaration
      rw [hfact]
      rfl
  · cases (Prod.mk.inj hregister).1

theorem Progress.registered_error (h : Progress sdk executed facts state) (hgraph : AcceptedGraph sdk graph)
    (hsplit : graph.Nodes = executed ++ node :: rest) {refusal : SdkException}
    (hregister : RegisterSuccessfulOutputs sdk graph state.resolver node values = (.error refusal, resolver)) :
    ∃ extra, (∀ fact ∈ extra, fact.ProducerNodeId = node.NodeId)
      ∧ resolver.created = (facts ++ extra).map entryOf ∧ ¬ Covers sdk node values
      ∧ (extra ≠ [] ↔ CoversInPart sdk node values) := by
  rw [RegisterSuccessfulOutputs, if_pos (h.expects hgraph hsplit)] at hregister
  split_ifs at hregister with hlength
  · obtain ⟨hdistinct, hfresh⟩ := h.fresh hgraph hsplit
    obtain ⟨extra, hproducer, hcreated, _, ⟨declaration, hdeclaration, hrefused⟩, hextra⟩ :=
      registerOutputs_error hdistinct hfresh hregister
    have hnot : ¬ Covers sdk node values := by
      intro hcovers
      have hprovided := hcovers.2 declaration hdeclaration
      rw [hrefused] at hprovided
      cases hprovided
    refine ⟨extra, hproducer, by rw [hcreated, h.created, List.map_append], hnot, ?_⟩
    rw [hextra]
    exact ⟨fun hfirst => ⟨hlength, hnot, hfirst⟩, fun hpart => hpart.2.2⟩
  · obtain ⟨_, rfl⟩ := Prod.mk.inj hregister
    refine ⟨[], by simp, by simp [h.created], fun hcovers => hlength hcovers.1, ?_⟩
    exact ⟨fun hnone => absurd rfl hnone, fun hpart => absurd hpart.1 hlength⟩

end turn

section run

instance (values : List DynamicCreatedResultFactV1) : Decidable (Covers sdk node values) :=
  inferInstanceAs (Decidable (_ ∧ _))

/-- What the loop leaves: the facts of the nodes it executed, and the facts of the node it
    stopped at that were registered before the fault. -/
structure Looped (sdk : SdkHost) (graph : DynamicResultReferenceGraphV1)
    (executed : List DynamicResultReferenceNodeV1) (facts extra : List DynamicCreatedResultFactV1) (failed : Bool)
    (state : PreviewState σ) : Prop where
  created : state.resolver.created = (facts ++ extra).map entryOf
  answers : List.Forall₂ (fun place fact => Answers sdk place.1 place.2 fact) (declaredBy executed) facts
  given : facts.Perm (((hostAnswers state.calls).filter fun answer => Covers sdk answer.1 answer.2).flatMap Prod.snd)
  partly : extra ≠ [] ↔ ∃ answer ∈ hostAnswers state.calls, CoversInPart sdk answer.1 answer.2
  complete : failed = false → executed = graph.Nodes ∧ extra = []
  stopped : failed = true → ∃ node rest, graph.Nodes = executed ++ node :: rest ∧ state.failureNode = node.NodeId
    ∧ ∀ fact ∈ extra, fact.ProducerNodeId = node.NodeId
  unfinished : ∀ call ∈ state.calls, call.isRollback = false

variable {executed rest : List DynamicResultReferenceNodeV1} {facts : List DynamicCreatedResultFactV1}

theorem Progress.filter_covers (h : Progress sdk executed facts state) :
    (hostAnswers state.calls).filter (fun answer => Covers sdk answer.1 answer.2) = hostAnswers state.calls :=
  List.filter_eq_self.2 fun answer hanswer => decide_eq_true (h.covered answer hanswer)

theorem hostAnswers_append (first second : List HostCall) :
    hostAnswers (first ++ second) = hostAnswers first ++ hostAnswers second :=
  List.filterMap_append ..

theorem Progress.not_partly (h : Progress sdk executed facts state) :
    ¬ ∃ answer ∈ hostAnswers state.calls, CoversInPart sdk answer.1 answer.2 := by
  rintro ⟨answer, hanswer, _, hnot, _⟩
  exact hnot (h.covered answer hanswer)

theorem Progress.finished (h : Progress sdk graph.Nodes facts state) :
    Looped sdk graph graph.Nodes facts [] false state where
  created := by rw [h.created, List.append_nil]
  answers := h.answers
  given := by rw [h.filter_covers]; exact h.given
  partly := ⟨fun hnone => absurd rfl hnone, fun hpart => absurd hpart h.not_partly⟩
  complete _ := ⟨rfl, rfl⟩
  stopped := nofun
  unfinished := h.unfinished

theorem Progress.visited (h : Progress sdk executed facts state) (hgraph : AcceptedGraph sdk graph)
    (hsplit : graph.Nodes = executed ++ node :: rest) (hvisit : visit sdk graph host node state = (.ok (), state')) :
    ∃ more, Progress sdk (executed ++ [node]) (facts ++ more) state' := by
  obtain ⟨values, hregister, hcalls⟩ := visit_ok hvisit
  obtain ⟨more, hanswers, hcreated, hexecuted, hcovers, hperm⟩ := h.registered_ok hgraph hsplit hregister
  have hgivenAnswers : hostAnswers state'.calls = hostAnswers state.calls ++ [(node, values)] := by
    rw [hcalls, hostAnswers_append]
    rfl
  refine ⟨more, ?_, hcreated, ?_, ?_, ?_, ?_⟩
  · rw [hexecuted, h.registered]
    simp
  · rw [declaredBy, List.flatMap_append]
    refine List.rel_append h.answers ?_
    simpa [List.forall₂_map_left_iff] using hanswers
  · rw [hgivenAnswers]
    intro answer hanswer
    rcases List.mem_append.1 hanswer with hearlier | hlast
    · exact h.covered answer hearlier
    · rw [List.mem_singleton.1 hlast]
      exact hcovers
  · rw [hgivenAnswers, List.flatMap_append]
    simpa using h.given.append hperm
  · rw [hcalls]
    intro call hcall
    rcases List.mem_append.1 hcall with hearlier | hlast
    · exact h.unfinished call hearlier
    · rw [List.mem_singleton.1 hlast]
      rfl

theorem Progress.stopped (h : Progress sdk executed facts state) (hgraph : AcceptedGraph sdk graph)
    (hsplit : graph.Nodes = executed ++ node :: rest) {fault : PreviewFault}
    (hvisit : visit sdk graph host node state = (.error fault, state')) :
    ∃ extra, Looped sdk graph executed facts extra true state' := by
  obtain ⟨hnode, ⟨hresolver, hcalls⟩ | ⟨values, refusal, hregister, hcalls⟩⟩ := visit_error hvisit
  · have hsame : hostAnswers state'.calls = hostAnswers state.calls := by
      rcases hcalls with hcalls | hcalls
      · rw [hcalls]
      · rw [hcalls, hostAnswers_append]
        exact List.append_nil _
    refine ⟨[], by rw [hresolver, h.created, List.append_nil], h.answers, ?_, ?_, nofun, fun _ => ⟨node, rest, hsplit, hnode, by simp⟩, ?_⟩
    · rw [hsame, h.filter_covers]
      exact h.given
    · rw [hsame]
      exact ⟨fun hnone => absurd rfl hnone, fun hpart => absurd hpart h.not_partly⟩
    · intro call hcall
      rcases hcalls with hcalls | hcalls
      · exact h.unfinished call (hcalls ▸ hcall)
      · rw [hcalls] at hcall
        rcases List.mem_append.1 hcall with hearlier | hlast
        · exact h.unfinished call hearlier
        · rw [List.mem_singleton.1 hlast]
          rfl
  · obtain ⟨extra, hproducer, hcreated, hnot, hextra⟩ := h.registered_error hgraph hsplit hregister
    have hgivenAnswers : hostAnswers state'.calls = hostAnswers state.calls ++ [(node, values)] := by
      rw [hcalls, hostAnswers_append]
      rfl
    refine ⟨extra, hcreated, h.answers, ?_, ?_, nofun, fun _ => ⟨node, rest, hsplit, hnode, hproducer⟩, ?_⟩
    · rw [hgivenAnswers, List.filter_append, h.filter_covers]
      simpa [hnot] using h.given
    · rw [hextra, hgivenAnswers]
      constructor
      · exact fun hpart => ⟨(node, values), by simp, hpart⟩
      · rintro ⟨answer, hanswer, hpart⟩
        rcases List.mem_append.1 hanswer with hearlier | hlast
        · exact absurd ⟨answer, hearlier, hpart⟩ h.not_partly
        · rwa [List.mem_singleton.1 hlast] at hpart
    · rw [hcalls]
      intro call hcall
      rcases List.mem_append.1 hcall with hearlier | hlast
      · exact h.unfinished call hearlier
      · rw [List.mem_singleton.1 hlast]
        rfl

theorem looped_of_visitAll (host : TransactionalHost σ) (hgraph : AcceptedGraph sdk graph) {nodes : List DynamicResultReferenceNodeV1}
    (hsplit : graph.Nodes = executed ++ nodes) (h : Progress sdk executed facts state) :
    ∃ all extra, Looped sdk graph (executed ++ executedNodes sdk graph host nodes state) all extra
      (visitAll sdk graph host nodes state).1.isSome (visitAll sdk graph host nodes state).2 := by
  induction nodes generalizing executed facts state with
  | nil =>
    rw [List.append_nil] at hsplit
    subst hsplit
    refine ⟨facts, [], ?_⟩
    rw [executedNodes, List.append_nil]
    exact h.finished
  | cons node rest ih =>
    rw [visitAll, executedNodes]
    cases hvisit : visit sdk graph host node state with
    | mk outcome next =>
      cases outcome with
      | error fault =>
        obtain ⟨extra, hlooped⟩ := h.stopped hgraph hsplit hvisit
        refine ⟨facts, extra, ?_⟩
        rw [List.append_nil]
        exact hlooped
      | ok done =>
        obtain ⟨more, hnext⟩ := h.visited hgraph hsplit hvisit
        have hlater := ih (by rw [hsplit, List.append_assoc]; rfl) hnext
        rw [List.append_assoc] at hlater
        exact hlater

end run

end loop

end revit_operator.dynamic_revit_sdk
