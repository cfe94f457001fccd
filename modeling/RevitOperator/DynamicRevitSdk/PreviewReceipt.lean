import RevitOperator.DynamicRevitSdk.PreviewEngine

open checked

/-! The receipts of previews: what the outputs listed have in common with the elements
    the host created. -/

namespace revit_operator.dynamic_revit_sdk

open DynamicCanonical DynamicResultReferenceContractV1

section receipt

variable {σ : Type} {sdk : SdkHost} {graph : DynamicResultReferenceGraphV1} {failure : Option PreviewFault}
  {state : PreviewState σ} {executed : List DynamicResultReferenceNodeV1}
  {facts extra : List DynamicCreatedResultFactV1} {receipt : DynamicResultReferenceReceiptV1}

/-- The output with its node and the declaration it answers. -/
def shown (output : DynamicCreatedResultFactV1) : String × DynamicResultOutputDeclarationV1 :=
  (output.ProducerNodeId, output.declaration)

theorem rolledBack_keeps {value copy : DynamicCreatedResultFactV1} (h : rolledBack sdk value = .ok copy) :
    shown copy = shown value ∧ copy.CreatedUniqueId = value.CreatedUniqueId
      ∧ copy.CreatedElementId = value.CreatedElementId := by
  simp only [rolledBack, bind_eq_ok, pure_eq_ok] at h
  obtain ⟨hash, _, rfl⟩ := h
  exact ⟨rfl, rfl, rfl⟩

theorem byResult_perm (values : List DynamicCreatedResultFactV1) : (byResult values).Perm values :=
  List.perm_insertionSort _ values

/-- Whatever rolling back keeps, the outputs of the receipt have in common with the
    facts. -/
theorem outputs_perm {α : Type} (view : DynamicCreatedResultFactV1 → α) {outputs : List DynamicCreatedResultFactV1}
    (hclone : ∀ value : DynamicCreatedResultFactV1, view value.Clone = view value)
    (hview : ∀ value copy, rolledBack sdk value = .ok copy → view copy = view value)
    (h : (CloseAndSnapshot state.resolver).mapM (rolledBack sdk) = .ok outputs) :
    (outputs.map view).Perm ((state.resolver.created.map Prod.snd).map view) := by
  have hsnapshot : outputs.map view = (CloseAndSnapshot state.resolver).map view := by
    have hcopies := mapM_eq_ok.1 h
    clear h
    generalize CloseAndSnapshot state.resolver = values at hcopies
    induction hcopies with
    | nil => rfl
    | cons hcopy _ ih => rw [List.map_cons, List.map_cons, ih, hview _ _ hcopy]
  rw [hsnapshot, CloseAndSnapshot, List.map_map]
  have hview : view ∘ DynamicCreatedResultFactV1.Clone = view := funext hclone
  rw [hview]
  exact (byResult_perm _).map view

theorem previewReceipt_ok (h : previewReceipt sdk graph failure state = .ok receipt) :
    ReceiptHash sdk receipt = .ok receipt.ReceiptHash
      ∧ receipt.Outcome = (if failure.isNone then "preview_rolled_back_verified" else "failed_rolled_back")
      ∧ receipt.FailureNodeId = (if failure.isNone then "" else state.failureNode)
      ∧ (CloseAndSnapshot state.resolver).mapM (rolledBack sdk) = .ok receipt.Outputs := by
  simp only [previewReceipt, bind_eq_ok, pure_eq_ok] at h
  obtain ⟨outputs, houtputs, hash, hhash, rfl⟩ := h
  exact ⟨hhash, rfl, rfl, houtputs⟩

/-- A receipt is right about the run: it is well formed, says whether every node was
    executed and which one was not, and lists the outputs of the nodes that were. -/
structure Truthful (sdk : SdkHost) (graph : DynamicResultReferenceGraphV1)
    (executed : List DynamicResultReferenceNodeV1) (receipt : DynamicResultReferenceReceiptV1) : Prop where
  accepted : ReceiptHash sdk receipt = .ok receipt.ReceiptHash
  outcome : receipt.Outcome = "preview_rolled_back_verified" ↔ executed = graph.Nodes
  failureNode : ∀ node rest, graph.Nodes = executed ++ node :: rest → receipt.FailureNodeId = node.NodeId
  outputs : (receipt.Outputs.map shown).Perm
    ((declaredBy executed).map fun place => (place.1.NodeId, place.2))

theorem shown_answers (h : List.Forall₂ (fun place fact => Answers sdk place.1 place.2 fact) (declaredBy executed) facts) :
    facts.map shown = (declaredBy executed).map fun place => (place.1.NodeId, place.2) := by
  generalize declaredBy executed = places at h
  induction h with
  | nil => rfl
  | cons hanswers _ ih =>
    rw [List.map_cons, List.map_cons, ih, shown, hanswers.producer, hanswers.declared]

theorem Looped.extra_eq_nil (h : Looped sdk graph executed facts extra failure.isSome state)
    (hgraph : AcceptedGraph sdk graph) (hreceipt : previewReceipt sdk graph failure state = .ok receipt)
    (htruth : Truthful sdk graph executed receipt) : extra = [] := by
  refine List.eq_nil_iff_forall_not_mem.2 fun fact hfact => ?_
  cases hfailure : failure.isSome with
  | false =>
    rw [(h.complete hfailure).2] at hfact
    cases hfact
  | true =>
    obtain ⟨node, rest, hsplit, _, hproducer⟩ := h.stopped hfailure
    have houtputs := outputs_perm shown (fun _ => rfl) (fun _ _ hcopy => (rolledBack_keeps hcopy).1)
      (previewReceipt_ok hreceipt).2.2.2
    have hlisted : shown fact ∈ receipt.Outputs.map shown := by
      refine houtputs.mem_iff.2 (List.mem_map_of_mem ?_)
      rw [h.created, List.map_map]
      exact List.mem_map_of_mem (f := Prod.snd ∘ entryOf) (List.mem_append_right _ hfact)
    obtain ⟨place, hplace, hsame⟩ := List.mem_map.1 (htruth.outputs.mem_iff.1 hlisted)
    obtain ⟨earlier, hearlier, hdeclares⟩ := List.mem_flatMap.1 hplace
    obtain ⟨declaration, _, rfl⟩ := List.mem_map.1 hdeclares
    have hid : earlier.NodeId = node.NodeId := (Prod.mk.inj hsame).1.trans (hproducer fact hfact)
    have hdistinct := hgraph.distinct
    rw [hsplit, List.map_append, List.map_cons] at hdistinct
    exact (List.nodup_append.1 hdistinct).2.2 _ (List.mem_map_of_mem hearlier) _ List.mem_cons_self hid

theorem rolledBack_of_shape {value : DynamicCreatedResultFactV1} (h : value.Shape) :
    ∃ copy, rolledBack sdk value = .ok copy ∧ receiptOutput sdk copy = .ok () := by
  let copy : DynamicCreatedResultFactV1 := { value.Clone with Status := "rolled_back_verified", Visible := false }
  obtain ⟨_, hproducer, hresult, hslot, hunique, helement, hdocument, hcategory, htype, hstate, _, hverified, _⟩ := h
  have hcopy : copy.Shape :=
    ⟨rfl, hproducer, hresult, hslot, hunique, helement, hdocument, hcategory, htype, hstate, by simp [copy], hverified,
      by simp [copy]⟩
  have hhash : OutputHash sdk copy = .ok (sdk.Sha256 (OutputPreimage copy)) := by
    rw [OutputHash, ValidateCreatedFactShape, require_of ⟨hcopy, fun hvisible => absurd hvisible Bool.false_ne_true⟩]
    rfl
  refine ⟨{ copy with OutputHash := sdk.Sha256 (OutputPreimage copy) }, ?_, ?_⟩
  · simp only [rolledBack, bind_eq_ok, pure_eq_ok]
    exact ⟨_, hhash, rfl⟩
  · have hshape : ({ copy with OutputHash := sdk.Sha256 (OutputPreimage copy) } : DynamicCreatedResultFactV1).Shape :=
      hcopy
    rw [receiptOutput, ValidateCreatedFactShape, require_of ⟨hshape, fun _ => rfl⟩, ok_bind, require_of ⟨rfl, rfl⟩]

theorem rolledBack_all (sdk : SdkHost) {values : List DynamicCreatedResultFactV1} (h : ∀ value ∈ values, value.Shape) :
    ∃ outputs, values.mapM (rolledBack sdk) = .ok outputs ∧ ∀ output ∈ outputs, receiptOutput sdk output = .ok () := by
  simp only [mapM_eq_ok]
  induction values with
  | nil => exact ⟨[], .nil, by simp⟩
  | cons value values ih =>
    obtain ⟨hvalue, hvalues⟩ := List.forall_mem_cons.1 h
    obtain ⟨copy, hcopy, houtput⟩ := rolledBack_of_shape hvalue
    obtain ⟨outputs, houtputs, hall⟩ := ih hvalues
    exact ⟨copy :: outputs, .cons hcopy houtputs, List.forall_mem_cons.2 ⟨houtput, hall⟩⟩

theorem Looped.isPrefix {failed : Bool} (h : Looped sdk graph executed facts extra failed state) :
    executed <+: graph.Nodes := by
  cases failed with
  | false => rw [(h.complete rfl).1]
  | true =>
    obtain ⟨node, rest, hsplit, _⟩ := h.stopped rfl
    exact hsplit ▸ List.prefix_append _ _

theorem length_declaredBy {nodes : List DynamicResultReferenceNodeV1}
    (h : ∀ node ∈ nodes, node.Outputs.length ≤ MaximumOutputsPerNode) :
    (declaredBy nodes).length ≤ nodes.length * MaximumOutputsPerNode := by
  induction nodes with
  | nil => exact Nat.zero_le _
  | cons node nodes ih =>
    obtain ⟨hnode, hnodes⟩ := List.forall_mem_cons.1 h
    have hrest := ih hnodes
    simp only [declaredBy] at hrest
    rw [declaredBy, List.flatMap_cons, List.length_append, List.length_map, List.length_cons, Nat.succ_mul]
    omega

theorem shape_of_answers {places : List (DynamicResultReferenceNodeV1 × DynamicResultOutputDeclarationV1)}
    (h : List.Forall₂ (fun place fact => Answers sdk place.1 place.2 fact) places facts) :
    ∀ fact ∈ facts, fact.Shape := by
  intro fact hfact
  obtain ⟨place, _, hanswers⟩ := exists_of_forall₂ h fact hfact
  exact hanswers.shape

theorem Looped.created_facts {failed : Bool} (h : Looped sdk graph executed facts [] failed state) :
    state.resolver.created.map Prod.snd = facts := by
  rw [h.created, List.append_nil, List.map_map]
  exact List.map_id _

theorem Looped.truthful (h : Looped sdk graph executed facts [] failure.isSome state)
    (hreceipt : previewReceipt sdk graph failure state = .ok receipt) : Truthful sdk graph executed receipt := by
  obtain ⟨hhash, houtcome, hnode, houtputs⟩ := previewReceipt_ok hreceipt
  refine ⟨hhash, ?_, ?_, ?_⟩
  · rw [houtcome]
    cases failure with
    | none => simp [(h.complete rfl).1]
    | some fault =>
      obtain ⟨node, rest, hsplit, _⟩ := h.stopped rfl
      simp [hsplit]
  · intro node rest hsplit
    rw [hnode]
    cases failure with
    | none =>
      rw [(h.complete rfl).1] at hsplit
      simp at hsplit
    | some fault =>
      obtain ⟨stopped, later, hstopped, hstate, _⟩ := h.stopped rfl
      obtain ⟨rfl, _⟩ := List.cons.inj (List.append_cancel_left (hsplit.symm.trans hstopped))
      exact hstate
  · have hperm := outputs_perm shown (fun _ => rfl) (fun _ _ hcopy => (rolledBack_keeps hcopy).1) houtputs
    rw [h.created_facts, shown_answers h.answers] at hperm
    exact hperm

theorem Looped.failure_hash (h : Looped sdk graph executed facts extra true state) (hgraph : AcceptedGraph sdk graph)
    (hdigest : ∀ text, Hash (sdk.Sha256 text)) : Hash state.failureNode := by
  obtain ⟨node, rest, hsplit, hnode, _⟩ := h.stopped rfl
  rw [hnode, hgraph.identity node (by simp [hsplit])]
  exact hdigest _

/-- With nothing of the node the loop stopped at, the receipt is made when the elements
    created are distinct. -/
theorem Looped.exists_receipt (h : Looped sdk graph executed facts [] failure.isSome state)
    (hgraph : AcceptedGraph sdk graph) (hdigest : ∀ text, Hash (sdk.Sha256 text))
    (hunique : (facts.map fun fact => fact.CreatedUniqueId).Nodup)
    (helement : (facts.map fun fact => fact.CreatedElementId).Nodup) :
    ∃ receipt, previewReceipt sdk graph failure state = .ok receipt := by
  have hshapes := shape_of_answers h.answers
  have hsnapshot : ∀ value ∈ CloseAndSnapshot state.resolver, value.Shape := by
    intro value hvalue
    obtain ⟨fact, hfact, rfl⟩ := List.mem_map.1 hvalue
    rw [(byResult_perm _).mem_iff, h.created_facts] at hfact
    rw [DynamicCreatedResultFactV1.clone_of_shape (hshapes fact hfact)]
    exact hshapes fact hfact
  obtain ⟨outputs, houtputs, hall⟩ := rolledBack_all sdk hsnapshot
  have hshown := outputs_perm shown (fun _ => rfl) (fun _ _ hcopy => (rolledBack_keeps hcopy).1) houtputs
  have hids := outputs_perm (fun output => output.CreatedUniqueId) (fun _ => rfl)
    (fun _ _ hcopy => (rolledBack_keeps hcopy).2.1) houtputs
  have helements := outputs_perm (fun output => output.CreatedElementId) (fun _ => rfl)
    (fun _ _ hcopy => (rolledBack_keeps hcopy).2.2) houtputs
  rw [h.created_facts] at hshown hids helements
  have hkeys : (outputs.map fun output => Key output.ResultId output.OutputSlot).Nodup := by
    have hview : (outputs.map fun output => Key output.ResultId output.OutputSlot)
        = (outputs.map shown).map fun pair => declaredKey pair.2 := by
      rw [List.map_map]
      rfl
    have hfacts : ((facts.map shown).map fun pair => declaredKey pair.2)
        = executed.flatMap fun node => node.Outputs.map declaredKey := by
      rw [← answers_keys h.answers, List.map_map]
      rfl
    rw [hview, (hshown.map _).nodup_iff, hfacts]
    obtain ⟨later, hlater⟩ := h.isPrefix
    have hall := hgraph.keys
    rw [← hlater, List.flatMap_append] at hall
    exact (List.nodup_append.1 hall).1
  have hlength : outputs.length ≤ MaximumNodes * MaximumOutputsPerNode := by
    have hsame : outputs.length = (declaredBy executed).length := by
      have hviews := hshown.length_eq
      rw [List.length_map, List.length_map] at hviews
      exact hviews.trans h.answers.length_eq.symm
    rw [hsame]
    have hbound := length_declaredBy fun node hnode => hgraph.outputs node (h.isPrefix.subset hnode)
    exact hbound.trans (Nat.mul_le_mul_right _ (h.isPrefix.length_le.trans hgraph.count))
  simp only [previewReceipt, houtputs, ok_bind, bind_eq_ok, ReceiptHash, require_eq_ok, forEach_eq_ok, pure_eq_ok]
  refine ⟨_, _, ⟨(), ⟨trivial, trivial, hgraph.graphHash, hgraph.document, hgraph.session, hgraph.revision, ?_, trivial, hlength⟩,
    (), ?_, (), ?_, (), hall, (), ⟨hkeys, hids.nodup_iff.2 hunique, helements.nodup_iff.2 helement⟩, rfl⟩, rfl⟩
  · cases failure <;> simp
  · cases failure with
    | none => simp
    | some fault => exact fun _ => ⟨rfl, h.failure_hash hgraph hdigest⟩
  · cases failure with
    | none => exact fun _ => ⟨rfl, rfl⟩
    | some fault => simp

end receipt

section truth

variable {σ : Type} {sdk : SdkHost} {graph : DynamicResultReferenceGraphV1} {host : TransactionalHost σ}

/-- The host never returns a part of what a node declares, and the elements it created are
    distinct. -/
structure Honest (sdk : SdkHost)
    (answers : List (DynamicResultReferenceNodeV1 × List DynamicCreatedResultFactV1)) : Prop where
  whole : ∀ answer ∈ answers, ¬ CoversInPart sdk answer.1 answer.2
  uniqueIds : (((answers.filter fun answer => Covers sdk answer.1 answer.2).flatMap Prod.snd).map
    fun fact => fact.CreatedUniqueId).Nodup
  elementIds : (((answers.filter fun answer => Covers sdk answer.1 answer.2).flatMap Prod.snd).map
    fun fact => fact.CreatedElementId).Nodup

/-- The transaction was rolled back once, and where the host says so there is a receipt
    that is right. -/
def TellsTruth (sdk : SdkHost) (graph : DynamicResultReferenceGraphV1)
    (executed : List DynamicResultReferenceNodeV1) (run : PreviewRun) : Prop :=
  run.calls.countP HostCall.isRollback = 1
    ∧ (.rollback (some true) ∈ run.calls → ∃ receipt, run.result = .ok receipt ∧ Truthful sdk graph executed receipt)

theorem Looped.receipt_iff {failure : Option PreviewFault} {state : PreviewState σ}
    {executed : List DynamicResultReferenceNodeV1} {facts extra : List DynamicCreatedResultFactV1}
    (h : Looped sdk graph executed facts extra failure.isSome state) (hgraph : AcceptedGraph sdk graph)
    (hdigest : ∀ text, Hash (sdk.Sha256 text)) :
    (∃ receipt, previewReceipt sdk graph failure state = .ok receipt ∧ Truthful sdk graph executed receipt) ↔
      Honest sdk (hostAnswers state.calls) := by
  constructor
  · rintro ⟨receipt, hreceipt, htruth⟩
    obtain rfl := h.extra_eq_nil hgraph hreceipt htruth
    have houtputs := (previewReceipt_ok hreceipt).2.2.2
    have hids := outputs_perm (fun output => output.CreatedUniqueId) (fun _ => rfl)
      (fun _ _ hcopy => (rolledBack_keeps hcopy).2.1) houtputs
    have helements := outputs_perm (fun output => output.CreatedElementId) (fun _ => rfl)
      (fun _ _ hcopy => (rolledBack_keeps hcopy).2.2) houtputs
    have hhash := htruth.accepted
    simp only [ReceiptHash, bind_eq_ok, require_eq_ok] at hhash
    obtain ⟨_, _, _, _, _, _, _, _, _, ⟨_, hunique, helement⟩, _⟩ := hhash
    rw [h.created_facts] at hids helements
    refine ⟨fun answer hanswer hpart => h.partly.2 ⟨answer, hanswer, hpart⟩ rfl, ?_, ?_⟩
    · rw [← (h.given.map _).nodup_iff, ← hids.nodup_iff]
      exact hunique
    · rw [← (h.given.map _).nodup_iff, ← helements.nodup_iff]
      exact helement
  · intro hhonest
    have hnone : extra = [] := by
      by_contra hsome
      obtain ⟨answer, hanswer, hpart⟩ := h.partly.1 hsome
      exact hhonest.whole answer hanswer hpart
    subst hnone
    obtain ⟨receipt, hreceipt⟩ := h.exists_receipt hgraph hdigest ((h.given.map _).nodup_iff.2 hhonest.uniqueIds)
      ((h.given.map _).nodup_iff.2 hhonest.elementIds)
    exact ⟨receipt, hreceipt, h.truthful hreceipt⟩

theorem countP_rollback {calls : List HostCall} (h : ∀ call ∈ calls, call.isRollback = false)
    (verified : Option Bool) : (calls ++ [HostCall.rollback verified]).countP HostCall.isRollback = 1 := by
  have hnone : calls.countP HostCall.isRollback = 0 :=
    List.countP_eq_zero.2 fun call hcall => by rw [h call hcall]; exact Bool.false_ne_true
  rw [List.countP_append, hnone]
  rfl

theorem mem_rollback {calls : List HostCall} (h : ∀ call ∈ calls, call.isRollback = false)
    {verified : Option Bool} : HostCall.rollback (some true) ∈ calls ++ [.rollback verified] ↔ verified = some true := by
  constructor
  · intro hcall
    rcases List.mem_append.1 hcall with hearlier | hlast
    · cases h _ hearlier
    · exact (HostCall.rollback.inj (List.mem_singleton.1 hlast)).symm
  · rintro rfl
    exact List.mem_append_right _ List.mem_cons_self

/-- The end of a preview tells the truth exactly when, the rollback verified, what the
    host returned for the nodes is honest. -/
theorem Looped.finish {failure : Option PreviewFault} {state : PreviewState σ}
    {executed : List DynamicResultReferenceNodeV1} {facts extra : List DynamicCreatedResultFactV1}
    (h : Looped sdk graph executed facts extra failure.isSome state) (hgraph : AcceptedGraph sdk graph)
    (hdigest : ∀ text, Hash (sdk.Sha256 text)) :
    TellsTruth sdk graph executed (finishPreview sdk graph host failure state) ↔
      (.rollback (some true) ∈ (finishPreview sdk graph host failure state).calls →
        Honest sdk (hostAnswers (finishPreview sdk graph host failure state).calls)) := by
  have hanswers : ∀ verified, hostAnswers (state.calls ++ [.rollback verified]) = hostAnswers state.calls := by
    intro verified
    rw [hostAnswers_append]
    exact List.append_nil _
  unfold finishPreview TellsTruth
  split
  · rw [mem_rollback h.unfinished]
    exact ⟨fun _ => nofun, fun _ => ⟨countP_rollback h.unfinished _, nofun⟩⟩
  · rw [mem_rollback h.unfinished]
    exact ⟨fun _ => nofun, fun _ => ⟨countP_rollback h.unfinished _, nofun⟩⟩
  · have hmapped : ∀ receipt, (previewReceipt sdk graph failure state).mapError PreviewFault.sdk = .ok receipt ↔
        previewReceipt sdk graph failure state = .ok receipt := by
      intro receipt
      cases previewReceipt sdk graph failure state <;> simp [Except.mapError]
    simp only [mem_rollback h.unfinished, hanswers, hmapped, forall_const, h.receipt_iff hgraph hdigest]
    exact ⟨fun htruth => htruth.2, fun hhonest => ⟨countP_rollback h.unfinished _, hhonest⟩⟩

theorem execute_eq_finish {budget : DynamicEffectBudgetV1} {kinds : List String}
    {trusted : String → Option DynamicTrustedElementFactV1} {outside opened : σ}
    (hvalid : Validate budget trusted sdk graph kinds = .ok ())
    (hbegin : host.Begin graph outside = (.ok (), opened)) :
    Execute sdk graph host budget kinds trusted outside =
      finishPreview sdk graph host (visitAll sdk graph host graph.Nodes (.start opened)).1
        (visitAll sdk graph host graph.Nodes (.start opened)).2 := by
  simp only [Execute, hvalid, validateWorkerOutput_of_validate hvalid, hbegin]

/-- What follows the opening of the transaction tells the truth exactly where the host is
    honest, for every loop over an accepted graph. -/
theorem AcceptedGraph.finish_visitAll (hgraph : AcceptedGraph sdk graph) (hdigest : ∀ text, Hash (sdk.Sha256 text))
    (host : TransactionalHost σ) (opened : σ) :
    TellsTruth sdk graph (executedNodes sdk graph host graph.Nodes (.start opened))
        (finishPreview sdk graph host (visitAll sdk graph host graph.Nodes (.start opened)).1
          (visitAll sdk graph host graph.Nodes (.start opened)).2) ↔
      (.rollback (some true) ∈ (finishPreview sdk graph host (visitAll sdk graph host graph.Nodes (.start opened)).1
          (visitAll sdk graph host graph.Nodes (.start opened)).2).calls →
        Honest sdk (hostAnswers (finishPreview sdk graph host (visitAll sdk graph host graph.Nodes (.start opened)).1
          (visitAll sdk graph host graph.Nodes (.start opened)).2).calls)) := by
  have hstart : Progress sdk [] [] (PreviewState.start opened) :=
    ⟨rfl, rfl, .nil, by simp [hostAnswers, PreviewState.start], .refl _, by simp [PreviewState.start, HostCall.isRollback]⟩
  obtain ⟨facts, extra, hlooped⟩ := looped_of_visitAll host hgraph rfl hstart
  rw [List.nil_append] at hlooped
  exact hlooped.finish hgraph hdigest

/-- Once the transaction is open a preview tells the truth exactly when, the rollback
    verified, what the host returned for the nodes is honest. -/
theorem preview_receipt_truthful_iff (hdigest : ∀ text, Hash (sdk.Sha256 text)) {budget : DynamicEffectBudgetV1}
    {kinds : List String} {trusted : String → Option DynamicTrustedElementFactV1} {outside opened : σ}
    (hvalid : Validate budget trusted sdk graph kinds = .ok ())
    (hbegin : host.Begin graph outside = (.ok (), opened)) :
    TellsTruth sdk graph (executedNodes sdk graph host graph.Nodes (.start opened))
        (Execute sdk graph host budget kinds trusted outside) ↔
      (.rollback (some true) ∈ (Execute sdk graph host budget kinds trusted outside).calls →
        Honest sdk (hostAnswers (Execute sdk graph host budget kinds trusted outside).calls)) := by
  rw [execute_eq_finish hvalid hbegin]
  exact (acceptedGraph_of_validate hvalid).finish_visitAll hdigest host opened

end truth

section samples

def oneHash : String := "sha256:1000000000000000000000000000000000000000000000000000000000000000"

/-- Copy one element into two. -/
def copyNode : DynamicResultReferenceNodeV1 where
  NodeId := zeroHash
  Kind := "copy_element"
  DependsOn := []
  ExternalTargets := []
  ResultReferences := []
  Outputs := [⟨zeroHash, "first", zeroHash, "walls", "type-1"⟩, ⟨oneHash, "second", zeroHash, "walls", "type-1"⟩]
  Attributes := duplication.attributes

def copyGraph : DynamicResultReferenceGraphV1 where
  Schema := GraphSchema
  ContractManifestHash := zeroHash
  InputHash := zeroHash
  DocumentFingerprint := zeroHash
  DocumentSessionId := "session"
  DocumentRevision := 0
  Nodes := [copyNode]
  GraphHash := zeroHash

theorem oneHash_apart : Hash oneHash ∧ oneHash ≠ zeroHash := by
  decide +kernel

theorem copyNode_shape : ValidateNodeShape copyNode = .ok () := by
  have hids := @id_names 128 le_rfl
  have houtputs : ∀ output ∈ copyNode.Outputs, ValidateOutputShape output = .ok () := by
    simp only [copyNode, List.forall_mem_cons]
    exact ⟨require_of (walls_shape hash_zeroHash (hids "first" (by simp))),
      require_of (walls_shape oneHash_apart.1 (hids "second" (by simp))), by simp⟩
  exact nodeShape_eq_ok.2 ⟨⟨hids "copy_element" (by simp), by decide, by decide, by decide, by decide, by decide,
    List.forall_mem_singleton.2 ⟨hids "transform" (by simp), by decide⟩⟩, by simp [copyNode], by simp [copyNode],
    by simp [copyNode], houtputs, by simp [copyNode], by simp [copyNode], by simp [copyNode, oneHash_apart.2.symm],
    by simp [copyNode]⟩

theorem copyGraph_valid : Validate (sampleBudget 32 224 0) (fun _ => none) constantSdk copyGraph ["copy_element"] = .ok () := by
  have hhashes : RequireHashes [copyGraph.InputHash, copyGraph.DocumentFingerprint, copyGraph.GraphHash] = .ok () :=
    require_of (by simp [copyGraph, hash_zeroHash])
  have hbudget : (sampleBudget 32 224 0).Validate = .ok () :=
    sampleBudget_valid (by decide) (by decide) (by decide) (by decide)
  rw [Validate, require_of ⟨rfl, rfl, by decide, by decide, by decide, id_names (by decide) "session" (by simp)⟩, ok_bind, hhashes,
    ok_bind,
    hbudget, ok_bind, require_of ⟨List.mem_singleton_self _, by decide⟩, ok_bind]
  simp only [copyGraph, List.foldlM_cons, List.foldlM_nil, policyNode, copyNode_shape, ok_bind]
  exact eq_ok_of_isOk (by decide +kernel)

/-- The copy of the given identity under a declared output. -/
def copied (resultId slot uniqueId : String) (elementId : Int) : DynamicCreatedResultFactV1 where
  Schema := OutputFactSchema
  ProducerNodeId := zeroHash
  ResultId := resultId
  OutputSlot := slot
  CreatedUniqueId := uniqueId
  CreatedElementId := elementId
  DocumentFingerprint := zeroHash
  CategoryStableId := "walls"
  TypeUniqueId := "type-1"
  StateHash := zeroHash
  Status := "created_verified"
  Verified := true
  Visible := true
  OutputHash := zeroHash

/-- A host that answers every node alike and always rolls back. -/
def sampleHost (answer : Except PreviewFault (List DynamicCreatedResultFactV1)) : TransactionalHost Unit where
  Begin _ := pure ()
  ExecuteNode _ _ := answer
  Rollback := pure true
  liveExternalTarget _ := pure none

/-- Two outputs of two elements. -/
def twoElements : List DynamicCreatedResultFactV1 :=
  [copied zeroHash "first" "wall-2" 2, copied oneHash "second" "wall-3" 3]

/-- Two outputs of one element. -/
def sharedElement : List DynamicCreatedResultFactV1 :=
  [copied zeroHash "first" "wall-2" 2, copied oneHash "second" "wall-2" 2]

def copyPreview (answer : Except PreviewFault (List DynamicCreatedResultFactV1)) : PreviewRun :=
  Execute constantSdk copyGraph (sampleHost answer) (sampleBudget 32 224 0) ["copy_element"] (fun _ => none) ()

/-- How the loop over the only node ends. -/
def copyLoop (answer : Except PreviewFault (List DynamicCreatedResultFactV1)) :
    Option PreviewFault × PreviewState Unit :=
  visitAll constantSdk copyGraph (sampleHost answer) copyGraph.Nodes (.start ())

theorem copyLoop_calls (facts : List DynamicCreatedResultFactV1) :
    (copyLoop (.ok facts)).2.calls = [.begin, .executeNode copyNode (some facts)] := by
  have hvisit : visit constantSdk copyGraph (sampleHost (.ok facts)) copyNode (.start ())
      = ((RegisterSuccessfulOutputs constantSdk copyGraph ⟨[], []⟩ copyNode facts).1.mapError .sdk,
        ⟨(), (RegisterSuccessfulOutputs constantSdk copyGraph ⟨[], []⟩ copyNode facts).2, zeroHash,
          [.begin, .executeNode copyNode (some facts)]⟩) := rfl
  simp only [copyLoop, copyGraph, visitAll]
  rw [← copyGraph, hvisit]
  split
  · next hturn =>
    obtain ⟨_, rfl⟩ := Prod.mk.inj hturn
    rfl
  · next hturn =>
    obtain ⟨_, rfl⟩ := Prod.mk.inj hturn
    rfl

theorem copyPreview_eq (answer : Except PreviewFault (List DynamicCreatedResultFactV1)) : copyPreview answer =
    finishPreview constantSdk copyGraph (sampleHost answer) (copyLoop answer).1 (copyLoop answer).2 :=
  execute_eq_finish copyGraph_valid rfl

theorem copyPreview_rolled_back (answer : Except PreviewFault (List DynamicCreatedResultFactV1)) :
    (copyPreview answer).calls = (copyLoop answer).2.calls ++ [.rollback (some true)] := by
  rw [copyPreview_eq]
  rfl

theorem copyPreview_answers (facts : List DynamicCreatedResultFactV1) :
    hostAnswers (copyPreview (.ok facts)).calls = [(copyNode, facts)] := by
  rw [copyPreview_rolled_back, copyLoop_calls]
  rfl

theorem copied_shape {resultId slot uniqueId : String} {elementId : Int} (hresult : Hash resultId) (hslot : Id slot 128)
    (hunique : Id uniqueId 256) (helement : 0 ≤ elementId) :
    ValidateCreatedFactShape constantSdk (copied resultId slot uniqueId elementId) true = .ok () := by
  obtain ⟨_, _, _, hcategory, htype⟩ := walls_shape hresult hslot
  exact require_of ⟨⟨rfl, hash_zeroHash, hresult, hslot, hunique, helement, hash_zeroHash, hcategory, htype,
    hash_zeroHash, by simp [copied], rfl, fun _ => rfl⟩, fun _ => rfl⟩

theorem copies_cover {firstId secondId : String} {first second : Int} (hfirst : Id firstId 256) (hsecond : Id secondId 256)
    (hfirstPos : 0 ≤ first) (hsecondPos : 0 ≤ second) :
    Covers constantSdk copyNode [copied zeroHash "first" firstId first, copied oneHash "second" secondId second] := by
  have hids := @id_names 128 le_rfl
  refine ⟨rfl, fun declaration hdeclaration => ?_⟩
  simp only [copyNode, List.mem_cons, List.not_mem_nil, or_false] at hdeclaration
  rcases hdeclaration with rfl | rfl
  · have hfound : [copied zeroHash "first" firstId first, copied oneHash "second" secondId second].filter (fun value =>
        value.ResultId = zeroHash ∧ value.OutputSlot = "first") = [copied zeroHash "first" firstId first] := by
      simp [copied, oneHash_apart.2]
    simp only [declaredFact, hfound, copied_shape hash_zeroHash (hids "first" (by simp)) hfirst hfirstPos, ok_bind]
    rw [require_of ⟨rfl, rfl, rfl, rfl, rfl⟩]
    rfl
  · have hfound : [copied zeroHash "first" firstId first, copied oneHash "second" secondId second].filter (fun value =>
        value.ResultId = oneHash ∧ value.OutputSlot = "second") = [copied oneHash "second" secondId second] := by
      simp [copied, oneHash_apart.2.symm]
    simp only [declaredFact, hfound, copied_shape oneHash_apart.1 (hids "second" (by simp)) hsecond hsecondPos, ok_bind]
    rw [require_of ⟨rfl, rfl, rfl, rfl, rfl⟩]
    rfl

/-- A preview whose host answers the only node with both its outputs is truthful. -/
theorem covered_copy_truthful : TellsTruth constantSdk copyGraph
    (executedNodes constantSdk copyGraph (sampleHost (.ok twoElements)) copyGraph.Nodes (.start ()))
    (copyPreview (.ok twoElements)) := by
  have hids := @id_names 256 (by decide)
  have hall : ∀ answer ∈ [(copyNode, twoElements)], Covers constantSdk answer.1 answer.2 := by
    intro answer hanswer
    obtain rfl := List.mem_singleton.1 hanswer
    exact copies_cover (hids "wall-2" (by simp)) (hids "wall-3" (by simp)) (by decide) (by decide)
  have hkept : [(copyNode, twoElements)].filter (fun answer => Covers constantSdk answer.1 answer.2)
      = [(copyNode, twoElements)] := List.filter_eq_self.2 fun answer hanswer => decide_eq_true (hall answer hanswer)
  have hhonest : Honest constantSdk [(copyNode, twoElements)] := by
    refine ⟨fun answer hanswer hpart => hpart.2.1 (hall answer hanswer), ?_, ?_⟩
    · rw [hkept]
      decide
    · rw [hkept]
      decide
  refine (preview_receipt_truthful_iff (fun _ => hash_zeroHash) copyGraph_valid rfl).2 fun _ => ?_
  exact (copyPreview_answers twoElements).symm ▸ hhonest

/-- A host that returns one element under two outputs gets no receipt. -/
theorem shared_element_without_receipt : ¬ ∀ (σ : Type) (sdk : SdkHost) (graph : DynamicResultReferenceGraphV1)
    (host : TransactionalHost σ) (budget : DynamicEffectBudgetV1) (kinds : List String)
    (trusted : String → Option DynamicTrustedElementFactV1) (outside opened : σ),
    (∀ text, Hash (sdk.Sha256 text)) → Validate budget trusted sdk graph kinds = .ok () →
    host.Begin graph outside = (.ok (), opened) →
    TellsTruth sdk graph (executedNodes sdk graph host graph.Nodes (.start opened))
      (Execute sdk graph host budget kinds trusted outside) := by
  intro h
  have htruth := h Unit constantSdk copyGraph (sampleHost (.ok sharedElement)) (sampleBudget 32 224 0) ["copy_element"]
    (fun _ => none) () () (fun _ => hash_zeroHash) copyGraph_valid rfl
  have hverified : HostCall.rollback (some true) ∈ (copyPreview (.ok sharedElement)).calls := by
    rw [copyPreview_rolled_back]
    exact List.mem_append_right _ List.mem_cons_self
  rw [execute_eq_finish copyGraph_valid rfl, (acceptedGraph_of_validate copyGraph_valid).finish_visitAll
    fun _ => hash_zeroHash] at htruth
  have hhonest : Honest constantSdk [(copyNode, sharedElement)] := by
    rw [← copyPreview_answers, copyPreview_eq]
    exact htruth (copyPreview_eq _ ▸ hverified)
  have hid : Id "wall-2" 256 := id_names (by decide) _ (by simp)
  have hcovers : Covers constantSdk copyNode sharedElement := copies_cover hid hid (by decide) (by decide)
  have hdistinct := hhonest.uniqueIds
  simp only [List.filter_cons, hcovers, decide_true, if_true, List.filter_nil] at hdistinct
  exact absurd hdistinct (by decide)

end samples

end revit_operator.dynamic_revit_sdk
