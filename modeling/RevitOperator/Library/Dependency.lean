import Mathlib.Data.Finset.Card
import Mathlib.Data.Finset.Dedup
import Mathlib.Data.List.Nodup
import Mathlib.Logic.Relation

/-! Depth-first search for a cycle. The search decides whether the edges
between finitely many nodes have one. Entries that depend on earlier ones only have
none. -/

namespace dependency

variable {α : Type} {successors : α → List α} {nodes visiting finished result : List α}
  {node next : α} {fuel : Nat}

/-- Depth-first search from a node: it fails when it meets a node it is still
    visiting and returns the nodes it has finished, the last one first. -/
def search [DecidableEq α] (successors : α → List α) : Nat → List α → List α → α → Option (List α)
  | 0, _, _, _ => none
  | fuel + 1, visiting, finished, node =>
    if node ∈ visiting then none
    else if node ∈ finished then some finished
    else ((successors node).foldlM (search successors fuel (node :: visiting)) finished).map (node :: ·)

/-- There is an edge between two nodes. -/
def Edge (successors : α → List α) (node next : α) : Prop := next ∈ successors node

/-- No node depends on itself. -/
def Acyclic (successors : α → List α) : Prop := ∀ node, ¬ Relation.TransGen (Edge successors) node node

/-- Every node of the list comes before all of its successors. -/
def Finished (successors : α → List α) : List α → Prop
  | [] => True
  | node :: rest => (∀ next ∈ successors node, next ∈ rest) ∧ Finished successors rest

theorem Finished.acc (h : Finished successors finished) (hnode : node ∈ finished) :
    Acc (fun next node => Edge successors node next) node := by
  induction finished generalizing node with
  | nil => cases hnode
  | cons first rest ih =>
    rcases List.mem_cons.1 hnode with rfl | hrest
    · exact Acc.intro node fun next hnext => ih h.2 (h.1 next hnext)
    · exact ih h.2 hrest

theorem not_cyclic_of_acc (h : Acc (fun next node => Edge successors node next) node) :
    ¬ Relation.TransGen (Edge successors) node node := by
  induction h with
  | intro node _ ih =>
    intro hcycle
    obtain ⟨next, hnext, hback⟩ := Relation.TransGen.head'_iff.1 hcycle
    exact ih next hnext (Relation.TransGen.tail' hback hnext)

section soundness

/-- What one call of the search adds to the finished nodes. -/
structure Extends (successors : α → List α) (before after : List α) : Prop where
  finished : Finished successors after
  kept : ∀ node ∈ before, node ∈ after

private theorem foldlM_extends {visit : List α → α → Option (List α)} {pending : List α}
    (hvisit : ∀ finished node result, visit finished node = some result → Finished successors finished →
      Extends successors finished result ∧ node ∈ result)
    (h : pending.foldlM visit finished = some result) (hfinished : Finished successors finished) :
    Extends successors finished result ∧ ∀ node ∈ pending, node ∈ result := by
  induction pending generalizing finished with
  | nil =>
    obtain rfl : finished = result := Option.some.inj h
    exact ⟨⟨hfinished, fun _ hmem => hmem⟩, fun _ hmem => nomatch hmem⟩
  | cons first rest ih =>
    obtain ⟨mid, hmid, hrest⟩ := Option.bind_eq_some_iff.1 ((List.foldlM_cons ..).symm.trans h)
    obtain ⟨hfirst, hmem⟩ := hvisit finished first mid hmid hfinished
    obtain ⟨hlater, hall⟩ := ih hrest hfirst.finished
    refine ⟨⟨hlater.finished, fun node hnode => hlater.kept node (hfirst.kept node hnode)⟩, fun node hnode => ?_⟩
    rcases List.mem_cons.1 hnode with rfl | hnode
    · exact hlater.kept _ hmem
    · exact hall node hnode

theorem search_extends [DecidableEq α] (h : search successors fuel visiting finished node = some result)
    (hfinished : Finished successors finished) : Extends successors finished result ∧ node ∈ result := by
  induction fuel generalizing visiting finished node result with
  | zero => cases h
  | succ fuel ih =>
    unfold search at h
    split at h
    · cases h
    · split at h
      · next hdone =>
        obtain rfl : finished = result := Option.some.inj h
        exact ⟨⟨hfinished, fun _ hmem => hmem⟩, hdone⟩
      · obtain ⟨below, hbelow, rfl⟩ := Option.map_eq_some_iff.1 h
        obtain ⟨hextends, hall⟩ := foldlM_extends (fun _ _ _ => ih) hbelow hfinished
        exact ⟨⟨⟨hall, hextends.finished⟩, fun node hnode => List.mem_cons_of_mem _ (hextends.kept node hnode)⟩,
          List.mem_cons_self⟩

theorem acyclic_of_search [DecidableEq α] (hclosed : ∀ node next, Edge successors node next → next ∈ nodes)
    (h : nodes.foldlM (search successors fuel []) [] = some result) : Acyclic successors := by
  obtain ⟨hextends, hall⟩ := foldlM_extends (fun _ _ _ => search_extends) h trivial
  intro node hcycle
  obtain ⟨last, -, hlast⟩ := Relation.TransGen.tail'_iff.1 hcycle
  have hnode : node ∈ result := hall node (hclosed last node hlast)
  exact not_cyclic_of_acc (hextends.finished.acc hnode) hcycle

end soundness

section completeness

private theorem foldlM_isSome {visit : List α → α → Option (List α)} {pending : List α}
    (hvisit : ∀ finished, ∀ node ∈ pending, (visit finished node).isSome = true) :
    (pending.foldlM visit finished).isSome = true := by
  induction pending generalizing finished with
  | nil => rfl
  | cons first rest ih =>
    obtain ⟨mid, hmid⟩ := Option.isSome_iff_exists.1 (hvisit finished first List.mem_cons_self)
    rw [List.foldlM_cons, hmid]
    exact ih fun finished node hnode => hvisit finished node (List.mem_cons_of_mem _ hnode)

theorem search_isSome [DecidableEq α] {rank : α → Nat} (hrank : ∀ node next, Edge successors node next → rank next < rank node)
    (hfuel : rank node < fuel) (hvisiting : ∀ open_ ∈ visiting, rank node < rank open_) :
    (search successors fuel visiting finished node).isSome = true := by
  induction fuel generalizing visiting finished node with
  | zero => omega
  | succ fuel ih =>
    have hnew : node ∉ visiting := fun hmem => (hvisiting node hmem).false
    unfold search
    rw [if_neg hnew]
    split
    · rfl
    · rw [Option.isSome_map]
      refine foldlM_isSome fun finished next hnext => ?_
      have hlower := hrank node next hnext
      refine ih (by omega) fun open_ hopen => ?_
      rcases List.mem_cons.1 hopen with rfl | hopen
      · exact hlower
      · exact hlower.trans (hvisiting open_ hopen)

/-- The number of nodes a node depends on. -/
private noncomputable def rankOf [DecidableEq α] (successors : α → List α) (nodes : List α) (node : α) : Nat :=
  open Classical in (nodes.toFinset.filter fun next => Relation.TransGen (Edge successors) node next).card

private theorem rankOf_lt [DecidableEq α] (hclosed : ∀ node next, Edge successors node next → next ∈ nodes)
    (hacyclic : Acyclic successors) (hedge : Edge successors node next) :
    rankOf successors nodes next < rankOf successors nodes node := by
  classical
  refine Finset.card_lt_card (Finset.ssubset_iff_subset_ne.2 ⟨fun last hlast => ?_, fun hsame => ?_⟩)
  · rw [Finset.mem_filter] at hlast ⊢
    exact ⟨hlast.1, .head hedge hlast.2⟩
  · have hnext : next ∈ nodes.toFinset.filter fun next => Relation.TransGen (Edge successors) node next :=
      Finset.mem_filter.2 ⟨List.mem_toFinset.2 (hclosed node next hedge), .single hedge⟩
    rw [← hsame, Finset.mem_filter] at hnext
    exact hacyclic next hnext.2

private theorem rankOf_le [DecidableEq α] (nodes : List α) (node : α) : rankOf successors nodes node ≤ nodes.length := by
  classical
  exact (Finset.card_filter_le _ _).trans (List.toFinset_card_le nodes)

theorem search_isSome_iff_acyclic [DecidableEq α] (hclosed : ∀ node next, Edge successors node next → next ∈ nodes)
    (hfuel : nodes.length < fuel) :
    (nodes.foldlM (search successors fuel []) []).isSome = true ↔ Acyclic successors := by
  refine ⟨fun h => ?_, fun h => ?_⟩
  · obtain ⟨result, hresult⟩ := Option.isSome_iff_exists.1 h
    exact acyclic_of_search hclosed hresult
  · refine foldlM_isSome fun finished node _ => ?_
    have hrank : rankOf successors nodes node ≤ nodes.length := rankOf_le nodes node
    exact search_isSome (fun _ _ hedge => rankOf_lt hclosed h hedge) (by omega) fun _ hmem => nomatch hmem

end completeness

section ordered

variable {β : Type} (identity : α → β) (dependsOn : α → List β)

/-- Entries depend on entries before them. -/
def Earlier (entries : List α) : Prop :=
  ∀ index entry, entries[index]? = some entry →
    ∀ dependency ∈ dependsOn entry, ∃ prior ∈ entries.take index, identity prior = dependency

/-- An entry of the first identity depends on the second. -/
def Directly (entries : List α) (first second : β) : Prop :=
  ∃ entry ∈ entries, identity entry = first ∧ second ∈ dependsOn entry

variable {identity dependsOn} {entries : List α}

theorem idxOf_lt_of_directly [DecidableEq β] (hdistinct : (entries.map identity).Nodup)
    (hearlier : Earlier identity dependsOn entries) {first second : β}
    (h : Directly identity dependsOn entries first second) :
    (entries.map identity).idxOf second < (entries.map identity).idxOf first := by
  obtain ⟨entry, hentry, rfl, hsecond⟩ := h
  obtain ⟨index, hindex⟩ := List.getElem?_of_mem hentry
  obtain ⟨hlt, hget⟩ := List.getElem?_eq_some_iff.1 hindex
  obtain ⟨prior, hprior, hsame⟩ := hearlier index entry hindex second hsecond
  have hmem : second ∈ (entries.take index).map identity := hsame ▸ List.mem_map_of_mem hprior
  have hbefore : (entries.map identity).idxOf second < index := by
    have hsplit : entries.map identity = (entries.take index).map identity ++ (entries.drop index).map identity := by
      rw [← List.map_append, List.take_append_drop]
    rw [hsplit, List.idxOf_append_of_mem hmem]
    have hpos := List.idxOf_lt_length_of_mem hmem
    rw [List.length_map, List.length_take] at hpos
    omega
  have hat : (entries.map identity).idxOf (identity entry) = index := by
    have hlength : index < (entries.map identity).length := by rwa [List.length_map]
    have hvalue : (entries.map identity)[index] = identity entry := by rw [List.getElem_map, hget]
    rw [← hvalue]
    exact hdistinct.idxOf_getElem index hlength
  omega

theorem Earlier.acyclic (hdistinct : (entries.map identity).Nodup)
    (hearlier : Earlier identity dependsOn entries) (first : β) :
    ¬ Relation.TransGen (Directly identity dependsOn entries) first first := by
  classical
  have hdescends : ∀ second, Relation.TransGen (Directly identity dependsOn entries) first second →
      (entries.map identity).idxOf second < (entries.map identity).idxOf first := by
    intro second hpath
    induction hpath with
    | single hstep => exact idxOf_lt_of_directly hdistinct hearlier hstep
    | tail _ hstep ih => exact Nat.lt_trans (idxOf_lt_of_directly hdistinct hearlier hstep) ih
  exact fun hcycle => Nat.lt_irrefl _ (hdescends first hcycle)

end ordered

end dependency
