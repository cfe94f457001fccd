import Mathlib.Data.List.Perm.Basic
import RevitOperator.DynamicRevitSdk.ResultReferenceGraph

/-! What the identity of a node is hashed from: the node up to the order of its
    lists. -/

namespace revit_operator.dynamic_revit_sdk

open DynamicCanonical

variable {α : Type} {first second : DynamicResultReferenceNodeV1}

/-- Two nodes differ in the order of their lists at most. -/
structure SameUpToOrder (first second : DynamicResultReferenceNodeV1) : Prop where
  kind : first.Kind = second.Kind
  dependsOn : first.DependsOn.Perm second.DependsOn
  externalTargets : first.ExternalTargets.Perm second.ExternalTargets
  resultReferences : first.ResultReferences.Perm second.ResultReferences
  outputs : first.Outputs.Perm second.Outputs
  attributes : first.Attributes.pairs.Perm second.Attributes.pairs

theorem joinSorted_map_eq_iff {record : α → String} (hinjective : Function.Injective record)
    (hrecord : ∀ value, ∃ fields, fields ≠ [] ∧ JoinAll fields = record value) {left right : List α} :
    joinSorted (left.map record) = joinSorted (right.map record) ↔ left.Perm right := by
  have hrecords : ∀ values : List α, ∀ entry ∈ text.sorted (values.map record),
      ∃ fields, fields ≠ [] ∧ JoinAll fields = entry := by
    intro values entry hentry
    obtain ⟨value, _, rfl⟩ := List.mem_map.1 (text.mem_sorted.1 hentry)
    exact hrecord value
  constructor
  · intro h
    have hsorted := joinWith_inj (hrecords left) (hrecords right) h
    have hperm : (left.map record).Perm (right.map record) :=
      (text.sorted_perm _).symm.trans (hsorted ▸ text.sorted_perm _)
    exact (List.map_perm_map_iff hinjective).1 hperm
  · intro h
    rw [joinSorted, joinSorted, text.sorted_eq_of_perm (h.map record)]

theorem externalCanonical_injective : Function.Injective ExternalCanonical := by
  intro left right h
  have hfields := joinAll_injective h
  simp only [List.cons.injEq, and_true] at hfields
  obtain ⟨hunique, helement, hdocument, hcategory, htype, hstate⟩ := hfields
  have helement := toString_int_injective helement
  cases left
  cases right
  simp_all only

theorem referenceCanonical_injective : Function.Injective ReferenceCanonical := by
  intro left right h
  have hfields := joinAll_injective h
  simp only [List.cons.injEq, and_true] at hfields
  cases left
  cases right
  simp_all only

theorem outputCanonical_injective : Function.Injective OutputCanonical := by
  intro left right h
  have hfields := joinAll_injective h
  simp only [List.cons.injEq, and_true] at hfields
  cases left
  cases right
  simp_all only

theorem referenceMatches_iff {value : DynamicSymbolicResultReferenceV1} {output : DynamicResultOutputDeclarationV1} :
    ReferenceMatches value output ↔ value.ResultId = output.ResultId ∧ value.OutputSlot = output.OutputSlot
      ∧ value.ExpectedDocumentFingerprint = output.ExpectedDocumentFingerprint
      ∧ value.ExpectedCategoryStableId = output.ExpectedCategoryStableId
      ∧ value.ExpectedTypeUniqueId = output.ExpectedTypeUniqueId := by
  constructor
  · intro h
    have hfields := joinAll_injective h
    simpa only [List.cons.injEq, and_true] using hfields
  · rintro ⟨hresult, hslot, hdocument, hcategory, htype⟩
    rw [ReferenceMatches, ReferenceCanonical, OutputCanonical, hresult, hslot, hdocument, hcategory, htype]

/-- Two nodes are hashed from one text exactly when they are the same up to the
    order of their lists. -/
theorem nodePreimage_eq_iff : NodePreimage first = NodePreimage second ↔ SameUpToOrder first second := by
  have hexternal := @joinSorted_map_eq_iff _ _ externalCanonical_injective
    (fun value => ⟨_, List.cons_ne_nil _ _, rfl⟩) first.ExternalTargets second.ExternalTargets
  have hreference := @joinSorted_map_eq_iff _ _ referenceCanonical_injective
    (fun value => ⟨_, List.cons_ne_nil _ _, rfl⟩) first.ResultReferences second.ResultReferences
  have houtput := @joinSorted_map_eq_iff _ _ outputCanonical_injective
    (fun value => ⟨_, List.cons_ne_nil _ _, rfl⟩) first.Outputs second.Outputs
  rw [NodePreimage, NodePreimage, joinAll_injective.eq_iff]
  simp only [List.cons.injEq, and_true, set_eq_iff, map_eq_iff, hexternal, hreference, houtput]
  constructor
  · rintro ⟨hkind, hdepends, hexternals, hreferences, houtputs, hattributes⟩
    exact ⟨hkind, hdepends, hexternals, hreferences, houtputs, hattributes⟩
  · intro h
    exact ⟨h.kind, h.dependsOn, h.externalTargets, h.resultReferences, h.outputs, h.attributes⟩

end revit_operator.dynamic_revit_sdk
