import RevitOperator.Library.Dependency
import RevitOperator.AssignmentKernel.VerifiedPostcondition
import RevitOperator.AssignmentKernel.CompletionSoundness
import RevitOperator.AssignmentKernel.Planning

open checked checked_run

namespace revit_operator.assignment_kernel

namespace AssignmentWorkPlanItemV2

/-- The item is completed. -/
def Completed (item : AssignmentWorkPlanItemV2) : Prop := truthy item.completed_at = true

/-- The item is an edit. -/
def IsEdit (item : AssignmentWorkPlanItemV2) : Prop := item.kind ≠ some .inspection

/-- The items it depends on. -/
def dependencies (item : AssignmentWorkPlanItemV2) : List String := item.depends_on.getD []

/-- What was declared of the item. -/
def declared (item : AssignmentWorkPlanItemV2) : AssignmentWorkPlanItemV2 :=
  { item with
    inspection := none
    operation_ids := []
    completed_at := none
    location_history := none
    deferrals := none }

end AssignmentWorkPlanItemV2

namespace AssignmentWorkPlanV2

def ids (plan : AssignmentWorkPlanV2) : List String := plan.items.map AssignmentWorkPlanItemV2.item_id

/-- An item of the plan depends on another. -/
def DependsOn (plan : AssignmentWorkPlanV2) (id prerequisiteId : String) : Prop :=
  ∃ item ∈ plan.items, item.item_id = id ∧ prerequisiteId ∈ item.dependencies

/-- The invariant of a plan. -/
structure Sound (plan : AssignmentWorkPlanV2) : Prop where
  distinct : plan.ids.Nodup
  closed : ∀ item ∈ plan.items, ∀ id ∈ item.dependencies, id ∈ plan.ids
  acyclic : ∀ id, ¬ Relation.TransGen plan.DependsOn id id
  disjoint : ∀ item ∈ plan.items, ∀ other ∈ plan.items, item.IsEdit → other.IsEdit →
    item.item_id ≠ other.item_id → ∀ id ∈ item.operation_ids, id ∉ other.operation_ids
  prerequisites : ∀ item ∈ plan.items, item.IsEdit → item.Completed → ∀ id ∈ item.dependencies,
    ∃ prerequisite ∈ plan.items, prerequisite.item_id = id ∧ prerequisite.Completed
  undeferred : ∀ item ∈ plan.items, item.Completed → workPlanItemDeferredV2 item = false

end AssignmentWorkPlanV2

/-- Every operation credited to an edit item has a verified postcondition. -/
def CreditsVerified (snapshot : AssignmentSnapshotV2) (plan : AssignmentWorkPlanV2) : Prop :=
  ∀ item ∈ plan.items, item.IsEdit → ∀ id ∈ item.operation_ids,
    appliedOperationHasVerifiedPostconditionV2 snapshot id = true

section updates

variable {snapshot : AssignmentSnapshotV2} {plan : AssignmentWorkPlanV2} {itemId : String}
  {item updated : AssignmentWorkPlanItemV2}

/-- What an update of one item may do to it. -/
structure Updates (snapshot : AssignmentSnapshotV2) (plan : AssignmentWorkPlanV2) (itemId : String)
    (item updated : AssignmentWorkPlanItemV2) : Prop where
  declared : updated.declared = item.declared
  credits : item.IsEdit → ∀ id ∈ updated.operation_ids, id ∈ item.operation_ids
    ∨ item.item_id = itemId ∧ (∀ other ∈ plan.items, id ∉ other.operation_ids)
      ∧ appliedOperationHasVerifiedPostconditionV2 snapshot id = true
  prerequisites : item.IsEdit → updated.Completed → item.Completed ∨ ∀ id ∈ item.dependencies,
    ∃ prerequisite ∈ plan.items, prerequisite.item_id = id ∧ prerequisite.Completed
  completed : item.Completed → updated.Completed
  undeferred : updated.Completed → workPlanItemDeferredV2 updated = false

namespace Updates

variable (h : Updates snapshot plan itemId item updated)

include h

theorem item_id : updated.item_id = item.item_id := (congrArg AssignmentWorkPlanItemV2.item_id h.declared :)

theorem dependencies : updated.dependencies = item.dependencies :=
  (congrArg AssignmentWorkPlanItemV2.dependencies h.declared :)

theorem isEdit (hedit : updated.IsEdit) : item.IsEdit := by
  have hkind : updated.kind = item.kind := (congrArg AssignmentWorkPlanItemV2.kind h.declared :)
  exact fun hinspection => hedit (hkind.trans hinspection)

end Updates

theorem Updates.refl (hsound : plan.Sound) (hitem : item ∈ plan.items) : Updates snapshot plan itemId item item where
  declared := rfl
  credits _ _ hid := .inl hid
  prerequisites _ hcompleted := .inl hcompleted
  completed := id
  undeferred := hsound.undeferred item hitem

variable {update : AssignmentWorkPlanItemV2 → AssignmentWorkPlanItemV2}

theorem sound_of_updates (hsound : plan.Sound) (hverified : CreditsVerified snapshot plan)
    (hupdates : ∀ item ∈ plan.items, Updates snapshot plan itemId item (update item)) :
    ({ plan with items := plan.items.map update } : AssignmentWorkPlanV2).Sound
      ∧ CreditsVerified snapshot { plan with items := plan.items.map update }
      ∧ ({ plan with items := plan.items.map update } : AssignmentWorkPlanV2).items.map
        AssignmentWorkPlanItemV2.declared = plan.items.map AssignmentWorkPlanItemV2.declared := by
  have hids : ({ plan with items := plan.items.map update } : AssignmentWorkPlanV2).ids = plan.ids := by
    simp only [AssignmentWorkPlanV2.ids, List.map_map]
    exact List.map_congr_left fun item hitem => (hupdates item hitem).item_id
  have hdepends : ∀ id next, ({ plan with items := plan.items.map update } : AssignmentWorkPlanV2).DependsOn id next →
      plan.DependsOn id next := by
    rintro id next ⟨_, hmem, hid, hnext⟩
    obtain ⟨item, hitem, rfl⟩ := List.mem_map.1 hmem
    have hupdate := hupdates item hitem
    exact ⟨item, hitem, hupdate.item_id.symm.trans hid, hupdate.dependencies ▸ hnext⟩
  refine ⟨⟨hids ▸ hsound.distinct, ?_, ?_, ?_, ?_, ?_⟩, ?_, ?_⟩
  · intro _ hmem id hid
    obtain ⟨item, hitem, rfl⟩ := List.mem_map.1 hmem
    rw [hids]
    exact hsound.closed item hitem id ((hupdates item hitem).dependencies ▸ hid)
  · intro id hcycle
    exact hsound.acyclic id (Relation.TransGen.mono hdepends id id hcycle)
  · intro _ hmem _ hotherMem hedit hotherEdit hne id hid hotherId
    obtain ⟨item, hitem, rfl⟩ := List.mem_map.1 hmem
    obtain ⟨other, hother, rfl⟩ := List.mem_map.1 hotherMem
    have hupdate := hupdates item hitem
    have hotherUpdate := hupdates other hother
    have hdistinct : item.item_id ≠ other.item_id := by
      rwa [hupdate.item_id, hotherUpdate.item_id] at hne
    -- an operation credited anew was credited to no item, and only one item is credited anew
    obtain hold | ⟨hthis, hfresh, -⟩ := hupdate.credits (hupdate.isEdit hedit) id hid
    · obtain hotherOld | ⟨-, hfresh, -⟩ := hotherUpdate.credits (hotherUpdate.isEdit hotherEdit) id hotherId
      · exact hsound.disjoint item hitem other hother (hupdate.isEdit hedit) (hotherUpdate.isEdit hotherEdit) hdistinct
          id hold hotherOld
      · exact hfresh item hitem hold
    · obtain hotherOld | ⟨hsame, -, -⟩ := hotherUpdate.credits (hotherUpdate.isEdit hotherEdit) id hotherId
      · exact hfresh other hother hotherOld
      · exact hdistinct (hthis.trans hsame.symm)
  · intro _ hmem hedit hcompleted id hid
    obtain ⟨item, hitem, rfl⟩ := List.mem_map.1 hmem
    have hupdate := hupdates item hitem
    rw [hupdate.dependencies] at hid
    have hprerequisite : ∃ prerequisite ∈ plan.items, prerequisite.item_id = id ∧ prerequisite.Completed := by
      obtain hwas | hall := hupdate.prerequisites (hupdate.isEdit hedit) hcompleted
      · exact hsound.prerequisites item hitem (hupdate.isEdit hedit) hwas id hid
      · exact hall id hid
    obtain ⟨prerequisite, hmember, hname, hdone⟩ := hprerequisite
    have hkept := hupdates prerequisite hmember
    exact ⟨_, List.mem_map_of_mem hmember, hkept.item_id.trans hname, hkept.completed hdone⟩
  · intro _ hmem
    obtain ⟨item, hitem, rfl⟩ := List.mem_map.1 hmem
    exact (hupdates item hitem).undeferred
  · intro _ hmem hedit id hid
    obtain ⟨item, hitem, rfl⟩ := List.mem_map.1 hmem
    have hupdate := hupdates item hitem
    obtain hold | ⟨-, -, hnew⟩ := hupdate.credits (hupdate.isEdit hedit) id hid
    · exact hverified item hitem (hupdate.isEdit hedit) id hold
    · exact hnew
  · rw [List.map_map]
    exact List.map_congr_left fun item hitem => (hupdates item hitem).declared

theorem updates_replaceItem (hsound : plan.Sound)
    (hupdate : ∀ item ∈ plan.items, item.item_id = itemId → Updates snapshot plan itemId item (update item)) :
    ∀ item ∈ plan.items, Updates snapshot plan itemId item (if item.item_id = itemId then update item else item) := by
  intro item hitem
  split
  · next hid => exact hupdate item hitem hid
  · exact Updates.refl hsound hitem

theorem found_of_id (hsound : plan.Sound) (hplan : snapshot.work_plan = some plan)
    (hfound : findPlanItem snapshot itemId = some item) :
    item ∈ plan.items ∧ item.item_id = itemId ∧ ∀ other ∈ plan.items, other.item_id = itemId → other = item := by
  rw [findPlanItem, hplan, Option.bind_some] at hfound
  have hmem := List.mem_of_find?_eq_some hfound
  have hid : item.item_id = itemId := by simpa using List.find?_some hfound
  exact ⟨hmem, hid, fun other hother hsame =>
    List.inj_on_of_nodup_map hsound.distinct hother hmem (hsame.trans hid.symm)⟩

end updates

variable {id : String} {declaration : WorkPlanDeclarationV2}

section plans

variable {host : JavaScriptHost} {snapshot : AssignmentSnapshotV2} {plan next : AssignmentWorkPlanV2}
  {itemId occurredAt : String}

/-- What one accepted plan event keeps. -/
structure PlanKept (snapshot : AssignmentSnapshotV2) (prior : List AssignmentWorkPlanItemV2)
    (next : AssignmentWorkPlanV2) : Prop where
  sound : next.Sound
  verified : CreditsVerified snapshot next
  retained : prior.map AssignmentWorkPlanItemV2.declared <+: next.items.map AssignmentWorkPlanItemV2.declared

theorem recordWorkPlanLocationV2_keeps {hint : WorkPlanLocationHintV2} (hplan : snapshot.work_plan = some plan)
    (hsound : plan.Sound) (hverified : CreditsVerified snapshot plan)
    (h : recordWorkPlanLocationV2 host snapshot itemId hint occurredAt = .ok next) :
    PlanKept snapshot plan.items next := by
  unfold recordWorkPlanLocationV2 at h
  rw [hplan] at h
  split at h
  · next own item hown hfound =>
    obtain rfl := Option.some.inj hown
    simp only [check_bind_eq_ok, pure_eq_ok] at h
    obtain ⟨-, -, -, -, -, -, -, rfl⟩ := h
    have hrecorded : ∀ candidate ∈ plan.items, candidate.item_id = itemId →
        Updates snapshot plan itemId candidate { candidate with
          location_history :=
            some ((item.location_history.getD []) ++ [⟨hint, occurredAt, snapshot.current_binding⟩]) } :=
      fun candidate hcandidate _ =>
        ⟨rfl, fun _ _ hid => .inl hid, fun _ hcompleted => .inl hcompleted, id, hsound.undeferred candidate hcandidate⟩
    obtain ⟨hkept, hcredits, hdeclared⟩ :=
      sound_of_updates hsound hverified (updates_replaceItem hsound hrecorded)
    exact ⟨hkept, hcredits, hdeclared ▸ List.prefix_rfl⟩
  · cases h

theorem deferWorkPlanItemV2_keeps {action : DeferralAction} {reason : String} (hplan : snapshot.work_plan = some plan)
    (hsound : plan.Sound) (hverified : CreditsVerified snapshot plan)
    (h : deferWorkPlanItemV2 snapshot itemId action reason occurredAt = .ok next) :
    PlanKept snapshot plan.items next := by
  unfold deferWorkPlanItemV2 at h
  split at h
  · next own item hown hfound =>
    obtain rfl := Option.some.inj (hown.symm.trans hplan)
    obtain ⟨-, -, hunique⟩ := found_of_id hsound hplan hfound
    simp only [check_bind_eq_ok, require_eq_ok, pure_eq_ok] at h
    obtain ⟨⟨hopen, -⟩, -, rfl⟩ := h
    have hupdate : ∀ deferrals, ∀ candidate ∈ own.items, candidate.item_id = itemId →
        Updates snapshot own itemId candidate { candidate with deferrals := some deferrals } := by
      intro deferrals candidate hcandidate hid
      have hunfinished : ¬ candidate.Completed := hunique candidate hcandidate hid ▸ hopen
      exact ⟨rfl, fun _ _ hmem => .inl hmem, fun _ hcompleted => absurd hcompleted hunfinished, id,
        fun hcompleted => absurd hcompleted hunfinished⟩
    obtain ⟨hkept, hcredits, hdeclared⟩ :=
      sound_of_updates hsound hverified (updates_replaceItem hsound (hupdate _))
    exact ⟨hkept, hcredits, hdeclared ▸ List.prefix_rfl⟩
  · cases h

theorem completed_of_prerequisiteFinished (hplan : snapshot.work_plan = some plan)
    (h : prerequisiteFinished host snapshot id = true) :
    ∃ prerequisite ∈ plan.items, prerequisite.item_id = id ∧ prerequisite.Completed := by
  unfold prerequisiteFinished at h
  split at h
  · cases h
  · next prerequisite hfound =>
    rw [findPlanItem, hplan, Option.bind_some] at hfound
    simp only [Bool.and_eq_true] at h
    exact ⟨prerequisite, List.mem_of_find?_eq_some hfound, by simpa using List.find?_some hfound, h.1.1⟩

theorem fresh_of_checkCreditedOperation {item : AssignmentWorkPlanItemV2}
    (h : checkCreditedOperation host snapshot item (plan.items.flatMap AssignmentWorkPlanItemV2.operation_ids) id
      = .ok ()) :
    (∀ other ∈ plan.items, id ∉ other.operation_ids)
      ∧ appliedOperationHasVerifiedPostconditionV2 snapshot id = true := by
  simp only [checkCreditedOperation, check_bind_eq_ok, require_eq_ok] at h
  obtain ⟨-, hcredited⟩ := h
  unfold creditedOperationVerified at hcredited
  split at hcredited
  · cases hcredited
  · simp only [Bool.and_eq_true] at hcredited
    obtain ⟨⟨⟨⟨⟨hunused, -⟩, -⟩, -⟩, -⟩, hverified⟩ := hcredited
    refine ⟨fun other hother hid => ?_, hverified⟩
    have hused : id ∈ plan.items.flatMap AssignmentWorkPlanItemV2.operation_ids :=
      List.mem_flatMap.2 ⟨other, hother, hid⟩
    simp [hused] at hunused

/-- An item is completed by a current inspection or by verified edits that no
    item was credited with. -/
theorem completeWorkPlanItemV2_keeps {operationIds : List String} {inspection : Option WorkPlanInspectionV2}
    (hplan : snapshot.work_plan = some plan) (hsound : plan.Sound) (hverified : CreditsVerified snapshot plan)
    (h : completeWorkPlanItemV2 host snapshot itemId operationIds occurredAt inspection = .ok next) :
    PlanKept snapshot plan.items next := by
  unfold completeWorkPlanItemV2 at h
  split at h
  · next own item hown hfound =>
    obtain rfl := Option.some.inj (hown.symm.trans hplan)
    obtain ⟨hitem, hid, hunique⟩ := found_of_id hsound hplan hfound
    simp only [check_bind_eq_ok, require_eq_ok] at h
    obtain ⟨hpending, ⟨hready, hprerequisites⟩, -, h⟩ := h
    have hundeferred : workPlanItemDeferredV2 item = false := by simpa using hready
    split at h
    · next hinspection =>
      simp only [check_bind_eq_ok, require_eq_ok, pure_eq_ok] at h
      obtain ⟨hcurrent, rfl⟩ := h
      have hcompleted : truthy (some occurredAt) = true := by
        unfold inspectionIsCurrentV2 at hcurrent
        split at hcurrent
        · cases hcurrent
        · simp only [Bool.and_eq_true] at hcurrent
          exact hcurrent.1.1.1.1.1.1.2
      have hupdate : ∀ candidate ∈ own.items, candidate.item_id = itemId →
          Updates snapshot own itemId candidate { item with
            operation_ids := text.sorted operationIds, completed_at := some occurredAt, inspection } := by
        intro candidate hcandidate hsame
        obtain rfl := hunique candidate hcandidate hsame
        exact ⟨rfl, fun hedit => absurd hinspection hedit, fun hedit => absurd hinspection hedit, fun _ => hcompleted,
          fun _ => hundeferred⟩
      obtain ⟨hkept, hcredits, hdeclared⟩ :=
        sound_of_updates hsound hverified (updates_replaceItem hsound hupdate)
      exact ⟨hkept, hcredits, hdeclared ▸ List.prefix_rfl⟩
    · next hedit =>
      simp only [check_bind_eq_ok, require_eq_ok, pure_eq_ok, forEach_eq_ok] at h
      obtain ⟨-, hcredited, rfl⟩ := h
      have hupdate : ∀ candidate ∈ own.items, candidate.item_id = itemId →
          Updates snapshot own itemId candidate { candidate with
            operation_ids := text.sorted operationIds, completed_at := some occurredAt } := by
        intro candidate hcandidate hsame
        obtain rfl := hunique candidate hcandidate hsame
        refine ⟨rfl, fun _ id hid => ?_, fun _ _ => .inr fun id hid => ?_, fun hcompleted => ?_, fun _ => hundeferred⟩
        · obtain ⟨hfresh, hproven⟩ := fresh_of_checkCreditedOperation (hcredited id (text.mem_sorted.1 hid))
          exact .inr ⟨hsame, hfresh, hproven⟩
        · have hall := (hprerequisites.resolve_left hedit)
          exact completed_of_prerequisiteFinished hplan (List.all_eq_true.1 hall id hid)
        · exact absurd hcompleted (hpending.resolve_right fun hinspection => hedit hinspection.1)
      obtain ⟨hkept, hcredits, hdeclared⟩ :=
        sound_of_updates hsound hverified (updates_replaceItem hsound hupdate)
      exact ⟨hkept, hcredits, hdeclared ▸ List.prefix_rfl⟩
  · cases h

/-- An item as it is declared: nothing has been done about it. -/
structure AssignmentWorkPlanItemV2.Fresh (item : AssignmentWorkPlanItemV2) : Prop where
  credits : item.operation_ids = []
  unfinished : ¬ item.Completed

theorem mem_of_declaredDependenciesValid {prior : List AssignmentWorkPlanItemV2}
    {item : WorkPlanItemDeclarationV2} (h : declaredDependenciesValid snapshot prior declaration item = true) :
    ∀ id ∈ item.depends_on.getD [], id ∈ prior.map AssignmentWorkPlanItemV2.item_id
      ∨ id ∈ declaration.items.map WorkPlanItemDeclarationV2.item_id := by
  intro id hid
  have hknown : ∀ accept : String × Option WorkPlanItemKind → Bool,
      (prior.map (fun p => (p.item_id, p.kind)) ++ declaration.items.map fun p => (p.item_id, p.kind)).any
        (fun p => p.1 == id && accept p) = true →
      id ∈ prior.map AssignmentWorkPlanItemV2.item_id
        ∨ id ∈ declaration.items.map WorkPlanItemDeclarationV2.item_id := by
    intro accept hany
    simp only [List.any_eq_true, List.mem_append, List.mem_map, Bool.and_eq_true, beq_iff_eq] at hany
    obtain ⟨_, ⟨known, hmem, rfl⟩ | ⟨known, hmem, rfl⟩, hname, -⟩ := hany
    · exact .inl (hname ▸ List.mem_map_of_mem hmem)
    · exact .inr (hname ▸ List.mem_map_of_mem hmem)
  unfold declaredDependenciesValid at h
  dsimp only at h
  split at h
  · next hdepends =>
    rw [hdepends] at hid
    cases hid
  · next ids hkind hdepends =>
    rw [hdepends, Option.getD_some] at hid
    simp only [Bool.and_eq_true] at h
    exact hknown _ (List.all_eq_true.1 h.2 id hid)
  · next hdepends _ =>
    rw [hdepends] at hid
    cases hid
  · next ids hdepends _ =>
    rw [hdepends, Option.getD_some] at hid
    simp only [Bool.and_eq_true] at h
    have hvalid := List.all_eq_true.1 h.2 id hid
    rw [Bool.and_eq_true] at hvalid
    refine hknown (fun _ => true) ?_
    simpa using hvalid.2

/-- The items of a declaration are fresh, have new identities and name items of
    the plan. -/
theorem declareItems_spec {prior : List AssignmentWorkPlanItemV2}
    {taken : List String} {pending : List WorkPlanItemDeclarationV2} {added : List AssignmentWorkPlanItemV2}
    (h : declareItems snapshot prior declaration occurredAt taken pending = .ok added) :
    added.map AssignmentWorkPlanItemV2.item_id = pending.map WorkPlanItemDeclarationV2.item_id
      ∧ (added.map AssignmentWorkPlanItemV2.item_id).Nodup
      ∧ (∀ item ∈ added, item.item_id ∉ taken) ∧ (∀ item ∈ added, item.Fresh)
      ∧ ∀ item ∈ added, ∀ id ∈ item.dependencies, id ∈ prior.map AssignmentWorkPlanItemV2.item_id
        ∨ id ∈ declaration.items.map WorkPlanItemDeclarationV2.item_id := by
  induction pending generalizing taken added with
  | nil =>
    obtain rfl := Except.ok.inj h
    simp
  | cons first rest ih =>
    simp only [declareItems, bind_eq_ok, pure_eq_ok, require_eq_ok] at h
    obtain ⟨-, ⟨-, -, -, hnew⟩, -, hdependencies, later, hlater, rfl⟩ := h
    obtain ⟨hnames, hdistinct, hapart, hfresh, hclosed⟩ := ih hlater
    refine ⟨by simp [hnames], ?_, ?_, ?_, ?_⟩
    · rw [List.map_cons, List.nodup_cons]
      refine ⟨fun hmem => ?_, hdistinct⟩
      obtain ⟨other, hother, hsame⟩ := List.mem_map.1 hmem
      exact hapart other hother (hsame ▸ List.mem_cons_self)
    · intro item hitem
      rcases List.mem_cons.1 hitem with rfl | hitem
      · exact hnew
      · exact fun hmem => hapart item hitem (List.mem_cons_of_mem _ hmem)
    · intro item hitem
      rcases List.mem_cons.1 hitem with rfl | hitem
      · exact ⟨rfl, Bool.false_ne_true⟩
      · exact hfresh item hitem
    · intro item hitem
      rcases List.mem_cons.1 hitem with rfl | hitem
      · exact mem_of_declaredDependenciesValid hdependencies
      · exact hclosed item hitem

/-- What an item of the graph depends on. -/
def graphDependencies (graph : Record (List String)) (id : String) : List String := (graph.get? id).getD []

theorem visitDependencies_toOption (graph : Record (List String)) (fuel : Nat) (visiting visited : List String)
    (id : String) : (visitDependencies graph fuel visiting visited id).toOption
      = dependency.search (graphDependencies graph) fuel visiting visited id := by
  induction fuel generalizing visiting visited id with
  | zero => rfl
  | succ fuel ih =>
    unfold visitDependencies dependency.search
    by_cases hvisiting : id ∈ visiting
    · rw [if_pos hvisiting, kernelAssertV2, require, if_neg (not_not.2 hvisiting)]
      rfl
    · rw [if_neg hvisiting, kernelAssertV2, require_of hvisiting]
      by_cases hvisited : id ∈ visited
      · rw [if_pos hvisited]
        simp only [if_pos hvisited]
        rfl
      · rw [if_neg hvisited]
        simp only [if_neg hvisited]
        have hfold := toOption_foldlM (visitDependencies graph fuel (id :: visiting)) (graphDependencies graph id) visited
        simp only [ih] at hfold
        rw [← hfold]
        unfold graphDependencies
        cases ((graph.get? id).getD []).foldlM (visitDependencies graph fuel (id :: visiting)) visited with
        | error fault => rfl
        | ok finished => rfl

/-- The graph the cycle check searches. -/
def dependencyGraph (items : List AssignmentWorkPlanItemV2) : Record (List String) :=
  Record.ofPairs (items.map fun item => (item.item_id, item.dependencies))

theorem edge_iff_dependsOn (hdistinct : plan.ids.Nodup) {prerequisiteId : String} :
    dependency.Edge (graphDependencies (dependencyGraph plan.items)) id prerequisiteId
      ↔ plan.DependsOn id prerequisiteId := by
  have hkeys : ((plan.items.map fun item => (item.item_id, item.dependencies)).map Prod.fst).Nodup := by
    rw [List.map_map]
    exact hdistinct
  have hfound : ∀ dependencies, (dependencyGraph plan.items).get? id = some dependencies
      ↔ ∃ item ∈ plan.items, item.item_id = id ∧ item.dependencies = dependencies := by
    intro dependencies
    rw [dependencyGraph, Record.get?_ofPairs_of_nodup hkeys, List.mem_map]
    simp only [Prod.mk.injEq]
  unfold dependency.Edge graphDependencies
  constructor
  · intro hedge
    cases hget : (dependencyGraph plan.items).get? id with
    | none =>
      rw [hget] at hedge
      cases hedge
    | some dependencies =>
      obtain ⟨item, hitem, hid, rfl⟩ := (hfound dependencies).1 hget
      rw [hget] at hedge
      exact ⟨item, hitem, hid, hedge⟩
  · rintro ⟨item, hitem, hid, hmem⟩
    rw [(hfound item.dependencies).2 ⟨item, hitem, hid, rfl⟩]
    exact hmem

/-- With a step of fuel for every item the cycle check fails exactly on a
    cycle. -/
theorem visited_iff_acyclic (hdistinct : next.ids.Nodup)
    (hclosed : ∀ item ∈ next.items, ∀ id ∈ item.dependencies, id ∈ next.ids) :
    (∃ finished, next.ids.foldlM (visitDependencies (dependencyGraph next.items) (next.items.length + 2) []) []
      = .ok finished) ↔ ∀ id, ¬ Relation.TransGen next.DependsOn id id := by
  have hoption := toOption_foldlM (visitDependencies (dependencyGraph next.items) (next.items.length + 2) []) next.ids []
  simp only [visitDependencies_toOption] at hoption
  have hnamed : ∀ node last, dependency.Edge (graphDependencies (dependencyGraph next.items)) node last →
      last ∈ next.ids := by
    intro node last hedge
    obtain ⟨item, hitem, -, hmem⟩ := (edge_iff_dependsOn hdistinct).1 hedge
    exact hclosed item hitem last hmem
  have hedges : dependency.Edge (graphDependencies (dependencyGraph next.items)) = next.DependsOn := by
    funext id prerequisiteId
    exact propext (edge_iff_dependsOn hdistinct)
  have hfuel : next.ids.length < next.items.length + 2 := by
    rw [AssignmentWorkPlanV2.ids, List.length_map]
    omega
  have hdecides := dependency.search_isSome_iff_acyclic hnamed hfuel
  rw [← hoption, Option.isSome_iff_exists, dependency.Acyclic, hedges] at hdecides
  simpa only [toOption_eq_some] using hdecides

theorem declareWorkPlanV2_keeps
    (hprior : plan.items = (snapshot.work_plan.map AssignmentWorkPlanV2.items).getD []) (hsound : plan.Sound)
    (hverified : CreditsVerified snapshot plan)
    (h : declareWorkPlanV2 snapshot declaration occurredAt = .ok next) : PlanKept snapshot plan.items next := by
  simp only [declareWorkPlanV2, bind_eq_ok, pure_eq_ok, ← hprior] at h
  obtain ⟨-, -, -, -, -, -, added, hadded, finished, hvisited, -, -, -, -, rfl⟩ := h
  obtain ⟨hnames, hdistinct, hapart, hfresh, hclosed⟩ := declareItems_spec hadded
  have hids : ∀ assumptions, ({ items := plan.items ++ added, assumptions } : AssignmentWorkPlanV2).ids
      = plan.ids ++ added.map AssignmentWorkPlanItemV2.item_id := fun _ => List.map_append
  have hnodup : (plan.ids ++ added.map AssignmentWorkPlanItemV2.item_id).Nodup := by
    refine List.nodup_append.2 ⟨hsound.distinct, hdistinct, fun id hid other hother hsame => ?_⟩
    obtain ⟨item, hitem, rfl⟩ := List.mem_map.1 hother
    exact hapart item hitem (hsame ▸ hid)
  have hnamed : ∀ item ∈ plan.items ++ added, ∀ id ∈ item.dependencies,
      id ∈ plan.ids ++ added.map AssignmentWorkPlanItemV2.item_id := by
    intro item hitem id hid
    rcases List.mem_append.1 hitem with hold | hnew
    · exact List.mem_append_left _ (hsound.closed item hold id hid)
    · rw [hnames]
      exact List.mem_append.2 (hclosed item hnew id hid)
  refine ⟨⟨?_, ?_, ?_, ?_, ?_, ?_⟩, ?_, ?_⟩
  · exact (hids _).symm ▸ hnodup
  · intro item hitem id hid
    exact (hids _).symm ▸ hnamed item hitem id hid
  · refine (visited_iff_acyclic ((hids _).symm ▸ hnodup) fun item hitem id hid => ?_).1 ⟨finished, hvisited⟩
    exact (hids _).symm ▸ hnamed item hitem id hid
  · intro item hitem other hother hedit hotherEdit hne id hid hotherId
    rcases List.mem_append.1 hitem with hold | hnew
    · rcases List.mem_append.1 hother with hotherOld | hotherNew
      · exact hsound.disjoint item hold other hotherOld hedit hotherEdit hne id hid hotherId
      · rw [(hfresh other hotherNew).credits] at hotherId
        cases hotherId
    · rw [(hfresh item hnew).credits] at hid
      cases hid
  · intro item hitem hedit hcompleted id hid
    rcases List.mem_append.1 hitem with hold | hnew
    · obtain ⟨prerequisite, hmem, hdone⟩ := hsound.prerequisites item hold hedit hcompleted id hid
      exact ⟨prerequisite, List.mem_append_left _ hmem, hdone⟩
    · exact absurd hcompleted (hfresh item hnew).unfinished
  · intro item hitem hcompleted
    rcases List.mem_append.1 hitem with hold | hnew
    · exact hsound.undeferred item hold hcompleted
    · exact absurd hcompleted (hfresh item hnew).unfinished
  · intro item hitem hedit id hid
    rcases List.mem_append.1 hitem with hold | hnew
    · exact hverified item hold hedit id hid
    · rw [(hfresh item hnew).credits] at hid
      cases hid
  · rw [List.map_append]
    exact List.prefix_append _ _

end plans

section states

variable {host : JavaScriptHost} {state nextState : ReducerStateV2} {event : AssignmentEventV2}
  {snapshot before after : AssignmentSnapshotV2}

theorem planned_keeps {plan next : AssignmentWorkPlanV2}
    (hprior : plan.items = (snapshot.work_plan.map AssignmentWorkPlanV2.items).getD [])
    (hown : ∀ own, snapshot.work_plan = some own → own = plan) (hsound : plan.Sound)
    (hverified : CreditsVerified snapshot plan) (h : plannedBy host snapshot event = some (.ok next)) :
    PlanKept snapshot plan.items next := by
  have hplan : ∀ own, snapshot.work_plan = some own → snapshot.work_plan = some plan :=
    fun own hsome => hown own hsome ▸ hsome
  unfold plannedBy at h
  split at h
  · exact declareWorkPlanV2_keeps hprior hsound hverified (Option.some.inj h)
  · have hrecorded := Option.some.inj h
    cases hsome : snapshot.work_plan with
    | none => simp [recordWorkPlanLocationV2, hsome] at hrecorded
    | some own => exact recordWorkPlanLocationV2_keeps (hplan own hsome) hsound hverified hrecorded
  · have hdeferred := Option.some.inj h
    cases hsome : snapshot.work_plan with
    | none => simp [deferWorkPlanItemV2, hsome] at hdeferred
    | some own => exact deferWorkPlanItemV2_keeps (hplan own hsome) hsound hverified hdeferred
  · have hcompleted := Option.some.inj h
    cases hsome : snapshot.work_plan with
    | none => simp [completeWorkPlanItemV2, hsome] at hcompleted
    | some own => exact completeWorkPlanItemV2_keeps (hplan own hsome) hsound hverified hcompleted
  · cases h

theorem PlanningEffect.plan {next : PlanningRecord} (h : PlanningEffect host state snapshot event next) :
    next.work_plan = snapshot.work_plan
      ∨ ∃ plan, plannedBy host snapshot event = some (.ok plan) ∧ next.work_plan = some plan := by
  cases h with
  | supplied variableId clarificationId value freshness hbody =>
    have hsame : ∀ answered : AssignmentSnapshotV2,
        (invalidateDependentInputResultsV2 answered variableId).work_plan = answered.work_plan := by
      intro answered
      unfold invalidateDependentInputResultsV2
      dsimp only
      split <;> rfl
    dsimp only
    split
    · rw [AssignmentSnapshotV2.planning, hsame]
      exact .inl rfl
    · exact .inl rfl
  | planned plan hplan => exact .inr ⟨plan, hplan, rfl⟩
  | _ => exact .inl rfl

theorem sound_empty (assumptions : List String) : ({ items := [], assumptions } : AssignmentWorkPlanV2).Sound where
  distinct := List.nodup_nil
  closed _ hitem := nomatch hitem
  acyclic id hcycle := by
    obtain ⟨next, ⟨item, hitem, -⟩, -⟩ := Relation.TransGen.head'_iff.1 hcycle
    cases hitem
  disjoint _ hitem := nomatch hitem
  prerequisites _ hitem := nomatch hitem
  undeferred _ hitem := nomatch hitem

/-- The plan of every reachable snapshot. -/
def ReducerStateV2.PlanSound (state : ReducerStateV2) : Prop :=
  ∀ snapshot, state.snapshot = some snapshot → ∀ plan, snapshot.work_plan = some plan →
    plan.Sound ∧ CreditsVerified snapshot plan

theorem CreditsVerified.kept {plan : AssignmentWorkPlanV2} (h : CreditsVerified before plan)
    (hkept : KeepsProofs before after) : CreditsVerified after plan :=
  fun item hitem hedit id hid => hkept.applied (h item hitem hedit id hid)

theorem plan_step (hstate : state.Sound) (hplan : state.PlanSound) (h : applyEvent host state event = .ok nextState)
    (hafter : nextState.snapshot = some after) :
    (∀ plan, after.work_plan = some plan → plan.Sound ∧ CreditsVerified after plan)
      ∧ ∀ before old, state.snapshot = some before → before.work_plan = some old → ∃ plan, after.work_plan = some plan
        ∧ old.items.map AssignmentWorkPlanItemV2.declared <+: plan.items.map AssignmentWorkPlanItemV2.declared := by
  cases applyEvent_effect h with
  | created spec hbody hnone =>
    obtain rfl := Option.some.inj hafter
    refine ⟨fun plan hsome => (nomatch hsome), fun before old hbefore => ?_⟩
    rw [hnone] at hbefore
    cases hbefore
  | restarted snapshot hsome =>
    have hkept := applyEvent_keepsProofs hstate h hsome hafter
    obtain rfl := Option.some.inj hafter
    refine ⟨fun plan hown => ?_, fun before old hbefore hold => ?_⟩
    · obtain ⟨hsound, hverified⟩ := hplan snapshot hsome plan hown
      exact ⟨hsound, hverified.kept hkept⟩
    · obtain rfl := Option.some.inj (hsome.symm.trans hbefore)
      exact ⟨old, hold, List.prefix_rfl⟩
  | recorded snapshot next hsome hopen hversion hlive hbinding hnotStart hrecord =>
    have hkept := applyEvent_keepsProofs hstate h hsome hafter
    obtain rfl := Option.some.inj hafter
    have hnext : (withDerivedState host next).work_plan = next.planning.work_plan := rfl
    rw [hnext]
    obtain hsame | ⟨planned, hplanned, hset⟩ := (recordEvent_planning hrecord).plan
    · rw [hsame]
      refine ⟨fun plan hown => ?_, fun before old hbefore hold => ?_⟩
      · obtain ⟨hsound, hverified⟩ := hplan snapshot hsome plan hown
        exact ⟨hsound, hverified.kept hkept⟩
      · obtain rfl := Option.some.inj (hsome.symm.trans hbefore)
        exact ⟨old, hold, List.prefix_rfl⟩
    · rw [hset]
      have hkeptAt : KeepsProofs (snapshot.atVersion event.assignment_version) (withDerivedState host next) :=
        ⟨hkept.operations, hkept.observations⟩
      have hplanKept : ∀ prior : AssignmentWorkPlanV2,
          prior.items = (snapshot.work_plan.map AssignmentWorkPlanV2.items).getD [] →
          (∀ own, snapshot.work_plan = some own → own = prior) → prior.Sound →
          CreditsVerified snapshot prior → PlanKept (snapshot.atVersion event.assignment_version) prior.items planned :=
        fun prior hprior hown hsound hverified => planned_keeps hprior hown hsound hverified hplanned
      cases hown : snapshot.work_plan with
      | none =>
        rw [hown] at hplanKept
        have hfirst := hplanKept ⟨[], []⟩ rfl (fun _ hnone => nomatch hnone) (sound_empty [])
          fun _ hitem => nomatch hitem
        refine ⟨fun plan hthis => ?_, fun before old hbefore hold => ?_⟩
        · obtain rfl := Option.some.inj hthis
          exact ⟨hfirst.sound, CreditsVerified.kept hfirst.verified hkeptAt⟩
        · obtain rfl := Option.some.inj (hsome.symm.trans hbefore)
          rw [hown] at hold
          cases hold
      | some own =>
        obtain ⟨hsound, hverified⟩ := hplan snapshot hsome own hown
        rw [hown] at hplanKept
        have hlater := hplanKept own rfl (fun _ hthis => (Option.some.inj hthis).symm) hsound hverified
        refine ⟨fun plan hthis => ?_, fun before old hbefore hold => ?_⟩
        · obtain rfl := Option.some.inj hthis
          exact ⟨hlater.sound, CreditsVerified.kept hlater.verified hkeptAt⟩
        · obtain rfl := Option.some.inj (hsome.symm.trans hbefore)
          obtain rfl := Option.some.inj (hown.symm.trans hold)
          exact ⟨planned, rfl, hlater.retained⟩

theorem feed_planSound {events : List AssignmentEventV2} {final : ReducerStateV2}
    (h : feed (applyEvent host) .initial events = .ok final) : final.Sound ∧ final.PlanSound := by
  refine feed_invariant (I := fun state => state.Sound ∧ state.PlanSound) ?_ ?_ h
  · rintro state event next ⟨hstate, hplan⟩ hnext
    exact ⟨applyEvent_sound hstate hnext, fun after hafter => (plan_step hstate hplan hnext hafter).1⟩
  · exact ⟨ReducerStateV2.satisfies_initial _, fun _ hnone => nomatch hnone⟩

/-- The state holds a plan that starts with the declared items. -/
def ReducerStateV2.PlanExtends (declared : List AssignmentWorkPlanItemV2) (state : ReducerStateV2) : Prop :=
  ∃ snapshot plan, state.snapshot = some snapshot ∧ snapshot.work_plan = some plan
    ∧ declared <+: plan.items.map AssignmentWorkPlanItemV2.declared

theorem feed_planExtends {declared : List AssignmentWorkPlanItemV2} {events : List AssignmentEventV2}
    {final : ReducerStateV2} (hsound : state.Sound ∧ state.PlanSound) (hstart : state.PlanExtends declared)
    (h : feed (applyEvent host) state events = .ok final) : final.PlanExtends declared := by
  have hstep : ∀ (state : ReducerStateV2) (event : AssignmentEventV2) (next : ReducerStateV2),
      (state.Sound ∧ state.PlanSound) ∧ state.PlanExtends declared → applyEvent host state event = .ok next →
      (next.Sound ∧ next.PlanSound) ∧ next.PlanExtends declared := by
    rintro state event next ⟨⟨hstate, hplan⟩, snapshot, old, hsome, hold, hprefix⟩ hnext
    obtain ⟨after, hafter⟩ : ∃ after, next.snapshot = some after := by
      cases applyEvent_effect hnext <;> exact ⟨_, rfl⟩
    obtain ⟨hplanNext, hextends⟩ := plan_step hstate hplan hnext hafter
    obtain ⟨plan, hthis, hlater⟩ := hextends snapshot old hsome hold
    exact ⟨⟨applyEvent_sound hstate hnext, fun own hown => by
      obtain rfl := Option.some.inj (hafter.symm.trans hown)
      exact hplanNext⟩, after, plan, hafter, hthis, hprefix.trans hlater⟩
  exact (feed_invariant hstep ⟨hsound, hstart⟩ h).2

/-- The work plan of an accepted journal: its dependencies are closed and
    without a cycle, credits are disjoint and verified, prerequisites completed,
    no completed item deferred, and what was declared earlier is still there in
    order. -/
theorem work_plan_integrity {events : List AssignmentEventV2} {plan : AssignmentWorkPlanV2}
    (h : reduceAssignmentEventsV2 host events = .ok snapshot) (hplan : snapshot.work_plan = some plan) :
    plan.Sound
      ∧ (∀ item ∈ plan.items, item.IsEdit → item.Completed → ∀ id ∈ item.operation_ids, ∃ operation,
        snapshot.operations.get? id = some operation ∧ operation.Applied ∧ operation.settlement_state = .settled
          ∧ appliedOperationHasVerifiedPostconditionV2 snapshot id = true)
      ∧ ∀ earlier before old, earlier <+: events → reduceAssignmentEventsV2 host earlier = .ok before →
        before.work_plan = some old →
        old.items.map AssignmentWorkPlanItemV2.declared <+: plan.items.map AssignmentWorkPlanItemV2.declared := by
  obtain ⟨final, hfinal, hsome⟩ := reduceAssignmentEventsV2_eq_ok.1 h
  obtain ⟨hsound, hverified⟩ := (feed_planSound hfinal).2 snapshot hsome plan hplan
  refine ⟨hsound, ?_, ?_⟩
  · intro item hitem hedit _ id hid
    have hproven := hverified item hitem hedit id hid
    cases hget : snapshot.operations.get? id with
    | none => simp [appliedOperationHasVerifiedPostconditionV2, hget] at hproven
    | some operation =>
      have hstates := hproven
      simp only [appliedOperationHasVerifiedPostconditionV2, hget, Bool.and_eq_true, beq_iff_eq] at hstates
      obtain ⟨⟨happlied, hsettled⟩, -⟩ := hstates
      exact ⟨operation, rfl, happlied, hsettled, hproven⟩
  · rintro earlier before old ⟨later, rfl⟩ hbefore hold
    obtain ⟨start, hstart, hstartSome⟩ := reduceAssignmentEventsV2_eq_ok.1 hbefore
    rw [feed_append, hstart] at hfinal
    obtain ⟨last, own, hlast, hown, hprefix⟩ :=
      feed_planExtends (feed_planSound hstart) ⟨before, old, hstartSome, hold, List.prefix_rfl⟩ hfinal
    obtain rfl := Option.some.inj (hlast.symm.trans hsome)
    obtain rfl := Option.some.inj (hown.symm.trans hplan)
    exact hprefix

end states

section sample

/-- An edit and one that waits for it, the first one done and verified. -/
def plannedJournal : List AssignmentEventV2 :=
  sampleJournal [
    ("operator-work-plan", .work_plan_declared ⟨[⟨"walls", "Move the wall.", "Sheet A1", none, none⟩,
      ⟨"doors", "Move the door.", "Sheet A1", none, some ["walls"]⟩], []⟩),
    ("assignment-kernel", .operation_admitted (sampleEdit "edit-1")),
    ("native-host", .native_dispatch_recorded "edit-1"),
    ("native-host", .operation_result_recorded (sampleEditResult "edit-1") none),
    ("native-host", .observation_retained (submittedObservation (sampleEdit "edit-1")
      (sampleEditResult "edit-1") [sampleFact "wall.moved" .domain])),
    ("assignment-kernel", .operation_admitted sampleVerification),
    ("native-host", .native_dispatch_recorded "read-1"),
    ("native-host", .operation_result_recorded sampleVerificationResult none),
    ("native-host", .observation_retained (submittedObservation sampleVerification sampleVerificationResult
      [sampleFact "verification.postcondition_satisfied" .verification])),
    ("operator-work-plan", .work_plan_item_completed "walls" ["edit-1"] none)]

theorem work_plan_integrity_on_plannedJournal :
    ∃ snapshot plan, reduceAssignmentEventsV2 asciiHost plannedJournal = .ok snapshot
      ∧ snapshot.work_plan = some plan ∧ plan.ids = ["walls", "doors"]
      ∧ (∀ item ∈ plan.items, item.IsEdit → item.Completed → ∀ id ∈ item.operation_ids, ∃ operation,
        snapshot.operations.get? id = some operation ∧ operation.Applied ∧ operation.settlement_state = .settled
          ∧ appliedOperationHasVerifiedPostconditionV2 snapshot id = true)
      ∧ ∀ id, ¬ Relation.TransGen plan.DependsOn id id := by
  have hreached : (reduceAssignmentEventsV2 asciiHost plannedJournal).toOption.map (fun snapshot =>
      snapshot.work_plan.map AssignmentWorkPlanV2.ids) = some (some ["walls", "doors"]) := by decide +kernel
  simp only [Option.map_eq_some_iff, toOption_eq_some] at hreached
  obtain ⟨snapshot, hrun, plan, hplan, hids⟩ := hreached
  obtain ⟨hsound, hcredits, -⟩ := work_plan_integrity hrun hplan
  exact ⟨snapshot, plan, hrun, hplan, hids, hcredits, hsound.acyclic⟩

end sample

end revit_operator.assignment_kernel
