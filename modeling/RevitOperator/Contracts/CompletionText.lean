import RevitOperator.Contracts.CompletionOutbox

open checked

/-! The text of a value in memory and that of the value read back, and the identity
    read out of either. -/

namespace revit_operator.contracts.completion_outbox

section texts

variable {numbers : Json.NumberText} {value : JsValue} {items : List JsValue} {members : List (String × JsValue)}
  {x y : List Char}

/-- The first text equals the second one where the condition holds, and whatever
    follows them shows where it does not. -/
structure Meets (own read : List Char) (condition : Prop) : Prop where
  same : condition → own = read
  shown : ∀ x y, Json.Follows x → Json.Follows y → own ++ x = read ++ y → condition

/-- The text of a value as JSON reads it back. -/
def readText (numbers : Json.NumberText) (value : JsValue) : List Char :=
  Json.chars numbers value.toJson.canonicalValue

theorem follows_cons {c : Char} (h : c = ',' ∨ c = ']' ∨ c = '\x7d') (rest : List Char) : Json.Follows (c :: rest) := by
  rintro d tail heq
  obtain ⟨rfl, -⟩ := List.cons.inj heq
  exact h

theorem joined_cons_append (part : List Char) (rest : List (List Char)) (x : List Char) :
    joined (part :: rest) ++ x = part ++ (if rest = [] then x else ',' :: (joined rest ++ x)) := by
  cases rest <;> simp [joined]

theorem itemChars_eq (items : List Json) : Json.itemChars numbers items = joined (items.map (Json.chars numbers)) := by
  induction items with
  | nil => rfl
  | cons item rest ih =>
    cases rest with
    | nil => rfl
    | cons next rest => simp only [Json.itemChars_cons_cons, ih, List.map_cons, joined]

theorem memberChars_eq (members : List (String × Json)) : Json.memberChars numbers members =
    joined (members.map fun entry => Json.quote entry.1 ++ ':' :: Json.chars numbers entry.2) := by
  induction members with
  | nil => rfl
  | cons entry rest ih =>
    obtain ⟨key, value⟩ := entry
    cases rest with
    | nil => rfl
    | cons next rest =>
      simp only [Json.memberChars_cons_cons, ih, List.map_cons, joined]

theorem itemTexts_eq (items : List JsValue) :
    itemTexts numbers items = items.map fun item => (canonicalText numbers item).getD [] := by
  induction items with
  | nil => rfl
  | cons item rest ih => simp [itemTexts, ih]

theorem memberTexts_eq (members : List (String × JsValue)) : memberTexts numbers members =
    Json.mapValues (fun value => (canonicalText numbers value).getD "undefined".toList) members := by
  induction members with
  | nil => rfl
  | cons entry rest ih => simpa [memberTexts, Json.mapValues] using ih

theorem follows_tail {rest : List (List Char)} (hx : Json.Follows x) :
    Json.Follows (if rest = [] then x else ',' :: (joined rest ++ x)) := by
  split
  · exact hx
  · exact follows_cons (.inl rfl) _

theorem items_shown {own read : JsValue → List Char} (h : ∀ item ∈ items, Meets (own item) (read item) item.Defined)
    (hx : Json.Follows x) (hy : Json.Follows y) (heq : joined (items.map own) ++ x = joined (items.map read) ++ y) :
    ∀ item ∈ items, item.Defined := by
  induction items with
  | nil => exact List.forall_mem_nil _
  | cons item rest ih =>
    obtain ⟨hitem, hrest⟩ := List.forall_mem_cons.1 h
    rw [List.map_cons, List.map_cons, joined_cons_append, joined_cons_append] at heq
    have hdefined := hitem.shown _ _ (follows_tail hx) (follows_tail hy) heq
    refine List.forall_mem_cons.2 ⟨hdefined, ?_⟩
    rw [hitem.same hdefined] at heq
    have htail := List.append_cancel_left heq
    cases rest with
    | nil => exact List.forall_mem_nil _
    | cons next rest =>
      simp only [List.map_cons, reduceCtorEq, if_false, List.cons.injEq, true_and] at htail
      exact ih hrest htail

/-- A member with its key. -/
def memberText (text : JsValue → List Char) (entry : String × JsValue) : List Char :=
  Json.quote entry.1 ++ ':' :: text entry.2

/-- Members are read back as they were written only where each one is defined:
    one that is left out would be met by the next key. -/
theorem members_shown {own read : JsValue → List Char} (hkeys : (members.map Prod.fst).Nodup)
    (h : ∀ entry ∈ members, entry.2.isUndefined = false → Meets (own entry.2) (read entry.2) entry.2.Defined)
    (hx : x.head? = some '\x7d') (hy : y.head? = some '\x7d')
    (heq : joined (members.map (memberText own)) ++ x
      = joined ((JsValue.definedMembers members).map (memberText read)) ++ y) :
    ∀ entry ∈ members, entry.2.Defined := by
  have hends : ∀ z : List Char, z.head? = some '\x7d' → Json.Follows z := by
    rintro z hz c tail rfl
    exact .inr (.inr (by simpa using hz))
  induction members with
  | nil => exact List.forall_mem_nil _
  | cons entry rest ih =>
    obtain ⟨hnew, hrestKeys⟩ := List.nodup_cons.1 hkeys
    obtain ⟨hentry, hrest⟩ := List.forall_mem_cons.1 h
    rw [List.map_cons, joined_cons_append] at heq
    cases hundefined : entry.2.isUndefined with
    | true =>
      have hskipped : JsValue.definedMembers (entry :: rest) = JsValue.definedMembers rest := by
        simp [JsValue.definedMembers, hundefined]
      rw [hskipped] at heq
      cases hothers : JsValue.definedMembers rest with
      | nil =>
        rw [hothers] at heq
        have hhead := congrArg List.head? heq
        simp [memberText, Json.quote, joined, hy] at hhead
      | cons other others =>
        rw [hothers, List.map_cons, joined_cons_append] at heq
        have hkey : entry.1 = other.1 := by
          simp only [memberText, List.append_assoc] at heq
          exact (Json.quote_append_inj heq).1
        have hmem : other ∈ rest := by
          have hdefined : other ∈ JsValue.definedMembers rest := hothers ▸ List.mem_cons_self
          exact (List.mem_filter.1 hdefined).1
        exact absurd (hkey ▸ List.mem_map_of_mem hmem) hnew
    | false =>
      have hkept : JsValue.definedMembers (entry :: rest) = entry :: JsValue.definedMembers rest := by
        simp [JsValue.definedMembers, hundefined]
      rw [hkept, List.map_cons, joined_cons_append] at heq
      simp only [memberText, List.append_assoc] at heq
      have hvalue := (Json.quote_append_inj heq).2
      simp only [List.cons_append, List.cons.injEq, true_and] at hvalue
      have hdefined := (hentry hundefined).shown _ _ (follows_tail (hends x hx)) (follows_tail (hends y hy)) hvalue
      refine List.forall_mem_cons.2 ⟨hdefined, ?_⟩
      rw [(hentry hundefined).same hdefined] at hvalue
      have htail := List.append_cancel_left hvalue
      cases rest with
      | nil => exact List.forall_mem_nil _
      | cons next more =>
        cases hothers : JsValue.definedMembers (next :: more) with
        | nil =>
          rw [hothers] at htail
          have hhead := congrArg List.head? htail
          simp [hy] at hhead
        | cons other others =>
          refine ih hrestKeys hrest ?_
          rw [hothers] at htail ⊢
          simp only [List.map_cons, reduceCtorEq, if_false, List.cons.injEq, true_and] at htail
          exact htail

/-- An item of an array in memory. -/
def itemText (numbers : Json.NumberText) (item : JsValue) : List Char := (canonicalText numbers item).getD []

/-- The value of a member in memory. -/
def valueText (numbers : Json.NumberText) (value : JsValue) : List Char :=
  (canonicalText numbers value).getD "undefined".toList

theorem canonicalText_arr (items : List JsValue) :
    canonicalText numbers (.arr items) = some ('[' :: joined (items.map (itemText numbers)) ++ [']']) := by
  rw [canonicalText, itemTexts_eq]
  rfl

theorem canonicalText_obj (members : List (String × JsValue)) : canonicalText numbers (.obj members) =
    some ('\x7b' :: joined ((Json.sortMembers members).map (memberText (valueText numbers))) ++ ['\x7d']) := by
  rw [canonicalText, memberTexts_eq, Json.sortMembers_mapValues]
  simp only [Json.mapValues, List.map_map]
  rfl

theorem readText_arr (items : List JsValue) :
    readText numbers (.arr items) = '[' :: joined (items.map (readText numbers)) ++ [']'] := by
  rw [readText, JsValue.toJson_arr, Json.canonicalValue_arr, Json.chars, itemChars_eq]
  simp only [List.map_map]
  rfl

theorem readText_obj (hkeys : (members.map Prod.fst).Nodup) : readText numbers (.obj members) =
    '\x7b' :: joined ((JsValue.definedMembers (Json.sortMembers members)).map (memberText (readText numbers)))
      ++ ['\x7d'] := by
  rw [readText, JsValue.toJson_obj, Json.canonicalValue_obj, Json.chars, memberChars_eq, Json.sortMembers_mapValues,
    Json.sortMembers_mapValues, JsValue.definedMembers, Json.sortMembers_filter hkeys, ← JsValue.definedMembers]
  simp only [Json.mapValues, List.map_map]
  rfl

variable (numbers) in
/-- A value in memory and the one read back have the same text exactly where
    nothing in it is `undefined`. -/
theorem canonicalText_meets (h : value.Proper) (hdefined : value.isUndefined = false) :
    ∃ own, canonicalText numbers value = some own ∧ Meets own (readText numbers value) value.Defined := by
  induction value using JsValue.nestedInduction with
  | leaf value harr hobj =>
    cases value with
    | arr items => exact absurd rfl (harr items)
    | obj members => exact absurd rfl (hobj members)
    | undefined => cases hdefined
    | _ => exact ⟨_, rfl, fun _ => rfl, fun _ _ _ _ _ hundefined => (nomatch hundefined)⟩
  | arr items ih =>
    have hitems : ∀ item ∈ items, Meets (itemText numbers item) (readText numbers item) item.Defined := by
      intro item hitem
      cases hundefined : item.isUndefined with
      | true =>
        obtain rfl := JsValue.isUndefined_iff.1 hundefined
        refine ⟨fun hdefined => absurd hdefined JsValue.not_defined_undefined, fun x y hx _ heq => ?_⟩
        exact absurd (hx 'n' ('u' :: 'l' :: 'l' :: y) heq) (by decide)
      | false =>
        obtain ⟨own, hown, hmeets⟩ := ih item hitem (JsValue.proper_arr.1 h item hitem) hundefined
        simpa [itemText, hown] using hmeets
    refine ⟨_, canonicalText_arr items, fun hdefined => ?_, fun x y _ _ heq => ?_⟩
    · have hsame : items.map (itemText numbers) = items.map (readText numbers) :=
        List.map_congr_left fun item hitem => (hitems item hitem).same (JsValue.defined_arr.1 hdefined item hitem)
      rw [hsame, readText_arr]
    · rw [readText_arr] at heq
      simp only [List.cons_append, List.append_assoc, List.cons.injEq, true_and, List.nil_append] at heq
      exact JsValue.defined_arr.2
        (items_shown hitems (follows_cons (.inr (.inl rfl)) _) (follows_cons (.inr (.inl rfl)) _) heq)
  | obj members ih =>
    obtain ⟨hkeys, hvalues⟩ := JsValue.proper_obj.1 h
    have hperm := Json.sortMembers_perm members
    have hsortedKeys : ((Json.sortMembers members).map Prod.fst).Nodup := (hperm.map Prod.fst).nodup_iff.2 hkeys
    have hmembers : ∀ entry ∈ Json.sortMembers members, entry.2.isUndefined = false →
        Meets (valueText numbers entry.2) (readText numbers entry.2) entry.2.Defined := by
      intro entry hentry hundefined
      have hmem := hperm.mem_iff.1 hentry
      obtain ⟨own, hown, hmeets⟩ := ih entry hmem (hvalues entry hmem) hundefined
      simpa [valueText, hown] using hmeets
    refine ⟨_, canonicalText_obj members, fun hdefined => ?_, fun x y _ _ heq => ?_⟩
    · have hentries : ∀ entry ∈ Json.sortMembers members, entry.2.Defined := fun entry hentry =>
        JsValue.defined_obj.1 hdefined entry (hperm.mem_iff.1 hentry)
      have hnone : ∀ entry ∈ Json.sortMembers members, entry.2.isUndefined = false := by
        intro entry hentry
        rw [Bool.eq_false_iff]
        intro hundefined
        rw [JsValue.isUndefined_iff] at hundefined
        exact JsValue.not_defined_undefined (hundefined ▸ hentries entry hentry)
      have hkept : JsValue.definedMembers (Json.sortMembers members) = Json.sortMembers members :=
        List.filter_eq_self.2 fun entry hentry => by simp [hnone entry hentry]
      have hsame : (Json.sortMembers members).map (memberText (valueText numbers))
          = (Json.sortMembers members).map (memberText (readText numbers)) :=
        List.map_congr_left fun entry hentry => by
          simp only [memberText, (hmembers entry hentry (hnone entry hentry)).same (hentries entry hentry)]
      rw [hsame, readText_obj hkeys, hkept]
    · rw [readText_obj hkeys] at heq
      simp only [List.cons_append, List.append_assoc, List.cons.injEq, true_and, List.nil_append] at heq
      have hall := members_shown hsortedKeys hmembers rfl rfl heq
      exact JsValue.defined_obj.2 fun entry hentry => hall entry (hperm.mem_iff.2 hentry)

theorem canonical_toJson (value : JsValue) : canonical numbers value.toJson = .ofList (readText numbers value) :=
  canonical_eq value.toJson

end texts

section identity

variable {value lease result : JsValue} {leaseIdentity : Json}

theorem identity_eq_ok (h : identity lease = .ok leaseIdentity) :
    (["assignment_id", "run_id", "session_id", "principal_id"].all (hasText (lease.field "binding"))
      ∧ isSafePositive ((lease.field "binding").field "generation") ∧ hasText lease "operation_id"
      ∧ ((lease.field "request_identity").field "request_signature").asString?.isSome)
      ∧ leaseIdentity = JsValue.reparsed (.obj [("binding", lease.field "binding"),
        ("operation_id", lease.field "operation_id"), ("request_identity", lease.field "request_identity")]) := by
  simp only [identity, check_bind_eq_ok, require_eq_ok, pure_eq_ok] at h
  exact ⟨h.1, h.2.symm⟩

theorem hasText_reparsed (h : value.Proper) (key : String) :
    hasText (.ofJson value.reparsed) key = hasText value key := by
  rw [hasText, hasText, JsValue.field_reparsed h]
  cases value.field key <;> rfl

theorem isSafePositive_reparsed (h : value.Proper) (key : String) :
    isSafePositive ((JsValue.ofJson value.reparsed).field key) = isSafePositive (value.field key) := by
  rw [JsValue.field_reparsed h]
  cases value.field key <;> rfl

theorem asString?_reparsed (h : value.Proper) (key : String) :
    ((JsValue.ofJson value.reparsed).field key).asString? = (value.field key).asString? := by
  rw [JsValue.field_reparsed h]
  cases value.field key <;> rfl

theorem defined_of_field (key : String) (h : (value.field key).isUndefined = false) : value.isUndefined = false := by
  cases value <;> first | rfl | cases h

theorem defined_of_hasText {key : String} (h : hasText value key = true) : (value.field key).isUndefined = false := by
  rw [Bool.eq_false_iff]
  intro hundefined
  rw [JsValue.isUndefined_iff] at hundefined
  simp [hasText, hundefined] at h

theorem identity_reparsed (h : result.Proper) (hidentity : identity result = .ok leaseIdentity) :
    identity (.ofJson result.reparsed) = .ok leaseIdentity := by
  obtain ⟨⟨htexts, hgeneration, hoperation, hsignature⟩, rfl⟩ := identity_eq_ok hidentity
  have hbinding : (result.field "binding").isUndefined = false := by
    refine defined_of_field "assignment_id" (defined_of_hasText ?_)
    exact List.all_eq_true.1 htexts "assignment_id" (by decide)
  have hoperationDefined := defined_of_hasText hoperation
  have hrequest : (result.field "request_identity").isUndefined = false := by
    refine defined_of_field "request_signature" ?_
    rw [Bool.eq_false_iff]
    intro hundefined
    rw [JsValue.isUndefined_iff] at hundefined
    simp [hundefined, JsValue.asString?] at hsignature
  have hfields : ∀ key, (result.field key).isUndefined = false →
      (JsValue.ofJson result.reparsed).field key = .ofJson (result.field key).reparsed := by
    intro key hdefined
    rw [JsValue.field_reparsed h, hdefined]
    rfl
  have hall : (["assignment_id", "run_id", "session_id", "principal_id"].all
      (hasText (.ofJson (result.field "binding").reparsed))) = true := by
    refine List.all_eq_true.2 fun key hkey => ?_
    rw [hasText_reparsed (JsValue.field_proper h _)]
    exact List.all_eq_true.1 htexts key hkey
  simp only [identity, check_bind_eq_ok, require_eq_ok, pure_eq_ok]
  rw [hfields _ hbinding, hfields _ hoperationDefined, hfields _ hrequest]
  refine ⟨⟨hall, ?_, ?_, ?_⟩, ?_⟩
  · rw [isSafePositive_reparsed (JsValue.field_proper h _)]
    exact hgeneration
  · rw [hasText_reparsed h]
    exact hoperation
  · rw [asString?_reparsed (JsValue.field_proper h _)]
    exact hsignature
  · simp [JsValue.reparsed, JsValue.toJson_obj, JsValue.definedMembers, hbinding, hoperationDefined, hrequest,
      Json.mapValues, Json.enumerated_obj]

end identity

end revit_operator.contracts.completion_outbox
