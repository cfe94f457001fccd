import RevitOperator.Contracts.CompletionRetention

open checked

/-! What a delivered completion is restored to: digests are taken of the value in
    memory on one side and of the record read back on the other. -/

namespace revit_operator.contracts.completion_outbox

section delivery

variable {host : OutboxHost} {disk next later : Disk} {key : String} {lease envelope delivered structured : JsValue}
  {leaseIdentity retained : Json}

theorem field_withMember (value : JsValue) (key : String) (member : JsValue) :
    (withMember value key member).field key = member := by
  cases value with
  | obj members =>
    rw [withMember]
    split_ifs with hany
    · simp only [JsValue.field]
      induction members with
      | nil => cases hany
      | cons entry rest ih =>
        by_cases hkey : entry.1 = key
        · simp [hkey]
        · simpa [hkey] using ih (by simpa [hkey] using hany)
    · simp only [JsValue.field, List.find?_append]
      have hnone : members.find? (fun entry => entry.1 = key) = none := by
        rw [List.find?_eq_none]
        exact fun entry hentry hkey => hany (List.any_eq_true.2 ⟨entry, hentry, hkey⟩)
      simp [hnone]
  | _ => simp [withMember, JsValue.field]

theorem deliver_eq_ok (h : deliverCompletionOutboxV2 host disk key lease envelope = .ok (delivered, next)) :
    retainCompletionOutboxV2 host disk key lease envelope = .ok next
    ∧ (delivered = envelope ∧ textSize host envelope.toJson ≤ COMPLETION_DELIVERY_BUDGET_V2
      ∨ ¬ textSize host envelope.toJson ≤ COMPLETION_DELIVERY_BUDGET_V2
        ∧ ∃ leaseIdentity structuredSha256, identity lease = .ok leaseIdentity
          ∧ digest host (envelope.field "structuredContent") = .ok structuredSha256
          ∧ delivered.field "structuredContent"
            = deliveryReference (recordName host leaseIdentity) structuredSha256) := by
  simp only [deliverCompletionOutboxV2, bind_eq_ok] at h
  obtain ⟨retainedDisk, hretain, h⟩ := h
  split at h
  · next hinline =>
    cases h
    exact ⟨hretain, .inl ⟨rfl, hinline⟩⟩
  · next hlarge =>
    simp only [bind_eq_ok] at h
    obtain ⟨leaseIdentity, hidentity, structuredSha256, hdigest, h⟩ := h
    split at h
    · cases h
      exact ⟨hretain, .inr ⟨hlarge, leaseIdentity, structuredSha256, hidentity, hdigest, field_withMember _ _ _⟩⟩
    · cases h
      refine ⟨hretain, .inr ⟨hlarge, leaseIdentity, structuredSha256, hidentity, hdigest, ?_⟩⟩
      rw [withoutPresentation]
      split <;> rfl

/-- The digest tells the two texts of a value apart where they differ. -/
def DigestTells (host : OutboxHost) (value : JsValue) : Prop :=
  ∀ own, canonicalText host.numbers value = some own →
    host.sha256 (.ofList own) = host.sha256 (canonical host.numbers value.toJson) →
    String.ofList own = canonical host.numbers value.toJson

/-- The digest of a value in memory is that of the value read back exactly where
    nothing in it is `undefined`. -/
theorem digest_eq_iff (h : structured.Proper) (hdefined : structured.isUndefined = false)
    (hsha : DigestTells host structured) :
    digest host structured = .ok (host.sha256 (canonical host.numbers structured.toJson)) ↔ structured.Defined := by
  obtain ⟨own, hown, hmeets⟩ := canonicalText_meets host.numbers h hdefined
  rw [digest, hown, canonical_toJson]
  constructor
  · intro hdigest
    have htext := hsha own hown (by rw [canonical_toJson]; exact Except.ok.inj hdigest)
    rw [canonical_toJson, String.ofList_inj] at htext
    exact hmeets.shown [] [] Json.follows_nil Json.follows_nil (by rw [htext])
  · intro hall
    rw [hmeets.same hall]

theorem digest_hex {value : JsValue} {sha256 : String} (h : digest host value = .ok sha256) :
    text.isHexText 64 sha256 = true := by
  rw [digest] at h
  split at h
  · exact Except.ok.inj h ▸ host.sha256_hex _
  · cases h

theorem digest_ofJson {json : Json} (h : json.Proper) :
    digest host (.ofJson json) = .ok (host.sha256 (canonical host.numbers json)) := by
  obtain ⟨own, hown, hmeets⟩ :=
    canonicalText_meets host.numbers (JsValue.ofJson_proper h) (JsValue.isUndefined_ofJson json)
  have htext : String.ofList own = canonical host.numbers json := by
    rw [hmeets.same (JsValue.ofJson_defined json), ← canonical_toJson, JsValue.toJson_ofJson]
  rw [digest, hown, ← htext]

theorem Holds.sameStructured (h : Holds host disk key lease structured leaseIdentity retained)
    (hstructured : structured.Proper) (hdefined : structured.isUndefined = false) :
    (retained.field "structuredContent").canonicalValue = structured.toJson.canonicalValue := by
  have hsame := canonical_eq_iff.1 h.same
  have hread := congrArg (fun value => Json.field value "structuredContent") hsame
  simp only [Json.field_canonicalValue h.proper.keysDistinct,
    Json.field_canonicalValue (retainedEnvelope_proper hstructured).keysDistinct,
    retainedEnvelope_structured hstructured hdefined] at hread
  rw [hread, JsValue.reparsed, Json.canonicalValue_enumerated (JsValue.toJson_proper hstructured)]

theorem hydrate_reference {structuredSha256 : String} (hidentity : identity lease = .ok leaseIdentity)
    (hholds : Holds host disk key lease structured leaseIdentity retained)
    (hstructured : structured.Proper) (hdefined : structured.isUndefined = false)
    (hreference : delivered.field "structuredContent"
      = deliveryReference (recordName host leaseIdentity) structuredSha256)
    (hhex : text.isHexText 64 structuredSha256 = true) :
    hydrateCompletionDeliveryV2 host disk key lease delivered =
      if structuredSha256 = host.sha256 (canonical host.numbers structured.toJson) then
        .ok (withMember delivered "structuredContent" (.ofJson (retained.field "structuredContent")))
      else .error (fault "delivery_digest_mismatch") := by
  have hrestored : digest host (.ofJson (retained.field "structuredContent"))
      = .ok (host.sha256 (canonical host.numbers structured.toJson)) := by
    rw [digest_ofJson (hholds.proper.field _), canonical_eq_iff.2 (hholds.sameStructured hstructured hdefined)]
  have htruthy := (isTruthy_of_identity hidentity).2.1
  have hname : text.isHexText 64 (recordName host leaseIdentity) = true := host.sha256_hex _
  have hkeys : text.joinWith ","
      (text.sorted (keysOf (deliveryReference (recordName host leaseIdentity) structuredSha256)))
      = "identity_sha256,schema,structured_sha256" := by
    simp only [keysOf, deliveryReference, List.map_cons, List.map_nil]
    decide
  have hschema : (deliveryReference (recordName host leaseIdentity) structuredSha256).field "schema"
      = .str DELIVERY_SCHEMA := rfl
  have hidentityDigest : (deliveryReference (recordName host leaseIdentity) structuredSha256).field "identity_sha256"
      = .str (recordName host leaseIdentity) := rfl
  have hstructuredDigest :
      (deliveryReference (recordName host leaseIdentity) structuredSha256).field "structured_sha256"
        = .str structuredSha256 := rfl
  have hform : isDigest (.str (recordName host leaseIdentity)) = true ∧ isDigest (.str structuredSha256) = true :=
    ⟨hname, hhex⟩
  rw [hydrateCompletionDeliveryV2, hreference]
  simp only [hschema, hidentityDigest, hstructuredDigest, JsValue.asString?, ne_eq, not_true_eq_false, if_false,
    htruthy, hidentity, hkeys, hform, ok_bind, hholds.read, hrestored, require_of, and_self, Option.some.injEq]
  split_ifs with hsame
  · rw [require_of hsame]
    rfl
  · rw [require_eq_error.2 ⟨hsame, rfl⟩]
    rfl

/-- What was delivered is restored where it was delivered in full or nothing in it
    is `undefined`. -/
theorem hydrates_iff {signed : String} (hproper : structured.Proper) (hsha : DigestTells host structured)
    (hstructured : envelope.field "structuredContent" = structured)
    (haccepted : Accepted host key lease structured leaseIdentity signed)
    (hholds : Holds host disk key lease structured leaseIdentity retained)
    (hdelivered : delivered = envelope ∧ textSize host envelope.toJson ≤ COMPLETION_DELIVERY_BUDGET_V2
      ∨ ¬ textSize host envelope.toJson ≤ COMPLETION_DELIVERY_BUDGET_V2
        ∧ ∃ leaseIdentity structuredSha256, identity lease = .ok leaseIdentity
          ∧ digest host structured = .ok structuredSha256
          ∧ delivered.field "structuredContent"
            = deliveryReference (recordName host leaseIdentity) structuredSha256) :
    (∃ hydrated, hydrateCompletionDeliveryV2 host disk key lease delivered = .ok hydrated
        ∧ Json.Same (hydrated.field "structuredContent").toJson structured.toJson)
      ↔ textSize host envelope.toJson ≤ COMPLETION_DELIVERY_BUDGET_V2 ∨ structured.Defined := by
  have hdefined := haccepted.defined
  obtain ⟨rfl, hinline⟩ | ⟨hlarge, leaseIdentity', structuredSha256, hidentity, hdigest, hreference⟩ := hdelivered
  · refine iff_of_true ⟨delivered, ?_, ?_⟩ (.inl hinline)
    · have hschema : ((delivered.field "structuredContent").field "schema").asString? ≠ some DELIVERY_SCHEMA := by
        rw [hstructured, haccepted.schema]
        decide
      rw [hydrateCompletionDeliveryV2, if_pos hschema]
      rfl
    · rw [hstructured]
      exact Json.same_of_canonicalValue (JsValue.toJson_proper hproper) (JsValue.toJson_proper hproper) rfl
  · obtain rfl := Except.ok.inj (haccepted.identity.symm.trans hidentity)
    have hhex := digest_hex hdigest
    have hrestored : structuredSha256 = host.sha256 (canonical host.numbers structured.toJson) ↔ structured.Defined := by
      rw [← digest_eq_iff hproper hdefined hsha, hdigest, Except.ok.injEq]
    rw [hydrate_reference hidentity hholds hproper hdefined hreference hhex, or_iff_right hlarge, ← hrestored]
    constructor
    · rintro ⟨hydrated, hhydrated, -⟩
      by_contra hother
      rw [if_neg hother] at hhydrated
      cases hhydrated
    · intro hsame
      refine ⟨_, if_pos hsame, ?_⟩
      rw [field_withMember, JsValue.toJson_ofJson]
      exact Json.same_of_canonicalValue (hholds.proper.field _) (JsValue.toJson_proper hproper)
        (hholds.sameStructured hproper hdefined)

theorem digestTells_of_defined (h : structured.Proper) (hall : structured.Defined) : DigestTells host structured := by
  intro own hown _
  have hdefined : structured.isUndefined = false := by
    rw [Bool.eq_false_iff]
    intro hundefined
    exact JsValue.not_defined_undefined (JsValue.isUndefined_iff.1 hundefined ▸ hall)
  obtain ⟨text, htext, hmeets⟩ := canonicalText_meets host.numbers h hdefined
  obtain rfl := Option.some.inj (hown.symm.trans htext)
  rw [hmeets.same hall, canonical_toJson]

theorem delivers_of_retain (henvelope : envelope.Proper)
    (h : retainCompletionOutboxV2 host disk key lease envelope = .ok next) :
    ∃ delivered, deliverCompletionOutboxV2 host disk key lease envelope = .ok (delivered, next) := by
  obtain ⟨leaseIdentity, signed, haccepted, -⟩ := retain_eq_ok.1 h
  obtain ⟨own, hown, -⟩ := canonicalText_meets host.numbers
    (JsValue.field_proper henvelope "structuredContent") haccepted.defined
  have hdigest : digest host (envelope.field "structuredContent") = .ok (host.sha256 (.ofList own)) := by
    rw [digest, hown]
  rw [deliverCompletionOutboxV2, h, ok_bind]
  split_ifs with hinline
  · exact ⟨_, rfl⟩
  · simp only [haccepted.identity, hdigest, ok_bind]
    split_ifs
    · exact ⟨_, rfl⟩
    · exact ⟨_, rfl⟩

theorem unindexed_obj {members : List (String × JsValue)}
    (h : ∀ entry ∈ members, Json.arrayIndex? entry.1 = none ∧ entry.2.toJson.Unindexed) :
    (JsValue.obj members).toJson.Unindexed := by
  rw [JsValue.toJson_obj, Json.Unindexed, Json.everyObject_obj, Json.keys_mapValues]
  constructor
  · intro name hname
    obtain ⟨entry, hentry, rfl⟩ := List.mem_map.1 hname
    exact (h entry (List.mem_filter.1 hentry).1).1
  · intro entry hentry
    obtain ⟨original, horiginal, rfl⟩ := List.mem_map.1 hentry
    exact (h original (List.mem_filter.1 horiginal).1).2

theorem textSize_bounds (host : OutboxHost) {value : Json} (h : value.Unindexed) :
    (Json.chars host.numbers value).length ≤ textSize host value
    ∧ textSize host value ≤ 4 * (Json.chars host.numbers value).length := by
  have hbounds := text.utf8ByteLength_bounds (Json.stringify host.numbers value)
  rwa [Json.stringify, String.toList_ofList, h.enumerated, ← h.enumerated, ← Json.stringify, ← textSize,
    h.enumerated] at hbounds

end delivery

variable {note : JsValue}

section samples

/-- A digest that counts characters. -/
def digestText (message : String) : String := .ofList (List.replicate 63 '0' ++ [Nat.digitChar (message.length % 10)])

theorem digestText_hex (message : String) : text.isHexText 64 (digestText message) = true := by
  have hdigits : ∀ digit < 10, text.isHexText 64 (.ofList (List.replicate 63 '0' ++ [Nat.digitChar digit])) = true := by
    simp only [text.isHexText, String.toList_ofList]
    decide +kernel
  exact hdigits _ (Nat.mod_lt _ (by decide))

def sampleSignature : String := .ofList (List.replicate 64 'b')

def sampleHost : OutboxHost where
  numbers := Json.integerText
  sha256 := digestText
  hmac _ _ := sampleSignature
  sha256_hex := digestText_hex
  hmac_hex _ _ := by decide +kernel

def sampleKey : String := .ofList (List.replicate 64 'a')

def sampleLease : JsValue :=
  .obj [("binding", .obj [("assignment_id", .str "a"), ("run_id", .str "r"), ("session_id", .str "s"),
      ("principal_id", .str "p"), ("generation", .num 1)]),
    ("operation_id", .str "o"), ("request_identity", .obj [("request_signature", .str "q")])]

/-- A result with one further member. -/
def sampleStructured (note : JsValue) : JsValue :=
  .obj [("schema", .str RESULT_SCHEMA), ("operation_result_v2", sampleLease), ("note", note)]

def sampleEnvelope (presentation : String) (note : JsValue) : JsValue :=
  .obj [("content", .arr [.str presentation]), ("structuredContent", sampleStructured note)]

/-- A presentation of some length. -/
def presentationOf (length : Nat) : String := .ofList (List.replicate length 'x')

theorem length_presentationOf (length : Nat) : (presentationOf length).toList.length = length := by
  rw [presentationOf, String.toList_ofList, List.length_replicate]

theorem sampleLease_proper : sampleLease.Proper := by
  simp [sampleLease, JsValue.Proper, JsValue.Everywhere, JsValue.EveryMember]

theorem sampleLease_defined : sampleLease.Defined := by
  simp [sampleLease, JsValue.Defined, JsValue.Everywhere, JsValue.EveryMember]

theorem sampleStructured_proper (h : note.Proper) : (sampleStructured note).Proper := by
  refine JsValue.proper_obj.2 ⟨by simp, ?_⟩
  simpa [sampleLease_proper] using ⟨trivial, h⟩

theorem sampleEnvelope_proper (presentation : String) (h : note.Proper) :
    (sampleEnvelope presentation note).Proper := by
  refine JsValue.proper_obj.2 ⟨by simp, ?_⟩
  simp only [List.forall_mem_cons, JsValue.proper_arr, List.not_mem_nil, false_imp_iff, implies_true, and_true]
  exact ⟨trivial, sampleStructured_proper h⟩

theorem sampleLease_unindexed : sampleLease.toJson.Unindexed := by
  simp +decide [sampleLease, JsValue.toJson, JsValue.jsonMembers, Json.Unindexed, Json.EveryObject, Json.EveryMember]

theorem sampleStructured_unindexed (h : note.toJson.Unindexed) :
    (sampleStructured note).toJson.Unindexed := by
  refine unindexed_obj ?_
  simp only [List.forall_mem_cons, List.not_mem_nil, false_imp_iff, implies_true, and_true]
  exact ⟨⟨by decide, trivial⟩, ⟨by decide, sampleLease_unindexed⟩, by decide, h⟩

theorem sampleEnvelope_unindexed (presentation : String) (h : note.toJson.Unindexed) :
    (sampleEnvelope presentation note).toJson.Unindexed := by
  refine unindexed_obj ?_
  simp only [List.forall_mem_cons, List.not_mem_nil, false_imp_iff, implies_true, and_true]
  exact ⟨⟨by decide, trivial, trivial⟩, by decide, sampleStructured_unindexed h⟩

theorem identity_sample : identity sampleLease = .ok sampleLease.toJson := by
  have hproperty : (.obj [("binding", sampleLease.field "binding"), ("operation_id", sampleLease.field "operation_id"),
      ("request_identity", sampleLease.field "request_identity")] : JsValue) = sampleLease := rfl
  rw [identity, require_of ⟨by decide +kernel, by decide +kernel, by decide +kernel, by decide +kernel⟩, ok_bind,
    hproperty, JsValue.reparsed, sampleLease_unindexed.enumerated]
  rfl

theorem retainedEnvelope_sample (h : note.toJson.Unindexed) :
    retainedEnvelope (sampleStructured note)
      = .obj [("content", .arr []), ("structuredContent", (sampleStructured note).toJson)] := by
  have hunindexed :
      (JsValue.obj [("content", .arr []), ("structuredContent", sampleStructured note)]).toJson.Unindexed := by
    refine unindexed_obj ?_
    simp only [List.forall_mem_cons, List.not_mem_nil, false_imp_iff, implies_true, and_true]
    exact ⟨⟨by decide, trivial⟩, by decide, sampleStructured_unindexed h⟩
  rw [retainedEnvelope, JsValue.reparsed, hunindexed.enumerated]
  rfl

/-- The record of a result with the note. -/
def sampleRecord (note : JsValue) : Json :=
  retainedRecord (.obj [("identity", sampleLease.toJson), ("envelope", .obj [("content", .arr []),
    ("structuredContent", (sampleStructured note).toJson)])]) sampleSignature

theorem sampleRecord_unindexed (h : note.toJson.Unindexed) : (sampleRecord note).Unindexed := by
  have hlease := sampleLease_unindexed
  have hstructured := sampleStructured_unindexed h
  simp only [Json.Unindexed] at hlease hstructured ⊢
  simp +decide [sampleRecord, retainedRecord, Json.EveryObject, Json.EveryMember, Json.EveryItem, hlease, hstructured]

theorem sample_accepted (h : note.toJson.Unindexed)
    (hlength : (Json.chars Json.integerText (sampleRecord note)).length ≤ 4096) :
    Accepted sampleHost sampleKey sampleLease (sampleStructured note) sampleLease.toJson sampleSignature := by
  have hrecord : writtenRecord sampleLease.toJson (sampleStructured note) sampleSignature = sampleRecord note := by
    rw [writtenRecord, retainedPayload, retainedEnvelope_sample h]
    rfl
  refine ⟨rfl, ⟨_, identity_sample, rfl⟩, identity_sample, ?_, ?_⟩
  · rw [signature, require_of (by decide +kernel)]
    rfl
  · have hbounds := (textSize_bounds sampleHost (sampleRecord_unindexed h)).2
    rw [hrecord]
    exact hbounds.trans ((Nat.mul_le_mul_left 4 hlength).trans (by decide))

theorem sample_retained (presentation : String) (note : JsValue) (h : note.toJson.Unindexed)
    (hlength : (Json.chars Json.integerText (sampleRecord note)).length ≤ 4096) :
    ∃ next, retainCompletionOutboxV2 sampleHost (fun _ => none) sampleKey sampleLease
      (sampleEnvelope presentation note) = .ok next :=
  ⟨_, retain_eq_ok.2 ⟨_, _, sample_accepted h hlength, rfl⟩⟩

theorem length_le_quote (s : String) : s.toList.length ≤ (Json.quote s).length := by
  have hescaped : ∀ cs : List Char, cs.length ≤ (cs.flatMap Json.escape).length := by
    intro cs
    induction cs with
    | nil => simp
    | cons c rest ih =>
      have hpos : 0 < (Json.escape c).length := by
        rw [Json.escape]
        split
        · simp
        · split_ifs <;> simp
      simp only [List.flatMap_cons, List.length_append, List.length_cons]
      omega
  have hs := hescaped s.toList
  simp only [Json.quote, List.length_append, List.length_cons]
  omega

theorem sample_large {presentation : String} (hlarge : COMPLETION_DELIVERY_BUDGET_V2 ≤ presentation.toList.length)
    (h : note.toJson.Unindexed) :
    COMPLETION_DELIVERY_BUDGET_V2 < textSize sampleHost (sampleEnvelope presentation note).toJson := by
  refine lt_of_lt_of_le ?_ (textSize_bounds sampleHost (sampleEnvelope_unindexed presentation h)).1
  have hvalue : (sampleEnvelope presentation note).toJson
      = .obj [("content", .arr [.str presentation]), ("structuredContent", (sampleStructured note).toJson)] := rfl
  refine lt_of_le_of_lt (hlarge.trans (length_le_quote presentation)) ?_
  rw [hvalue]
  simp only [Json.chars, Json.memberChars_cons_cons, Json.itemChars, List.length_append, List.length_cons]
  omega

theorem sample_digest : digest sampleHost (sampleStructured .undefined)
    ≠ .ok (sampleHost.sha256 (canonical sampleHost.numbers (sampleStructured .undefined).toJson)) := by
  have hown : (canonicalText Json.integerText (sampleStructured .undefined)).map List.length = some 260 := by
    decide +kernel
  have hread : (readText Json.integerText (sampleStructured .undefined)).length = 243 := by decide +kernel
  obtain ⟨own, htext, hlength⟩ := Option.map_eq_some_iff.1 hown
  have hdigest : digest sampleHost (sampleStructured .undefined) = .ok (digestText (.ofList own)) := by
    rw [digest]
    simp only [sampleHost, htext]
  rw [hdigest, canonical_toJson]
  intro hsame
  simp only [sampleHost, Except.ok.injEq, digestText, String.length_ofList, hlength, hread, String.ofList_inj] at hsame
  exact absurd hsame (by decide)

end samples

section round_trip

variable {host : OutboxHost} {disk next later : Disk} {key : String} {lease envelope delivered : JsValue}

/-- A delivered result is restored, equal as JSON, exactly when it was delivered
    inline or nothing in it is `undefined`. Whatever else is retained meanwhile,
    the result can be retained again, and no other one under its identity. -/
theorem delivery_round_trip_iff (hlease : lease.Proper) (henvelope : envelope.Proper) (hdisk : disk.Parsed)
    (hsha : DigestTells host (envelope.field "structuredContent"))
    (hdeliver : deliverCompletionOutboxV2 host disk key lease envelope = .ok (delivered, next))
    (hlater : Relation.ReflTransGen (Retains host) next later) :
    ((∃ hydrated, hydrateCompletionDeliveryV2 host later key lease delivered = .ok hydrated
        ∧ Json.Same (hydrated.field "structuredContent").toJson (envelope.field "structuredContent").toJson)
      ↔ textSize host envelope.toJson ≤ COMPLETION_DELIVERY_BUDGET_V2
        ∨ (envelope.field "structuredContent").Defined)
    ∧ retainCompletionOutboxV2 host later key lease envelope = .ok later
    ∧ ∀ otherLease other final, other.Proper →
        (identity otherLease).map (canonical host.numbers) = (identity lease).map (canonical host.numbers) →
        retainCompletionOutboxV2 host later key otherLease other = .ok final →
        Json.Same (envelope.field "structuredContent").toJson (other.field "structuredContent").toJson := by
  obtain ⟨hretain, hdelivered⟩ := deliver_eq_ok hdeliver
  obtain ⟨leaseIdentity, signed, retained, haccepted, hheld⟩ := retain_holds hlease henvelope hdisk hretain
  have hproper := JsValue.field_proper henvelope "structuredContent"
  have hholds := hheld.stays haccepted.identity hlater
  refine ⟨hydrates_iff hproper hsha rfl haccepted hholds hdelivered, ?_, ?_⟩
  · exact (hholds.retain_iff haccepted.identity rfl haccepted).2 ⟨rfl, rfl⟩
  · intro otherLease other final hother hsame hfinal
    obtain ⟨otherIdentity, otherSigned, hotherAccepted, -⟩ := retain_eq_ok.1 hfinal
    rw [haccepted.identity, hotherAccepted.identity] at hsame
    have hcanonical := ((hholds.retain_iff haccepted.identity (Except.ok.inj hsame) hotherAccepted).1 hfinal).1
    exact same_of_retainedEnvelope hproper (JsValue.field_proper hother _) haccepted.defined hotherAccepted.defined
      hcanonical

/-- A result of the budget's size is restored from its reference. -/
theorem delivery_round_trip_by_reference : ∃ delivered next,
    deliverCompletionOutboxV2 sampleHost (fun _ => none) sampleKey sampleLease
      (sampleEnvelope (presentationOf COMPLETION_DELIVERY_BUDGET_V2) .null) = .ok (delivered, next)
    ∧ ∃ hydrated, hydrateCompletionDeliveryV2 sampleHost next sampleKey sampleLease delivered = .ok hydrated
      ∧ Json.Same (hydrated.field "structuredContent").toJson (sampleStructured .null).toJson := by
  have hlength : (Json.chars Json.integerText (sampleRecord .null)).length ≤ 4096 := by decide +kernel
  have hdefined : (sampleStructured .null).Defined := by
    refine JsValue.defined_obj.2 ?_
    simp only [List.forall_mem_cons, List.not_mem_nil, false_imp_iff, implies_true, and_true]
    exact ⟨JsValue.noConfusion, sampleLease_defined, JsValue.noConfusion⟩
  have hparsed : Disk.Parsed fun _ => none := by
    intro _ _ _ hnone
    cases hnone
  generalize presentationOf COMPLETION_DELIVERY_BUDGET_V2 = presentation
  have hproper : (sampleEnvelope presentation .null).Proper := sampleEnvelope_proper _ trivial
  obtain ⟨next, hretain⟩ := sample_retained presentation .null trivial hlength
  obtain ⟨delivered, hdeliver⟩ := delivers_of_retain hproper hretain
  exact ⟨delivered, next, hdeliver, (delivery_round_trip_iff sampleLease_proper hproper hparsed
    (digestTells_of_defined (sampleStructured_proper trivial) hdefined) hdeliver .refl).1.2 (.inr hdefined)⟩

/-- A result with a member that is `undefined` is retained and delivered, but not
    restored. -/
theorem undefined_member_not_restored : ∃ delivered next,
    deliverCompletionOutboxV2 sampleHost (fun _ => none) sampleKey sampleLease
      (sampleEnvelope (presentationOf COMPLETION_DELIVERY_BUDGET_V2) .undefined) = .ok (delivered, next)
    ∧ hydrateCompletionDeliveryV2 sampleHost next sampleKey sampleLease delivered
      = .error (fault "delivery_digest_mismatch") := by
  have hlength : (Json.chars Json.integerText (sampleRecord .undefined)).length ≤ 4096 := by decide +kernel
  have hparsed : Disk.Parsed fun _ => none := by
    intro _ _ _ hnone
    cases hnone
  have hlarge := (length_presentationOf COMPLETION_DELIVERY_BUDGET_V2).ge
  generalize presentationOf COMPLETION_DELIVERY_BUDGET_V2 = presentation at hlarge ⊢
  have hproper : (sampleEnvelope presentation .undefined).Proper := sampleEnvelope_proper _ trivial
  obtain ⟨next, hretain⟩ := sample_retained presentation .undefined trivial hlength
  obtain ⟨delivered, hdeliver⟩ := delivers_of_retain hproper hretain
  obtain ⟨leaseIdentity, signed, retained, haccepted, hholds⟩ := retain_holds sampleLease_proper hproper hparsed hretain
  refine ⟨delivered, next, hdeliver, ?_⟩
  obtain ⟨-, ⟨-, hinline⟩ | ⟨-, leaseIdentity', structuredSha256, hidentity, hdigest, hreference⟩⟩ :=
    deliver_eq_ok hdeliver
  · exact absurd hinline (not_le.2 (sample_large hlarge trivial))
  · obtain rfl := Except.ok.inj (haccepted.identity.symm.trans hidentity)
    rw [hydrate_reference hidentity hholds (sampleStructured_proper trivial) rfl hreference (digest_hex hdigest),
      if_neg]
    intro hsame
    exact sample_digest (hsame ▸ hdigest)

end round_trip

end revit_operator.contracts.completion_outbox
