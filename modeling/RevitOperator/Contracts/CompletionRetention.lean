import RevitOperator.Contracts.CompletionText

open checked

/-! Retention of a completion: what is written is read back, it is never replaced,
    and only the same result is retained beside it. -/

namespace revit_operator.contracts.completion_outbox

variable {file : RecordFile} {signed : String}

section retention

variable {host : OutboxHost} {disk next : Disk} {key : String} {lease envelope structured : JsValue}
  {leaseIdentity retained : Json}

theorem canonical_eq_iff {numbers : Json.NumberText} {a b : Json} :
    canonical numbers a = canonical numbers b ↔ a.canonicalValue = b.canonicalValue := by
  rw [canonical_eq, canonical_eq, String.ofList_inj, (Json.chars_injective numbers).eq_iff]

/-- Every record was parsed from text, so no object of it has a key twice. -/
def Disk.Parsed (disk : Disk) : Prop :=
  ∀ name file json, disk name = some file → file.content = some json → json.Proper

theorem retained_object_proper (h : structured.Proper) :
    JsValue.Proper (.obj [("content", .arr []), ("structuredContent", structured)]) := by
  refine JsValue.proper_obj.2 ⟨by simp, ?_⟩
  intro entry hentry
  obtain rfl | rfl : entry = ("content", .arr []) ∨ entry = ("structuredContent", structured) := by
    simpa using hentry
  · exact JsValue.proper_arr.2 (List.forall_mem_nil _)
  · exact h

theorem retainedEnvelope_proper (h : structured.Proper) : (retainedEnvelope structured).Proper :=
  JsValue.reparsed_proper (retained_object_proper h)

theorem retainedEnvelope_structured (h : structured.Proper) (hdefined : structured.isUndefined = false) :
    (retainedEnvelope structured).field "structuredContent" = structured.reparsed :=
  JsValue.reparsed_field (retained_object_proper h) hdefined

theorem identity_proper (h : lease.Proper) (hidentity : identity lease = .ok leaseIdentity) : leaseIdentity.Proper := by
  obtain ⟨-, rfl⟩ := identity_eq_ok hidentity
  refine JsValue.reparsed_proper (JsValue.proper_obj.2 ⟨by simp, ?_⟩)
  intro entry hentry
  obtain rfl | rfl | rfl : entry = ("binding", lease.field "binding")
      ∨ entry = ("operation_id", lease.field "operation_id")
      ∨ entry = ("request_identity", lease.field "request_identity") := by
    simpa using hentry
  all_goals exact JsValue.field_proper h _

theorem identity_enumerated (hidentity : identity lease = .ok leaseIdentity) :
    leaseIdentity.enumerated = leaseIdentity := by
  obtain ⟨-, rfl⟩ := identity_eq_ok hidentity
  exact JsValue.enumerated_reparsed _

theorem isTruthy_of_identity {value : JsValue} (hidentity : identity value = .ok leaseIdentity) :
    isTruthy value.reparsed = true ∧ isTruthy value.toJson = true ∧ value.isUndefined = false := by
  obtain ⟨⟨-, -, hoperation, -⟩, -⟩ := identity_eq_ok hidentity
  have hfield := defined_of_hasText hoperation
  cases value with
  | obj members => exact ⟨rfl, rfl, rfl⟩
  | _ => cases hfield

theorem read_eq_ok {record payload : Json} {previous : Option Json}
    (hidentity : identity lease = .ok leaseIdentity) (hdisk : disk (recordName host leaseIdentity) = some file)
    (hcontent : file.content = some record) (hpayload : record.member? "payload" = some payload) :
    readCompletionOutboxV2 host disk key lease = .ok previous ↔
      file.size ≤ LIMIT
      ∧ ((record.field "schema").isText SCHEMA
        ∧ ((record.field "signature").asString?.any fun value => text.isHexText 64 value))
      ∧ (∃ expected, signature host key payload = .ok expected ∧ (record.field "signature").isText expected)
      ∧ canonical host.numbers (payload.field "identity") = canonical host.numbers leaseIdentity
      ∧ isTruthy (((payload.field "envelope").field "structuredContent").field "operation_result_v2")
      ∧ (∃ resultIdentity,
        identity (.ofJson (((payload.field "envelope").field "structuredContent").field "operation_result_v2"))
          = .ok resultIdentity
        ∧ canonical host.numbers resultIdentity = canonical host.numbers leaseIdentity)
      ∧ previous = some (payload.field "envelope") := by
  simp only [readCompletionOutboxV2, hidentity, ok_bind, hdisk, hcontent, hpayload, check_bind_eq_ok]
  simp only [bind_eq_ok, require_eq_ok, pure_eq_ok]
  constructor
  · rintro ⟨hsize, hform, expected, hexpected, -, hsigned, -, hbound, -, htruthy, resultIdentity, hresult, -,
      hsame, rfl⟩
    exact ⟨hsize, hform, ⟨expected, hexpected, hsigned⟩, hbound, htruthy, ⟨resultIdentity, hresult, hsame⟩, rfl⟩
  · rintro ⟨hsize, hform, ⟨expected, hexpected, hsigned⟩, hbound, htruthy, ⟨resultIdentity, hresult, hsame⟩, rfl⟩
    exact ⟨hsize, hform, expected, hexpected, (), hsigned, (), hbound, (), htruthy, resultIdentity, hresult, (), hsame,
      rfl⟩

theorem canonical_enumerated {numbers : Json.NumberText} {value : Json} (h : value.Proper) :
    canonical numbers value.enumerated = canonical numbers value :=
  canonical_eq_iff.2 (Json.canonicalValue_enumerated h)

theorem retainedPayload_proper (hlease : lease.Proper) (hstructured : structured.Proper)
    (hidentity : identity lease = .ok leaseIdentity) : (retainedPayload leaseIdentity structured).Proper := by
  refine Json.everyObject_obj.2 ⟨by simp, ?_⟩
  intro entry hentry
  obtain rfl | rfl : entry = ("identity", leaseIdentity) ∨ entry = ("envelope", retainedEnvelope structured) := by
    simpa using hentry
  · exact identity_proper hlease hidentity
  · exact retainedEnvelope_proper hstructured

theorem read_retained (hlease : lease.Proper) (hstructured : structured.Proper)
    (hidentity : identity lease = .ok leaseIdentity)
    {resultIdentity : Json} (hresult : identity (structured.field "operation_result_v2") = .ok resultIdentity)
    (hsame : canonical host.numbers resultIdentity = canonical host.numbers leaseIdentity)
    (hsigned : signature host key (retainedPayload leaseIdentity structured) = .ok signed)
    {size : Nat} (hsize : size ≤ LIMIT)
    (hdisk : disk (recordName host leaseIdentity) =
      some ⟨size, some (retainedRecord (retainedPayload leaseIdentity structured) signed).enumerated⟩) :
    readCompletionOutboxV2 host disk key lease = .ok (some (retainedEnvelope structured)) := by
  set payload := retainedPayload leaseIdentity structured with hpayloadDef
  have hpayload := retainedPayload_proper hlease hstructured hidentity
  have hkeys : (retainedRecord payload signed).KeysDistinct := by simp [Json.KeysDistinct, retainedRecord, Json.members]
  have hmember : (retainedRecord payload signed).enumerated.member? "payload" = some payload.enumerated := by
    rw [Json.member?_enumerated hkeys]
    rfl
  have hfield : ∀ name, (retainedRecord payload signed).enumerated.field name
      = ((retainedRecord payload signed).field name).enumerated := Json.field_enumerated hkeys
  have hpayloadField : ∀ name, payload.enumerated.field name = (payload.field name).enumerated :=
    Json.field_enumerated hpayload.keysDistinct
  have hidentityField : payload.enumerated.field "identity" = leaseIdentity := by
    rw [hpayloadField]
    exact identity_enumerated hidentity
  have henvelopeField : payload.enumerated.field "envelope" = retainedEnvelope structured := by
    rw [hpayloadField]
    exact JsValue.enumerated_reparsed _
  have hresultDefined := (isTruthy_of_identity hresult).2.2
  have hresultField : ((payload.enumerated.field "envelope").field "structuredContent").field "operation_result_v2"
      = (structured.field "operation_result_v2").reparsed := by
    rw [henvelopeField, retainedEnvelope_structured hstructured (defined_of_field _ hresultDefined),
      JsValue.reparsed_field hstructured hresultDefined]
  have hhex : text.isHexText 64 signed = true := by
    simp only [signature, check_bind_eq_ok, pure_eq_ok] at hsigned
    exact hsigned.2 ▸ host.hmac_hex _ _
  refine (read_eq_ok hidentity hdisk rfl hmember).2
    ⟨hsize, ⟨?_, ?_⟩, ⟨signed, ?_, ?_⟩, ?_, ?_, ⟨resultIdentity, ?_, hsame⟩, ?_⟩
  · rw [hfield]
    simp [retainedRecord, Json.field, Json.member?, Json.members, Json.isText]
  · rw [hfield]
    simpa [retainedRecord, Json.field, Json.member?, Json.members, Json.asString?] using hhex
  · rw [← hsigned, signature, signature, canonical_enumerated hpayload]
  · rw [hfield]
    simp [retainedRecord, Json.field, Json.member?, Json.members, Json.isText]
  · rw [hidentityField]
  · rw [hresultField]
    exact (isTruthy_of_identity hresult).1
  · rw [hresultField]
    exact identity_reparsed (JsValue.field_proper hstructured _) hresult
  · rw [henvelopeField]

/-- The record that is written for a result. -/
def writtenRecord (leaseIdentity : Json) (structured : JsValue) (signed : String) : Json :=
  retainedRecord (retainedPayload leaseIdentity structured) signed

/-- The checks a result passes before anything is written. -/
structure Accepted (host : OutboxHost) (key : String) (lease structured : JsValue) (leaseIdentity : Json)
    (signed : String) : Prop where
  schema : (structured.field "schema").asString? = some RESULT_SCHEMA
  result : ∃ resultIdentity, identity (structured.field "operation_result_v2") = .ok resultIdentity
    ∧ canonical host.numbers resultIdentity = canonical host.numbers leaseIdentity
  identity : identity lease = .ok leaseIdentity
  signature : signature host key (retainedPayload leaseIdentity structured) = .ok signed
  size : textSize host (writtenRecord leaseIdentity structured signed) ≤ LIMIT

theorem retain_eq_ok : retainCompletionOutboxV2 host disk key lease envelope = .ok next ↔
    ∃ leaseIdentity signed, Accepted host key lease (envelope.field "structuredContent") leaseIdentity signed
      ∧ match disk (recordName host leaseIdentity) with
        | none =>
          let record := writtenRecord leaseIdentity (envelope.field "structuredContent") signed
          next = Function.update disk (recordName host leaseIdentity)
            (some ⟨textSize host record, some record.enumerated⟩)
        | some _ => ∃ previous, readCompletionOutboxV2 host disk key lease = .ok previous
            ∧ canonical host.numbers (previous.getD .null)
              = canonical host.numbers (retainedEnvelope (envelope.field "structuredContent"))
            ∧ next = disk := by
  simp only [retainCompletionOutboxV2, check_bind_eq_ok]
  simp only [bind_eq_ok, require_eq_ok]
  constructor
  · rintro ⟨hschema, resultIdentity, hresult, leaseIdentity, hidentity, -, hsame, signed, hsigned, -, hsize, h⟩
    refine ⟨leaseIdentity, signed, ⟨hschema, ⟨resultIdentity, hresult, hsame⟩, hidentity, hsigned, hsize⟩, ?_⟩
    cases hdisk : disk (recordName host leaseIdentity) with
    | none =>
      rw [hdisk] at h
      exact (pure_eq_ok.1 h).symm
    | some file =>
      simp only [hdisk, bind_eq_ok, require_eq_ok, pure_eq_ok] at h
      obtain ⟨previous, hread, -, hcanonical, rfl⟩ := h
      exact ⟨previous, hread, hcanonical, rfl⟩
  · rintro ⟨leaseIdentity, signed, ⟨hschema, ⟨resultIdentity, hresult, hsame⟩, hidentity, hsigned, hsize⟩, h⟩
    refine ⟨hschema, resultIdentity, hresult, leaseIdentity, hidentity, (), hsame, signed, hsigned, (), hsize, ?_⟩
    cases hdisk : disk (recordName host leaseIdentity) with
    | none =>
      rw [hdisk] at h
      exact pure_eq_ok.2 h.symm
    | some file =>
      rw [hdisk] at h
      obtain ⟨previous, hread, hcanonical, rfl⟩ := h
      simp only [bind_eq_ok, require_eq_ok]
      exact ⟨previous, hread, (), hcanonical, rfl⟩

/-- The record of an operation holds the result, in some order of its members. -/
structure Holds (host : OutboxHost) (disk : Disk) (key : String) (lease structured : JsValue)
    (leaseIdentity retained : Json) : Prop where
  recorded : (disk (recordName host leaseIdentity)).isSome
  read : readCompletionOutboxV2 host disk key lease = .ok (some retained)
  proper : retained.Proper
  same : canonical host.numbers retained = canonical host.numbers (retainedEnvelope structured)

theorem canonical_null_ne_retainedEnvelope (numbers : Json.NumberText) (structured : JsValue) :
    canonical numbers .null ≠ canonical numbers (retainedEnvelope structured) := by
  rw [Ne, canonical_eq_iff, retainedEnvelope, JsValue.reparsed, JsValue.toJson_obj, Json.enumerated_obj,
    Json.canonicalValue_obj]
  exact Json.noConfusion

theorem proper_of_read (hdisk : disk.Parsed) (hidentity : identity lease = .ok leaseIdentity)
    (hread : readCompletionOutboxV2 host disk key lease = .ok (some retained)) : retained.Proper := by
  cases hfile : disk (recordName host leaseIdentity) with
  | none =>
    simp only [readCompletionOutboxV2, hidentity, ok_bind, hfile, pure_eq_ok, reduceCtorEq] at hread
  | some file =>
    cases hcontent : file.content with
    | none =>
      simp only [readCompletionOutboxV2, hidentity, ok_bind, hfile, hcontent, check_bind_eq_ok] at hread
      cases hread.2
    | some record =>
      cases hpayload : record.member? "payload" with
      | none =>
        simp only [readCompletionOutboxV2, hidentity, ok_bind, hfile, hcontent, hpayload, check_bind_eq_ok] at hread
        cases hread.2.2
      | some payload =>
        have henvelope := ((read_eq_ok hidentity hfile hcontent hpayload).1 hread).2.2.2.2.2.2
        have hfield : payload = record.field "payload" := by rw [Json.field, hpayload, Option.getD_some]
        rw [Option.some.inj henvelope, hfield]
        exact ((hdisk _ file record hfile hcontent).field _).field _

theorem retain_holds (hlease : lease.Proper) (henvelope : envelope.Proper) (hdisk : disk.Parsed)
    (h : retainCompletionOutboxV2 host disk key lease envelope = .ok next) : ∃ leaseIdentity signed retained,
      Accepted host key lease (envelope.field "structuredContent") leaseIdentity signed
      ∧ Holds host next key lease (envelope.field "structuredContent") leaseIdentity retained := by
  obtain ⟨leaseIdentity, signed, haccepted, hnext⟩ := retain_eq_ok.1 h
  have hstructured := JsValue.field_proper henvelope "structuredContent"
  obtain ⟨resultIdentity, hresult, hsame⟩ := haccepted.result
  split at hnext
  · next hnone =>
    have hwritten : next (recordName host leaseIdentity) = some _ := hnext ▸ Function.update_self _ _ _
    exact ⟨leaseIdentity, signed, _, haccepted, by rw [hwritten]; rfl,
      read_retained hlease hstructured haccepted.identity hresult hsame haccepted.signature haccepted.size hwritten,
      retainedEnvelope_proper hstructured, rfl⟩
  · next file hfile =>
    obtain ⟨previous, hread, hcanonical, rfl⟩ := hnext
    cases previous with
    | none => exact absurd hcanonical (canonical_null_ne_retainedEnvelope _ _)
    | some retained =>
      exact ⟨leaseIdentity, signed, retained, haccepted, by rw [hfile]; rfl, hread,
        proper_of_read hdisk haccepted.identity hread, hcanonical⟩

/-- Results that are retained afterwards. -/
def Retains (host : OutboxHost) (disk next : Disk) : Prop :=
  ∃ key lease envelope, retainCompletionOutboxV2 host disk key lease envelope = .ok next

theorem kept_by_retain {name : String} (h : Retains host disk next)
    (hfile : disk name = some file) : next name = some file := by
  obtain ⟨key, lease, envelope, h⟩ := h
  obtain ⟨leaseIdentity, signed, -, hnext⟩ := retain_eq_ok.1 h
  split at hnext
  · next hnone =>
    have hother : name ≠ recordName host leaseIdentity := by
      rintro rfl
      rw [hnone] at hfile
      cases hfile
    rw [hnext, Function.update_of_ne hother, hfile]
  · obtain ⟨previous, -, -, rfl⟩ := hnext
    exact hfile

theorem kept_by_retains {name : String} (h : Relation.ReflTransGen (Retains host) disk next)
    (hfile : disk name = some file) : next name = some file := by
  induction h with
  | refl => exact hfile
  | tail _ hstep ih => exact kept_by_retain hstep ih

theorem read_congr {other : Disk} {otherLease : JsValue} {otherIdentity : Json}
    (hidentity : identity lease = .ok leaseIdentity) (hother : identity otherLease = .ok otherIdentity)
    (hsame : canonical host.numbers otherIdentity = canonical host.numbers leaseIdentity)
    (hkept : other (recordName host leaseIdentity) = disk (recordName host leaseIdentity)) :
    readCompletionOutboxV2 host other key otherLease = readCompletionOutboxV2 host disk key lease := by
  have hname : recordName host otherIdentity = recordName host leaseIdentity := by
    rw [recordName, recordName, hsame]
  simp only [readCompletionOutboxV2, hidentity, hother, ok_bind, hname, hkept, hsame]

theorem Accepted.defined (h : Accepted host key lease structured leaseIdentity signed) :
    structured.isUndefined = false := by
  obtain ⟨resultIdentity, hresult, -⟩ := h.result
  exact defined_of_field _ (isTruthy_of_identity hresult).2.2

theorem Holds.stays (h : Holds host next key lease structured leaseIdentity retained)
    (hidentity : identity lease = .ok leaseIdentity) (hlater : Relation.ReflTransGen (Retains host) next later) :
    Holds host later key lease structured leaseIdentity retained := by
  obtain ⟨file, hfile⟩ := Option.isSome_iff_exists.1 h.recorded
  have hkept := kept_by_retains hlater hfile
  refine ⟨by rw [hkept]; rfl, ?_, h.proper, h.same⟩
  rw [read_congr hidentity hidentity rfl (hkept.trans hfile.symm), h.read]

theorem Holds.retain_iff {otherLease other : JsValue} {otherIdentity : Json} {final : Disk}
    (h : Holds host disk key lease structured leaseIdentity retained) (hidentity : identity lease = .ok leaseIdentity)
    (hsame : canonical host.numbers otherIdentity = canonical host.numbers leaseIdentity)
    (haccepted : Accepted host key otherLease (other.field "structuredContent") otherIdentity signed) :
    retainCompletionOutboxV2 host disk key otherLease other = .ok final ↔
      canonical host.numbers (retainedEnvelope structured)
        = canonical host.numbers (retainedEnvelope (other.field "structuredContent")) ∧ final = disk := by
  obtain ⟨file, hfile⟩ := Option.isSome_iff_exists.1 h.recorded
  have hname : recordName host otherIdentity = recordName host leaseIdentity := by rw [recordName, recordName, hsame]
  have hread : readCompletionOutboxV2 host disk key otherLease = .ok (some retained) :=
    (read_congr hidentity haccepted.identity hsame rfl).trans h.read
  rw [retain_eq_ok]
  constructor
  · rintro ⟨named, _, haccepted', hfinal⟩
    obtain rfl := Except.ok.inj (haccepted.identity.symm.trans haccepted'.identity)
    rw [hname, hfile] at hfinal
    obtain ⟨previous, hprevious, hcanonical, rfl⟩ := hfinal
    obtain rfl := Except.ok.inj (hread.symm.trans hprevious)
    exact ⟨h.same.symm.trans hcanonical, rfl⟩
  · rintro ⟨hcanonical, rfl⟩
    refine ⟨otherIdentity, signed, haccepted, ?_⟩
    rw [hname, hfile]
    exact ⟨_, hread, h.same.trans hcanonical, rfl⟩

theorem same_of_retainedEnvelope {numbers : Json.NumberText} {a b : JsValue} (ha : a.Proper) (hb : b.Proper)
    (haDefined : a.isUndefined = false) (hbDefined : b.isUndefined = false)
    (h : canonical numbers (retainedEnvelope a) = canonical numbers (retainedEnvelope b)) :
    Json.Same a.toJson b.toJson := by
  have hmember := congrArg (fun value => Json.field value "structuredContent") (canonical_eq_iff.1 h)
  simp only [Json.field_canonicalValue (retainedEnvelope_proper ha).keysDistinct,
    Json.field_canonicalValue (retainedEnvelope_proper hb).keysDistinct, retainedEnvelope_structured ha haDefined,
    retainedEnvelope_structured hb hbDefined, JsValue.reparsed,
    Json.canonicalValue_enumerated (JsValue.toJson_proper ha),
    Json.canonicalValue_enumerated (JsValue.toJson_proper hb)] at hmember
  exact Json.same_of_canonicalValue (JsValue.toJson_proper ha) (JsValue.toJson_proper hb) hmember

end retention

end revit_operator.contracts.completion_outbox
