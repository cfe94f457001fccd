import RevitOperator.NativeTransport.CompletionStore
import RevitOperator.NativeTransport.ReplayHistory

open checked
open revit_operator.native_transport

/-! What the completion store holds after any calls, and what a lookup can therefore
    say. -/

namespace revit_operator.native_completion

variable {Json : Type} {host : CompletionHost Json} {Epoch : String} {isSelector : String → Bool}

section opened

theorem checkRequest_hex {transportHost : TransportHost} {call : native_transport.Call} {fields : Fields}
    {context : OperatorNativeTransportRequestContext} (h : checkRequest transportHost call fields = .ok context) :
    context.Request.RequestId.toList.all text.isHex = true
      ∧ (text.length context.Request.RequestId = 32 ∨ text.length context.Request.RequestId = 64) := by
  simp only [checkRequest, bind_eq_ok] at h
  obtain ⟨_, -, _, -, _, -, _, -, _, -, _, -, _, -, _, -, _, -, _, -, _, -, _, -, _, -, request, hprepared, h⟩ := h
  have hrequest : context.Request = request := by
    split at h
    · simp only [bind_eq_ok, pure_eq_ok] at h
      obtain ⟨-, -, rfl⟩ := h
      rfl
    · rw [pure_eq_ok] at h
      obtain rfl := h
      rfl
  rw [hrequest]
  exact validateOrCreateRequestId_hex (prepare_validated transportHost hprepared)

/-- The context of a request that the transport accepts. -/
def OpenedContext.ofOpen {transportHost : TransportHost} {call : native_transport.Call}
    {cache next : ReplayCache} {context : OperatorNativeTransportRequestContext}
    (h : openRequest transportHost call cache = (.ok context, next)) : OpenedContext :=
  have hhex : context.Request.RequestId.toList.all text.isHex = true
      ∧ (text.length context.Request.RequestId = 32 ∨ text.length context.Request.RequestId = 64) := by
    obtain ⟨hchecked, -⟩ := openRequest_ok h
    obtain ⟨fields, -, hchecked⟩ := bind_eq_ok.1 hchecked
    exact checkRequest_hex hchecked
  { context with
    request_id_hex := hhex.1
    request_id_length := hhex.2 }

end opened

variable {reservation : ReservationRef} {s s' : Store Json} {recordJson : Json}

section calls

theorem Reserve_eq_ok {call : ReserveCall}
    (h : Reserve host Epoch isSelector s call = .ok (s', reservation)) :
    s.pending.get? call.transport.Request.RequestId = none
      ∧ s.files.get? (RecordPath host call.transport.Request.RequestId) = none
      ∧ s.files.values.length + pendingCount s < MaximumRecords
      ∧ storedBytes host s + (pendingCount s + 1) * MaximumRecordBytes ≤ MaximumStoredBytes
      ∧ reservation = ⟨call.transport.Request.RequestId, s.serials⟩
      ∧ s' = ⟨s.pending.set call.transport.Request.RequestId ⟨s.serials, call.header host Epoch, none⟩, s.files,
          s.serials + 1⟩ := by
  simp only [Reserve, check_bind_eq_ok, require_eq_ok, pure_eq_ok, Prod.mk.injEq] at h
  obtain ⟨-, -, ⟨hnew, hfile⟩, ⟨hrecords, hbytes⟩, hs, hreservation⟩ := h
  exact ⟨hnew, hfile, hrecords, hbytes, hreservation.symm, hs.symm⟩

theorem repeatComplete_eq_ok {call : CompleteCall} {record : TerminalRecord}
    (hrecord : host.readRecord recordJson = some record) (h : repeatComplete host recordJson call = .ok ()) :
    call.reply = record.reply ∧ call.after = record.after := by
  simp only [repeatComplete, hrecord, require_eq_ok] at h
  obtain ⟨hstatus, hbody, hfingerprint, hsession⟩ := h
  constructor
  · cases hreply : call.reply
    cases hkept : record.reply
    simp_all
  · cases hafter : call.after <;> cases hkept : record.after <;> simp_all
    rename_i current kept
    cases current
    cases kept
    simp_all

theorem Complete_eq_ok {call : CompleteCall} (h : Complete host s call = .ok s') :
    ∃ owned, s.pending.get? call.reservation.RequestId = some owned ∧ owned.serial = call.reservation.serial
      ∧ ((∃ recordJson, owned.RecordJson = some recordJson ∧ repeatComplete host recordJson call = .ok () ∧ s' = s)
        ∨ (owned.RecordJson = none
          ∧ host.storedLength (storedRecord host owned.Header call) ≤ MaximumRecordBytes
          ∧ s.files.get? (RecordPath host call.reservation.RequestId) = none
          ∧ s' = { s with
              pending := s.pending.set call.reservation.RequestId
                { owned with RecordJson := some (storedRecord host owned.Header call).record_json }
              files := s.files.set (RecordPath host call.reservation.RequestId)
                (storedRecord host owned.Header call) })) := by
  simp only [Complete, check_bind_eq_ok, require_eq_ok] at h
  obtain ⟨-, -, h⟩ := h
  cases hpending : s.pending.get? call.reservation.RequestId with
  | none =>
    rw [hpending] at h
    cases h
  | some owned =>
    simp only [hpending, check_bind_eq_ok, require_eq_ok] at h
    obtain ⟨hserial, h⟩ := h
    refine ⟨owned, rfl, hserial, ?_⟩
    cases hjson : owned.RecordJson with
    | some recordJson =>
      simp only [hjson, check_bind_eq_ok, pure_eq_ok] at h
      exact .inl ⟨recordJson, rfl, h.1, h.2.symm⟩
    | none =>
      simp only [hjson, publish, check_bind_eq_ok, require_eq_ok, pure_eq_ok] at h
      obtain ⟨hlength, -, ⟨-, htarget⟩, hs⟩ := h
      exact .inr ⟨rfl, hlength, htarget, hs.symm⟩

theorem step_cases (s : Store Json) (call : Call) :
    (step host Epoch isSelector s call).1 = s
      ∨ (∃ reserved reservation, call = .reserve reserved
        ∧ Reserve host Epoch isSelector s reserved = .ok ((step host Epoch isSelector s call).1, reservation))
      ∨ ∃ completed, call = .complete completed
        ∧ Complete host s completed = .ok (step host Epoch isSelector s call).1 := by
  cases call with
  | reserve reserved =>
    cases h : Reserve host Epoch isSelector s reserved with
    | error fault => exact .inl (by simp [step, h])
    | ok result => exact .inr (.inl ⟨reserved, result.2, rfl, by simp [step, h]⟩)
  | complete completed =>
    cases h : Complete host s completed with
    | error fault => exact .inl (by simp [step, h])
    | ok s' => exact .inr (.inr ⟨completed, rfl, by simp [step, h]⟩)
  | lookup context => exact .inl rfl

theorem reserved_iff {call : ReserveCall} :
    (step host Epoch isSelector s (.reserve call)).2 = .reserved reservation ↔
      Reserve host Epoch isSelector s call
        = .ok ((step host Epoch isSelector s (.reserve call)).1, reservation) := by
  cases h : Reserve host Epoch isSelector s call with
  | error fault => simp [step, h]
  | ok result => simp [step, h, Prod.ext_iff]

theorem completed_iff {call : CompleteCall} :
    (step host Epoch isSelector s (.complete call)).2 = .completed ↔
      Complete host s call = .ok (step host Epoch isSelector s (.complete call)).1 := by
  cases h : Complete host s call with
  | error fault => simp [step, h]
  | ok s' => simp [step, h]

end calls

section kept

/-- Reservations keep their object and their header, and whatever is recorded stays. -/
structure Kept (s s' : Store Json) : Prop where
  pending : ∀ id reservation, s.pending.get? id = some reservation →
    ∃ now, s'.pending.get? id = some now ∧ now.serial = reservation.serial ∧ now.Header = reservation.Header
      ∧ ∀ recordJson, reservation.RecordJson = some recordJson → now.RecordJson = some recordJson
  files : ∀ path stored, s.files.get? path = some stored → s'.files.get? path = some stored

theorem Kept.refl (s : Store Json) : Kept s s :=
  ⟨fun _ reservation h => ⟨reservation, h, rfl, rfl, fun _ hjson => hjson⟩, fun _ _ h => h⟩

theorem Kept.trans {mid : Store Json} (hfirst : Kept s mid) (hlast : Kept mid s') : Kept s s' := by
  refine ⟨fun id reservation h => ?_, fun path stored h => hlast.files path stored (hfirst.files path stored h)⟩
  obtain ⟨now, hnow, hserial, hheader, hjson⟩ := hfirst.pending id reservation h
  obtain ⟨last, hlast, hserial', hheader', hjson'⟩ := hlast.pending id now hnow
  exact ⟨last, hlast, hserial'.trans hserial, hheader'.trans hheader,
    fun recordJson hrecord => hjson' recordJson (hjson recordJson hrecord)⟩

theorem Kept.reserve {call : ReserveCall}
    (h : Reserve host Epoch isSelector s call = .ok (s', reservation)) : Kept s s' := by
  obtain ⟨hnew, -, -, -, -, rfl⟩ := Reserve_eq_ok h
  refine ⟨fun id kept hkept => ⟨kept, ?_, rfl, rfl, fun _ hjson => hjson⟩, fun _ _ hstored => hstored⟩
  have hother : id ≠ call.transport.Request.RequestId := by
    rintro rfl
    rw [hnew] at hkept
    cases hkept
  exact (Record.get?_set_of_ne hother).trans hkept

theorem Kept.complete {call : CompleteCall} (h : Complete host s call = .ok s') :
    Kept s s' := by
  obtain ⟨owned, howned, -, ⟨-, -, -, rfl⟩ | ⟨hnone, -, htarget, rfl⟩⟩ := Complete_eq_ok h
  · exact Kept.refl s'
  · refine ⟨fun id kept hkept => ?_, fun path stored hstored => ?_⟩
    · by_cases hid : id = call.reservation.RequestId
      · subst hid
        obtain rfl : owned = kept := Option.some.inj (howned.symm.trans hkept)
        refine ⟨_, Record.get?_set_self _ _ _, rfl, rfl, fun recordJson hjson => ?_⟩
        rw [hnone] at hjson
        cases hjson
      · exact ⟨kept, (Record.get?_set_of_ne hid).trans hkept, rfl, rfl, fun _ hjson => hjson⟩
    · have hother : path ≠ RecordPath host call.reservation.RequestId := by
        rintro rfl
        rw [htarget] at hstored
        cases hstored
      exact (Record.get?_set_of_ne hother).trans hstored

theorem Kept.step (s : Store Json) (call : Call) : Kept s (step host Epoch isSelector s call).1 := by
  obtain h | ⟨reserved, reservation, -, h⟩ | ⟨completed, -, h⟩ :=
    @step_cases Json host Epoch isSelector s call
  · rw [h]
    exact Kept.refl s
  · exact Kept.reserve h
  · exact Kept.complete h

theorem after_append (first later : List Call) :
    after host Epoch isSelector (first ++ later)
      = later.foldl (fun s call => (native_completion.step host Epoch isSelector s call).1)
          (after host Epoch isSelector first) :=
  List.foldl_append

theorem after_snoc (earlier : List Call) (call : Call) :
    after host Epoch isSelector (earlier ++ [call])
      = (native_completion.step host Epoch isSelector (after host Epoch isSelector earlier) call).1 := by
  rw [after_append]
  rfl

theorem Kept.after (first later : List Call) :
    Kept (after host Epoch isSelector first) (after host Epoch isSelector (first ++ later)) := by
  induction later using List.reverseRecOn with
  | nil =>
    rw [List.append_nil]
    exact Kept.refl _
  | append_singleton later call ih =>
    rw [← List.append_assoc, after_snoc]
    exact ih.trans (Kept.step _ call)

end kept

variable {id : String}

section sound

/-- Memory and directory of a store agree, and there is room for every open
    reservation. -/
structure Sound (host : CompletionHost Json) (s : Store Json) : Prop where
  named : ∀ id reservation, s.pending.get? id = some reservation → reservation.Header.request.request_id = id
  recorded : ∀ id reservation recordJson, s.pending.get? id = some reservation →
    reservation.RecordJson = some recordJson → ∃ call : CompleteCall,
      recordJson = (storedRecord host reservation.Header call).record_json
        ∧ s.files.get? (RecordPath host id) = some (storedRecord host reservation.Header call)
  backed : ∀ path stored, s.files.get? path = some stored → ∃ id reservation, ∃ call : CompleteCall,
    s.pending.get? id = some reservation ∧ stored = storedRecord host reservation.Header call
      ∧ host.storedLength stored ≤ MaximumRecordBytes
  records : s.files.values.length + pendingCount s ≤ MaximumRecords
  bytes : storedBytes host s + pendingCount s * MaximumRecordBytes ≤ MaximumStoredBytes

theorem Sound.new : Sound host newStore where
  named _ _ h := by simp [newStore] at h
  recorded _ _ _ h := by simp [newStore] at h
  backed _ _ h := by simp [newStore] at h
  records := by simp [newStore, pendingCount]
  bytes := by simp [newStore, pendingCount, storedBytes]

theorem pendingCount_reserve {reservation : Reservation Json}
    {serials : Nat} (hnew : s.pending.get? id = none) (hopen : reservation.RecordJson = none) :
    pendingCount ⟨s.pending.set id reservation, s.files, serials⟩ = pendingCount s + 1 := by
  simp only [pendingCount, Record.values_set, Record.delete_of_none hnew, List.countP_cons, hopen,
    Option.isNone_none, if_true]

theorem pendingCount_complete {owned : Reservation Json}
    {files : Record (StoredRecord Json)} {serials : Nat} (howned : s.pending.get? id = some owned)
    (hopen : owned.RecordJson = none) :
    pendingCount ⟨s.pending.set id { owned with RecordJson := some recordJson }, files, serials⟩ + 1
      = pendingCount s := by
  rw [pendingCount, pendingCount, (Record.values_perm howned).countP_eq, Record.values_set, List.countP_cons,
    List.countP_cons]
  simp [hopen]

theorem Sound.reserve (hs : Sound host s) {call : ReserveCall}
    (h : Reserve host Epoch isSelector s call = .ok (s', reservation)) :
    Sound host s' := by
  obtain ⟨hnew, -, hrecords, hbytes, -, rfl⟩ := Reserve_eq_ok h
  have hother : ∀ id kept, s.pending.get? id = some kept → id ≠ call.transport.Request.RequestId := by
    rintro _ kept hkept rfl
    rw [hnew] at hkept
    cases hkept
  constructor
  case named => exact Record.forall_get?_set rfl fun id kept _ hkept => hs.named id kept hkept
  case recorded =>
    intro id kept recordJson hkept hjson
    rw [Record.get?_set] at hkept
    split at hkept
    · obtain rfl := Option.some.inj hkept
      cases hjson
    · exact hs.recorded id kept recordJson hkept hjson
  case backed =>
    intro path stored hstored
    obtain ⟨id, kept, completed, hkept, hrest⟩ := hs.backed path stored hstored
    exact ⟨id, kept, completed, (Record.get?_set_of_ne (hother id kept hkept)).trans hkept, hrest⟩
  case records =>
    rw [pendingCount_reserve hnew rfl]
    exact hrecords
  case bytes =>
    rw [pendingCount_reserve hnew rfl]
    exact hbytes

theorem Sound.complete (hs : Sound host s) {call : CompleteCall}
    (h : Complete host s call = .ok s') : Sound host s' := by
  obtain ⟨owned, howned, -, ⟨-, -, -, rfl⟩ | ⟨hopen, hlength, htarget, rfl⟩⟩ := Complete_eq_ok h
  · exact hs
  have hcount := @pendingCount_complete _ _ (storedRecord host owned.Header call).record_json _ _
    (s.files.set (RecordPath host call.reservation.RequestId) (storedRecord host owned.Header call)) s.serials
    howned hopen
  constructor
  case named =>
    exact Record.forall_get?_set (hs.named _ owned howned) fun id kept _ hkept => hs.named id kept hkept
  case recorded =>
    intro id kept recordJson hkept hjson
    rw [Record.get?_set] at hkept
    split at hkept
    · next hid =>
      subst hid
      obtain rfl := Option.some.inj hkept
      exact ⟨call, (Option.some.inj hjson).symm, Record.get?_set_self _ _ _⟩
    · obtain ⟨completed, hrecord, hfile⟩ := hs.recorded id kept recordJson hkept hjson
      refine ⟨completed, hrecord, (Record.get?_set_of_ne ?_).trans hfile⟩
      intro hpath
      rw [hpath, htarget] at hfile
      cases hfile
  case backed =>
    refine Record.forall_get?_set ⟨_, _, call, Record.get?_set_self _ _ _, rfl, hlength⟩ ?_
    intro path stored _ hstored
    obtain ⟨id, kept, completed, hkept, hrest⟩ := hs.backed path stored hstored
    obtain ⟨now, hnow, -, hheader, -⟩ := (Kept.complete h).pending id kept hkept
    exact ⟨id, now, completed, hnow, hheader ▸ hrest⟩
  case records =>
    have hrecords := hs.records
    rw [Record.values_set, Record.delete_of_none htarget, List.length_cons]
    omega
  case bytes =>
    have hbytes := hs.bytes
    rw [← hcount, Nat.add_mul] at hbytes
    simp only [storedBytes, Record.values_set, Record.delete_of_none htarget, List.map_cons,
      List.sum_cons] at hbytes ⊢
    omega

theorem Sound.step (hs : Sound host s) (call : Call) :
    Sound host (step host Epoch isSelector s call).1 := by
  obtain h | ⟨reserved, reservation, -, h⟩ | ⟨completed, -, h⟩ :=
    @step_cases Json host Epoch isSelector s call
  · rw [h]
    exact hs
  · exact hs.reserve h
  · exact hs.complete h

theorem Sound.after (calls : List Call) : Sound host (after host Epoch isSelector calls) := by
  induction calls using List.reverseRecOn with
  | nil => exact Sound.new
  | append_singleton earlier call ih =>
    rw [after_snoc]
    exact ih.step call

end sound

variable {query : JsonElement} {header : Header} {requestId : String}

section lookups

/-- The lookup is one of this epoch, and its query is well formed. -/
structure Asks (host : CompletionHost Json) (Epoch : String) (lookup : OperatorNativeTransportRequestContext)
    (query : JsonElement) : Prop where
  epoch : lookup.ServerEpoch = Epoch
  method : lookup.Request.Method = "POST"
  path : lookup.Request.Path = LookupPath
  channel : lookup.Request.Channel = "typed_mcp"
  alias_ : lookup.Request.Alias = LookupAlias
  uncertified : lookup.Request.CertificationEnvelope.isNone = true
  no_evidence : lookup.LaboratoryEvidence.isNone = true
  no_admission : lookup.LaboratoryMoveEvidenceAdmission.isNone = true
  parsed : host.parse lookup.Request.BodyJson = some query
  names : ∃ actual, propertyNames query = .ok actual ∧ actual.length = names.length
    ∧ actual.Nodup ∧ ∀ name ∈ actual, name ∈ names
  schema : stringOf "schema" query = .ok (some LookupSchema)
  server_epoch : stringOf "server_epoch" query = .ok (some Epoch)

/-- The query names every part of the identity that a record keeps. -/
structure Identifies (query : JsonElement) (header : Header) : Prop where
  strings : ∀ entry ∈ identityStrings header.request, stringOf entry.1 query = .ok (some entry.2)
  body_present : booleanOf "body_present" query = .ok header.request.body_present
  document : stringOf "expected_document_fingerprint" query = .ok (some header.document.Fingerprint)

theorem stringsMatch_eq_ok {entries : List (String × String)} :
    stringsMatch query entries = .ok true ↔
      ∀ entry ∈ entries, stringOf entry.1 query = .ok (some entry.2) := by
  induction entries with
  | nil => simp [stringsMatch]
  | cons entry rest ih =>
    rw [List.forall_mem_cons, ← ih, stringsMatch]
    cases hvalue : stringOf entry.1 query with
    | error reply => simp [bind, Except.bind]
    | ok value =>
      by_cases hsame : value = some entry.2 <;> simp [hsame, bind, Except.bind, pure, Except.pure]

theorem Matches_eq_ok :
    Matches query header = .ok true ↔ Identifies query header := by
  constructor
  · intro h
    simp only [Matches, bind_eq_ok] at h
    obtain ⟨strings, hstrings, h⟩ := h
    cases strings with
    | false => simp [pure, Except.pure] at h
    | true =>
      simp only [if_true, bind_eq_ok] at h
      obtain ⟨present, hpresent, h⟩ := h
      split at h
      · next hsame =>
        simp only [bind_eq_ok, pure_eq_ok, decide_eq_true_eq] at h
        obtain ⟨fingerprint, hfingerprint, rfl⟩ := h
        exact ⟨stringsMatch_eq_ok.1 hstrings, hsame ▸ hpresent, hfingerprint⟩
      · simp [pure, Except.pure] at h
  · intro h
    simp [Matches, stringsMatch_eq_ok.2 h.strings, h.body_present, h.document, bind, Except.bind, pure, Except.pure]

theorem Identifies.request_id (h : Identifies query header) :
    stringOf "request_id" query = .ok (some header.request.request_id) :=
  h.strings ("request_id", header.request.request_id) (List.mem_cons_self ..)

theorem isWhiteSpace_of_isHex {c : Char} (h : text.isHex c = true) : text.isWhiteSpace c = false := by
  have hrange : (0x30 ≤ c.toNat ∧ c.toNat ≤ 0x39) ∨ (0x61 ≤ c.toNat ∧ c.toNat ≤ 0x66) := by
    simpa [text.isHex, text.isDigit, Char.le_def, UInt32.le_iff_toNat_le] using h
  have hlisted : c.toNat ∉ [0x09, 0x0A, 0x0B, 0x0C, 0x0D, 0x20, 0x85, 0xA0, 0x1680, 0x2028, 0x2029, 0x202F,
      0x205F, 0x3000] := by
    intro hmem
    simp only [List.mem_cons, List.not_mem_nil, or_false] at hmem
    omega
  simp only [text.isWhiteSpace, decide_eq_false hlisted, Bool.false_or, Bool.and_eq_false_iff,
    decide_eq_false_iff_not]
  omega

theorem IsValid_of_hex {value : String} (hhex : value.toList.all text.isHex = true)
    (hlength : text.length value = 32 ∨ text.length value = 64) : IsValid host value = true := by
  have hall : ∀ c ∈ value.toList, text.isHex c = true := List.all_eq_true.1 hhex
  have hfront : value.toList.dropWhile text.isWhiteSpace = value.toList := by
    cases hvalue : value.toList with
    | nil => rfl
    | cons first rest =>
      rw [List.dropWhile_cons_of_neg]
      simp [isWhiteSpace_of_isHex (hall first (hvalue ▸ List.mem_cons_self ..))]
  have hback : value.toList.rdropWhile text.isWhiteSpace = value.toList := by
    refine List.rdropWhile_eq_self_iff.2 fun hne => ?_
    simp [isWhiteSpace_of_isHex (hall _ (List.getLast_mem hne))]
  have hne : value.toList ≠ [] := by
    intro hnil
    have hempty : text.length value = 0 := by simp [text.length, text.codeUnits, hnil]
    omega
  simp only [IsValid, hfront, hback, String.ofList_toList, Bool.and_eq_true, decide_eq_true_eq, List.all_eq_true]
  refine ⟨⟨hne, by omega⟩, fun c hc => ?_⟩
  simp [host.hex_isLetterOrDigit c (hall c hc)]

theorem openLookup_eq_ok {lookup : OperatorNativeTransportRequestContext}
    (h : openLookup host Epoch lookup = .ok (query, requestId)) :
    host.parse lookup.Request.BodyJson = some query
      ∧ stringOf "request_id" query = .ok (some requestId) := by
  simp only [openLookup, check_bind_eq_ok] at h
  obtain ⟨-, h⟩ := h
  cases hparsed : host.parse lookup.Request.BodyJson with
  | none =>
    rw [hparsed] at h
    cases h
  | some parsed =>
    simp only [hparsed, bind_eq_ok] at h
    obtain ⟨-, -, -, -, -, -, -, -, -, -, -, -, named, hnamed, h⟩ := h
    cases named with
    | none => cases h
    | some named =>
      simp only [bind_eq_ok, pure_eq_ok, Prod.mk.injEq] at h
      obtain ⟨-, -, rfl, rfl⟩ := h
      exact ⟨rfl, hnamed⟩

theorem Asks.openLookup {lookup : OperatorNativeTransportRequestContext}
    (h : Asks host Epoch lookup query) (hid : stringOf "request_id" query = .ok (some requestId))
    (hvalid : IsValid host requestId = true) :
    openLookup host Epoch lookup = .ok (query, requestId) := by
  obtain ⟨actual, hactual, hnames⟩ := h.names
  have hcontext : lookup.ServerEpoch = Epoch ∧ lookup.Request.Method = "POST" ∧ lookup.Request.Path = LookupPath
      ∧ lookup.Request.Channel = "typed_mcp" ∧ lookup.Request.Alias = LookupAlias
      ∧ lookup.Request.CertificationEnvelope.isNone ∧ lookup.LaboratoryEvidence.isNone
      ∧ lookup.LaboratoryMoveEvidenceAdmission.isNone :=
    ⟨h.epoch, h.method, h.path, h.channel, h.alias_, h.uncertified, h.no_evidence, h.no_admission⟩
  simp only [native_completion.openLookup, require_of hcontext, h.parsed, hactual, require_of hnames, h.schema,
    h.server_epoch, hid, require_of hvalid, ok_bind, require_of]
  rfl

theorem Lookup_eq {lookup : OperatorNativeTransportRequestContext}
    {reply : LookupReply Json} (h : openLookup host Epoch lookup = .ok (query, requestId))
    (hanswer : answer host s query requestId = .ok reply) : Lookup host Epoch s lookup = reply := by
  simp [Lookup, h, hanswer, bind, Except.bind]

end lookups

section answers

/-- The store holds a record of the reservation with a reply and a document. -/
structure Recorded (host : CompletionHost Json) (s : Store Json) (id : String) (header : Header)
    (call : CompleteCall) : Prop where
  pending : ∃ now, s.pending.get? id = some now ∧ now.Header = header
    ∧ now.RecordJson = some (storedRecord host header call).record_json
  file : s.files.get? (RecordPath host id) = some (storedRecord host header call)

theorem readRecord_stored (header : Header) (call : CompleteCall) :
    host.readRecord (storedRecord host header call).record_json
      = some ⟨header, call.after, call.utcNow, call.reply⟩ :=
  host.read_write _

theorem ReadVerified_eq_ok {stored : StoredRecord Json} :
    ReadVerified host stored = .ok recordJson ↔ host.storedLength stored ≤ MaximumRecordBytes
      ∧ stored.signature = host.Sign stored.record_json ∧ stored.record_json = recordJson := by
  simp only [ReadVerified, check_bind_eq_ok, require_eq_ok, pure_eq_ok]

theorem Sound.recorded_of_complete (hs : Sound host s) {call : CompleteCall}
    {owned : Reservation Json} (howned : s.pending.get? call.reservation.RequestId = some owned)
    (h : Complete host s call = .ok s') : ∃ completed : CompleteCall, completed.reply = call.reply
      ∧ completed.after = call.after
      ∧ Recorded host s' call.reservation.RequestId owned.Header completed := by
  obtain ⟨found, hfound, -, ⟨recordJson, hjson, hrepeat, rfl⟩ | ⟨-, -, -, rfl⟩⟩ := Complete_eq_ok h
  · obtain rfl : found = owned := Option.some.inj (hfound.symm.trans howned)
    obtain ⟨completed, hrecord, hfile⟩ := hs.recorded _ found recordJson hfound hjson
    subst hrecord
    obtain ⟨hreply, hafter⟩ := repeatComplete_eq_ok (readRecord_stored found.Header completed) hrepeat
    exact ⟨completed, hreply.symm, hafter.symm, ⟨found, hfound, rfl, hjson⟩, hfile⟩
  · obtain rfl : found = owned := Option.some.inj (hfound.symm.trans howned)
    exact ⟨call, rfl, rfl, ⟨_, Record.get?_set_self _ _ _, rfl, rfl⟩, Record.get?_set_self _ _ _⟩

theorem Recorded.kept (hkept : Kept s s')
    {call : CompleteCall} (h : Recorded host s id header call) : Recorded host s' id header call := by
  obtain ⟨now, hnow, hheader, hjson⟩ := h.pending
  obtain ⟨last, hlast, -, hlastHeader, hlastJson⟩ := hkept.pending id now hnow
  exact ⟨⟨last, hlast, hlastHeader.trans hheader, hlastJson _ hjson⟩, hkept.files _ _ h.file⟩

theorem Recorded.complete_same {completed call : CompleteCall}
    (h : Recorded host s id header completed) (hid : call.reservation.RequestId = id)
    (hcomplete : Complete host s call = .ok s') :
    call.reply = completed.reply ∧ call.after = completed.after := by
  obtain ⟨now, hnow, -, hjson⟩ := h.pending
  obtain ⟨found, hfound, -, ⟨recordJson, hrecordJson, hrepeat, -⟩ | ⟨hnone, -, -, -⟩⟩ := Complete_eq_ok hcomplete
  · rw [hid, hnow] at hfound
    obtain rfl := Option.some.inj hfound
    obtain rfl := Option.some.inj (hjson.symm.trans hrecordJson)
    exact repeatComplete_eq_ok (readRecord_stored header completed) hrepeat
  · rw [hid, hnow] at hfound
    obtain rfl := Option.some.inj hfound
    rw [hjson] at hnone
    cases hnone

theorem Recorded.lookup (hs : Sound host s)
    {completed : CompleteCall} (h : Recorded host s id header completed) (hid : header.request.request_id = id)
    (hvalid : IsValid host id = true) {lookup : OperatorNativeTransportRequestContext}
    (hasks : Asks host Epoch lookup query) (hidentifies : Identifies query header) :
    Lookup host Epoch s lookup = .completed (storedRecord host header completed).record_json
      (host.HashRecord (storedRecord host header completed).record_json) := by
  obtain ⟨_, _, _, -, -, hlength⟩ := hs.backed _ _ h.file
  refine Lookup_eq (hasks.openLookup (hid ▸ hidentifies.request_id) hvalid) ?_
  have hread : ReadVerified host (storedRecord host header completed)
      = .ok (storedRecord host header completed).record_json := ReadVerified_eq_ok.2 ⟨hlength, rfl, rfl⟩
  simp only [answer, h.file, answerStored, hread, ok_bind, readRecord_stored, Matches_eq_ok.2 hidentifies]
  rfl

theorem Identifies.of_completed {shown : LookupReply Json}
    {sha : String}
    (h : (do let matched ← Matches query header; return if matched then shown else .unavailable identityMismatch)
      = Except.ok (LookupReply.completed recordJson sha)) : Identifies query header := by
  rw [bind_eq_ok] at h
  obtain ⟨matched, hmatched, h⟩ := h
  rw [pure_eq_ok] at h
  cases matched with
  | true => exact Matches_eq_ok.1 hmatched
  | false => cases h

theorem Lookup_answered {lookup : OperatorNativeTransportRequestContext}
    {reply : LookupReply Json} (hparsed : host.parse lookup.Request.BodyJson = some query)
    (hid : stringOf "request_id" query = .ok (some id)) (h : Lookup host Epoch s lookup = reply)
    (hreply : ∀ refusal, reply ≠ .unavailable refusal) : answer host s query id = .ok reply := by
  unfold Lookup at h
  cases hopen : openLookup host Epoch lookup with
  | error refusal =>
    rw [hopen] at h
    exact absurd h.symm (hreply refusal)
  | ok opened =>
    obtain ⟨query', id'⟩ := opened
    obtain ⟨hparsed', hid'⟩ := openLookup_eq_ok hopen
    obtain rfl : query' = query := Option.some.inj (hparsed'.symm.trans hparsed)
    obtain rfl : id' = id := Option.some.inj (Except.ok.inj (hid'.symm.trans hid))
    rw [hopen, ok_bind] at h
    cases hanswer : answer host s query' id' with
    | error refusal =>
      simp only [hanswer] at h
      exact absurd h.symm (hreply refusal)
    | ok answered =>
      simp only [hanswer] at h
      rw [h]

/-- An answer with a record is about the reservation that the query names and
    identifies. -/
theorem Sound.lookup_completed (hs : Sound host s) {reservation : Reservation Json}
    (hheld : s.pending.get? id = some reservation) {lookup : OperatorNativeTransportRequestContext}
    (hparsed : host.parse lookup.Request.BodyJson = some query)
    (hid : stringOf "request_id" query = .ok (some id)) {sha : String}
    (h : Lookup host Epoch s lookup = .completed recordJson sha) : Identifies query reservation.Header := by
  have hanswer := Lookup_answered hparsed hid h (nofun)
  cases hfile : s.files.get? (RecordPath host id) with
  | none =>
    simp only [answer, hfile, hheld, answerPending] at hanswer
    exact Identifies.of_completed hanswer
  | some stored =>
    obtain ⟨other, kept, completed, hkept, rfl, -⟩ := hs.backed _ stored hfile
    simp only [answer, hfile, answerStored] at hanswer
    obtain ⟨read, hread, hanswer⟩ := bind_eq_ok.1 hanswer
    obtain ⟨-, -, rfl⟩ := ReadVerified_eq_ok.1 hread
    simp only [readRecord_stored] at hanswer
    have hidentifies : Identifies query kept.Header := Identifies.of_completed hanswer
    -- the record's own request id is the one that the query names
    have hsame : other = id := by
      rw [← hs.named other kept hkept]
      exact Option.some.inj (Except.ok.inj (hidentifies.request_id.symm.trans hid))
    rw [hsame, hheld] at hkept
    obtain rfl := Option.some.inj hkept
    exact hidentifies

theorem lookup_ne_notFound {reservation : Reservation Json}
    (hheld : s.pending.get? id = some reservation) {lookup : OperatorNativeTransportRequestContext}
    (hparsed : host.parse lookup.Request.BodyJson = some query)
    (hid : stringOf "request_id" query = .ok (some id)) : Lookup host Epoch s lookup ≠ notFound := by
  intro h
  have hanswer := Lookup_answered hparsed hid h (nofun)
  cases hfile : s.files.get? (RecordPath host id) with
  | none =>
    simp only [answer, hfile, hheld, answerPending, bind_eq_ok, pure_eq_ok] at hanswer
    obtain ⟨matched, -, hanswer⟩ := hanswer
    revert hanswer
    cases matched <;> cases reservation.RecordJson.isNone <;> simp [pendingState, notFound]
  | some stored =>
    simp only [answer, hfile, answerStored, bind_eq_ok] at hanswer
    obtain ⟨read, -, hanswer⟩ := hanswer
    cases hrecord : host.readRecord read with
    | none => simp [hrecord, throw, throwThe, MonadExceptOf.throw] at hanswer
    | some record =>
      simp only [hrecord, bind_eq_ok, pure_eq_ok] at hanswer
      obtain ⟨matched, -, hanswer⟩ := hanswer
      revert hanswer
      cases matched <;> simp [notFound]

end answers

section runs

theorem held_of_reserved {first : List Call} {call : ReserveCall}
    (h : outcome host Epoch isSelector first (.reserve call) = .reserved reservation) (later : List Call) :
    reservation.RequestId = call.transport.Request.RequestId ∧
      ∃ now, (after host Epoch isSelector (first ++ .reserve call :: later)).pending.get?
          call.transport.Request.RequestId = some now ∧ now.serial = reservation.serial
        ∧ now.Header = call.header host Epoch := by
  obtain ⟨-, -, -, -, rfl, hs⟩ := Reserve_eq_ok (reserved_iff.1 h)
  rw [← after_snoc] at hs
  have hheld : (after host Epoch isSelector (first ++ [.reserve call])).pending.get?
        call.transport.Request.RequestId
      = some ⟨(after host Epoch isSelector first).serials, call.header host Epoch, none⟩ := by
    rw [hs]
    exact Record.get?_set_self _ _ _
  obtain ⟨now, hnow, hserial, hheader, -⟩ :=
    (@Kept.after Json host Epoch isSelector _ later).pending _ _ hheld
  rw [List.append_assoc, List.singleton_append] at hnow
  exact ⟨rfl, now, hnow, hserial, hheader⟩

theorem Execute_eq_ok
    {action : Except Fault OperatorNativeCompletionReply}
    {readAfter : Except Fault (Option OperatorNativeCompletionDocument)}
    {method path correlationId requestedEffect utcNow : String} {publication : Publication}
    {reply : OperatorNativeCompletionReply}
    (h : Execute host s reservation action readAfter method path correlationId requestedEffect utcNow publication
      = (s', .ok reply)) :
    action = .ok reply
      ∧ Complete host s ⟨reservation, reply, readAfter.toOption.join, utcNow, publication⟩ = .ok s' := by
  unfold Execute at h
  split at h
  · cases action with
    | error fault =>
      simp only at h
      split at h
      · cases h
      · cases h
    | ok returned =>
      simp only at h
      split at h
      · next hcomplete =>
        obtain ⟨rfl, hreply⟩ := Prod.mk.inj h
        obtain rfl := Except.ok.inj hreply
        exact ⟨rfl, hcomplete⟩
      · cases h
  · cases h

/-- A request is reserved once. What one completion of it retains is what every later
    lookup that identifies the request reads and what every later completion repeats; a
    lookup of it is never answered with `not_found`, and never with a record where its
    identity differs. The records and the open reservations stay within their bounds. -/
theorem completion_truthful (first : List Call) (call : ReserveCall) (reservation : ReservationRef)
    (hreserved : outcome host Epoch isSelector first (.reserve call) = .reserved reservation) (later : List Call) :
    (∀ again other,
        outcome host Epoch isSelector (first ++ .reserve call :: later) (.reserve again) = .reserved other →
        again.transport.Request.RequestId ≠ call.transport.Request.RequestId)
      ∧ (∀ complete : CompleteCall, complete.reservation = reservation →
        outcome host Epoch isSelector (first ++ .reserve call :: later) (.complete complete) = .completed →
        ∃ record : TerminalRecord, record.reply = complete.reply ∧ record.header = call.header host Epoch
          ∧ record.after = complete.after
          ∧ ∀ afterwards : List Call,
            (∀ lookup query, Asks host Epoch lookup query → Identifies query (call.header host Epoch) →
              outcome host Epoch isSelector (first ++ .reserve call :: later ++ .complete complete :: afterwards)
                (.lookup lookup)
                = .looked (.completed (host.writeRecord record) (host.HashRecord (host.writeRecord record))))
            ∧ ∀ repeated : CompleteCall, repeated.reservation.RequestId = reservation.RequestId →
              outcome host Epoch isSelector (first ++ .reserve call :: later ++ .complete complete :: afterwards)
                (.complete repeated) = .completed →
              repeated.reply = complete.reply ∧ repeated.after = complete.after)
      ∧ (∀ lookup query, host.parse lookup.Request.BodyJson = some query →
        stringOf "request_id" query = .ok (some call.transport.Request.RequestId) →
        outcome host Epoch isSelector (first ++ .reserve call :: later) (.lookup lookup) ≠ .looked notFound
          ∧ (¬ Identifies query (call.header host Epoch) → ∀ recordJson sha,
            outcome host Epoch isSelector (first ++ .reserve call :: later) (.lookup lookup)
              ≠ .looked (.completed recordJson sha)))
      ∧ ∀ calls : List Call,
        (after host Epoch isSelector calls).files.values.length + pendingCount (after host Epoch isSelector calls)
            ≤ MaximumRecords
          ∧ storedBytes host (after host Epoch isSelector calls) ≤ MaximumStoredBytes := by
  obtain ⟨hid, now, hheld, hserial, hheader⟩ := held_of_reserved hreserved later
  have hsound := @Sound.after Json host Epoch isSelector (first ++ .reserve call :: later)
  refine ⟨fun again other hagain hsame => ?_, fun complete href hcomplete => ?_,
    fun lookup query hparsed hnames => ?_, fun calls => ?_⟩
  · obtain ⟨hnew, -⟩ := Reserve_eq_ok (reserved_iff.1 hagain)
    rw [hsame, hheld] at hnew
    cases hnew
  · have hcompleteId : complete.reservation.RequestId = call.transport.Request.RequestId := by rw [href, hid]
    obtain ⟨completed, hreply, hafter, hrecorded⟩ := hsound.recorded_of_complete (hcompleteId ▸ hheld)
      (completed_iff.1 hcomplete)
    rw [← after_snoc, hcompleteId, hheader] at hrecorded
    refine ⟨⟨call.header host Epoch, completed.after, completed.utcNow, completed.reply⟩, hreply, rfl, hafter,
      fun afterwards => ?_⟩
    have hretained : Recorded host
        (after host Epoch isSelector (first ++ .reserve call :: later ++ .complete complete :: afterwards))
        call.transport.Request.RequestId (call.header host Epoch) completed := by
      have hkept := @Kept.after Json host Epoch isSelector
        (first ++ .reserve call :: later ++ [.complete complete]) afterwards
      rw [List.append_assoc _ [_], List.singleton_append] at hkept
      exact hrecorded.kept hkept
    constructor
    · intro lookup query hasks hidentifies
      exact congrArg Outcome.looked (hretained.lookup (Sound.after _) rfl
        (IsValid_of_hex call.transport.request_id_hex call.transport.request_id_length) hasks hidentifies)
    · intro repeated hrepeated hagain
      obtain ⟨hsameReply, hsameAfter⟩ := hretained.complete_same (hrepeated.trans hid) (completed_iff.1 hagain)
      exact ⟨hsameReply.trans hreply, hsameAfter.trans hafter⟩
  · refine ⟨fun h => lookup_ne_notFound hheld hparsed hnames (Outcome.looked.inj h),
      fun hdiffers recordJson sha h => ?_⟩
    exact hdiffers (hheader ▸ hsound.lookup_completed hheld hparsed hnames (Outcome.looked.inj h))
  · have hbounds := @Sound.after Json host Epoch isSelector calls
    exact ⟨hbounds.records, Nat.le_of_add_right_le hbounds.bytes⟩

section sample

def sampleQuery : JsonElement :=
  .object
    [(some "schema", .string (some LookupSchema)),
      (some "request_id", .string (some "0123456789abcdef0123456789abcdef")),
      (some "request_nonce_sha256",
        .string (some "sha256:78377b525757b494427f89014f97d79928f3938d14eb51e20fb5dec9834eb304")),
      (some "server_epoch", .string (some "epoch")), (some "method", .string (some "POST")),
      (some "path", .string (some "/revit/delete")), (some "body_present", .bool true),
      (some "source_body_sha256",
        .string (some "sha256:44136fa355b3678a1146ad16f7e8649e94fb4fc21fe77e8310c060f61caaff8a")),
      (some "expected_document_fingerprint",
        .string (some "44136fa355b3678a1146ad16f7e8649e94fb4fc21fe77e8310c060f61caaff8a"))]

def sampleQueryText : String :=
  "\x7b\"schema\":\"revit-operator.native-completion-lookup/v1\","
    ++ "\"request_id\":\"0123456789abcdef0123456789abcdef\","
    ++ "\"request_nonce_sha256\":\"sha256:78377b525757b494427f89014f97d79928f3938d14eb51e20fb5dec9834eb304\","
    ++ "\"server_epoch\":\"epoch\",\"method\":\"POST\",\"path\":\"/revit/delete\",\"body_present\":true,"
    ++ "\"source_body_sha256\":\"sha256:44136fa355b3678a1146ad16f7e8649e94fb4fc21fe77e8310c060f61caaff8a\","
    ++ "\"expected_document_fingerprint\":\"44136fa355b3678a1146ad16f7e8649e94fb4fc21fe77e8310c060f61caaff8a\"\x7d"

/-- A platform that keeps records as they are. -/
def sampleHost : CompletionHost TerminalRecord where
  parse body :=
    if body = "\x7b\x7d" then some (.object []) else if body = sampleQueryText then some sampleQuery else none
  Hash value :=
    if value = "\x7b\x7d" then "sha256:44136fa355b3678a1146ad16f7e8649e94fb4fc21fe77e8310c060f61caaff8a"
    else if value = "nonce" then "sha256:78377b525757b494427f89014f97d79928f3938d14eb51e20fb5dec9834eb304"
    else "sha256:3eb1bd439947eb762998e566ccc2e099c791118b2f40579cc4f7da2b5061b7f9"
  HashRecord _ := "sha256:3eb1bd439947eb762998e566ccc2e099c791118b2f40579cc4f7da2b5061b7f9"
  Sign _ := "3eb1bd439947eb762998e566ccc2e099c791118b2f40579cc4f7da2b5061b7f9"
  sourceBodySha256 _ := "sha256:44136fa355b3678a1146ad16f7e8649e94fb4fc21fe77e8310c060f61caaff8a"
  writeRecord record := record
  readRecord := some
  read_write _ := rfl
  storedLength _ := 1024
  handlerException _ _ _ _ := "\x7b\x7d"
  isLetterOrDigit c := text.isLower c || text.isUpper c || text.isDigit c
  hex_isLetterOrDigit c h := by
    simp only [text.isHex, Bool.or_eq_true, Bool.and_eq_true, decide_eq_true_eq] at h
    obtain hdigit | ⟨hlow, hhigh⟩ := h
    · simp [hdigit]
    · have hlower : c ≤ 'z' := Char.le_trans hhigh (by decide)
      simp [text.isLower, hlow, hlower]

def sampleDocument : OperatorNativeCompletionDocument :=
  ⟨"44136fa355b3678a1146ad16f7e8649e94fb4fc21fe77e8310c060f61caaff8a", "session"⟩

def sampleContext (path alias_ body : String) : OperatorNativeTransportRequestContext where
  Request := ⟨"0123456789abcdef0123456789abcdef", "POST", path, true, body, "typed_mcp", alias_, none⟩
  RequestNonce := "nonce"
  ServerEpoch := "epoch"
  WriteGrant := ""
  IssuedAtUtc := 0
  LaboratoryEvidence := none
  LaboratoryMoveEvidenceAdmission := none

def sampleReserve : ReserveCall where
  transport :=
    { sampleContext "/revit/delete" "revit_delete" "\x7b\x7d" with
      request_id_hex := by decide +kernel
      request_id_length := by decide +kernel }
  authorization :=
    { RequestId := "0123456789abcdef0123456789abcdef"
      Method := "POST"
      Path := "/revit/delete"
      BodyPresent := true
      Channel := "typed_mcp"
      Alias := "revit_delete"
      SourceBodySha256 := "sha256:44136fa355b3678a1146ad16f7e8649e94fb4fc21fe77e8310c060f61caaff8a"
      BodySha256 := "sha256:44136fa355b3678a1146ad16f7e8649e94fb4fc21fe77e8310c060f61caaff8a"
      ExposureProfile := "deployment_general_agent"
      AuthorizedAtUtc := "2026-01-01T00:00:00.0000000Z"
      AuthorizationHash := "sha256:3eb1bd439947eb762998e566ccc2e099c791118b2f40579cc4f7da2b5061b7f9" }
  IsDeploymentGeneralAgent := true
  dispatchedBody := "\x7b\x7d"
  document := sampleDocument
  utcNow := "2026-01-01T00:00:01.0000000Z"

def sampleReservation : ReservationRef := ⟨"0123456789abcdef0123456789abcdef", 0⟩

def sampleComplete : CompleteCall :=
  ⟨sampleReservation, ⟨200, "\x7b\x7d"⟩, some sampleDocument, "2026-01-01T00:00:02.0000000Z", .succeeds⟩

theorem sampleHost_parse : sampleHost.parse sampleQueryText = some sampleQuery := by
  have hother : sampleQueryText ≠ "\x7b\x7d" := by decide +kernel
  simp only [sampleHost, if_neg hother, if_true]

/-- The reply that was retained is read back. -/
theorem sample_read_back :
    ∃ record : TerminalRecord, record.reply = ⟨200, "\x7b\x7d"⟩
      ∧ outcome sampleHost "epoch" (fun _ => false) [.reserve sampleReserve, .complete sampleComplete]
          (.lookup (sampleContext LookupPath LookupAlias sampleQueryText))
        = .looked (.completed record (sampleHost.HashRecord record)) := by
  obtain ⟨-, hcompleted, -⟩ :=
    @completion_truthful TerminalRecord sampleHost "epoch" (fun _ => false) [] sampleReserve sampleReservation
      rfl []
  obtain ⟨record, hreply, -, -, hread⟩ := hcompleted sampleComplete rfl rfl
  have hasks : Asks sampleHost "epoch" (sampleContext LookupPath LookupAlias sampleQueryText) sampleQuery :=
    ⟨rfl, rfl, rfl, rfl, rfl, rfl, rfl, rfl, sampleHost_parse,
      ⟨_, rfl, rfl, by decide +kernel, by decide +kernel⟩, rfl, rfl⟩
  have hidentifies : Identifies sampleQuery (sampleReserve.header sampleHost "epoch") := by
    refine ⟨?_, rfl, rfl⟩
    simp only [identityStrings, List.forall_mem_cons, List.not_mem_nil]
    exact ⟨rfl, rfl, rfl, rfl, rfl, rfl, nofun⟩
  exact ⟨record, hreply, (hread []).1 _ sampleQuery hasks hidentifies⟩

/-- A caller is not given a reply before the store has it: what a captured request
    returns is what every later lookup that identifies the request reads. -/
theorem captured_reply_read_back {first : List Call} {call : ReserveCall}
    (hreserved : outcome host Epoch isSelector first (.reserve call) = .reserved reservation) (later : List Call)
    {action : Except Fault OperatorNativeCompletionReply}
    {readAfter : Except Fault (Option OperatorNativeCompletionDocument)}
    {method path correlationId requestedEffect utcNow : String} {publication : Publication}
    {reply : OperatorNativeCompletionReply}
    (hcaptured : Execute host (after host Epoch isSelector (first ++ .reserve call :: later)) reservation action readAfter
      method path correlationId requestedEffect utcNow publication = (s', .ok reply)) :
    action = .ok reply ∧ ∃ record : TerminalRecord, record.reply = reply ∧ record.header = call.header host Epoch
      ∧ ∀ (afterwards : List Call) lookup query, Asks host Epoch lookup query →
        Identifies query (call.header host Epoch) →
        Lookup host Epoch (afterwards.foldl (fun s call => (step host Epoch isSelector s call).1) s') lookup
          = .completed (host.writeRecord record) (host.HashRecord (host.writeRecord record)) := by
  obtain ⟨haction, hcomplete⟩ := Execute_eq_ok hcaptured
  obtain ⟨hid, now, hheld, -, hheader⟩ := held_of_reserved hreserved later
  have hcompleteId : (⟨reservation, reply, readAfter.toOption.join, utcNow, publication⟩ : CompleteCall).reservation.RequestId
      = call.transport.Request.RequestId := hid
  obtain ⟨completed, hreply, -, hrecorded⟩ :=
    (@Sound.after Json host Epoch isSelector (first ++ .reserve call :: later)).recorded_of_complete (hcompleteId ▸ hheld) hcomplete
  rw [hcompleteId, hheader] at hrecorded
  refine ⟨haction, ⟨call.header host Epoch, completed.after, completed.utcNow, completed.reply⟩, hreply, rfl,
    fun afterwards lookup query hasks hidentifies => ?_⟩
  -- the completion is one more call of the history
  have hhistory : s' = after host Epoch isSelector (first ++ .reserve call :: later
      ++ [.complete ⟨reservation, reply, readAfter.toOption.join, utcNow, publication⟩]) := by
    rw [after_snoc, step, hcomplete]
  rw [hhistory] at hrecorded ⊢
  rw [← after_append]
  exact (hrecorded.kept (Kept.after _ afterwards)).lookup (Sound.after _) rfl
    (IsValid_of_hex call.transport.request_id_hex call.transport.request_id_length) hasks hidentifies

theorem captured_reply_read_back_on_delete :
    ∃ record : TerminalRecord, record.reply = ⟨200, "\x7b\x7d"⟩ ∧ record.header = sampleReserve.header sampleHost "epoch" := by
  obtain ⟨-, record, hreply, hheader, -⟩ := @captured_reply_read_back TerminalRecord sampleHost "epoch" (fun _ => false)
    sampleReservation _ [] sampleReserve rfl [] (.ok ⟨200, "\x7b\x7d"⟩) (.ok (some sampleDocument)) "POST"
    "/revit/delete" "" "apply" "2026-01-01T00:00:02.0000000Z" .succeeds _ rfl
  exact ⟨record, hreply, hheader⟩

end sample

end runs

end revit_operator.native_completion
