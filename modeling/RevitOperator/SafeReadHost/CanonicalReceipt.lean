import RevitOperator.SafeReadHost.StrictJsonGrammar

open checked utf16

/-! What the host writes in strict JSON: trees rendered by the quoter, and the payload of
    a final receipt that its HMAC is computed over. -/

namespace revit_operator.safe_read_host

open StrictJson Protocol

section rendering

mutual

/-- A tree as the quoter writes it, without white space. -/
def render : StrictJsonValue → Units
  | .Object properties => unit '{' :: (renderProperties properties ++ [unit '}'])
  | .String text => Quote text
  | .Boolean value => ascii (if value then "true" else "false")

def renderProperties : List (Units × StrictJsonValue) → Units
  | [] => []
  | [(name, value)] => Quote name ++ unit ':' :: render value
  | (name, value) :: next :: rest =>
    Quote name ++ unit ':' :: (render value ++ unit ',' :: renderProperties (next :: rest))

end

/-- A name that is written without escapes. -/
def CanonicalName (name : Units) : Prop :=
  name ≠ [] ∧ name.length ≤ MaximumKeyCharacters ∧ (∀ c ∈ name, quoteUnit c = [c]) ∧ Paired name

/-- The bounds of the parser on a tree. -/
def Within : Nat → StrictJsonValue → Prop
  | 0, _ => False
  | _ + 1, .String text => text.length ≤ MaximumStringCharacters ∧ Paired text
  | _ + 1, .Boolean _ => True
  | levels + 1, .Object properties =>
    properties.length ≤ MaximumProperties ∧ (properties.map Prod.fst).Nodup
      ∧ ∀ property ∈ properties, CanonicalName property.1 ∧ Within levels property.2

end rendering

section quoting

variable {c d : UInt16} {rest x y : Units}

theorem hex4_spec (h : c < 32) : Hex4 (hex4 c) c := by
  have hall : ∀ n < 32, nibble (hexDigit (n / 16)) = some (n / 16) ∧ nibble (hexDigit (n % 16)) = some (n % 16) := by
    decide +kernel
  have hzero : nibble (hexDigit 0) = some 0 := by decide +kernel
  have hlt : c.toNat < 32 := UInt16.lt_iff_toNat_lt.1 h
  obtain ⟨hthird, hfourth⟩ := hall _ hlt
  have h0 : c.toNat / 4096 = 0 := by omega
  have h1 : c.toNat / 256 % 16 = 0 := by omega
  have h2 : c.toNat / 16 % 16 = c.toNat / 16 := by omega
  refine ⟨_, _, _, _, 0, 0, c.toNat / 16, c.toNat % 16, rfl, by rw [h0, hzero], by rw [h1, hzero], by rw [h2, hthird],
    hfourth, ?_⟩
  have hvalue : ((0 * 16 + 0) * 16 + c.toNat / 16) * 16 + c.toNat % 16 = c.toNat := by omega
  rw [hvalue]
  simp

/-- A unit is written as it is unless it is a quote, a backslash or a control
    character. -/
theorem quoteUnit_plain (hquote : c ≠ unit '"') (hescape : c ≠ unit '\\') (hcontrol : ¬ c < 32) : quoteUnit c = [c] := by
  have hne : ∀ d : UInt16, d < 32 → c ≠ d := fun d hd hsame => hcontrol (hsame ▸ hd)
  rw [quoteUnit, if_neg hquote, if_neg hescape, if_neg (hne 8 (by decide)), if_neg (hne 12 (by decide)),
    if_neg (hne _ (by decide)), if_neg (hne _ (by decide)), if_neg (hne _ (by decide)), if_neg hcontrol]

theorem quoteUnit_surrogate (h : isHighSurrogate c = true ∨ isLowSurrogate c = true) : quoteUnit c = [c] := by
  have hbig : 0xD800 ≤ c.toNat := by
    simp only [isHighSurrogate, isLowSurrogate, Bool.and_eq_true, decide_eq_true_eq] at h
    omega
  have hne : ∀ d : UInt16, d.toNat < 0xD800 → c ≠ d := by
    rintro d hd rfl
    omega
  refine quoteUnit_plain (hne _ (by decide)) (hne _ (by decide)) fun hcontrol => ?_
  have hlt : c.toNat < 32 := UInt16.lt_iff_toNat_lt.1 hcontrol
  omega

theorem escape_piece {rest : Units} (entry : Char × UInt16) (hentry : entry ∈ escapes) :
    Piece false (unit '\\' :: unit entry.1 :: rest) [entry.2] rest :=
  .escape rfl hentry

theorem piece_quoteUnit (hhigh : isHighSurrogate c = false) (hlow : isLowSurrogate c = false) :
    Piece false (quoteUnit c ++ rest) [c] rest := by
  unfold quoteUnit
  split_ifs with hquote hescape hbackspace hfeed hline hreturn htab hcontrol
  · exact hquote ▸ escape_piece ('"', unit '"') (by decide)
  · exact hescape ▸ escape_piece ('\\', unit '\\') (by decide)
  · exact hbackspace ▸ escape_piece ('b', 8) (by decide)
  · exact hfeed ▸ escape_piece ('f', 12) (by decide)
  · exact hline ▸ escape_piece ('n', unit '\n') (by decide)
  · exact hreturn ▸ escape_piece ('r', unit '\r') (by decide)
  · exact htab ▸ escape_piece ('t', unit '\t') (by decide)
  · rw [List.append_assoc]
    exact .unicode rfl (hex4_spec hcontrol) hhigh hlow
  · exact .plain hcontrol hquote hescape hhigh hlow

theorem content_quote {text : Units} (h : Paired text) :
    Content false (text.flatMap quoteUnit ++ unit '"' :: rest) text rest := by
  induction h with
  | nil => exact .close
  | single hhigh hlow _ ih =>
    rw [List.flatMap_cons, List.append_assoc]
    exact .piece (piece_quoteUnit hhigh hlow) ih
  | pair hhigh hlow _ ih =>
    rw [List.flatMap_cons, List.flatMap_cons, quoteUnit_surrogate (.inl hhigh), quoteUnit_surrogate (.inr hlow)]
    exact .piece (.pair hhigh hlow) ih

theorem plain_of_quoteUnit (h : quoteUnit c = [c]) : ¬ c < 0x20 ∧ c ≠ unit '"' ∧ c ≠ unit '\\' := by
  refine ⟨fun hcontrol => ?_, ?_, ?_⟩
  · have hall : ∀ n < 32, (quoteUnit (.ofNat n)).length ≠ 1 := by decide +kernel
    refine hall c.toNat (UInt16.lt_iff_toNat_lt.1 hcontrol) ?_
    rw [UInt16.ofNat_toNat, h]
    rfl
  · rintro rfl
    cases h
  · rintro rfl
    cases h

theorem content_name {name : Units} (hplain : ∀ c ∈ name, quoteUnit c = [c]) (h : Paired name) :
    Content true (name.flatMap quoteUnit ++ unit '"' :: rest) name rest := by
  induction h with
  | nil => exact .close
  | single hhigh hlow _ ih =>
    obtain ⟨hfirst, hrest⟩ := List.forall_mem_cons.1 hplain
    obtain ⟨hcontrol, hquote, hescape⟩ := plain_of_quoteUnit hfirst
    rw [List.flatMap_cons, hfirst]
    exact .piece (.plain hcontrol hquote hescape hhigh hlow) (ih hrest)
  | pair hhigh hlow _ ih =>
    obtain ⟨hfirst, hlater⟩ := List.forall_mem_cons.1 hplain
    obtain ⟨hsecond, hrest⟩ := List.forall_mem_cons.1 hlater
    rw [List.flatMap_cons, List.flatMap_cons, hfirst, hsecond]
    exact .piece (.pair hhigh hlow) (ih hrest)

theorem quote_append (text : Units) : Quote text ++ rest = unit '"' :: (text.flatMap quoteUnit ++ unit '"' :: rest) := by
  simp [Quote]

end quoting

variable {value : StrictJsonValue}

section derivation

variable {levels : Nat} {rest : Units}

theorem renderProperties_derives (ih : ∀ value rest, Within levels value → Json levels (render value ++ rest) value rest)
    {properties : List (Units × StrictJsonValue)} (hsome : properties ≠ [])
    (h : ∀ property ∈ properties, CanonicalName property.1 ∧ Within levels property.2) :
    Properties (Json levels) (renderProperties properties ++ unit '}' :: rest) properties rest := by
  have hname : ∀ {name : Units} (tail : Units), CanonicalName name →
      Literal true (Quote name ++ tail) name tail := by
    rintro name tail ⟨_, hlength, hplain, hpaired⟩
    refine ⟨⟨_, quote_append name, content_name hplain hpaired⟩, ?_⟩
    exact hlength.trans (by decide)
  induction properties with
  | nil => exact absurd rfl hsome
  | cons property properties ihProperties =>
    obtain ⟨name, value⟩ := property
    obtain ⟨⟨hcanonical, hvalue⟩, hlater⟩ := List.forall_mem_cons.1 h
    have hbound : name.length ≠ 0 ∧ name.length ≤ MaximumKeyCharacters :=
      ⟨fun hnone => hcanonical.1 (List.length_eq_zero_iff.1 hnone), hcanonical.2.1⟩
    cases properties with
    | nil =>
      rw [renderProperties, List.append_assoc]
      exact .last (hname _ hcanonical) hbound (ih _ _ hvalue)
    | cons next properties =>
      rw [renderProperties, List.append_assoc, List.cons_append, List.append_assoc, List.cons_append]
      exact .cons (hname _ hcanonical) hbound (ih _ _ hvalue) (ihProperties (List.cons_ne_nil _ _) hlater)

theorem render_derives (h : Within levels value) : Json levels (render value ++ rest) value rest := by
  induction levels generalizing value rest with
  | zero => cases h
  | succ levels ih =>
    cases value with
    | Object properties =>
      obtain ⟨hroom, hdistinct, hall⟩ := h
      refine ⟨renderProperties properties ++ unit '}' :: rest, by simp [render], ?_, hroom, hdistinct⟩
      by_cases hnone : properties = []
      · subst hnone
        exact .inl ⟨rfl, rfl⟩
      · exact .inr (renderProperties_derives (fun _ _ hvalue => ih hvalue) hnone hall)
    | String text =>
      obtain ⟨hlength, hpaired⟩ := h
      rw [render]
      exact ⟨⟨_, quote_append text, content_quote hpaired⟩, hlength⟩
    | Boolean value => rfl

end derivation

section receipt

/-- The first property of the name: `TryGet`, before it looks at the kind. -/
def TryGet (e : StrictJsonValue) (name : String) : Option StrictJsonValue :=
  match e with
  | .Object properties => (properties.find? fun property => property.1 = ascii name).map Prod.snd
  | _ => none

def TryGetObject (e : StrictJsonValue) (name : String) : Option StrictJsonValue :=
  match TryGet e name with
  | some (.Object properties) => some (.Object properties)
  | _ => none

def TryGetString (e : StrictJsonValue) (name : String) : Option Units :=
  match TryGet e name with
  | some (.String text) => some text
  | _ => none

/-- A property that is not a string reads as the empty text. -/
def Text (e : StrictJsonValue) (name : String) : Units := (TryGetString e name).getD []

structure RuntimeTuple where
  HostContentSha256 : Units
  HostMvid : Units
  RevitApiContentSha256 : Units
  RevitApiMvid : Units
  RevitVersion : Units
  deriving Inhabited

/-- The texts of a final receipt that its HMAC covers. -/
structure ReceiptTexts where
  attempt_id : Units
  bindings_hash : Units
  capability_id : Units
  client_session_id : Units
  document_session_id : Units
  project_fingerprint : Units
  executor_id : Units
  expires_at_utc : Units
  host_instance_id : Units
  issued_at_utc : Units
  receipt_id : Units
  request_id : Units
  route_id : Units
  runtime_attestation_sha256 : Units
  runtime_tuple : RuntimeTuple
  schema : Units
  deriving Inhabited

def RuntimeJson (t : RuntimeTuple) : Units :=
  ascii "\x7b\"host_content_sha256\":" ++ Quote t.HostContentSha256 ++ ascii ",\"host_mvid\":" ++ Quote t.HostMvid
    ++ ascii ",\"revit_api_content_sha256\":" ++ Quote t.RevitApiContentSha256
    ++ ascii ",\"revit_api_mvid\":" ++ Quote t.RevitApiMvid ++ ascii ",\"revit_version\":" ++ Quote t.RevitVersion
    ++ ascii "\x7d"

def receiptPayload (r : ReceiptTexts) : Units :=
  ascii "\x7b\"attempt_id\":" ++ Quote r.attempt_id ++ ascii ",\"bindings_hash\":" ++ Quote r.bindings_hash
    ++ ascii ",\"capability_id\":" ++ Quote r.capability_id
    ++ ascii ",\"client_session_id\":" ++ Quote r.client_session_id
    ++ ascii ",\"document\":\x7b\"document_session_id\":" ++ Quote r.document_session_id
    ++ ascii ",\"project_fingerprint\":" ++ Quote r.project_fingerprint
    ++ ascii "\x7d,\"executor_id\":" ++ Quote r.executor_id ++ ascii ",\"expires_at_utc\":" ++ Quote r.expires_at_utc
    ++ ascii ",\"host_instance_id\":" ++ Quote r.host_instance_id
    ++ ascii ",\"issued_at_utc\":" ++ Quote r.issued_at_utc ++ ascii ",\"receipt_id\":" ++ Quote r.receipt_id
    ++ ascii ",\"request_id\":" ++ Quote r.request_id ++ ascii ",\"route_id\":" ++ Quote r.route_id
    ++ ascii ",\"runtime_attestation_sha256\":" ++ Quote r.runtime_attestation_sha256
    ++ ascii ",\"runtime_tuple\":" ++ RuntimeJson r.runtime_tuple ++ ascii ",\"schema\":" ++ Quote r.schema
    ++ ascii "\x7d"

/-- The texts that are read of a receipt, when its two objects are there. -/
def receiptTexts (r : StrictJsonValue) : Option ReceiptTexts :=
  match TryGetObject r "runtime_tuple", TryGetObject r "document" with
  | some t, some d => some {
      attempt_id := Text r "attempt_id"
      bindings_hash := Text r "bindings_hash"
      capability_id := Text r "capability_id"
      client_session_id := Text r "client_session_id"
      document_session_id := Text d "document_session_id"
      project_fingerprint := Text d "project_fingerprint"
      executor_id := Text r "executor_id"
      expires_at_utc := Text r "expires_at_utc"
      host_instance_id := Text r "host_instance_id"
      issued_at_utc := Text r "issued_at_utc"
      receipt_id := Text r "receipt_id"
      request_id := Text r "request_id"
      route_id := Text r "route_id"
      runtime_attestation_sha256 := Text r "runtime_attestation_sha256"
      runtime_tuple := ⟨Text t "host_content_sha256", Text t "host_mvid", Text t "revit_api_content_sha256",
        Text t "revit_api_mvid", Text t "revit_version"⟩
      schema := Text r "schema" }
  | _, _ => none

/-- `CanonicalReceiptPayload`, which throws where an object is missing. -/
def CanonicalReceiptPayload (r : StrictJsonValue) : Except String Units :=
  match receiptTexts r with
  | some texts => .ok (receiptPayload texts)
  | none => .error "Receipt objects are unavailable."

end receipt

section unambiguous

variable {c d : UInt16} {x y : Units}

theorem quoteUnit_escaped (h : quoteUnit c ≠ [c]) : ∃ tail, quoteUnit c = unit '\\' :: tail := by
  revert h
  unfold quoteUnit
  split_ifs <;> intro h
  on_goal 9 => exact absurd rfl h
  all_goals exact ⟨_, rfl⟩

theorem head_quoteUnit (c : UInt16) : ∃ first tail, quoteUnit c = first :: tail ∧ first ≠ unit '"' := by
  by_cases hplain : quoteUnit c = [c]
  · exact ⟨c, [], hplain, (plain_of_quoteUnit hplain).2.1⟩
  · obtain ⟨tail, htail⟩ := quoteUnit_escaped hplain
    exact ⟨_, tail, htail, by decide⟩

theorem quoteUnit_inj_of_surrogate (hc : isHighSurrogate c = true ∨ isLowSurrogate c = true)
    (h : quoteUnit c ++ x = quoteUnit d ++ y) : c = d ∧ x = y := by
  rw [quoteUnit_surrogate hc] at h
  by_cases hplain : quoteUnit d = [d]
  · rw [hplain] at h
    obtain ⟨rfl, hrest⟩ := List.cons.inj h
    exact ⟨rfl, hrest⟩
  · obtain ⟨tail, htail⟩ := quoteUnit_escaped hplain
    rw [htail] at h
    obtain ⟨rfl, _⟩ := List.cons.inj h
    exact absurd hc (by decide)

theorem quoteUnit_inj (h : quoteUnit c ++ x = quoteUnit d ++ y) : c = d ∧ x = y := by
  by_cases hc : isHighSurrogate c = true ∨ isLowSurrogate c = true
  · exact quoteUnit_inj_of_surrogate hc h
  · by_cases hd : isHighSurrogate d = true ∨ isLowSurrogate d = true
    · obtain ⟨rfl, rfl⟩ := quoteUnit_inj_of_surrogate hd h.symm
      exact ⟨rfl, rfl⟩
    · rw [not_or, Bool.not_eq_true, Bool.not_eq_true] at hc hd
      have hfirst : Piece false (quoteUnit c ++ x) [c] x := piece_quoteUnit hc.1 hc.2
      have hsecond : Piece false (quoteUnit d ++ y) [d] y := piece_quoteUnit hd.1 hd.2
      rw [h] at hfirst
      obtain ⟨hmeaning, hrest⟩ := hfirst.functional hsecond
      exact ⟨(List.cons.inj hmeaning).1, hrest⟩

theorem quote_inj {first second : Units} (h : Quote first ++ x = Quote second ++ y) : first = second ∧ x = y := by
  rw [quote_append, quote_append] at h
  have hbody := (List.cons.inj h).2
  clear h
  induction first generalizing second with
  | nil =>
    cases second with
    | nil => exact ⟨rfl, (List.cons.inj hbody).2⟩
    | cons d second =>
      obtain ⟨head, tail, hhead, hne⟩ := head_quoteUnit d
      rw [List.flatMap_cons, hhead] at hbody
      exact absurd (List.cons.inj hbody).1.symm hne
  | cons c first ih =>
    cases second with
    | nil =>
      obtain ⟨head, tail, hhead, hne⟩ := head_quoteUnit c
      rw [List.flatMap_cons, hhead] at hbody
      exact absurd (List.cons.inj hbody).1 hne
    | cons d second =>
      rw [List.flatMap_cons, List.flatMap_cons, List.append_assoc, List.append_assoc] at hbody
      obtain ⟨rfl, hrest⟩ := quoteUnit_inj hbody
      obtain ⟨rfl, hxy⟩ := ih hrest
      exact ⟨rfl, hxy⟩

/-- Texts quoted behind their labels. -/
def labelled : List (Units × Units) → Units → Units
  | [], tail => tail
  | (label, value) :: rest, tail => label ++ (Quote value ++ labelled rest tail)

theorem labelled_inj {first second : List (Units × Units)} {tail : Units}
    (hlabels : first.map Prod.fst = second.map Prod.fst) (h : labelled first tail = labelled second tail) :
    first = second := by
  induction first generalizing second with
  | nil => exact (List.map_eq_nil_iff.1 hlabels.symm).symm
  | cons entry first ih =>
    cases second with
    | nil => cases hlabels
    | cons other second =>
      obtain ⟨label, value⟩ := entry
      obtain ⟨label', value'⟩ := other
      obtain ⟨rfl, hrest⟩ := List.cons.inj hlabels
      obtain ⟨rfl, hlater⟩ := quote_inj (List.append_cancel_left h)
      rw [ih hrest hlater]

/-- The texts of a receipt behind the labels of the payload. -/
def receiptEntries (r : ReceiptTexts) : List (Units × Units) := [
  (ascii "\x7b\"attempt_id\":", r.attempt_id), (ascii ",\"bindings_hash\":", r.bindings_hash),
  (ascii ",\"capability_id\":", r.capability_id), (ascii ",\"client_session_id\":", r.client_session_id),
  (ascii ",\"document\":\x7b\"document_session_id\":", r.document_session_id),
  (ascii ",\"project_fingerprint\":", r.project_fingerprint), (ascii "\x7d,\"executor_id\":", r.executor_id),
  (ascii ",\"expires_at_utc\":", r.expires_at_utc), (ascii ",\"host_instance_id\":", r.host_instance_id),
  (ascii ",\"issued_at_utc\":", r.issued_at_utc), (ascii ",\"receipt_id\":", r.receipt_id),
  (ascii ",\"request_id\":", r.request_id), (ascii ",\"route_id\":", r.route_id),
  (ascii ",\"runtime_attestation_sha256\":", r.runtime_attestation_sha256),
  (ascii ",\"runtime_tuple\":" ++ ascii "\x7b\"host_content_sha256\":", r.runtime_tuple.HostContentSha256),
  (ascii ",\"host_mvid\":", r.runtime_tuple.HostMvid),
  (ascii ",\"revit_api_content_sha256\":", r.runtime_tuple.RevitApiContentSha256),
  (ascii ",\"revit_api_mvid\":", r.runtime_tuple.RevitApiMvid),
  (ascii ",\"revit_version\":", r.runtime_tuple.RevitVersion),
  (ascii "\x7d" ++ ascii ",\"schema\":", r.schema)]

theorem receiptPayload_eq (r : ReceiptTexts) : receiptPayload r = labelled (receiptEntries r) (ascii "\x7d") := by
  unfold receiptPayload RuntimeJson receiptEntries
  simp only [List.append_assoc]
  simp only [labelled]
  simp only [List.append_assoc]

theorem receiptEntries_injective : Function.Injective receiptEntries := by
  intro first second h
  obtain ⟨_, _, _, _, _, _, _, _, _, _, _, _, _, _, ⟨_, _, _, _, _⟩, _⟩ := first
  obtain ⟨_, _, _, _, _, _, _, _, _, _, _, _, _, _, ⟨_, _, _, _, _⟩, _⟩ := second
  simpa [receiptEntries, and_assoc] using h

theorem receiptPayload_injective : Function.Injective receiptPayload := by
  intro first second h
  rw [receiptPayload_eq, receiptPayload_eq] at h
  exact receiptEntries_injective (labelled_inj rfl h)

end unambiguous

variable {source : Units}

section paired

variable {c : UInt16} {units : Units}

theorem paired_of_lt (h : units.all (fun c => c.toNat < 128) = true) : Paired units := by
  induction units with
  | nil => exact .nil
  | cons c units ih =>
    rw [List.all_cons, Bool.and_eq_true] at h
    obtain ⟨hfirst, hrest⟩ := h
    have hlt : c.toNat < 128 := of_decide_eq_true hfirst
    refine .single ?_ ?_ (ih hrest)
    · simp only [isHighSurrogate, Bool.and_eq_false_iff, decide_eq_false_iff_not]
      omega
    · simp only [isLowSurrogate, Bool.and_eq_false_iff, decide_eq_false_iff_not]
      omega

theorem paired_quoteUnit (hhigh : isHighSurrogate c = false) (hlow : isLowSurrogate c = false) : Paired (quoteUnit c) := by
  by_cases hplain : quoteUnit c = [c]
  · rw [hplain]
    exact .single hhigh hlow .nil
  · refine paired_of_lt ?_
    by_cases hcontrol : c < 32
    · have hall : ∀ n < 32, (quoteUnit (.ofNat n)).all (fun d => d.toNat < 128) = true := by decide +kernel
      have hown := hall c.toNat (UInt16.lt_iff_toNat_lt.1 hcontrol)
      rwa [UInt16.ofNat_toNat] at hown
    · by_cases hquote : c = unit '"'
      · subst hquote
        decide
      · by_cases hescape : c = unit '\\'
        · subst hescape
          decide
        · exact absurd (quoteUnit_plain hquote hescape hcontrol) hplain

theorem paired_quote {text : Units} (h : Paired text) : Paired (Quote text) := by
  have hmark : Paired [unit '"'] := paired_of_lt (by decide)
  have hbody : Paired (text.flatMap quoteUnit) := by
    induction h with
    | nil => exact .nil
    | single hhigh hlow _ ih =>
      rw [List.flatMap_cons]
      exact (paired_quoteUnit hhigh hlow).append ih
    | pair hhigh hlow _ ih =>
      rw [List.flatMap_cons, List.flatMap_cons, quoteUnit_surrogate (.inl hhigh), quoteUnit_surrogate (.inr hlow)]
      exact .pair hhigh hlow ih
  exact hmark.append (hbody.append hmark)

theorem paired_labelled {entries : List (Units × Units)} {tail : Units} (htail : Paired tail)
    (h : ∀ entry ∈ entries, Paired entry.1 ∧ Paired entry.2) : Paired (labelled entries tail) := by
  induction entries with
  | nil => exact htail
  | cons entry entries ih =>
    obtain ⟨⟨hlabel, hvalue⟩, hrest⟩ := List.forall_mem_cons.1 h
    exact hlabel.append ((paired_quote hvalue).append (ih hrest))

theorem paired_of_content {propertyName : Bool} {value rest : Units} (h : Content propertyName source value rest) :
    Paired value := by
  have hescapes : ∀ entry ∈ escapes, isHighSurrogate entry.2 = false ∧ isLowSurrogate entry.2 = false := by
    decide +kernel
  induction h with
  | close => exact .nil
  | piece hpiece _ ih =>
    refine Paired.append ?_ ih
    cases hpiece with
    | plain _ _ _ hhigh hlow => exact .single hhigh hlow .nil
    | pair hhigh hlow => exact .pair hhigh hlow .nil
    | escape _ hentry => exact .single (hescapes _ hentry).1 (hescapes _ hentry).2 .nil
    | unicode _ _ hhigh hlow => exact .single hhigh hlow .nil
    | unicodePair _ _ _ hhigh hlow => exact .pair hhigh hlow .nil

theorem properties_derive {Value : Units → StrictJsonValue → Units → Prop} {rest : Units}
    {properties : List (Units × StrictJsonValue)} (h : Properties Value source properties rest) :
    ∀ property ∈ properties, ∃ source rest, Value source property.2 rest := by
  induction h with
  | last _ _ hvalue => exact List.forall_mem_singleton.2 ⟨_, _, hvalue⟩
  | cons _ _ hvalue _ ih => exact List.forall_mem_cons.2 ⟨⟨_, _, hvalue⟩, ih⟩

theorem json_of_tryGet {levels : Nat} {rest : Units} {property : StrictJsonValue} {name : String}
    (h : Json levels source value rest) (hget : TryGet value name = some property) :
    ∃ levels source rest, Json levels source property rest := by
  cases levels with
  | zero => cases h
  | succ levels =>
    cases value with
    | String _ => cases hget
    | Boolean _ => cases hget
    | Object properties =>
      obtain ⟨body, _, hproperties, _⟩ := h
      obtain ⟨entry, hentry, rfl⟩ := Option.map_eq_some_iff.1 hget
      have hmem := List.mem_of_find?_eq_some hentry
      rcases hproperties with ⟨rfl, _⟩ | hproperties
      · cases hmem
      · obtain ⟨source, rest, hvalue⟩ := properties_derive hproperties entry hmem
        exact ⟨levels, source, rest, hvalue⟩

theorem paired_text {levels : Nat} {rest : Units} (h : Json levels source value rest)
    (name : String) : Paired (Text value name) := by
  unfold Text TryGetString
  split
  · rename_i text hget
    obtain ⟨levels, source, rest, hderives⟩ := json_of_tryGet h hget
    cases levels with
    | zero => cases hderives
    | succ levels =>
      obtain ⟨⟨body, _, hcontent⟩, _⟩ := hderives
      exact paired_of_content hcontent
  · exact .nil

theorem json_of_tryGetObject {levels : Nat} {rest : Units} {object : StrictJsonValue} {name : String}
    (h : Json levels source value rest) (hget : TryGetObject value name = some object) :
    ∃ levels source rest, Json levels source object rest := by
  unfold TryGetObject at hget
  split at hget
  · rename_i properties hfound
    obtain rfl := Option.some.inj hget
    exact json_of_tryGet h hfound
  · cases hget

theorem paired_receiptPayload {levels : Nat} {rest : Units} {texts : ReceiptTexts}
    (h : Json levels source value rest) (htexts : receiptTexts value = some texts) : Paired (receiptPayload texts) := by
  have hlabels : ∀ label ∈ (receiptEntries texts).map Prod.fst, Paired label := by
    have hall : ((receiptEntries default).map Prod.fst).all (fun label => label.all fun c => c.toNat < 128) = true := by
      decide +kernel
    exact fun label hlabel => paired_of_lt (List.all_eq_true.1 hall label hlabel)
  unfold receiptTexts at htexts
  split at htexts
  · rename_i t d ht hd
    obtain ⟨_, _, _, htuple⟩ := json_of_tryGetObject h ht
    obtain ⟨_, _, _, hdocument⟩ := json_of_tryGetObject h hd
    have hvalues : ∀ entry ∈ receiptEntries texts, Paired entry.2 := by
      obtain rfl := Option.some.inj htexts
      simp [receiptEntries, paired_text h, paired_text htuple, paired_text hdocument]
    rw [receiptPayload_eq]
    exact paired_labelled (paired_of_lt (by decide)) fun entry hentry =>
      ⟨hlabels _ (List.mem_map_of_mem hentry), hvalues entry hentry⟩
  · cases htexts

end paired

section faithful

theorem canonicalReceiptPayload_ok {r : StrictJsonValue} {payload : Units} (h : CanonicalReceiptPayload r = .ok payload) :
    ∃ texts, receiptTexts r = some texts ∧ receiptPayload texts = payload := by
  unfold CanonicalReceiptPayload at h
  split at h
  · rename_i texts htexts
    exact ⟨texts, htexts, Except.ok.inj h⟩
  · cases h

/-- Trees of the root objects that the parser is for are read back from what the quoter
    writes, nothing else is read, and the payload of a receipt determines its texts, also
    as the bytes under the HMAC. -/
theorem strict_json_faithful :
    (∀ properties maximumCharacters maximumDepth, 1 ≤ maximumDepth → maximumDepth ≤ 16 →
      Within maximumDepth (.Object properties) → (render (.Object properties)).length ≤ maximumCharacters →
      Parse (render (.Object properties)) maximumCharacters maximumDepth = .ok (.Object properties))
    ∧ (∀ text maximumCharacters maximumDepth value, Parse text maximumCharacters maximumDepth = .ok value →
      Json maximumDepth text value [])
    ∧ (∀ first second payload, CanonicalReceiptPayload first = .ok payload →
      CanonicalReceiptPayload second = .ok payload → receiptTexts first = receiptTexts second)
    ∧ ∀ text text' maximumCharacters maximumDepth first second payload payload',
      Parse text maximumCharacters maximumDepth = .ok first → Parse text' maximumCharacters maximumDepth = .ok second →
      CanonicalReceiptPayload first = .ok payload → CanonicalReceiptPayload second = .ok payload' →
      utf8Bytes payload = utf8Bytes payload' → receiptTexts first = receiptTexts second := by
  have hinjective : ∀ {first second payload}, CanonicalReceiptPayload first = .ok payload →
      CanonicalReceiptPayload second = .ok payload → receiptTexts first = receiptTexts second := by
    intro first second payload hfirst hsecond
    obtain ⟨texts, htexts, rfl⟩ := canonicalReceiptPayload_ok hfirst
    obtain ⟨texts', htexts', hsame⟩ := canonicalReceiptPayload_ok hsecond
    rw [htexts, htexts', receiptPayload_injective hsame]
  refine ⟨?_, fun _ _ _ _ h => (parse_iff.1 h).2.2, fun _ _ _ => hinjective, ?_⟩
  · intro properties maximumCharacters maximumDepth hone hsixteen hwithin hlength
    have hderives : Json maximumDepth (render (.Object properties) ++ []) (.Object properties) [] :=
      render_derives hwithin
    rw [List.append_nil] at hderives
    exact parse_iff.2 ⟨⟨hlength, hone, hsixteen⟩, ⟨properties, rfl⟩, hderives⟩
  · intro text text' maximumCharacters maximumDepth first second payload payload' hfirst hsecond hpayload hpayload' hbytes
    obtain ⟨texts, htexts, rfl⟩ := canonicalReceiptPayload_ok hpayload
    obtain ⟨texts', htexts', rfl⟩ := canonicalReceiptPayload_ok hpayload'
    have hpaired := paired_receiptPayload (parse_iff.1 hfirst).2.2 htexts
    have hpaired' := paired_receiptPayload (parse_iff.1 hsecond).2.2 htexts'
    rw [htexts, htexts', receiptPayload_injective (utf8Bytes_inj hpaired hpaired' hbytes)]

/-- An object within an object, and a text that needs escapes. -/
def nestedObject : StrictJsonValue :=
  .Object [(ascii "ok", .Boolean true), (ascii "at", .Object [(ascii "by", .String (ascii "\"a\"\n"))])]

theorem short_object_faithful :
    Parse (ascii "\x7b\"ok\":true,\"at\":\x7b\"by\":\"\\\"a\\\"\\n\"\x7d\x7d") 64 3 = .ok nestedObject := by
  have hplain : ∀ name ∈ [ascii "ok", ascii "at", ascii "by"], name ≠ [] ∧ name.length ≤ MaximumKeyCharacters
      ∧ name.all (fun c => quoteUnit c = [c]) = true ∧ name.all (fun c => c.toNat < 128) = true := by decide +kernel
  have hname : ∀ name ∈ [ascii "ok", ascii "at", ascii "by"], CanonicalName name := by
    intro name hmem
    obtain ⟨hne, hlength, hquote, hascii⟩ := hplain name hmem
    exact ⟨hne, hlength, fun c hc => of_decide_eq_true (List.all_eq_true.1 hquote c hc), paired_of_lt hascii⟩
  have hwithin : Within 3 nestedObject := by
    refine ⟨by decide, by decide +kernel, fun property hproperty => ?_⟩
    simp only [List.mem_cons, List.not_mem_nil, or_false] at hproperty
    obtain rfl | rfl := hproperty
    · exact ⟨hname _ (by simp), trivial⟩
    · refine ⟨hname _ (by simp), by decide, List.nodup_singleton _, fun inner hinner => ?_⟩
      obtain rfl := List.mem_singleton.1 hinner
      exact ⟨hname _ (by simp), by decide, paired_of_lt (by decide)⟩
  have htext : render nestedObject = ascii "\x7b\"ok\":true,\"at\":\x7b\"by\":\"\\\"a\\\"\\n\"\x7d\x7d" := by
    decide +kernel
  rw [← htext]
  exact strict_json_faithful.1 _ 64 3 (by decide) (by decide) hwithin (by rw [← nestedObject, htext]; decide)

/-- A boolean is within the bounds of a tree, but the parser wants an object. -/
theorem boolean_root_refused :
    ¬ ∀ value maximumCharacters maximumDepth, 1 ≤ maximumDepth → maximumDepth ≤ 16 → Within maximumDepth value →
      (render value).length ≤ maximumCharacters → Parse (render value) maximumCharacters maximumDepth = .ok value := by
  intro h
  have hparsed := h (.Boolean true) 4 1 le_rfl (by decide) trivial (by decide)
  obtain ⟨_, ⟨properties, hobject⟩, _⟩ := parse_iff.1 hparsed
  cases hobject

end faithful

end revit_operator.safe_read_host
