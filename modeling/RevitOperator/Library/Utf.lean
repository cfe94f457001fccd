import RevitOperator.Library.Text

/-! UTF-8 as buffers and text coders see it: the bytes of a text, the text that
    bytes read as, and the byte offsets at which characters begin. -/

namespace utf8

/-- The bytes of a text. -/
def encode (cs : List Char) : List UInt8 := cs.flatMap String.utf8EncodeChar

/-- The byte stands inside a character. -/
def isContinuation (b : UInt8) : Bool := b &&& 0xC0 == 0x80

def replacement : Char := Char.ofNat 0xFFFD

def byteOrderMark : Char := Char.ofNat 0xFEFF

/-- The bytes that may follow a lead byte. -/
def follows (lead second : UInt8) : Bool :=
  if lead = 0xE0 then 0xA0 ≤ second && second ≤ 0xBF
  else if lead = 0xED then 0x80 ≤ second && second ≤ 0x9F
  else if lead = 0xF0 then 0x90 ≤ second && second ≤ 0xBF
  else if lead = 0xF4 then 0x80 ≤ second && second ≤ 0x8F
  else isContinuation second

/-- How many bytes after the lead one replacement character stands for when no
    character begins there. -/
def truncated (lead : UInt8) : List UInt8 → Nat
  | [] => 0
  | second :: rest =>
    if 0xE0 ≤ lead && lead ≤ 0xF4 && follows lead second then
      if 0xF0 ≤ lead && rest.head?.any isContinuation then 2 else 1
    else 0

/-- The text of the bytes that follow the ones already read. -/
def decodeAfter : Nat → List UInt8 → List Char
  | _, [] => []
  | read + 1, _ :: rest => decodeAfter read rest
  | 0, lead :: rest =>
    match (lead :: rest).toByteArray.utf8DecodeChar? 0 with
    | some c => c :: decodeAfter (c.utf8Size - 1) rest
    | none => replacement :: decodeAfter (truncated lead rest) rest

/-- The text of a buffer. What is not UTF-8 reads as replacement characters. -/
def decode (bytes : List UInt8) : List Char := decodeAfter 0 bytes

/-- The text a fatal decoder reads. It drops a leading byte order mark and
    refuses what is not UTF-8. -/
def decodeFatal (bytes : List UInt8) : Option (List Char) :=
  let body := if [0xEF, 0xBB, 0xBF].isPrefixOf bytes then bytes.drop 3 else bytes
  if body.toByteArray.validateUTF8 then some (decode body) else none

@[simp]
theorem encode_nil : encode [] = [] :=
  rfl

@[simp]
theorem encode_cons (c : Char) (cs : List Char) : encode (c :: cs) = String.utf8EncodeChar c ++ encode cs :=
  rfl

@[simp]
theorem encode_append (cs ds : List Char) : encode (cs ++ ds) = encode cs ++ encode ds := by
  simp [encode]

theorem encode_toByteArray (cs : List Char) : (encode cs).toByteArray = cs.utf8Encode :=
  rfl

theorem exists_lead (c : Char) : ∃ lead rest, String.utf8EncodeChar c = lead :: rest ∧ rest.length = c.utf8Size - 1
    ∧ isContinuation lead = false ∧ ∀ b ∈ rest, isContinuation b = true := by
  have hascii : ∀ n < 128, isContinuation (UInt8.ofNat n) = false := by decide
  have htwo : ∀ n < 32, isContinuation (UInt8.ofNat (n + 0xC0)) = false := by decide
  have hthree : ∀ n < 16, isContinuation (UInt8.ofNat (n + 0xE0)) = false := by decide
  have hfour : ∀ n < 8, isContinuation (UInt8.ofNat (n + 0xF0)) = false := by decide
  have hinside : ∀ n < 64, isContinuation (UInt8.ofNat (n + 0x80)) = true := by decide
  have hmod : ∀ n, isContinuation (UInt8.ofNat (n % 64 + 0x80)) = true :=
    fun n => hinside _ (Nat.mod_lt _ (by decide))
  have hlength := String.length_utf8EncodeChar c
  unfold String.utf8EncodeChar at hlength ⊢
  dsimp only at hlength ⊢
  split_ifs at hlength ⊢ with h₁ h₂ h₃
  · exact ⟨_, _, rfl, by simpa using congrArg (· - 1) hlength, hascii _ (by omega), by simp⟩
  · exact ⟨_, _, rfl, by simpa using congrArg (· - 1) hlength, htwo _ (Nat.mod_lt _ (by decide)),
      List.forall_mem_singleton.2 (hmod _)⟩
  · exact ⟨_, _, rfl, by simpa using congrArg (· - 1) hlength, hthree _ (Nat.mod_lt _ (by decide)),
      List.forall_mem_cons.2 ⟨hmod _, List.forall_mem_singleton.2 (hmod _)⟩⟩
  · exact ⟨_, _, rfl, by simpa using congrArg (· - 1) hlength, hfour _ (Nat.mod_lt _ (by decide)),
      List.forall_mem_cons.2 ⟨hmod _, List.forall_mem_cons.2 ⟨hmod _, List.forall_mem_singleton.2 (hmod _)⟩⟩⟩

theorem utf8DecodeChar?_encode (c : Char) (bytes : List UInt8) :
    (String.utf8EncodeChar c ++ bytes).toByteArray.utf8DecodeChar? 0 = some c := by
  have h := ByteArray.utf8DecodeChar?_utf8EncodeChar_append (b := bytes.toByteArray) (c := c)
  rw [← h]
  congr 1
  simp

theorem decodeAfter_append (read bytes : List UInt8) : decodeAfter read.length (read ++ bytes) = decode bytes := by
  induction read with
  | nil => rfl
  | cons b read ih => simpa [decodeAfter] using ih

@[simp]
theorem decode_encode (cs : List Char) : decode (encode cs) = cs := by
  induction cs with
  | nil => rfl
  | cons c cs ih =>
    obtain ⟨lead, rest, hbytes, hlength, -, -⟩ := exists_lead c
    have hfirst := utf8DecodeChar?_encode c (encode cs)
    rw [hbytes, List.cons_append] at hfirst
    rw [encode_cons, hbytes, List.cons_append, decode, decodeAfter, hfirst]
    dsimp only
    rw [← hlength, decodeAfter_append, ih]

theorem encode_injective : Function.Injective encode := by
  intro cs ds h
  rw [← decode_encode cs, h, decode_encode]

theorem head_of_prefix {c : Char} {cs : List Char} {bytes : List UInt8}
    (h : encode cs = String.utf8EncodeChar c ++ bytes) : ∃ rest, cs = c :: rest ∧ bytes = encode rest := by
  cases cs with
  | nil =>
    obtain ⟨lead, rest, hbytes, -⟩ := exists_lead c
    rw [hbytes] at h
    cases h
  | cons d rest =>
    have hfirst := utf8DecodeChar?_encode d (encode rest)
    rw [← encode_cons, h, utf8DecodeChar?_encode] at hfirst
    cases hfirst
    exact ⟨rest, rfl, (List.append_cancel_left h).symm⟩

/-- The bytes of a byte order mark lead exactly the texts that begin with
    one. -/
theorem mark_prefix_iff {cs : List Char} : [0xEF, 0xBB, 0xBF] <+: encode cs ↔ cs.head? = some byteOrderMark := by
  constructor
  · rintro ⟨bytes, hbytes⟩
    obtain ⟨rest, rfl, -⟩ := head_of_prefix (c := byteOrderMark) hbytes.symm
    rfl
  · intro h
    obtain ⟨rest, rfl⟩ := List.head?_eq_some_iff.1 h
    exact ⟨encode rest, rfl⟩

/-- A fatal decoder reads a text back unless it begins with a byte order
    mark. -/
theorem decodeFatal_encode_eq_some (cs : List Char) :
    decodeFatal (encode cs) = some cs ↔ ¬ [0xEF, 0xBB, 0xBF] <+: encode cs := by
  have hvalid : ∀ ds, (encode ds).toByteArray.validateUTF8 = true :=
    fun ds => ByteArray.validateUTF8_eq_true_iff.2 (.intro ds (encode_toByteArray ds))
  rw [decodeFatal]
  by_cases hmark : [0xEF, 0xBB, 0xBF] <+: encode cs
  · obtain ⟨bytes, hbytes⟩ := hmark
    obtain ⟨rest, rfl, rfl⟩ := head_of_prefix (c := byteOrderMark) hbytes.symm
    have hmark : [0xEF, 0xBB, 0xBF].isPrefixOf (encode (byteOrderMark :: rest)) = true :=
      List.isPrefixOf_iff_prefix.2 ⟨_, hbytes⟩
    have hdrop : (encode (byteOrderMark :: rest)).drop 3 = encode rest := by
      rw [← hbytes]
      rfl
    simp only [hmark, if_true, hdrop, hvalid, decode_encode]
    simp [hbytes.symm]
  · simp [hmark, hvalid]

/-- A character begins at this byte offset, or the text ends there. -/
def Boundary (cs : List Char) (offset : Nat) : Prop :=
  ∃ before after, cs = before ++ after ∧ (encode before).length = offset

theorem boundary_zero (cs : List Char) : Boundary cs 0 :=
  ⟨[], cs, rfl, rfl⟩

theorem boundary_end (cs : List Char) : Boundary cs (encode cs).length :=
  ⟨cs, [], (List.append_nil cs).symm, rfl⟩

theorem boundary_of_lead {cs : List Char} {offset : Nat} {b : UInt8} (hb : (encode cs)[offset]? = some b)
    (hlead : isContinuation b = false) : Boundary cs offset := by
  induction cs generalizing offset with
  | nil => simp at hb
  | cons c cs ih =>
    obtain ⟨lead, rest, hbytes, -, -, hinside⟩ := exists_lead c
    rw [encode_cons] at hb
    by_cases hfirst : offset < (String.utf8EncodeChar c).length
    · rw [List.getElem?_append_left hfirst, hbytes] at hb
      cases offset with
      | zero => exact boundary_zero _
      | succ offset =>
        rw [hinside b (List.mem_of_getElem? hb)] at hlead
        cases hlead
    · have hle := Nat.le_of_not_lt hfirst
      rw [List.getElem?_append_right hle] at hb
      obtain ⟨before, after, rfl, hoffset⟩ := ih hb
      refine ⟨c :: before, after, rfl, ?_⟩
      rw [encode_cons, List.length_append, hoffset]
      omega

theorem exists_between {cs : List Char} {i j : Nat} (hi : Boundary cs i) (hj : Boundary cs j) (hij : i ≤ j) :
    ∃ before middle after, cs = before ++ (middle ++ after) ∧ (encode before).length = i
      ∧ (encode middle).length = j - i := by
  obtain ⟨before, after, rfl, rfl⟩ := hi
  obtain ⟨longer, rest, hsplit, rfl⟩ := hj
  obtain ⟨middle, rfl, rfl⟩ | ⟨extra, rfl, rfl⟩ := List.append_eq_append_iff.1 hsplit
  · refine ⟨before, middle, rest, rfl, rfl, ?_⟩
    simp
  · have hextra : encode extra = [] := by
      rw [encode_append, List.length_append] at hij
      exact List.eq_nil_of_length_eq_zero (by omega)
    obtain rfl : extra = [] := encode_injective hextra
    exact ⟨longer, [], after, by simp, by simp, by simp⟩

theorem slice_between {cs before middle after : List Char} {i j : Nat} (hcs : cs = before ++ (middle ++ after))
    (hi : (encode before).length = i) (hj : (encode middle).length = j - i) :
    ((encode cs).drop i).take (j - i) = encode middle := by
  subst hcs hi
  rw [encode_append, List.drop_left, encode_append, ← hj, List.take_left]

example : decode [0x61, 0xE2, 0x82, 0xFF] = ['a', replacement, replacement] := by decide

end utf8

/-! Texts as sequences of UTF-16 code units, which need not pair their surrogates. -/

namespace utf16

def isHighSurrogate (c : UInt16) : Bool := 0xD800 ≤ c.toNat && c.toNat ≤ 0xDBFF

def isLowSurrogate (c : UInt16) : Bool := 0xDC00 ≤ c.toNat && c.toNat ≤ 0xDFFF

/-- Every high surrogate is followed by a low one, and no low one stands alone. -/
inductive Paired : List UInt16 → Prop where
  | nil : Paired []
  | single {c : UInt16} {rest : List UInt16} (hhigh : isHighSurrogate c = false) (hlow : isLowSurrogate c = false)
      (hrest : Paired rest) : Paired (c :: rest)
  | pair {high low : UInt16} {rest : List UInt16} (hhigh : isHighSurrogate high = true)
      (hlow : isLowSurrogate low = true) (hrest : Paired rest) : Paired (high :: low :: rest)

/-- The character of a pair of surrogates. -/
def joined (high low : UInt16) : Char := .ofNat (0x10000 + (high.toNat - 0xD800) * 0x400 + (low.toNat - 0xDC00))

/-- The character of a unit on its own: a surrogate has none. -/
def single (c : UInt16) : Char :=
  if isHighSurrogate c || isLowSurrogate c then utf8.replacement else .ofNat c.toNat

/-- The characters of a text, lone surrogates replaced. -/
def decode : List UInt16 → List Char
  | [] => []
  | [c] => [single c]
  | high :: low :: rest =>
    if isHighSurrogate high && isLowSurrogate low then joined high low :: decode rest
    else single high :: decode (low :: rest)

def encode (cs : List Char) : List UInt16 := cs.flatMap fun c => (text.charUnits c).map UInt16.ofNat

/-- The bytes of a text: `Encoding.UTF8.GetBytes`. -/
def utf8Bytes (units : List UInt16) : List UInt8 := utf8.encode (decode units)

theorem encode_cons (c : Char) (cs : List Char) :
    encode (c :: cs) = (text.charUnits c).map UInt16.ofNat ++ encode cs :=
  rfl

theorem toNat_ofNat {n : Nat} (h : n < 0xD800 ∨ 0xDFFF < n ∧ n < 0x110000) : (Char.ofNat n).toNat = n := by
  have hvalid : n.isValidChar := h
  rw [Char.ofNat, dif_pos hvalid]
  rfl

theorem charUnits_single {c : UInt16} (hhigh : isHighSurrogate c = false) (hlow : isLowSurrogate c = false) :
    (text.charUnits (single c)).map UInt16.ofNat = [c] := by
  have hbound := c.toNat_lt
  simp only [isHighSurrogate, isLowSurrogate, Bool.and_eq_false_iff, decide_eq_false_iff_not] at hhigh hlow
  have hsingle : single c = .ofNat c.toNat := by
    rw [single, if_neg]
    simp only [isHighSurrogate, isLowSurrogate, Bool.or_eq_true, Bool.and_eq_true, decide_eq_true_eq]
    omega
  rw [hsingle, text.charUnits, toNat_ofNat (by omega), if_pos (by omega)]
  simp

theorem charUnits_joined {high low : UInt16} (hhigh : isHighSurrogate high = true) (hlow : isLowSurrogate low = true) :
    (text.charUnits (joined high low)).map UInt16.ofNat = [high, low] := by
  simp only [isHighSurrogate, isLowSurrogate, Bool.and_eq_true, decide_eq_true_eq] at hhigh hlow
  rw [joined, text.charUnits, toNat_ofNat (by omega), if_neg (by omega)]
  have hfirst : 0xD800 + (0x10000 + (high.toNat - 0xD800) * 0x400 + (low.toNat - 0xDC00) - 0x10000) / 0x400
      = high.toNat := by omega
  have hsecond : 0xDC00 + (0x10000 + (high.toNat - 0xD800) * 0x400 + (low.toNat - 0xDC00) - 0x10000) % 0x400
      = low.toNat := by omega
  rw [hfirst, hsecond]
  simp

theorem encode_decode {units : List UInt16} (h : Paired units) : encode (decode units) = units := by
  induction h with
  | nil => rfl
  | @single c rest hhigh hlow _ ih =>
    have hdecode : decode (c :: rest) = single c :: decode rest := by
      cases rest with
      | nil => rfl
      | cons next rest => rw [decode, hhigh, Bool.false_and, if_neg Bool.false_ne_true]
    rw [hdecode, encode_cons, charUnits_single hhigh hlow, ih]
    rfl
  | @pair high low rest hhigh hlow _ ih =>
    rw [decode, hhigh, hlow, Bool.and_self, if_pos rfl, encode_cons, charUnits_joined hhigh hlow, ih]
    rfl

theorem utf8Bytes_inj {first second : List UInt16} (hfirst : Paired first) (hsecond : Paired second)
    (h : utf8Bytes first = utf8Bytes second) : first = second := by
  have hchars := utf8.encode_injective h
  rw [← encode_decode hfirst, hchars, encode_decode hsecond]

theorem Paired.append {first second : List UInt16} (hfirst : Paired first) (hsecond : Paired second) :
    Paired (first ++ second) := by
  induction hfirst with
  | nil => exact hsecond
  | single hhigh hlow _ ih => exact .single hhigh hlow ih
  | pair hhigh hlow _ ih => exact .pair hhigh hlow ih

end utf16
