import RevitOperator.SafeReadHost.StrictJson

open checked utf16

/-! The grammar of the strict JSON: what its parser accepts, and what the quoter writes. -/

namespace revit_operator.safe_read_host

namespace StrictJson

section grammar

/-- Four hexadecimal digits and the unit they name. -/
def Hex4 (digits : Units) (value : UInt16) : Prop :=
  ∃ a b c d va vb vc vd, digits = [a, b, c, d] ∧ nibble a = some va ∧ nibble b = some vb ∧ nibble c = some vc
    ∧ nibble d = some vd ∧ value = .ofNat (((va * 16 + vb) * 16 + vc) * 16 + vd)

/-- One part of a string, the units it stands for and what follows. Names of properties
    have no escapes. -/
inductive Piece (propertyName : Bool) : Units → Units → Units → Prop where
  | plain {c : UInt16} {rest : Units} (hcontrol : ¬ c < 0x20) (hquote : c ≠ unit '"') (hescape : c ≠ unit '\\')
      (hhigh : isHighSurrogate c = false) (hlow : isLowSurrogate c = false) : Piece propertyName (c :: rest) [c] rest
  | pair {high low : UInt16} {rest : Units} (hhigh : isHighSurrogate high = true) (hlow : isLowSurrogate low = true) :
      Piece propertyName (high :: low :: rest) [high, low] rest
  | escape {entry : Char × UInt16} {rest : Units} (hname : propertyName = false) (hentry : entry ∈ escapes) :
      Piece propertyName (unit '\\' :: unit entry.1 :: rest) [entry.2] rest
  | unicode {digits rest : Units} {c : UInt16} (hname : propertyName = false) (hdigits : Hex4 digits c)
      (hhigh : isHighSurrogate c = false) (hlow : isLowSurrogate c = false) :
      Piece propertyName (unit '\\' :: unit 'u' :: (digits ++ rest)) [c] rest
  | unicodePair {digits digits' rest : Units} {high low : UInt16} (hname : propertyName = false)
      (hdigits : Hex4 digits high) (hdigits' : Hex4 digits' low) (hhigh : isHighSurrogate high = true)
      (hlow : isLowSurrogate low = true) :
      Piece propertyName (unit '\\' :: unit 'u' :: (digits ++ unit '\\' :: unit 'u' :: (digits' ++ rest))) [high, low]
        rest

/-- The parts of a string up to its closing quote. -/
inductive Content (propertyName : Bool) : Units → Units → Units → Prop where
  | close {rest : Units} : Content propertyName (unit '"' :: rest) [] rest
  | piece {source meaning mid more rest : Units} (hpiece : Piece propertyName source meaning mid)
      (hmore : Content propertyName mid more rest) : Content propertyName source (meaning ++ more) rest

/-- A string with its quotes. -/
def Literal (propertyName : Bool) (source value rest : Units) : Prop :=
  (∃ body, source = unit '"' :: body ∧ Content propertyName body value rest) ∧ value.length ≤ MaximumStringCharacters

/-- Properties up to the closing brace, for a grammar of their values. -/
inductive Properties (Value : Units → StrictJsonValue → Units → Prop) :
    Units → List (Units × StrictJsonValue) → Units → Prop where
  | last {source name body rest : Units} {value : StrictJsonValue} (hname : Literal true source name (unit ':' :: body))
      (hbound : name.length ≠ 0 ∧ name.length ≤ MaximumKeyCharacters) (hvalue : Value body value (unit '}' :: rest)) :
      Properties Value source [(name, value)] rest
  | cons {source name body next rest : Units} {value : StrictJsonValue} {more : List (Units × StrictJsonValue)}
      (hname : Literal true source name (unit ':' :: body))
      (hbound : name.length ≠ 0 ∧ name.length ≤ MaximumKeyCharacters) (hvalue : Value body value (unit ',' :: next))
      (hmore : Properties Value next more rest) : Properties Value source ((name, value) :: more) rest

/-- A value nested over so many levels at most, and what follows it. -/
def Json : Nat → Units → StrictJsonValue → Units → Prop
  | 0, _, _, _ => False
  | _ + 1, source, .String value, rest => Literal false source value rest
  | _ + 1, source, .Boolean value, rest => source = ascii (if value then "true" else "false") ++ rest
  | levels + 1, source, .Object properties, rest =>
    ∃ body, source = unit '{' :: body
      ∧ (properties = [] ∧ body = unit '}' :: rest ∨ Properties (Json levels) body properties rest)
      ∧ properties.length ≤ MaximumProperties ∧ (properties.map Prod.fst).Nodup

end grammar

section strings

theorem unit_inj_escapes : ∀ entry ∈ escapes, unit entry.1 ≠ unit 'u' ∧
    escapes.find? (fun other => unit other.1 = unit entry.1) = some entry := by
  decide +kernel

theorem hex4_iff {source rest : Units} {value : UInt16} :
    ReadHex4 source = .ok (value, rest) ↔ ∃ digits, source = digits ++ rest ∧ Hex4 digits value := by
  constructor
  · intro h
    unfold ReadHex4 at h
    split at h
    · rename_i a b c d tail
      split at h
      · rename_i va vb vc vd ha hb hc hd
        obtain ⟨rfl, rfl⟩ := Prod.mk.inj (Except.ok.inj h)
        exact ⟨[a, b, c, d], rfl, a, b, c, d, va, vb, vc, vd, rfl, ha, hb, hc, hd, rfl⟩
      · cases h
    · cases h
  · rintro ⟨digits, rfl, a, b, c, d, va, vb, vc, vd, rfl, ha, hb, hc, hd, rfl⟩
    simp [ReadHex4, ha, hb, hc, hd]

theorem Hex4.length {digits : Units} {value : UInt16} (h : Hex4 digits value) : digits.length = 4 := by
  obtain ⟨a, b, c, d, _, _, _, _, rfl, _⟩ := h
  rfl

theorem appendEscapedUnicode_iff {source meaning rest : Units} :
    AppendEscapedUnicode source = .ok (meaning, rest) ↔
      (∃ digits c, source = digits ++ rest ∧ Hex4 digits c ∧ isHighSurrogate c = false ∧ isLowSurrogate c = false
        ∧ meaning = [c])
      ∨ ∃ digits digits' high low, source = digits ++ unit '\\' :: unit 'u' :: (digits' ++ rest)
        ∧ Hex4 digits high ∧ Hex4 digits' low ∧ isHighSurrogate high = true ∧ isLowSurrogate low = true
        ∧ meaning = [high, low] := by
  constructor
  · intro h
    rw [AppendEscapedUnicode, bind_eq_ok] at h
    obtain ⟨⟨first, tail⟩, hfirst, h⟩ := h
    obtain ⟨digits, rfl, hdigits⟩ := hex4_iff.1 hfirst
    dsimp only at h
    split_ifs at h with hhigh
    · split at h
      · rename_i backslash letter low
        simp only [bind_eq_ok, require_eq_ok, pure_eq_ok] at h
        obtain ⟨_, ⟨rfl, rfl, _⟩, ⟨second, tail⟩, hsecond, _, hlow, hdone⟩ := h
        obtain ⟨rfl, rfl⟩ := Prod.mk.inj hdone
        obtain ⟨digits', rfl, hdigits'⟩ := hex4_iff.1 hsecond
        exact .inr ⟨digits, digits', first, second, rfl, hdigits, hdigits', hhigh, hlow, rfl⟩
      · cases h
    · simp only [bind_eq_ok, require_eq_ok, pure_eq_ok] at h
      obtain ⟨_, hlow, hdone⟩ := h
      obtain ⟨rfl, rfl⟩ := Prod.mk.inj hdone
      exact .inl ⟨digits, first, rfl, hdigits, Bool.eq_false_iff.2 hhigh, hlow, rfl⟩
  · rintro (⟨digits, c, rfl, hdigits, hhigh, hlow, rfl⟩ | ⟨digits, digits', high, low, rfl, hdigits, hdigits', hhigh, hlow, rfl⟩)
    · rw [AppendEscapedUnicode, hex4_iff.2 ⟨digits, rfl, hdigits⟩, ok_bind]
      simp [hhigh, hlow, require_of]
    · rw [AppendEscapedUnicode, hex4_iff.2 ⟨digits, rfl, hdigits⟩, ok_bind]
      have hlength : 4 ≤ (digits' ++ rest).length := by
        rw [List.length_append, hdigits'.length]
        omega
      simp only [hhigh, if_true]
      rw [require_of ⟨trivial, trivial, hlength⟩, ok_bind, hex4_iff.2 ⟨digits', rfl, hdigits'⟩, ok_bind, require_of hlow]
      rfl

variable {propertyName : Bool} {current : UInt16} {source rest meaning output value : Units}

theorem Piece.ne_quote (h : Piece propertyName (current :: source) meaning rest) : current ≠ unit '"' := by
  generalize hsource : current :: source = whole at h
  cases h with
  | plain _ hquote _ _ _ =>
    obtain ⟨rfl, _⟩ := List.cons.inj hsource
    exact hquote
  | pair hhigh _ =>
    obtain ⟨rfl, _⟩ := List.cons.inj hsource
    rintro rfl
    cases hhigh
  | escape _ _ =>
    obtain ⟨rfl, _⟩ := List.cons.inj hsource
    decide
  | unicode _ _ _ _ =>
    obtain ⟨rfl, _⟩ := List.cons.inj hsource
    decide
  | unicodePair _ _ _ _ _ =>
    obtain ⟨rfl, _⟩ := List.cons.inj hsource
    decide

theorem Piece.length_lt (h : Piece propertyName source meaning rest) : rest.length < source.length := by
  cases h <;> simp <;> omega

theorem not_control_of_surrogate {c : UInt16} (h : isHighSurrogate c = true) : ¬ c < 0x20 ∧ c ≠ unit '\\' := by
  constructor
  · intro hcontrol
    simp only [isHighSurrogate, Bool.and_eq_true, decide_eq_true_eq] at h
    have hlt : c.toNat < 32 := UInt16.lt_iff_toNat_lt.1 hcontrol
    omega
  · rintro rfl
    cases h

theorem readPiece_ok (hquote : current ≠ unit '"') (h : readPiece propertyName current source = .ok (meaning, rest)) :
    Piece propertyName (current :: source) meaning rest := by
  unfold readPiece at h
  split_ifs at h with hcontrol hescape hhigh hlow
  · subst hescape
    split at h
    · rename_i escaped tail
      split_ifs at h with hunicode
      · subst hunicode
        obtain ⟨digits, c, rfl, hdigits, hhigh, hlow, rfl⟩ |
          ⟨digits, digits', high, low, rfl, hdigits, hdigits', hhigh, hlow, rfl⟩ := appendEscapedUnicode_iff.1 h
        · exact .unicode rfl hdigits hhigh hlow
        · exact .unicodePair rfl hdigits hdigits' hhigh hlow
      · split at h
        · rename_i entry hentry
          obtain ⟨rfl, rfl⟩ := Prod.mk.inj (Except.ok.inj h)
          have hmark : unit entry.1 = escaped := by simpa using List.find?_some hentry
          exact hmark ▸ .escape rfl (List.mem_of_find?_eq_some hentry)
        · cases h
    · cases h
  · split at h
    · rename_i low tail
      split_ifs at h with hlow
      obtain ⟨rfl, rfl⟩ := Prod.mk.inj (Except.ok.inj h)
      exact .pair hhigh hlow
    · cases h
  · obtain ⟨rfl, rfl⟩ := Prod.mk.inj (Except.ok.inj h)
    exact .plain hcontrol hquote hescape (Bool.eq_false_iff.2 hhigh) (Bool.eq_false_iff.2 hlow)

theorem readPiece_of_piece (h : Piece propertyName (current :: source) meaning rest) :
    readPiece propertyName current source = .ok (meaning, rest) := by
  generalize hsource : current :: source = whole at h
  have hbackslash : ¬ unit '\\' < 0x20 := by decide
  cases h with
  | plain hcontrol _ hescape hhigh hlow =>
    obtain ⟨rfl, rfl⟩ := List.cons.inj hsource
    unfold readPiece
    rw [if_neg hcontrol, if_neg hescape, if_neg (by simp [hhigh]), if_neg (by simp [hlow])]
  | pair hhigh hlow =>
    obtain ⟨rfl, rfl⟩ := List.cons.inj hsource
    obtain ⟨hcontrol, hescape⟩ := not_control_of_surrogate hhigh
    unfold readPiece
    rw [if_neg hcontrol, if_neg hescape, if_pos hhigh]
    simp only [hlow, if_true]
  | escape hname hentry =>
    obtain ⟨rfl, rfl⟩ := List.cons.inj hsource
    subst hname
    obtain ⟨hletter, hfind⟩ := unit_inj_escapes _ hentry
    rw [readPiece, if_neg hbackslash, if_pos rfl]
    simp only [if_neg hletter, hfind]
  | unicode hname hdigits hhigh hlow =>
    obtain ⟨rfl, rfl⟩ := List.cons.inj hsource
    subst hname
    rw [readPiece, if_neg hbackslash, if_pos rfl]
    simp only [if_true]
    exact appendEscapedUnicode_iff.2 (.inl ⟨_, _, rfl, hdigits, hhigh, hlow, rfl⟩)
  | unicodePair hname hdigits hdigits' hhigh hlow =>
    obtain ⟨rfl, rfl⟩ := List.cons.inj hsource
    subst hname
    rw [readPiece, if_neg hbackslash, if_pos rfl]
    simp only [if_true]
    exact appendEscapedUnicode_iff.2 (.inr ⟨_, _, _, _, rfl, hdigits, hdigits', hhigh, hlow, rfl⟩)

theorem Piece.functional {meaning' rest' : Units} (h : Piece propertyName source meaning rest)
    (h' : Piece propertyName source meaning' rest') : meaning = meaning' ∧ rest = rest' := by
  cases source with
  | nil => cases h.length_lt
  | cons current source =>
    have hread := readPiece_of_piece h
    rw [readPiece_of_piece h'] at hread
    obtain ⟨rfl, rfl⟩ := Prod.mk.inj (Except.ok.inj hread)
    exact ⟨rfl, rfl⟩

theorem readUnits_ok {turns : Nat} (hbound : output.length ≤ MaximumStringCharacters)
    (h : readUnits propertyName turns output source = .ok (value, rest)) :
    ∃ more, Content propertyName source more rest ∧ value = output ++ more
      ∧ value.length ≤ MaximumStringCharacters := by
  induction turns generalizing output source with
  | zero => simp [readUnits] at h
  | succ turns ih =>
    cases source with
    | nil => simp [readUnits] at h
    | cons current source =>
      rw [readUnits] at h
      split_ifs at h with hquote
      · obtain ⟨rfl, rfl⟩ := Prod.mk.inj (Except.ok.inj h)
        exact ⟨[], hquote ▸ .close, by simp, hbound⟩
      · simp only [bind_eq_ok, require_eq_ok] at h
        obtain ⟨⟨piece, mid⟩, hpiece, _, hlength, h⟩ := h
        obtain ⟨more, hmore, rfl, hvalue⟩ := ih hlength h
        exact ⟨piece ++ more, .piece (readPiece_ok hquote hpiece) hmore, by rw [List.append_assoc], hvalue⟩

theorem readUnits_of_content {more : Units} (h : Content propertyName source more rest) {turns : Nat}
    (hturns : source.length ≤ turns) (hbound : (output ++ more).length ≤ MaximumStringCharacters) :
    readUnits propertyName turns output source = .ok (output ++ more, rest) := by
  induction h generalizing turns output with
  | close =>
    cases turns with
    | zero => cases hturns
    | succ turns => rw [readUnits, if_pos rfl, List.append_nil]
  | @piece source meaning mid more rest hpiece _ ih =>
    have hshorter := hpiece.length_lt
    cases source with
    | nil => cases hshorter
    | cons current source =>
      cases turns with
      | zero => cases hturns
      | succ turns =>
        have hroom : (output ++ meaning).length ≤ MaximumStringCharacters := by
          simp only [List.length_append] at hbound ⊢
          omega
        have hleft : mid.length ≤ turns := by
          simp only [List.length_cons] at hshorter hturns
          omega
        rw [readUnits, if_neg hpiece.ne_quote, readPiece_of_piece hpiece, ok_bind]
        dsimp only
        rw [require_of hroom, ok_bind, ih hleft (by rwa [List.append_assoc]), List.append_assoc]

theorem require_char {value : Char} : Require value source = .ok rest ↔ source = unit value :: rest := by
  cases source with
  | nil => simp [Require]
  | cons current source =>
    rw [Require]
    split_ifs with hsame
    · simp [hsame]
    · simp [hsame]

theorem readString_iff : ReadString propertyName source = .ok (value, rest) ↔ Literal propertyName source value rest := by
  constructor
  · intro h
    rw [ReadString, bind_eq_ok] at h
    obtain ⟨body, hbody, h⟩ := h
    obtain ⟨more, hmore, rfl, hbound⟩ := readUnits_ok (Nat.zero_le _) h
    exact ⟨⟨body, require_char.1 hbody, hmore⟩, hbound⟩
  · rintro ⟨⟨body, rfl, hcontent⟩, hbound⟩
    rw [ReadString, require_char.2 rfl, ok_bind, readUnits_of_content hcontent (Nat.le_refl _) (by simpa using hbound)]
    rfl

end strings

section objects

variable {readValue : Units → Except FormatException (StrictJsonValue × Units)}
  {Value : Units → StrictJsonValue → Units → Prop} {source rest : Units}
  {properties result : List (Units × StrictJsonValue)}

theorem readProperties_ok (hvalue : ∀ source value rest, readValue source = .ok (value, rest) → Value source value rest)
    {room : Nat} (hdistinct : (properties.map Prod.fst).Nodup)
    (h : readProperties readValue room properties source = .ok (result, rest)) :
    ∃ more, Properties Value source more rest ∧ result = properties ++ more ∧ more.length ≤ room
      ∧ (result.map Prod.fst).Nodup := by
  induction room generalizing properties source with
  | zero => simp [readProperties] at h
  | succ room ih =>
    simp only [readProperties, bind_eq_ok, require_eq_ok, require_char] at h
    obtain ⟨⟨name, after⟩, hname, _, ⟨hsome, hkey, hnew⟩, body, rfl, ⟨value, tail⟩, hread, h⟩ := h
    have hliteral := readString_iff.1 hname
    have hnodup : ((properties ++ [(name, value)]).map Prod.fst).Nodup := by
      rw [List.map_append, List.nodup_append]
      refine ⟨hdistinct, List.nodup_singleton _, fun first hfirst second hsecond hsame => hnew ?_⟩
      rw [List.mem_singleton.1 hsecond] at hsame
      exact hsame ▸ hfirst
    cases tail with
    | nil => cases h
    | cons current tail =>
      dsimp only at h
      split_ifs at h with hclose
      · obtain ⟨rfl, rfl⟩ := Prod.mk.inj (pure_eq_ok.1 h)
        exact ⟨[(name, value)], .last hliteral ⟨hsome, hkey⟩ (hvalue _ _ _ (hclose ▸ hread)), rfl, by simp, hnodup⟩
      · simp only [bind_eq_ok, require_char] at h
        obtain ⟨next, hcomma, h⟩ := h
        obtain ⟨rfl, rfl⟩ := List.cons.inj hcomma
        obtain ⟨more, hmore, rfl, hroom, hall⟩ := ih hnodup h
        refine ⟨(name, value) :: more, .cons hliteral ⟨hsome, hkey⟩ (hvalue _ _ _ hread) hmore, by simp, ?_, hall⟩
        rw [List.length_cons]
        omega

theorem readProperties_of_properties
    (hvalue : ∀ source value rest, Value source value rest → readValue source = .ok (value, rest))
    {more : List (Units × StrictJsonValue)} (h : Properties Value source more rest) {room : Nat}
    (hroom : more.length ≤ room) (hdistinct : ((properties ++ more).map Prod.fst).Nodup) :
    readProperties readValue room properties source = .ok (properties ++ more, rest) := by
  induction h generalizing room properties with
  | @last source name body rest value hname hbound hread =>
    obtain ⟨room, rfl⟩ : ∃ left, room = left + 1 := ⟨room - 1, by simp at hroom; omega⟩
    have hnew : name ∉ properties.map Prod.fst := by
      rw [List.map_append, List.nodup_append] at hdistinct
      exact fun hold => hdistinct.2.2 name hold name (by simp) rfl
    simp only [readProperties, bind_eq_ok, require_eq_ok, require_char]
    refine ⟨_, readString_iff.2 hname, (), ⟨hbound.1, hbound.2, hnew⟩, body, rfl, _, hvalue _ _ _ hread, ?_⟩
    dsimp only
    rw [if_pos rfl]
    rfl
  | @cons source name body next rest value more hname hbound hread _ ih =>
    obtain ⟨room, rfl⟩ : ∃ left, room = left + 1 := ⟨room - 1, by simp at hroom; omega⟩
    have hnew : name ∉ properties.map Prod.fst := by
      rw [List.map_append, List.nodup_append] at hdistinct
      exact fun hold => hdistinct.2.2 name hold name (by simp) rfl
    simp only [readProperties, bind_eq_ok, require_eq_ok, require_char]
    refine ⟨_, readString_iff.2 hname, (), ⟨hbound.1, hbound.2, hnew⟩, body, rfl, _, hvalue _ _ _ hread, ?_⟩
    have hcomma : unit ',' ≠ unit '}' := by decide
    dsimp only
    rw [if_neg hcomma]
    simp only [bind_eq_ok, require_char]
    refine ⟨next, rfl, ?_⟩
    rw [ih (by simpa using hroom) (by simpa using hdistinct)]
    simp

theorem match_iff {word : String} : Match word source = some rest ↔ source = ascii word ++ rest := by
  unfold Match
  constructor
  · intro h
    split_ifs at h with hstarts
    obtain ⟨tail, rfl⟩ := List.isPrefixOf_iff_prefix.1 hstarts
    rw [List.drop_left] at h
    rw [Option.some.inj h]
  · rintro rfl
    rw [if_pos (List.isPrefixOf_iff_prefix.2 (List.prefix_append _ _)), List.drop_left]

theorem Properties.exists_literal {more : List (Units × StrictJsonValue)} (h : Properties Value source more rest) :
    ∃ body, source = unit '"' :: body := by
  cases h with
  | last hname _ _ =>
    obtain ⟨⟨body, hsource, _⟩, _⟩ := hname
    exact ⟨body, hsource⟩
  | cons hname _ _ _ =>
    obtain ⟨⟨body, hsource, _⟩, _⟩ := hname
    exact ⟨body, hsource⟩

theorem readObject_iff (hvalue : ∀ source value rest, readValue source = .ok (value, rest) ↔ Value source value rest)
    {value : StrictJsonValue} : ReadObject readValue source = .ok (value, rest) ↔
      ∃ properties, value = .Object properties
        ∧ (properties = [] ∧ source = unit '}' :: rest ∨ Properties Value source properties rest)
        ∧ properties.length ≤ MaximumProperties ∧ (properties.map Prod.fst).Nodup := by
  constructor
  · intro h
    unfold ReadObject at h
    split at h
    · rename_i current tail
      split_ifs at h with hclose
      · obtain ⟨rfl, rfl⟩ := Prod.mk.inj (Except.ok.inj h)
        exact ⟨[], rfl, .inl ⟨rfl, hclose ▸ rfl⟩, Nat.zero_le _, List.nodup_nil⟩
      · simp only [bind_eq_ok, pure_eq_ok] at h
        obtain ⟨⟨properties, after⟩, hread, hdone⟩ := h
        obtain ⟨rfl, rfl⟩ := Prod.mk.inj hdone
        have hnone : (([] : List (Units × StrictJsonValue)).map Prod.fst).Nodup := List.nodup_nil
        obtain ⟨more, hmore, hall, hroom, hdistinct⟩ :=
          readProperties_ok (fun source value rest => (hvalue source value rest).1) hnone hread
        rw [List.nil_append] at hall
        subst hall
        exact ⟨properties, rfl, .inr hmore, hroom, hdistinct⟩
    · cases h
  · rintro ⟨properties, rfl, ⟨rfl, rfl⟩ | hproperties, hroom, hdistinct⟩
    · rw [ReadObject, if_pos rfl]
    · obtain ⟨body, rfl⟩ := hproperties.exists_literal
      have hquote : unit '"' ≠ unit '}' := by decide
      have hread : readProperties readValue MaximumProperties [] (unit '"' :: body) = .ok ([] ++ properties, rest) :=
        readProperties_of_properties (fun source value rest => (hvalue source value rest).2) hproperties hroom hdistinct
      rw [ReadObject, if_neg hquote, hread]
      rfl

theorem ascii_boolean (value : Bool) : ∃ current tail, ascii (if value then "true" else "false") = current :: tail
    ∧ current ≠ unit '{' ∧ current ≠ unit '"' := by
  cases value with
  | true => exact ⟨unit 't', _, rfl, by decide, by decide⟩
  | false => exact ⟨unit 'f', _, rfl, by decide, by decide⟩

theorem readValue_iff {levels : Nat} {value : StrictJsonValue} :
    ReadValue levels source = .ok (value, rest) ↔ Json levels source value rest := by
  induction levels generalizing source value rest with
  | zero => simp [ReadValue, Json]
  | succ levels ih =>
    have hobject : ∀ source rest value, ReadObject (ReadValue levels) source = .ok (value, rest) ↔
        ∃ properties, value = .Object properties
          ∧ (properties = [] ∧ source = unit '}' :: rest ∨ Properties (Json levels) source properties rest)
          ∧ properties.length ≤ MaximumProperties ∧ (properties.map Prod.fst).Nodup :=
      fun source rest value => readObject_iff (fun _ _ _ => ih)
    constructor
    · intro h
      cases source with
      | nil => simp [ReadValue] at h
      | cons current source =>
        rw [ReadValue] at h
        split_ifs at h with hbrace hquote
        · obtain ⟨properties, rfl, hbody, hroom, hdistinct⟩ := (hobject _ _ _).1 h
          exact ⟨source, hbrace ▸ rfl, hbody, hroom, hdistinct⟩
        · simp only [bind_eq_ok, pure_eq_ok] at h
          obtain ⟨⟨text, tail⟩, hstring, hdone⟩ := h
          obtain ⟨rfl, rfl⟩ := Prod.mk.inj hdone
          exact readString_iff.1 hstring
        · split at h
          · rename_i hmatch
            obtain ⟨rfl, rfl⟩ := Prod.mk.inj (Except.ok.inj h)
            exact match_iff.1 hmatch
          · split at h
            · rename_i hmatch
              obtain ⟨rfl, rfl⟩ := Prod.mk.inj (Except.ok.inj h)
              exact match_iff.1 hmatch
            · cases h
    · intro h
      cases value with
      | Object properties =>
        obtain ⟨body, rfl, hbody, hroom, hdistinct⟩ := h
        rw [ReadValue, if_pos rfl]
        exact (hobject _ _ _).2 ⟨properties, rfl, hbody, hroom, hdistinct⟩
      | String value =>
        have hread : ReadString false source = .ok (value, rest) := readString_iff.2 h
        obtain ⟨⟨body, rfl, _⟩, _⟩ := h
        have hbrace : unit '"' ≠ unit '{' := by decide
        rw [ReadValue, if_neg hbrace, if_pos rfl, hread]
        rfl
      | Boolean value =>
        have hsource : source = ascii (if value then "true" else "false") ++ rest := h
        obtain ⟨current, tail, hword, hbrace, hquote⟩ := ascii_boolean value
        have hhead : source = current :: (tail ++ rest) := by rw [hsource, hword]; rfl
        rw [hhead, ReadValue, if_neg hbrace, if_neg hquote, ← hhead]
        cases value with
        | true =>
          have hmatch : Match "true" source = some rest := match_iff.2 hsource
          rw [hmatch]
        | false =>
          have hother : Match "true" source = none := by
            rw [hsource]
            rfl
          have hmatch : Match "false" source = some rest := match_iff.2 hsource
          rw [hother]
          simp only [hmatch]

/-- The parser accepts exactly the objects that the grammar derives within its bounds. -/
theorem parse_iff {text : Units} {maximumCharacters maximumDepth : Nat} {value : StrictJsonValue} :
    Parse text maximumCharacters maximumDepth = .ok value ↔
      (text.length ≤ maximumCharacters ∧ 1 ≤ maximumDepth ∧ maximumDepth ≤ 16)
        ∧ (∃ properties, value = .Object properties) ∧ Json maximumDepth text value [] := by
  constructor
  · intro h
    simp only [Parse, bind_eq_ok, require_eq_ok] at h
    obtain ⟨_, ⟨_, hbounds⟩, ⟨parsed, tail⟩, hread, h⟩ := h
    have hderives := readValue_iff.1 hread
    cases parsed with
    | Object properties =>
      simp only [bind_eq_ok, require_eq_ok, pure_eq_ok] at h
      obtain ⟨_, rfl, rfl⟩ := h
      exact ⟨hbounds, ⟨properties, rfl⟩, hderives⟩
    | String _ => cases h
    | Boolean _ => cases h
  · rintro ⟨hbounds, ⟨properties, rfl⟩, hderives⟩
    have hsome : text ≠ [] := by
      rintro rfl
      obtain ⟨levels, rfl⟩ : ∃ levels, maximumDepth = levels + 1 := ⟨maximumDepth - 1, by omega⟩
      obtain ⟨body, hbody, _⟩ := hderives
      cases hbody
    rw [Parse, require_of ⟨hsome, hbounds⟩, ok_bind, readValue_iff.2 hderives, ok_bind]
    rfl

end objects

end StrictJson

end revit_operator.safe_read_host
