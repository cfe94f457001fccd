import RevitOperator.Library.Json

/-! The text `JSON.stringify` writes for a value, and that it determines the
    value: escaping and number printing are prefix codes, and every delimiter
    tells which kind of value or separator comes next. -/

namespace Json

/-- Short escapes of `QuoteJSONString`. -/
def shortEscapes : List (Char × Char) :=
  [(Char.ofNat 8, 'b'), ('\t', 't'), ('\n', 'n'), (Char.ofNat 12, 'f'), ('\r', 'r'), ('"', '"'), ('\\', '\\')]

def hexDigit (n : Nat) : Char := if n < 10 then Char.ofNat (48 + n) else Char.ofNat (87 + n)

def hexValue (c : Char) : Nat := if c.toNat < 58 then c.toNat - 48 else c.toNat - 87

/-- A character of a string as `QuoteJSONString` writes it. -/
def escape (c : Char) : List Char :=
  match shortEscapes.lookup c with
  | some letter => ['\\', letter]
  | none =>
    if c.toNat < 32 then ['\\', 'u', '0', '0', hexDigit (c.toNat / 16), hexDigit (c.toNat % 16)] else [c]

def quote (s : String) : List Char := '"' :: s.toList.flatMap escape ++ ['"']

/-- The characters numbers are written with. -/
def numberChars : List Char := "0123456789+-.e".toList

/-- The printing of numbers, as far as JSON texts rest on it: one to one and
    without delimiters. -/
structure NumberText where
  text : ℚ → List Char
  injective : Function.Injective text
  nonempty : ∀ q, text q ≠ []
  plain : ∀ q, ∀ c ∈ text q, c ∈ numberChars

mutual
/-- The text of a value, its members in the order they are listed. -/
def chars (numbers : NumberText) : Json → List Char
  | .null => ['n', 'u', 'l', 'l']
  | .bool true => ['t', 'r', 'u', 'e']
  | .bool false => ['f', 'a', 'l', 's', 'e']
  | .num value => numbers.text value
  | .str value => quote value
  | .arr items => '[' :: itemChars numbers items ++ [']']
  | .obj members => '{' :: memberChars numbers members ++ ['}']

def itemChars (numbers : NumberText) : List Json → List Char
  | [] => []
  | [item] => chars numbers item
  | item :: rest => chars numbers item ++ ',' :: itemChars numbers rest

def memberChars (numbers : NumberText) : List (String × Json) → List Char
  | [] => []
  | [(key, value)] => quote key ++ ':' :: chars numbers value
  | (key, value) :: rest => quote key ++ ':' :: chars numbers value ++ ',' :: memberChars numbers rest
end

theorem itemChars_cons_cons (numbers : NumberText) (first second : Json) (rest : List Json) :
    itemChars numbers (first :: second :: rest)
      = chars numbers first ++ ',' :: itemChars numbers (second :: rest) :=
  rfl

theorem memberChars_cons_cons (numbers : NumberText) (key : String) (value : Json) (second : String × Json)
    (rest : List (String × Json)) :
    memberChars numbers ((key, value) :: second :: rest)
      = quote key ++ ':' :: chars numbers value ++ ',' :: memberChars numbers (second :: rest) :=
  rfl

theorem chars_ne_nil (numbers : NumberText) (value : Json) : chars numbers value ≠ [] := by
  cases value with
  | bool flag => cases flag <;> simp [chars]
  | num q => simpa [chars] using numbers.nonempty q
  | _ => simp [chars, quote]

theorem itemChars_append (numbers : NumberText) (items : List Json) (item : Json) :
    itemChars numbers (items ++ [item])
      = itemChars numbers items ++ (if items = [] then [] else [',']) ++ chars numbers item := by
  induction items with
  | nil => rfl
  | cons first rest ih =>
    cases rest with
    | nil => simp [itemChars]
    | cons second rest =>
      simp only [List.cons_append] at ih ⊢
      rw [itemChars_cons_cons, itemChars_cons_cons, ih]
      simp

theorem itemChars_eq_nil {numbers : NumberText} {items : List Json} :
    itemChars numbers items = [] ↔ items = [] := by
  cases items with
  | nil => simp [itemChars]
  | cons first rest =>
    cases rest with
    | nil => simp [itemChars, chars_ne_nil]
    | cons second rest => simp [itemChars_cons_cons]

/-- Read back one written character of a string. -/
def unescape : List Char → Option (Char × List Char)
  | '\\' :: 'u' :: '0' :: '0' :: high :: low :: rest =>
    some (Char.ofNat (16 * hexValue high + hexValue low), rest)
  | '\\' :: letter :: rest =>
    (shortEscapes.find? fun entry => entry.2 = letter).map fun entry => (entry.1, rest)
  | c :: rest => some (c, rest)
  | [] => none

private theorem hex_pair (n : Nat) (h : n < 32) :
    16 * hexValue (hexDigit (n / 16)) + hexValue (hexDigit (n % 16)) = n := by
  revert n
  decide

variable {c : Char}

private theorem lookup_shortEscapes {letter : Char} (h : shortEscapes.lookup c = some letter) :
    (c, letter) ∈ shortEscapes ∧ letter ≠ 'u' := by
  have hmem : (c, letter) ∈ shortEscapes := by
    obtain ⟨before, after, hsplit, -⟩ := List.lookup_eq_some_iff.1 h
    simp [hsplit]
  refine ⟨hmem, ?_⟩
  rintro rfl
  simp [shortEscapes] at hmem

theorem unescape_escape (c : Char) (rest : List Char) : unescape (escape c ++ rest) = some (c, rest) := by
  unfold escape
  cases hshort : shortEscapes.lookup c with
  | some letter =>
    obtain ⟨hmem, -⟩ := lookup_shortEscapes hshort
    simp only [shortEscapes, List.mem_cons, Prod.mk.injEq, List.not_mem_nil, or_false] at hmem
    obtain ⟨rfl, rfl⟩ | ⟨rfl, rfl⟩ | ⟨rfl, rfl⟩ | ⟨rfl, rfl⟩ | ⟨rfl, rfl⟩ | ⟨rfl, rfl⟩ | ⟨rfl, rfl⟩ := hmem <;> rfl
  | none =>
    have hplain : c ≠ '\\' := by
      rintro rfl
      simp [shortEscapes, List.lookup_cons] at hshort
    split_ifs with hcontrol
    · simp only [List.cons_append, List.nil_append, unescape, hex_pair c.toNat hcontrol, Char.ofNat_toNat]
    · simp only [List.cons_append, List.nil_append]
      unfold unescape
      split
      · rename_i hcons
        exact absurd (List.cons.inj hcons).1 hplain
      · rename_i hcons
        exact absurd (List.cons.inj hcons).1 hplain
      · rename_i hcons
        obtain ⟨rfl, rfl⟩ := List.cons.inj hcons
        rfl
      · rename_i hcons
        cases hcons

variable {x y : List Char}

theorem escape_append_inj {d : Char} (h : escape c ++ x = escape d ++ y) :
    c = d ∧ x = y := by
  have hread := congrArg unescape h
  simpa [unescape_escape] using hread

private theorem escape_append_ne_quote (c : Char) (x y : List Char) : escape c ++ x ≠ '"' :: y := by
  intro h
  unfold escape at h
  cases hshort : shortEscapes.lookup c with
  | some letter => simp [hshort] at h
  | none =>
    simp only [hshort] at h
    split_ifs at h with hcontrol
    · cases h
    · obtain ⟨rfl, -⟩ := List.cons.inj h
      simp [shortEscapes, List.lookup_cons] at hshort

private theorem escaped_append_inj {cs ds : List Char}
    (h : cs.flatMap escape ++ '"' :: x = ds.flatMap escape ++ '"' :: y) : cs = ds ∧ x = y := by
  induction cs generalizing ds with
  | nil =>
    cases ds with
    | nil => simpa using h
    | cons d ds =>
      simp only [List.flatMap_nil, List.nil_append, List.flatMap_cons, List.append_assoc] at h
      exact absurd h.symm (escape_append_ne_quote d _ x)
  | cons c cs ih =>
    cases ds with
    | nil =>
      simp only [List.flatMap_nil, List.nil_append, List.flatMap_cons, List.append_assoc] at h
      exact absurd h (escape_append_ne_quote c _ y)
    | cons d ds =>
      simp only [List.flatMap_cons, List.append_assoc] at h
      obtain ⟨rfl, hrest⟩ := escape_append_inj h
      obtain ⟨rfl, rfl⟩ := ih hrest
      exact ⟨rfl, rfl⟩

theorem quote_append_inj {s t : String} (h : quote s ++ x = quote t ++ y) :
    s = t ∧ x = y := by
  simp only [quote, List.cons_append, List.append_assoc, List.nil_append, List.cons.injEq, true_and] at h
  obtain ⟨hchars, rfl⟩ := escaped_append_inj h
  exact ⟨String.toList_inj.1 hchars, rfl⟩

/-- What may follow a written value: the end, a separator or a closing
    bracket. -/
def Follows (rest : List Char) : Prop :=
  ∀ c tail, rest = c :: tail → c = ',' ∨ c = ']' ∨ c = '\x7d'

theorem follows_nil : Follows [] := by
  rintro c tail ⟨⟩

private theorem takeWhile_number (numbers : NumberText) (q : ℚ) (hx : Follows x) :
    (numbers.text q ++ x).takeWhile (· ∈ numberChars) = numbers.text q := by
  rw [List.takeWhile_append_of_pos (fun c hc => by simpa using numbers.plain q c hc)]
  cases x with
  | nil => simp
  | cons c tail =>
    have hstop : c ∉ numberChars := by
      obtain rfl | rfl | rfl := hx c tail rfl <;> decide
    simp [hstop]

theorem NumberText.append_inj (numbers : NumberText) {p q : ℚ} (hx : Follows x)
    (hy : Follows y) (h : numbers.text p ++ x = numbers.text q ++ y) : p = q ∧ x = y := by
  have htext : numbers.text p = numbers.text q := by
    rw [← takeWhile_number numbers p hx, h, takeWhile_number numbers q hy]
  refine ⟨numbers.injective htext, ?_⟩
  rw [htext] at h
  exact List.append_cancel_left h

/-- The kinds of values that a text can start. -/
inductive Kind where
  | null
  | bool
  | num
  | str
  | arr
  | obj
deriving DecidableEq

def kind : Json → Kind
  | .null => .null
  | .bool _ => .bool
  | .num _ => .num
  | .str _ => .str
  | .arr _ => .arr
  | .obj _ => .obj

/-- The kind of value a character starts, `none` for a separator or a closing
    bracket. -/
def kindOf (c : Char) : Option Kind :=
  if c ∈ numberChars then some .num
  else if c = 'n' then some .null
  else if c = 't' ∨ c = 'f' then some .bool
  else if c = '"' then some .str
  else if c = '[' then some .arr
  else if c = '\x7b' then some .obj
  else none

theorem chars_head (numbers : NumberText) (value : Json) :
    ∃ c tail, chars numbers value = c :: tail ∧ kindOf c = some value.kind := by
  cases value with
  | null => exact ⟨_, _, rfl, by decide⟩
  | bool flag => cases flag <;> exact ⟨_, _, rfl, by decide⟩
  | num q =>
    obtain ⟨c, tail, htext⟩ := List.exists_cons_of_ne_nil (numbers.nonempty q)
    refine ⟨c, tail, by rw [chars, htext], ?_⟩
    simp [kindOf, kind, numbers.plain q c (by simp [htext])]
  | str s => exact ⟨_, _, rfl, show kindOf '"' = some .str by decide⟩
  | arr items => exact ⟨_, _, rfl, show kindOf '[' = some .arr by decide⟩
  | obj members => exact ⟨_, _, rfl, show kindOf '\x7b' = some .obj by decide⟩

private theorem kind_eq_of_append {numbers : NumberText} {a b : Json}
    (h : chars numbers a ++ x = chars numbers b ++ y) : a.kind = b.kind := by
  obtain ⟨c, cs, hc, hkind⟩ := chars_head numbers a
  obtain ⟨d, ds, hd, hkind'⟩ := chars_head numbers b
  rw [hc, hd] at h
  obtain rfl : c = d := (List.cons.inj h).1
  simpa [hkind] using hkind'

private theorem chars_append_ne {numbers : NumberText} {value : Json}
    (hc : kindOf c = none) : chars numbers value ++ x ≠ c :: y := by
  obtain ⟨d, ds, hd, hkind⟩ := chars_head numbers value
  rw [hd]
  intro h
  obtain rfl : d = c := (List.cons.inj h).1
  simp [hc] at hkind

/-- What follows an item of an array. -/
def itemTail (numbers : NumberText) (x : List Char) : List Json → List Char
  | [] => ']' :: x
  | rest => ',' :: (itemChars numbers rest ++ ']' :: x)

/-- What follows a member of an object. -/
def memberTail (numbers : NumberText) (x : List Char) : List (String × Json) → List Char
  | [] => '\x7d' :: x
  | rest => ',' :: (memberChars numbers rest ++ '\x7d' :: x)

theorem follows_itemTail (numbers : NumberText) (x : List Char) (rest : List Json) :
    Follows (itemTail numbers x rest) := by
  rintro c tail h
  cases rest <;> cases h <;> simp

theorem follows_memberTail (numbers : NumberText) (x : List Char) (rest : List (String × Json)) :
    Follows (memberTail numbers x rest) := by
  rintro c tail h
  cases rest <;> cases h <;> simp

theorem itemChars_cons (numbers : NumberText) (item : Json) (rest : List Json) (x : List Char) :
    itemChars numbers (item :: rest) ++ ']' :: x = chars numbers item ++ itemTail numbers x rest := by
  cases rest <;> simp [itemChars, itemTail]

theorem memberChars_cons (numbers : NumberText) (key : String) (value : Json) (rest : List (String × Json))
    (x : List Char) :
    memberChars numbers ((key, value) :: rest) ++ '\x7d' :: x
      = quote key ++ ':' :: (chars numbers value ++ memberTail numbers x rest) := by
  cases rest <;> simp [memberChars, memberTail]

mutual
/-- A text followed by a separator, a closing bracket or nothing determines its
    value and where it ends. -/
theorem chars_append_inj (numbers : NumberText) : ∀ (a b : Json) {x y : List Char}, Follows x → Follows y →
    chars numbers a ++ x = chars numbers b ++ y → a = b ∧ x = y := by
  intro a b x y hx hy h
  have hkind := kind_eq_of_append h
  cases a with
  | null =>
    cases b <;> cases hkind
    simpa [chars] using h
  | bool flag =>
    cases b <;> cases hkind
    rename_i other
    cases flag <;> cases other <;> simp_all [chars]
  | num p =>
    cases b <;> cases hkind
    obtain ⟨rfl, rfl⟩ := numbers.append_inj hx hy h
    exact ⟨rfl, rfl⟩
  | str s =>
    cases b <;> cases hkind
    obtain ⟨rfl, rfl⟩ := quote_append_inj h
    exact ⟨rfl, rfl⟩
  | arr items =>
    cases b <;> cases hkind
    simp only [chars, List.cons_append, List.append_assoc, List.nil_append, List.cons.injEq, true_and] at h
    obtain ⟨rfl, rfl⟩ := itemChars_append_inj numbers items _ h
    exact ⟨rfl, rfl⟩
  | obj members =>
    cases b <;> cases hkind
    simp only [chars, List.cons_append, List.append_assoc, List.nil_append, List.cons.injEq, true_and] at h
    obtain ⟨rfl, rfl⟩ := memberChars_append_inj numbers members _ h
    exact ⟨rfl, rfl⟩

theorem itemChars_append_inj (numbers : NumberText) : ∀ (as bs : List Json) {x y : List Char},
    itemChars numbers as ++ ']' :: x = itemChars numbers bs ++ ']' :: y → as = bs ∧ x = y := by
  intro as bs x y h
  cases as with
  | nil =>
    cases bs with
    | nil => simpa [itemChars] using h
    | cons b bs =>
      rw [itemChars_cons] at h
      exact absurd h.symm (chars_append_ne (by decide))
  | cons a as =>
    cases bs with
    | nil =>
      rw [itemChars_cons] at h
      exact absurd h (chars_append_ne (by decide))
    | cons b bs =>
      rw [itemChars_cons, itemChars_cons] at h
      obtain ⟨rfl, htail⟩ := chars_append_inj numbers a b (follows_itemTail numbers x as)
        (follows_itemTail numbers y bs) h
      cases as with
      | nil =>
        cases bs with
        | nil => exact ⟨rfl, (List.cons.inj htail).2⟩
        | cons => cases htail
      | cons c cs =>
        cases bs with
        | nil => cases htail
        | cons d ds =>
          obtain ⟨hitems, rfl⟩ := itemChars_append_inj numbers (c :: cs) (d :: ds) (List.cons.inj htail).2
          exact ⟨by rw [hitems], rfl⟩

theorem memberChars_append_inj (numbers : NumberText) : ∀ (as bs : List (String × Json)) {x y : List Char},
    memberChars numbers as ++ '\x7d' :: x = memberChars numbers bs ++ '\x7d' :: y → as = bs ∧ x = y := by
  intro as bs x y h
  cases as with
  | nil =>
    cases bs with
    | nil => simpa [memberChars] using h
    | cons b bs =>
      obtain ⟨key, value⟩ := b
      rw [memberChars_cons] at h
      cases h
  | cons a as =>
    obtain ⟨key, value⟩ := a
    cases bs with
    | nil =>
      rw [memberChars_cons] at h
      cases h
    | cons b bs =>
      obtain ⟨otherKey, otherValue⟩ := b
      rw [memberChars_cons, memberChars_cons] at h
      obtain ⟨rfl, hvalue⟩ := quote_append_inj h
      obtain ⟨rfl, htail⟩ := chars_append_inj numbers value otherValue (follows_memberTail numbers x as)
        (follows_memberTail numbers y bs) (List.cons.inj hvalue).2
      cases as with
      | nil =>
        cases bs with
        | nil => exact ⟨rfl, (List.cons.inj htail).2⟩
        | cons => cases htail
      | cons c cs =>
        cases bs with
        | nil => cases htail
        | cons d ds =>
          obtain ⟨hmembers, rfl⟩ := memberChars_append_inj numbers (c :: cs) (d :: ds) (List.cons.inj htail).2
          exact ⟨by rw [hmembers], rfl⟩
end

theorem chars_injective (numbers : NumberText) : Function.Injective (chars numbers) := by
  intro a b h
  have happend : chars numbers a ++ [] = chars numbers b ++ [] := by rw [h]
  exact (chars_append_inj numbers a b follows_nil follows_nil happend).1

theorem toDigits_injective : Function.Injective (Nat.toDigits 10) := by
  intro m n h
  rw [← Nat.ofDigitChars_ten_toDigits (n := m), h, Nat.ofDigitChars_ten_toDigits]

theorem toDigits_append_inj {m n : Nat} (hx : ∀ c tail, x = c :: tail → c.isDigit = false)
    (hy : ∀ c tail, y = c :: tail → c.isDigit = false)
    (h : Nat.toDigits 10 m ++ x = Nat.toDigits 10 n ++ y) : m = n ∧ x = y := by
  have hspan : ∀ (k : Nat) (z : List Char), (∀ c tail, z = c :: tail → c.isDigit = false) →
      (Nat.toDigits 10 k ++ z).takeWhile Char.isDigit = Nat.toDigits 10 k := by
    intro k z hz
    rw [List.takeWhile_append_of_pos fun c hc => Nat.isDigit_of_mem_toDigits (by decide) (by decide) hc]
    cases z with
    | nil => simp
    | cons c tail => simp [hz c tail rfl]
  have hdigits : Nat.toDigits 10 m = Nat.toDigits 10 n := by
    rw [← hspan m x hx, h, hspan n y hy]
  refine ⟨toDigits_injective hdigits, ?_⟩
  rw [hdigits] at h
  exact List.append_cancel_left h

/-- A denominator other than one. -/
def denominatorChars (den : Nat) : List Char := if den = 1 then [] else '+' :: Nat.toDigits 10 den

/-- An integer in decimal, and a fraction with its denominator behind it. -/
def integerChars (q : ℚ) : List Char :=
  if q.num < 0 then '-' :: (Nat.toDigits 10 q.num.natAbs ++ denominatorChars q.den)
  else Nat.toDigits 10 q.num.natAbs ++ denominatorChars q.den

private theorem denominatorChars_head (den : Nat) :
    ∀ c tail, denominatorChars den = c :: tail → c.isDigit = false := by
  intro c tail h
  unfold denominatorChars at h
  split_ifs at h
  obtain ⟨rfl, -⟩ := List.cons.inj h
  rfl

private theorem denominatorChars_injective : Function.Injective denominatorChars := by
  intro m n h
  unfold denominatorChars at h
  split_ifs at h with hm hn hn
  · rw [hm, hn]
  · exact toDigits_injective (List.cons.inj h).2

private theorem toDigits_ne_sign {n : Nat} : Nat.toDigits 10 n ++ x ≠ '-' :: y := by
  intro h
  obtain ⟨c, tail, hdigits⟩ := List.exists_cons_of_ne_nil (Nat.toDigits_ne_nil (n := n) (b := 10))
  rw [hdigits] at h
  obtain rfl : c = '-' := (List.cons.inj h).1
  have hdigit := Nat.isDigit_of_mem_toDigits (b := 10) (n := n) (by decide) (by decide)
    (show '-' ∈ Nat.toDigits 10 n by simp [hdigits])
  revert hdigit
  decide

private theorem integerChars_injective : Function.Injective integerChars := by
  have hparts : ∀ {p q : ℚ}, Nat.toDigits 10 p.num.natAbs ++ denominatorChars p.den
      = Nat.toDigits 10 q.num.natAbs ++ denominatorChars q.den →
      p.num.natAbs = q.num.natAbs ∧ p.den = q.den := by
    intro p q h
    obtain ⟨hnum, hden⟩ := toDigits_append_inj (denominatorChars_head _) (denominatorChars_head _) h
    exact ⟨hnum, denominatorChars_injective hden⟩
  intro p q h
  unfold integerChars at h
  split_ifs at h with hp hq hq
  · obtain ⟨hnum, hden⟩ := hparts (List.cons.inj h).2
    exact Rat.ext (by omega) hden
  · exact absurd h.symm toDigits_ne_sign
  · exact absurd h toDigits_ne_sign
  · obtain ⟨hnum, hden⟩ := hparts h
    exact Rat.ext (by omega) hden

private theorem mem_numberChars_of_isDigit (h : c.isDigit = true) : c ∈ numberChars := by
  have hrange : 48 ≤ c.toNat ∧ c.toNat ≤ 57 := by simpa [Char.isDigit, UInt32.le_iff_toNat_le] using h
  have hdigits : ∀ n < 10, Char.ofNat (48 + n) ∈ numberChars := by decide
  have hmem := hdigits (c.toNat - 48) (by omega)
  rwa [Nat.add_sub_cancel' hrange.1, Char.ofNat_toNat] at hmem

private theorem integerChars_plain (q : ℚ) : ∀ c ∈ integerChars q, c ∈ numberChars := by
  have hdigits : ∀ n, ∀ c ∈ Nat.toDigits 10 n, c ∈ numberChars := fun n c hc =>
    mem_numberChars_of_isDigit (Nat.isDigit_of_mem_toDigits (by decide) (by decide) hc)
  have hden : ∀ c ∈ denominatorChars q.den, c ∈ numberChars := by
    unfold denominatorChars
    split_ifs
    · simp
    · exact List.forall_mem_cons.2 ⟨by decide, hdigits q.den⟩
  have hboth := List.forall_mem_append.2 ⟨hdigits q.num.natAbs, hden⟩
  unfold integerChars
  split_ifs
  · exact List.forall_mem_cons.2 ⟨by decide, hboth⟩
  · exact hboth

/-- Number printing that agrees with JavaScript on small integers. -/
def integerText : NumberText where
  text := integerChars
  injective := integerChars_injective
  nonempty q := by
    unfold integerChars
    split_ifs
    · simp
    · simp [Nat.toDigits_ne_nil]
  plain := integerChars_plain

end Json

/-! JSON objects as JavaScript keeps them: finite maps from keys to values,
    whose members are enumerated with the array indices first. -/

namespace Json

section induction

variable {motive : Json → Prop} (leaf : ∀ value, (∀ items, value ≠ .arr items) →
    (∀ members, value ≠ .obj members) → motive value)
  (arr : ∀ items, (∀ item ∈ items, motive item) → motive (.arr items))
  (obj : ∀ members, (∀ entry ∈ members, motive entry.2) → motive (.obj members))

include leaf arr obj

set_option linter.unusedSectionVars false

mutual
theorem nestedInduction : ∀ value, motive value
  | .null => leaf _ (by simp) (by simp)
  | .bool _ => leaf _ (by simp) (by simp)
  | .num _ => leaf _ (by simp) (by simp)
  | .str _ => leaf _ (by simp) (by simp)
  | .arr items => arr items (itemsInduction items)
  | .obj members => obj members (membersInduction members)

private theorem itemsInduction : ∀ (items : List Json), ∀ item ∈ items, motive item
  | [] => List.forall_mem_nil _
  | item :: rest => List.forall_mem_cons.2 ⟨nestedInduction item, itemsInduction rest⟩

private theorem membersInduction : ∀ (members : List (String × Json)), ∀ entry ∈ members, motive entry.2
  | [] => List.forall_mem_nil _
  | (_, value) :: rest => List.forall_mem_cons.2 ⟨nestedInduction value, membersInduction rest⟩
end

end induction

mutual
/-- The property holds of the keys of every object of the value. -/
def EveryObject (P : List String → Prop) : Json → Prop
  | .arr items => EveryItem P items
  | .obj members => P (members.map Prod.fst) ∧ EveryMember P members
  | _ => True

def EveryItem (P : List String → Prop) : List Json → Prop
  | [] => True
  | item :: rest => EveryObject P item ∧ EveryItem P rest

def EveryMember (P : List String → Prop) : List (String × Json) → Prop
  | [] => True
  | (_, value) :: rest => EveryObject P value ∧ EveryMember P rest
end

/-- No object of the value has two members under one key. -/
def Proper (value : Json) : Prop := EveryObject List.Nodup value

mutual
/-- Equality of values when objects are finite maps. -/
def Same : Json → Json → Prop
  | .null, .null => True
  | .bool a, .bool b => a = b
  | .num a, .num b => a = b
  | .str a, .str b => a = b
  | .arr as, .arr bs => SameItems as bs
  | .obj as, .obj bs => as.length = bs.length ∧ SameMembers as bs
  | _, _ => False

def SameItems : List Json → List Json → Prop
  | [], [] => True
  | a :: as, b :: bs => Same a b ∧ SameItems as bs
  | _, _ => False

/-- Every member is one of the others, with the same value. -/
def SameMembers : List (String × Json) → List (String × Json) → Prop
  | [], _ => True
  | (key, value) :: rest, others =>
    (∃ other, (key, other) ∈ others ∧ Same value other) ∧ SameMembers rest others
end

/-- The array index a key spells: the canonical decimal of a number below
    `2 ^ 32 - 1`. -/
def arrayIndex? (key : String) : Option Nat :=
  if toString (text.decimalValue key) = key ∧ text.decimalValue key ≤ 4294967294 then
    some (text.decimalValue key)
  else none

/-- Array indices in ascending order. -/
def IndexLe {α : Type} (a b : String × α) : Prop := (arrayIndex? a.1).getD 0 ≤ (arrayIndex? b.1).getD 0

instance {α : Type} : DecidableRel (@IndexLe α) := fun _ _ => Nat.decLe _ _

/-- The order in which JavaScript enumerates members: array indices ascending,
    then the other keys as they were added. -/
def enumerationOrder {α : Type} (members : List (String × α)) : List (String × α) :=
  (members.filter fun entry => (arrayIndex? entry.1).isSome).insertionSort IndexLe
    ++ members.filter fun entry => (arrayIndex? entry.1).isNone

mutual
/-- The value with the members of every object as JavaScript enumerates
    them. -/
def enumerated : Json → Json
  | .arr items => .arr (enumeratedItems items)
  | .obj members => .obj (enumerationOrder (enumeratedMembers members))
  | value => value

def enumeratedItems : List Json → List Json
  | [] => []
  | item :: rest => enumerated item :: enumeratedItems rest

def enumeratedMembers : List (String × Json) → List (String × Json)
  | [] => []
  | (key, value) :: rest => (key, enumerated value) :: enumeratedMembers rest
end

/-- `JSON.stringify` without indentation. -/
def stringify (numbers : NumberText) (value : Json) : String := .ofList (chars numbers value.enumerated)

theorem stringify_inj {numbers : NumberText} {a b : Json} :
    stringify numbers a = stringify numbers b ↔ a.enumerated = b.enumerated := by
  simp [stringify, String.ofList_inj, (chars_injective numbers).eq_iff]

theorem everyObject_arr {P : List String → Prop} {items : List Json} :
    EveryObject P (.arr items) ↔ ∀ item ∈ items, EveryObject P item := by
  simp only [EveryObject]
  induction items with
  | nil => simp [EveryItem]
  | cons item rest ih => simp [EveryItem, ih]

private theorem everyMember_iff {P : List String → Prop} {members : List (String × Json)} :
    EveryMember P members ↔ ∀ entry ∈ members, EveryObject P entry.2 := by
  induction members with
  | nil => simp [EveryMember]
  | cons entry rest ih => simp [EveryMember, ih]

theorem everyObject_obj {P : List String → Prop} {members : List (String × Json)} :
    EveryObject P (.obj members) ↔ P (members.map Prod.fst) ∧ ∀ entry ∈ members, EveryObject P entry.2 := by
  rw [EveryObject, everyMember_iff]

end Json
