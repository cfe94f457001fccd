import Mathlib.Algebra.GroupWithZero.Nat
import Mathlib.Data.List.Dedup
import Mathlib.Data.List.Infix
import Mathlib.Data.List.DropRight
import Mathlib.Data.List.Sort

/-! Strings as JavaScript sees them: sequences of UTF-16 code units, compared
    ordinally. -/

namespace text

/-- The UTF-16 code units of one character. -/
def charUnits (c : Char) : List Nat :=
  if c.toNat < 0x10000 then [c.toNat]
  else [0xD800 + (c.toNat - 0x10000) / 0x400, 0xDC00 + (c.toNat - 0x10000) % 0x400]

def codeUnits (s : String) : List Nat := s.toList.flatMap charUnits

/-- The `length` of a JavaScript string. -/
def length (s : String) : Nat := (codeUnits s).length

/-- The number of bytes of the UTF-8 encoding. -/
def utf8ByteLength (s : String) : Nat :=
  (s.toList.map fun c => if c.toNat < 0x80 then 1 else if c.toNat < 0x800 then 2
    else if c.toNat < 0x10000 then 3 else 4).sum

/-- Lexicographic order on code units. -/
def unitsLe : List Nat → List Nat → Bool
  | [], _ => true
  | _ :: _, [] => false
  | a :: as, b :: bs => if a = b then unitsLe as bs else a < b

/-- The default string order of `sort`, by UTF-16 code units. -/
def ordinalLe (a b : String) : Bool := unitsLe (codeUnits a) (codeUnits b)

def sorted (xs : List String) : List String := xs.insertionSort fun a b => ordinalLe a b = true

/-- `[...new Set(xs)].sort()`. -/
def sortedUnique (xs : List String) : List String := sorted xs.dedup

/-- White space and line terminators, the characters `trim` removes. -/
def isSpace (c : Char) : Bool :=
  c.toNat ∈ [0x09, 0x0A, 0x0B, 0x0C, 0x0D, 0x20, 0xA0, 0x1680, 0x2028, 0x2029, 0x202F, 0x205F, 0x3000,
    0xFEFF] || (0x2000 ≤ c.toNat && c.toNat ≤ 0x200A)

def trim (s : String) : String :=
  .ofList (((s.toList.dropWhile isSpace).reverse.dropWhile isSpace).reverse)

/-- The trimmed text is not empty. -/
def nonBlank (s : String) : Bool := s.toList.any fun c => !isSpace c

/-- `char.IsWhiteSpace`. -/
def isWhiteSpace (c : Char) : Bool :=
  c.toNat ∈ [0x09, 0x0A, 0x0B, 0x0C, 0x0D, 0x20, 0x85, 0xA0, 0x1680, 0x2028, 0x2029, 0x202F, 0x205F, 0x3000]
    || (0x2000 ≤ c.toNat && c.toNat ≤ 0x200A)

/-- `string.IsNullOrWhiteSpace` of a string that is set. -/
def isBlank (value : String) : Bool := value.toList.all isWhiteSpace

/-- Some code unit lies in the closed range. -/
def hasUnitIn (low high : Nat) (s : String) : Bool :=
  s.toList.any fun c => low ≤ c.toNat && c.toNat ≤ high

def startsWith (s lead : String) : Bool := lead.toList.isPrefixOf s.toList

def endsWith (s tail : String) : Bool := tail.toList.isSuffixOf s.toList

/-- `s.includes(part)`. -/
def includes (s part : String) : Bool := decide (part.toList <:+: s.toList)

/-- The text after the first `n` characters. -/
def dropFirst (n : Nat) (s : String) : String := .ofList (s.toList.drop n)

/-- Keep the characters whose code units fit in the first `n`. A surrogate pair
    that straddles the cut is dropped. -/
def takeUnits : Nat → List Char → List Char
  | _, [] => []
  | n, c :: cs => if (charUnits c).length ≤ n then c :: takeUnits (n - (charUnits c).length) cs else []

/-- `s.slice(0, n)`. -/
def slice (n : Nat) (s : String) : String := .ofList (takeUnits n s.toList)

def isLower (c : Char) : Bool := 'a' ≤ c && c ≤ 'z'

def isUpper (c : Char) : Bool := 'A' ≤ c && c ≤ 'Z'

def isDigit (c : Char) : Bool := '0' ≤ c && c ≤ '9'

def isHex (c : Char) : Bool := isDigit c || ('a' ≤ c && c ≤ 'f')

def isHexAnyCase (c : Char) : Bool := isHex c || ('A' ≤ c && c ≤ 'F')

/-- One leading character of a class, then at most `limit` of another class. -/
def leadThen (lead rest : Char → Bool) (limit : Nat) (s : String) : Bool :=
  match s.toList with
  | [] => false
  | c :: cs => lead c && cs.all rest && cs.length ≤ limit

/-- A bounded stable identity: a letter or digit, then letters, digits and
    `. _ : -`. -/
def isStableIdentity (limit : Nat) (s : String) : Bool :=
  leadThen (fun c => isLower c || isUpper c || isDigit c)
    (fun c => isLower c || isUpper c || isDigit c || c ∈ ['.', '_', ':', '-']) limit s

/-- Exactly `n` lower-case hexadecimal digits. -/
def isHexText (n : Nat) (s : String) : Bool := s.toList.length = n && s.toList.all isHex

/-- Exactly `n` hexadecimal digits of either case. -/
def isHexTextAnyCase (n : Nat) (s : String) : Bool :=
  s.toList.length = n && s.toList.all isHexAnyCase

/-- A positive decimal number without leading zeros. -/
def isPositiveDecimal (s : String) : Bool :=
  match s.toList with
  | [] => false
  | c :: cs => '1' ≤ c && c ≤ '9' && cs.all isDigit

/-- The number a string of decimal digits writes. -/
def decimalValue (s : String) : Nat :=
  s.toList.foldl (fun total c => 10 * total + (c.toNat - '0'.toNat)) 0

/-- A fixed lead followed by a positive decimal number. -/
def isNumbered (lead s : String) : Bool :=
  startsWith s lead && isPositiveDecimal (dropFirst lead.toList.length s)

def joinWith (separator : String) : List String → String
  | [] => ""
  | [s] => s
  | s :: rest => s ++ separator ++ joinWith separator rest

theorem charUnits_length_pos (c : Char) : 0 < (charUnits c).length := by
  unfold charUnits
  split_ifs <;> simp

theorem length_append (s t : String) : length (s ++ t) = length s + length t := by
  simp [length, codeUnits]

private theorem takeUnits_append (cs ds : List Char) :
    takeUnits (cs.flatMap charUnits).length (cs ++ ds) = cs := by
  induction cs with
  | nil =>
    cases ds with
    | nil => rfl
    | cons d ds =>
      have hpos := charUnits_length_pos d
      simp only [List.flatMap_nil, List.length_nil, List.nil_append, takeUnits]
      rw [if_neg (by omega)]
  | cons c cs ih =>
    simp only [List.flatMap_cons, List.length_append, List.cons_append, takeUnits]
    rw [if_pos (by omega), Nat.add_sub_cancel_left, ih]

theorem utf8ByteLength_bounds (s : String) :
    s.toList.length ≤ utf8ByteLength s ∧ utf8ByteLength s ≤ 4 * s.toList.length := by
  rw [utf8ByteLength]
  induction s.toList with
  | nil => simp
  | cons c rest ih =>
    simp only [List.map_cons, List.sum_cons, List.length_cons]
    split_ifs <;> omega

theorem slice_append (s t : String) : slice (length s) (s ++ t) = s := by
  rw [slice, String.toList_append, length, codeUnits, takeUnits_append, String.ofList_toList]

theorem toList_trim (s : String) : (trim s).toList = (s.toList.dropWhile isSpace).rdropWhile isSpace := by
  rw [trim, String.toList_ofList, List.rdropWhile]

@[simp]
theorem trim_trim (s : String) : trim (trim s) = trim s := by
  have hlead : ∀ kept, kept <+: s.toList.dropWhile isSpace → kept.dropWhile isSpace = kept := by
    intro kept hkept
    cases kept with
    | nil => rfl
    | cons c kept =>
      obtain ⟨rest, hrest⟩ := hkept
      have hspace := List.head?_dropWhile_not isSpace s.toList
      rw [← hrest, List.cons_append, List.head?_cons] at hspace
      exact List.dropWhile_cons_of_neg (by simpa using hspace)
  apply String.toList_inj.1
  rw [toList_trim (trim s), toList_trim, hlead _ (List.rdropWhile_prefix _ _), List.rdropWhile_idempotent]

theorem unitsLe_total (a b : List Nat) : unitsLe a b = true ∨ unitsLe b a = true := by
  induction a generalizing b with
  | nil => exact .inl rfl
  | cons x as ih =>
    cases b with
    | nil => exact .inr rfl
    | cons y bs =>
      obtain hlt | rfl | hgt := Nat.lt_trichotomy x y
      · exact .inl (by simp [unitsLe, hlt, hlt.ne])
      · simpa [unitsLe] using ih bs
      · exact .inr (by simp [unitsLe, hgt, hgt.ne])

theorem unitsLe_antisymm {a b : List Nat} (hab : unitsLe a b = true) (hba : unitsLe b a = true) :
    a = b := by
  induction a generalizing b with
  | nil =>
    cases b with
    | nil => rfl
    | cons => simp [unitsLe] at hba
  | cons x as ih =>
    cases b with
    | nil => simp [unitsLe] at hab
    | cons y bs =>
      by_cases hxy : x = y
      · subst hxy
        simp only [unitsLe, if_true] at hab hba
        rw [ih hab hba]
      · simp only [unitsLe, hxy, Ne.symm hxy, if_false, decide_eq_true_eq] at hab hba
        omega

theorem unitsLe_trans {a b c : List Nat} (hab : unitsLe a b = true) (hbc : unitsLe b c = true) :
    unitsLe a c = true := by
  induction a generalizing b c with
  | nil => rfl
  | cons x as ih =>
    cases b with
    | nil => simp [unitsLe] at hab
    | cons y bs =>
      cases c with
      | nil => simp [unitsLe] at hbc
      | cons z cs =>
        simp only [unitsLe] at hab hbc ⊢
        split_ifs at hab hbc ⊢ with hxy hyz hxz hxz hyz hxz hxz
        · exact ih hab hbc
        all_goals simp only [decide_eq_true_eq] at *
        all_goals omega

theorem charUnits_append_inj {c d : Char} {x y : List Nat} (h : charUnits c ++ x = charUnits d ++ y) :
    c = d ∧ x = y := by
  have hc : c.toNat < 0xD800 ∨ 0xDFFF < c.toNat ∧ c.toNat < 0x110000 := c.valid
  have hd : d.toNat < 0xD800 ∨ 0xDFFF < d.toNat ∧ d.toNat < 0x110000 := d.valid
  rw [← Char.toNat_inj]
  unfold charUnits at h
  split_ifs at h <;> simp only [List.cons_append, List.nil_append, List.cons.injEq] at h
  · exact h
  · omega
  · omega
  · exact ⟨by omega, h.2.2⟩

theorem codeUnits_injective : Function.Injective codeUnits := by
  have hchars : ∀ cs ds : List Char, cs.flatMap charUnits = ds.flatMap charUnits → cs = ds := by
    intro cs
    induction cs with
    | nil =>
      intro ds h
      cases ds with
      | nil => rfl
      | cons d ds =>
        simp only [List.flatMap_nil, List.flatMap_cons] at h
        unfold charUnits at h
        split_ifs at h <;> cases h
    | cons c cs ih =>
      intro ds h
      cases ds with
      | nil =>
        simp only [List.flatMap_nil, List.flatMap_cons] at h
        unfold charUnits at h
        split_ifs at h <;> cases h
      | cons d ds =>
        obtain ⟨rfl, hrest⟩ := charUnits_append_inj h
        rw [ih ds hrest]
  intro s t h
  exact String.toList_inj.1 (hchars s.toList t.toList h)

theorem ordinalLe_total (a b : String) : ordinalLe a b = true ∨ ordinalLe b a = true :=
  unitsLe_total _ _

theorem ordinalLe_antisymm {a b : String} (hab : ordinalLe a b = true) (hba : ordinalLe b a = true) :
    a = b :=
  codeUnits_injective (unitsLe_antisymm hab hba)

theorem ordinalLe_trans {a b c : String} (hab : ordinalLe a b = true) (hbc : ordinalLe b c = true) :
    ordinalLe a c = true :=
  unitsLe_trans hab hbc

@[simp]
theorem mem_sorted {x : String} {xs : List String} : x ∈ sorted xs ↔ x ∈ xs :=
  List.mem_insertionSort _

@[simp]
theorem mem_sortedUnique {x : String} {xs : List String} : x ∈ sortedUnique xs ↔ x ∈ xs := by
  simp [sortedUnique]

theorem nonBlank_of_isStableIdentity {limit : Nat} {s : String} (h : isStableIdentity limit s = true) :
    nonBlank s = true := by
  unfold isStableIdentity leadThen at h
  split at h
  · cases h
  · next c cs hchars =>
    simp only [isLower, isUpper, isDigit, Bool.and_eq_true, Bool.or_eq_true, decide_eq_true_eq, Char.le_def,
      UInt32.le_iff_toNat_le] at h
    have hrange : 48 ≤ c.toNat ∧ c.toNat ≤ 122 := by
      obtain ⟨⟨(hlower | hupper) | hdigit, -⟩, -⟩ := h
      · exact ⟨le_trans (by decide) hlower.1, hlower.2⟩
      · exact ⟨le_trans (by decide) hupper.1, le_trans hupper.2 (by decide)⟩
      · exact ⟨hdigit.1, le_trans hdigit.2 (by decide)⟩
    have hlead : isSpace c = false := by
      have hspaces : ∀ n, 48 ≤ n → n ≤ 122 → n ∉ [0x09, 0x0A, 0x0B, 0x0C, 0x0D, 0x20, 0xA0, 0x1680, 0x2028, 0x2029,
          0x202F, 0x205F, 0x3000, 0xFEFF] := by
        intro n hlow hhigh
        simp only [List.mem_cons, List.not_mem_nil, or_false]
        omega
      simp only [isSpace, hspaces c.toNat hrange.1 hrange.2, decide_false, Bool.false_or, Bool.and_eq_false_iff,
        decide_eq_false_iff_not]
      omega
    rw [nonBlank, List.any_eq_true]
    exact ⟨c, by simp [hchars], by simp [hlead]⟩

theorem sorted_perm (xs : List String) : (sorted xs).Perm xs :=
  List.perm_insertionSort _ xs

theorem sorted_eq_of_perm {xs ys : List String} (h : xs.Perm ys) : sorted xs = sorted ys := by
  have htotal : Std.Total fun a b => ordinalLe a b = true := ⟨ordinalLe_total⟩
  have htrans : IsTrans String fun a b => ordinalLe a b = true := ⟨fun _ _ _ => ordinalLe_trans⟩
  refine List.Perm.eq_of_pairwise ?_ (List.pairwise_insertionSort _ xs) (List.pairwise_insertionSort _ ys)
    ((sorted_perm xs).trans (h.trans (sorted_perm ys).symm))
  intro a b _ _ hab hba
  exact ordinalLe_antisymm hab hba

theorem sorted_eq_of_mem_iff {xs ys : List String} (hxs : xs.Nodup) (hys : ys.Nodup)
    (h : ∀ x, x ∈ xs ↔ x ∈ ys) : sorted xs = sorted ys :=
  sorted_eq_of_perm ((List.perm_ext_iff_of_nodup hxs hys).2 h)

theorem sorted_eq_nil {xs : List String} : sorted xs = [] ↔ xs = [] := by
  constructor
  · intro h
    have hperm := List.perm_insertionSort (fun a b => ordinalLe a b = true) xs
    rw [show xs.insertionSort _ = [] from h] at hperm
    exact hperm.nil_eq.symm
  · rintro rfl
    rfl

example : sortedUnique ["b", "a", "b"] = ["a", "b"] := by decide

/-- The bytes themselves, each as a character, in place of their digest. -/
def bytesAsText (bytes : ByteArray) : String :=
  .ofList (bytes.data.toList.map fun byte => Char.ofNat byte.toNat)

theorem bytesAsText_injective : Function.Injective bytesAsText := by
  intro first second hsame
  have hbyte : Function.Injective fun byte : UInt8 => Char.ofNat byte.toNat := by
    intro left right hchar
    have hread : ∀ n < 256, (Char.ofNat n).toNat = n := by decide +kernel
    have hnat := congrArg Char.toNat hchar
    simp only [hread _ (UInt8.toNat_lt _)] at hnat
    exact UInt8.toNat_inj.1 hnat
  have hlist := List.map_injective_iff.2 hbyte (String.ofList_injective hsame)
  exact ByteArray.ext (Array.toList_inj.1 hlist)

end text
