import RevitOperator.Library.Base64
import RevitOperator.Library.Checked
import RevitOperator.Library.Lines
import RevitOperator.Library.Utf

open checked

/-! The canonical records that identities are hashed from: every field on a line of
    its own, in base64. -/

namespace revit_operator.dynamic_revit_sdk

/-- What the contract classes throw. -/
inductive SdkException where
  | argument (message : String)
  | invalidOperation (message : String)
  deriving DecidableEq

/-- A dictionary with ordinal keys: its entries, no key twice. -/
structure Dictionary where
  pairs : List (String × String)
  distinct : (pairs.map Prod.fst).Nodup
  deriving DecidableEq

namespace Dictionary

def Keys (values : Dictionary) : List String := values.pairs.map Prod.fst

def ContainsKey (values : Dictionary) (key : String) : Prop := key ∈ values.Keys

instance (values : Dictionary) (key : String) : Decidable (values.ContainsKey key) :=
  inferInstanceAs (Decidable (_ ∈ _))

def Count (values : Dictionary) : Nat := values.pairs.length

end Dictionary

namespace DynamicCanonical

/-- The line of one field, without its end. -/
def line : Option String → List Char
  | none => ['-']
  | some value => '+' :: base64.encode (utf8.encode value.toList)

def JoinLines (values : List (Option String)) : List (List Char) := values.map line

def Join (values : List (Option String)) : String := .ofList (lines.terminated '\n' (JoinLines values))

/-- `Join` of values that are all set. -/
def JoinAll (values : List String) : String := Join (values.map some)

def Set (values : List String) : String := JoinAll (text.sorted values)

/-- The pairs by their keys. -/
def byKey (pairs : List (String × String)) : List (String × String) :=
  pairs.insertionSort fun a b => text.ordinalLe a.1 b.1 = true

def Map (values : Dictionary) : String :=
  JoinAll ((byKey values.pairs).map fun pair => JoinAll [pair.1, pair.2])

/-- `Hash`: the form of a digest. -/
def Hash (value : String) : Prop :=
  text.length value = 71 ∧ text.startsWith value "sha256:" = true
    ∧ (value.toList.drop 7).all (fun c => text.isDigit c || ('a' ≤ c && c ≤ 'f')) = true

instance (value : String) : Decidable (Hash value) := inferInstanceAs (Decidable (_ ∧ _))

def RequireHashes (values : List String) : Except SdkException Unit :=
  require (∀ value ∈ values, Hash value) (.argument "A trusted SHA-256 identity is malformed.")

def Id (value : String) (maximumLength : Nat) : Prop :=
  text.isBlank value = false ∧ text.length value ≤ maximumLength
    ∧ value.toList.all (fun c => 0x20 ≤ c.toNat && c != '\r' && c != '\n') = true

instance (value : String) (maximumLength : Nat) : Decidable (Id value maximumLength) :=
  inferInstanceAs (Decidable (_ ∧ _))

def RequireDistinct (values : List String) (maximumCount maximumLength : Nat) (label : String) :
    Except SdkException Unit :=
  require (values.length ≤ maximumCount ∧ (∀ value ∈ values, Id value maximumLength) ∧ values.Nodup)
    (.argument ("Dynamic " ++ label ++ " collection is invalid."))

section unambiguous

theorem line_ne_nil (value : Option String) : line value ≠ [] := by
  cases value <;> exact List.cons_ne_nil _ _

theorem newline_not_mem_line (value : Option String) : '\n' ∉ line value := by
  cases value with
  | none => decide
  | some value =>
    intro h
    rcases List.mem_cons.1 h with hsign | hencoded
    · exact absurd hsign (by decide)
    · exact base64.newline_not_mem_encode _ hencoded

theorem line_injective : Function.Injective line := by
  intro left right h
  cases left with
  | none =>
    cases right with
    | none => rfl
    | some right => exact absurd (List.cons.inj h).1 (by decide)
  | some left =>
    cases right with
    | none => exact absurd (List.cons.inj h).1 (by decide)
    | some right =>
      have hbytes := base64.encode_injective (List.cons.inj h).2
      rw [String.toList_inj.1 (utf8.encode_injective hbytes)]

theorem newline_not_mem_joinLines {values : List (Option String)} :
    ∀ body ∈ JoinLines values, '\n' ∉ body := by
  intro body hbody
  obtain ⟨value, _, rfl⟩ := List.mem_map.1 hbody
  exact newline_not_mem_line value

theorem joinLines_injective : Function.Injective JoinLines :=
  List.map_injective_iff.2 line_injective

theorem join_injective : Function.Injective Join := by
  intro left right h
  have hlines := lines.terminated_inj newline_not_mem_joinLines newline_not_mem_joinLines (String.ofList_injective h)
  exact joinLines_injective hlines

theorem joinAll_injective : Function.Injective JoinAll := by
  intro left right h
  exact List.map_injective_iff.2 (Option.some_injective _) (join_injective h)

theorem set_eq_iff {left right : List String} : Set left = Set right ↔ left.Perm right := by
  constructor
  · intro h
    have hsorted : text.sorted left = text.sorted right := joinAll_injective h
    exact (text.sorted_perm left).symm.trans (hsorted ▸ text.sorted_perm right)
  · intro h
    rw [Set, Set, text.sorted_eq_of_perm h]

theorem byKey_perm (pairs : List (String × String)) : (byKey pairs).Perm pairs :=
  List.perm_insertionSort _ pairs

theorem byKey_eq_of_perm {left right : List (String × String)} (hdistinct : (left.map Prod.fst).Nodup)
    (h : left.Perm right) : byKey left = byKey right := by
  have htotal : Std.Total fun a b : String × String => text.ordinalLe a.1 b.1 = true :=
    ⟨fun a b => text.ordinalLe_total a.1 b.1⟩
  have htrans : IsTrans (String × String) fun a b => text.ordinalLe a.1 b.1 = true :=
    ⟨fun _ _ _ => text.ordinalLe_trans⟩
  refine List.Perm.eq_of_pairwise ?_ (List.pairwise_insertionSort _ left) (List.pairwise_insertionSort _ right)
    ((byKey_perm left).trans (h.trans (byKey_perm right).symm))
  intro a b ha hb hab hba
  have hkey := text.ordinalLe_antisymm hab hba
  exact List.inj_on_of_nodup_map hdistinct ((byKey_perm left).mem_iff.1 ha)
    (h.mem_iff.2 ((byKey_perm right).mem_iff.1 hb)) hkey

theorem map_eq_iff {left right : Dictionary} : Map left = Map right ↔ left.pairs.Perm right.pairs := by
  constructor
  · intro h
    have hpair : Function.Injective fun pair : String × String => JoinAll [pair.1, pair.2] := by
      intro a b hab
      have hfields := joinAll_injective hab
      simp only [List.cons.injEq, and_true] at hfields
      exact Prod.ext hfields.1 hfields.2
    have hsorted := List.map_injective_iff.2 hpair (joinAll_injective h)
    exact (byKey_perm left.pairs).symm.trans (hsorted ▸ byKey_perm right.pairs)
  · intro h
    rw [Map, Map, byKey_eq_of_perm left.distinct h]

theorem toString_int_injective : Function.Injective (fun n : Int => toString n) := by
  have hnat : ∀ m n : Nat, Nat.repr m = Nat.repr n → m = n := by
    intro m n h
    have hdigits : Nat.toDigits 10 m = Nat.toDigits 10 n := String.ofList_injective h
    rw [← Nat.ofDigitChars_ten_toDigits (n := m), hdigits, Nat.ofDigitChars_ten_toDigits]
  have hsign : ∀ m n : Nat, Nat.repr m ≠ "-" ++ Nat.repr n := by
    intro m n h
    have hchars : Nat.toDigits 10 m = '-' :: Nat.toDigits 10 n := by
      have hlists := congrArg String.toList h
      rw [String.toList_append] at hlists
      simpa [Nat.repr] using hlists
    have hdigit := Nat.isDigit_of_mem_toDigits (c := '-') (b := 10) (n := m) (by decide) (by decide) (by simp [hchars])
    exact absurd hdigit (by decide)
  intro a b h
  cases a with
  | ofNat m =>
    cases b with
    | ofNat n => exact congrArg Int.ofNat (hnat m n h)
    | negSucc n => exact absurd h (hsign m _)
  | negSucc m =>
    cases b with
    | ofNat n => exact absurd h.symm (hsign n _)
    | negSucc n =>
      have hrepr : "-" ++ Nat.repr (m + 1) = "-" ++ Nat.repr (n + 1) := h
      have hpred := hnat (m + 1) (n + 1) (String.append_right_inj _ |>.1 hrepr)
      exact congrArg Int.negSucc (Nat.succ.inj hpred)

/-- Records joined by line feeds. -/
def joinRecords (records : List (List String)) : String :=
  text.joinWith "\n" (records.map JoinAll)

theorem toList_joinWith (separator : String) (parts : List String) :
    (text.joinWith separator parts).toList = separator.toList.intercalate (parts.map String.toList) := by
  induction parts using text.joinWith.induct with
  | case1 => rfl
  | case2 part => simp [text.joinWith, List.intercalate]
  | case3 part rest hne ih =>
    obtain ⟨next, rest, rfl⟩ := List.exists_cons_of_ne_nil hne
    rw [text.joinWith]
    · simp only [String.toList_append, ih]
      simp [List.intercalate]
    · exact hne

theorem joinRecords_inj {left right : List (List String)} (hleft : [] ∉ left) (hright : [] ∉ right)
    (h : joinRecords left = joinRecords right) : left = right := by
  let block (fields : List String) : List (List Char) := JoinLines (fields.map some)
  have htext : ∀ records : List (List String), (joinRecords records).toList
      = lines.terminated '\n' (lines.spaced (records.map block)) := by
    intro records
    rw [joinRecords, toList_joinWith, ← lines.intercalate_terminated, List.map_map, List.map_map]
    congr 1
    refine List.map_congr_left fun fields _ => ?_
    exact String.toList_ofList
  have hblock : ∀ records : List (List String), [] ∉ records →
      ∀ entry ∈ records.map block, entry ≠ [] ∧ [] ∉ entry := by
    intro records hrecords entry hentry
    obtain ⟨fields, hfields, rfl⟩ := List.mem_map.1 hentry
    refine ⟨fun hnil => hrecords ?_, fun hempty => ?_⟩
    · have hnone : fields = [] := List.map_eq_nil_iff.1 (List.map_eq_nil_iff.1 hnil)
      exact hnone ▸ hfields
    · obtain ⟨value, _, hvalue⟩ := List.mem_map.1 hempty
      exact line_ne_nil value hvalue
  have hclean : ∀ records : List (List String), ∀ body ∈ lines.spaced (records.map block), '\n' ∉ body := by
    intro records body hbody
    obtain rfl | ⟨entry, hentry, hline⟩ := lines.mem_spaced hbody
    · exact List.not_mem_nil
    · obtain ⟨fields, _, rfl⟩ := List.mem_map.1 hentry
      exact newline_not_mem_joinLines body hline
  have hspaced := lines.terminated_inj (hclean left) (hclean right) (by rw [← htext, ← htext, h])
  have hblocks := lines.spaced_inj (hblock left hleft) (hblock right hright) hspaced
  refine List.map_injective_iff.2 (fun a b hab => ?_) hblocks
  exact List.map_injective_iff.2 (Option.some_injective _) (joinLines_injective hab)

theorem joinWith_inj {left right : List String} (hleft : ∀ text ∈ left, ∃ fields, fields ≠ [] ∧ JoinAll fields = text)
    (hright : ∀ text ∈ right, ∃ fields, fields ≠ [] ∧ JoinAll fields = text)
    (h : text.joinWith "\n" left = text.joinWith "\n" right) : left = right := by
  have hrecords : ∀ texts : List String, (∀ text ∈ texts, ∃ fields, fields ≠ [] ∧ JoinAll fields = text) →
      ∃ records : List (List String), [] ∉ records ∧ records.map JoinAll = texts := by
    intro texts htexts
    induction texts with
    | nil => exact ⟨[], List.not_mem_nil, rfl⟩
    | cons text texts ih =>
      obtain ⟨fields, hfields, rfl⟩ := htexts text List.mem_cons_self
      obtain ⟨records, hnone, rfl⟩ := ih fun other hother => htexts other (List.mem_cons_of_mem _ hother)
      refine ⟨fields :: records, fun hmem => ?_, rfl⟩
      rcases List.mem_cons.1 hmem with hempty | hrest
      · exact hfields hempty.symm
      · exact hnone hrest
  obtain ⟨records, hnone, rfl⟩ := hrecords left hleft
  obtain ⟨records', hnone', rfl⟩ := hrecords right hright
  rw [joinRecords_inj hnone hnone' h]

end unambiguous

end DynamicCanonical

end revit_operator.dynamic_revit_sdk
