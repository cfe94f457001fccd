import Mathlib.Data.List.Basic
import Mathlib.Tactic.SplitIfs

/-! The base64 encoding of bytes, and its decoder that ignores white space and the
    bits left over at the end. -/

namespace base64

def digit (value : Nat) : Char :=
  if value < 26 then Char.ofNat ('A'.toNat + value)
  else if value < 52 then Char.ofNat ('a'.toNat + (value - 26))
  else if value < 62 then Char.ofNat ('0'.toNat + (value - 52))
  else if value = 62 then '+' else '/'

def value (c : Char) : Option Nat :=
  if 'A' ≤ c ∧ c ≤ 'Z' then some (c.toNat - 'A'.toNat)
  else if 'a' ≤ c ∧ c ≤ 'z' then some (c.toNat - 'a'.toNat + 26)
  else if '0' ≤ c ∧ c ≤ '9' then some (c.toNat - '0'.toNat + 52)
  else if c = '+' then some 62
  else if c = '/' then some 63
  else none

def encode : List UInt8 → List Char
  | a :: b :: c :: rest =>
    digit (a.toNat / 4) :: digit (a.toNat % 4 * 16 + b.toNat / 16) :: digit (b.toNat % 16 * 4 + c.toNat / 64)
      :: digit (c.toNat % 64) :: encode rest
  | [a, b] =>
    [digit (a.toNat / 4), digit (a.toNat % 4 * 16 + b.toNat / 16), digit (b.toNat % 16 * 4), '=']
  | [a] => [digit (a.toNat / 4), digit (a.toNat % 4 * 16), '=', '=']
  | [] => []

def decodeQuads : List Char → Option (List UInt8)
  | [] => some []
  | [p, q, '=', '='] => do
    let p ← value p
    let q ← value q
    return [.ofNat (p * 4 + q / 16)]
  | [p, q, r, '='] => do
    let p ← value p
    let q ← value q
    let r ← value r
    return [.ofNat (p * 4 + q / 16), .ofNat (q % 16 * 16 + r / 4)]
  | p :: q :: r :: s :: rest => do
    let p ← value p
    let q ← value q
    let r ← value r
    let s ← value s
    let bytes ← decodeQuads rest
    return .ofNat (p * 4 + q / 16) :: .ofNat (q % 16 * 16 + r / 4) :: .ofNat (r % 4 * 64 + s) :: bytes
  | _ => none

def isWhite (c : Char) : Bool := c ∈ [' ', '\t', '\n', '\r']

def decode (cs : List Char) : Option (List UInt8) := decodeQuads (cs.filter fun c => !isWhite c)

theorem value_digit {n : Nat} (h : n < 64) : value (digit n) = some n := by
  have hall : ∀ n < 64, value (digit n) = some n := by decide
  exact hall n h

theorem digit_ne_pad {n : Nat} (h : n < 64) : digit n ≠ '=' := by
  have hall : ∀ n < 64, digit n ≠ '=' := by decide
  exact hall n h

theorem not_isWhite_digit {n : Nat} (h : n < 64) : isWhite (digit n) = false := by
  have hall : ∀ n < 64, isWhite (digit n) = false := by decide
  exact hall n h

theorem decodeQuads_quad {p q r s : Nat} (hp : p < 64) (hq : q < 64) (hr : r < 64) (hs : s < 64)
    (rest : List Char) : decodeQuads (digit p :: digit q :: digit r :: digit s :: rest) =
      (decodeQuads rest).map fun bytes =>
        .ofNat (p * 4 + q / 16) :: .ofNat (q % 16 * 16 + r / 4) :: .ofNat (r % 4 * 64 + s) :: bytes := by
  rw [decodeQuads]
  · cases decodeQuads rest <;> simp [value_digit, hp, hq, hr, hs]
  · intro hpad _
    exact fun _ => digit_ne_pad hr hpad
  · intro hpad _
    exact digit_ne_pad hs hpad

theorem ofNat_toNat_of_eq {byte : UInt8} {n : Nat} (h : n = byte.toNat) : UInt8.ofNat n = byte := by
  rw [h, UInt8.ofNat_toNat]

theorem decodeQuads_encode (bytes : List UInt8) : decodeQuads (encode bytes) = some bytes := by
  induction bytes using encode.induct with
  | case1 a b c rest ih =>
    have ha := a.toNat_lt
    have hb := b.toNat_lt
    have hc := c.toNat_lt
    rw [encode, decodeQuads_quad (by omega) (by omega) (by omega) (by omega), ih, Option.map_some,
      ofNat_toNat_of_eq (show _ = UInt8.toNat a by omega), ofNat_toNat_of_eq (show _ = UInt8.toNat b by omega),
      ofNat_toNat_of_eq (show _ = UInt8.toNat c by omega)]
  | case2 a b =>
    have ha := a.toNat_lt
    have hb := b.toNat_lt
    have hr : b.toNat % 16 * 4 < 64 := by omega
    rw [encode, decodeQuads]
    · simp only [value_digit (show a.toNat / 4 < 64 by omega),
        value_digit (show a.toNat % 4 * 16 + b.toNat / 16 < 64 by omega), value_digit hr]
      simp only [Option.bind_eq_bind, Option.bind_some]
      rw [ofNat_toNat_of_eq (show _ = UInt8.toNat a by omega), ofNat_toNat_of_eq (show _ = UInt8.toNat b by omega)]
      rfl
    · exact fun hpad => digit_ne_pad hr hpad
  | case3 a =>
    have ha := a.toNat_lt
    rw [encode, decodeQuads]
    simp only [value_digit (show a.toNat / 4 < 64 by omega), value_digit (show a.toNat % 4 * 16 < 64 by omega)]
    simp only [Option.bind_eq_bind, Option.bind_some]
    rw [ofNat_toNat_of_eq (show _ = UInt8.toNat a by omega)]
    rfl
  | case4 => rfl

theorem not_isWhite_of_mem_encode {bytes : List UInt8} {c : Char} (h : c ∈ encode bytes) : isWhite c = false := by
  induction bytes using encode.induct with
  | case1 a b d rest ih =>
    have ha := a.toNat_lt
    have hb := b.toNat_lt
    have hd := d.toNat_lt
    simp only [encode, List.mem_cons] at h
    obtain rfl | rfl | rfl | rfl | hrest := h
    · exact not_isWhite_digit (by omega)
    · exact not_isWhite_digit (by omega)
    · exact not_isWhite_digit (by omega)
    · exact not_isWhite_digit (by omega)
    · exact ih hrest
  | case2 a b =>
    have ha := a.toNat_lt
    have hb := b.toNat_lt
    simp only [encode, List.mem_cons, List.not_mem_nil, or_false] at h
    obtain rfl | rfl | rfl | rfl := h
    · exact not_isWhite_digit (by omega)
    · exact not_isWhite_digit (by omega)
    · exact not_isWhite_digit (by omega)
    · decide
  | case3 a =>
    have ha := a.toNat_lt
    simp only [encode, List.mem_cons, List.not_mem_nil, or_false] at h
    obtain rfl | rfl | rfl | rfl := h
    · exact not_isWhite_digit (by omega)
    · exact not_isWhite_digit (by omega)
    · decide
    · decide
  | case4 => cases h

theorem decode_encode (bytes : List UInt8) : decode (encode bytes) = some bytes := by
  have hkept : (encode bytes).filter (fun c => !isWhite c) = encode bytes :=
    List.filter_eq_self.2 fun c hc => by rw [not_isWhite_of_mem_encode hc]; rfl
  rw [decode, hkept, decodeQuads_encode]

theorem encode_injective : Function.Injective encode := by
  intro left right h
  have hdecoded := congrArg decode h
  rw [decode_encode, decode_encode] at hdecoded
  exact Option.some.inj hdecoded

theorem newline_not_mem_encode (bytes : List UInt8) : '\n' ∉ encode bytes := by
  intro h
  exact absurd (not_isWhite_of_mem_encode h) (by decide)

end base64
