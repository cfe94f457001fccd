import RevitOperator.Library.HalfEven

/-! The doubles of an observation: they are rounded before they cross to another
    runtime, and rounded again for the hash. -/

namespace revit_operator.dynamic_revit_sdk

/-- The bits of a double. -/
abbrev DoubleBits := BitVec 64

namespace DoubleBits

def signMask : DoubleBits := 0x8000000000000000#64

def magnitudeMask : DoubleBits := 0x7fffffffffffffff#64

def exponentMask : DoubleBits := 0x7ff0000000000000#64

def sign (bits : DoubleBits) : DoubleBits := bits &&& signMask

def magnitude (bits : DoubleBits) : DoubleBits := bits &&& magnitudeMask

/-- `!double.IsNaN(value) && !double.IsInfinity(value)` -/
def Finite (bits : DoubleBits) : Prop := bits.magnitude &&& exponentMask ≠ exponentMask

instance (bits : DoubleBits) : Decidable bits.Finite := inferInstanceAs (Decidable (_ ≠ _))

/-- The place of a double in the order of the doubles, both zeros at 0. -/
def signedMagnitude (bits : DoubleBits) : Int :=
  if bits.sign = 0 then bits.magnitude.toNat else - bits.magnitude.toNat

end DoubleBits

open DoubleBits

/-- The magnitude without its remainder. -/
def truncated (magnitude : DoubleBits) (clearedBits : Nat) : DoubleBits :=
  magnitude &&& ~~~(1#64 <<< clearedBits - 1#64)

/-- The magnitude rounded half to even. -/
def rounded (magnitude : DoubleBits) (clearedBits : Nat) : DoubleBits :=
  let quantum := 1#64 <<< clearedBits
  let remainder := magnitude &&& (quantum - 1#64)
  let halfway := quantum >>> 1
  if halfway < remainder ∨ remainder = halfway ∧ (truncated magnitude clearedBits / quantum) &&& 1#64 ≠ 0 then
    truncated magnitude clearedBits + quantum
  else truncated magnitude clearedBits

def RoundMantissaBits (bits : DoubleBits) (retainedBits : Nat) : DoubleBits :=
  let sign := bits.sign
  let magnitude := bits.magnitude
  if magnitude = 0 ∨ magnitude &&& exponentMask = exponentMask then bits
  else
    let clearedBits := 52 - retainedBits
    -- A finite maximum-magnitude parameter must not normalize to infinity.
    if rounded magnitude clearedBits &&& exponentMask = exponentMask then sign ||| truncated magnitude clearedBits
    else sign ||| rounded magnitude clearedBits

def NormalizeTransportDouble (value : Option DoubleBits) : Except String (Option DoubleBits) :=
  match value with
  | none => .ok none
  | some value =>
    if value.Finite then .ok (some (RoundMantissaBits value 40))
    else .error "Dynamic observation double is not finite."

/-- `bits.ToString("x16")` -/
def toHex (bits : DoubleBits) : String := .ofList ((List.range 16).map fun place =>
  Nat.digitChar (bits.toNat / 16 ^ (15 - place) % 16))

def DoubleCanonical (value : Option DoubleBits) : Except String (Option String) :=
  match value with
  | none => .ok none
  | some value =>
    if value.Finite then
      let transport := RoundMantissaBits value 40
      let bits := RoundMantissaBits transport 36
      let bits := if bits &&& magnitudeMask = 0 then 0 else bits
      .ok (some (toHex bits))
    else .error "Dynamic observation double is not finite."

variable {word first second : DoubleBits}

section bits

variable {bits : DoubleBits}

/-- The magnitudes from here on are those of infinity and of what is no number. -/
def infinity : Nat := 0x7ff0000000000000

theorem magnitude_lt (bits : DoubleBits) : bits.magnitude.toNat < 2 ^ 63 := by
  have hmod : bits.magnitude.toNat = bits.toNat % 2 ^ 63 := half_even.toNat_and_lowMask bits (k := 63) (by decide)
  rw [hmod]
  exact Nat.mod_lt _ (by decide)

/-- A word below the sign bit has all of its exponent set where it is at least
    infinity. -/
theorem exponent_eq_iff (h : word.toNat < 2 ^ 63) :
    word &&& exponentMask = exponentMask ↔ infinity ≤ word.toNat := by
  have hmask : exponentMask = magnitudeMask &&& ~~~(1#64 <<< 52 - 1#64) := by decide
  have hown : word &&& magnitudeMask = word := by
    have hmod : (word &&& magnitudeMask).toNat = word.toNat % 2 ^ 63 :=
      half_even.toNat_and_lowMask word (k := 63) (by decide)
    rw [Nat.mod_eq_of_lt h] at hmod
    exact BitVec.eq_of_toNat_eq hmod
  have hcut : (word &&& exponentMask).toNat = word.toNat / 2 ^ 52 * 2 ^ 52 := by
    rw [hmask, ← BitVec.and_assoc, hown]
    exact half_even.toNat_and_not_lowMask word (k := 52) (by decide)
  have hvalue : exponentMask.toNat = infinity := rfl
  rw [← BitVec.toNat_inj, hcut, hvalue, infinity]
  omega

theorem finite_iff : bits.Finite ↔ bits.magnitude.toNat < infinity := by
  rw [DoubleBits.Finite, Ne, exponent_eq_iff (magnitude_lt bits), not_le]

theorem sign_or {sign : DoubleBits} (hsign : sign &&& magnitudeMask = 0#64) (hword : word.toNat < 2 ^ 63) :
    (sign ||| word).sign = sign ∧ (sign ||| word).magnitude = word := by
  have hhigh : word &&& signMask = 0#64 := by
    have hcut : (word &&& signMask).toNat = word.toNat / 2 ^ 63 * 2 ^ 63 :=
      half_even.toNat_and_not_lowMask word (k := 63) (by decide)
    rw [Nat.div_eq_of_lt hword, Nat.zero_mul] at hcut
    exact BitVec.eq_of_toNat_eq hcut
  have hlow : word &&& magnitudeMask = word := by
    have hmod : (word &&& magnitudeMask).toNat = word.toNat % 2 ^ 63 :=
      half_even.toNat_and_lowMask word (k := 63) (by decide)
    rw [Nat.mod_eq_of_lt hword] at hmod
    exact BitVec.eq_of_toNat_eq hmod
  have hown : sign &&& signMask = sign := by
    have hsplit : sign &&& (signMask ||| magnitudeMask) = sign := by
      rw [show signMask ||| magnitudeMask = BitVec.allOnes 64 by decide, BitVec.and_allOnes]
    rwa [BitVec.and_or_distrib_left, hsign, BitVec.or_zero] at hsplit
  constructor
  · rw [DoubleBits.sign, BitVec.and_or_distrib_right, hhigh, hown, BitVec.or_zero]
  · rw [DoubleBits.magnitude, BitVec.and_or_distrib_right, hsign, hlow, BitVec.zero_or]

theorem sign_and_magnitudeMask (bits : DoubleBits) : bits.sign &&& magnitudeMask = 0#64 := by
  rw [DoubleBits.sign, BitVec.and_assoc, show signMask &&& magnitudeMask = 0#64 by decide, BitVec.and_zero]

theorem sign_or_magnitude (bits : DoubleBits) : bits.sign ||| bits.magnitude = bits := by
  rw [DoubleBits.sign, DoubleBits.magnitude, ← BitVec.and_or_distrib_left,
    show signMask ||| magnitudeMask = BitVec.allOnes 64 by decide, BitVec.and_allOnes]

theorem eq_of_sign_magnitude (hsign : first.sign = second.sign)
    (hmagnitude : first.magnitude.toNat = second.magnitude.toNat) : first = second := by
  rw [← sign_or_magnitude first, ← sign_or_magnitude second, hsign, BitVec.eq_of_toNat_eq hmagnitude]

theorem toNat_rounded {k : Nat} (hword : word.toNat < 2 ^ 63) (hpos : 1 ≤ k) (hk : k ≤ 51) :
    (rounded word k).toNat = half_even.round (2 ^ k) word.toNat := by
  have hsmall : 2 ^ k < 2 ^ 52 := Nat.pow_lt_pow_right (by decide) (by omega)
  have hquantum : (1#64 <<< k).toNat = 2 ^ k := by
    rw [BitVec.toNat_shiftLeft, show (1#64).toNat = 1 from rfl, Nat.one_shiftLeft, Nat.mod_eq_of_lt (by omega)]
  have hdouble : 2 ^ k = 2 * 2 ^ (k - 1) := by
    rw [← Nat.pow_succ', Nat.succ_eq_add_one, Nat.sub_add_cancel hpos]
  have hhalf : (1#64 <<< k >>> 1).toNat = 2 ^ (k - 1) := by
    rw [BitVec.toNat_ushiftRight, hquantum, Nat.shiftRight_eq_div_pow, hdouble, Nat.pow_one,
      Nat.mul_div_cancel_left _ (by decide)]
  have hrest : (word &&& (1#64 <<< k - 1#64)).toNat = word.toNat % 2 ^ k :=
    half_even.toNat_and_lowMask word (by omega)
  have hcut : (truncated word k).toNat = word.toNat / 2 ^ k * 2 ^ k :=
    half_even.toNat_and_not_lowMask word (by omega)
  have hodd : truncated word k / 1#64 <<< k &&& 1#64 ≠ 0 ↔ word.toNat / 2 ^ k % 2 = 1 := by
    rw [Ne, ← BitVec.toNat_inj, BitVec.toNat_and, BitVec.toNat_udiv, hcut, hquantum,
      Nat.mul_div_cancel _ (Nat.two_pow_pos k), show (1#64).toNat = 1 from rfl, Nat.and_one_is_mod]
    have htwo : word.toNat / 2 ^ k % 2 < 2 := Nat.mod_lt _ (by decide)
    have hnone : (0 : DoubleBits).toNat = 0 := rfl
    omega
  have hupward : (1#64 <<< k >>> 1 < word &&& (1#64 <<< k - 1#64)
        ∨ word &&& (1#64 <<< k - 1#64) = 1#64 <<< k >>> 1 ∧ truncated word k / 1#64 <<< k &&& 1#64 ≠ 0)
      ↔ (2 ^ k < 2 * (word.toNat % 2 ^ k) ∨ 2 * (word.toNat % 2 ^ k) = 2 ^ k ∧ word.toNat / 2 ^ k % 2 = 1) := by
    rw [hodd, BitVec.lt_def, ← BitVec.toNat_inj, hhalf, hrest]
    omega
  rw [half_even.round, rounded]
  by_cases hup : 2 ^ k < 2 * (word.toNat % 2 ^ k) ∨ 2 * (word.toNat % 2 ^ k) = 2 ^ k ∧ word.toNat / 2 ^ k % 2 = 1
  · have hle := Nat.div_mul_le_self word.toNat (2 ^ k)
    rw [if_pos (hupward.2 hup), if_pos hup, BitVec.toNat_add, hcut, hquantum, Nat.mod_eq_of_lt (by omega)]
  · rw [if_neg fun h => hup (hupward.1 h), if_neg hup, hcut]

/-- Rounding keeps the sign and rounds the magnitude half to even, below
    infinity. -/
theorem roundMantissaBits_spec (hfinite : bits.Finite) {retainedBits : Nat} (hretained : 1 ≤ retainedBits)
    (hbits : retainedBits < 52) :
    (RoundMantissaBits bits retainedBits).sign = bits.sign
      ∧ (RoundMantissaBits bits retainedBits).magnitude.toNat
        = half_even.roundBelow infinity (2 ^ (52 - retainedBits)) bits.magnitude.toNat := by
  have hlt := finite_iff.1 hfinite
  have hinfinity : infinity < 2 ^ 63 := by decide
  obtain ⟨k, hk⟩ : ∃ k, 52 - retainedBits = k := ⟨_, rfl⟩
  have hdvd : 2 ^ k ∣ infinity := (Nat.pow_dvd_pow 2 (by omega)).trans (by decide : 2 ^ 52 ∣ infinity)
  rw [RoundMantissaBits, hk]
  by_cases hzero : bits.magnitude = 0
  · rw [if_pos (.inl hzero), hzero]
    exact ⟨rfl, (half_even.roundBelow_of_dvd (Nat.two_pow_pos k) (Nat.dvd_zero _) (by decide)).symm⟩
  · rw [if_neg (not_or.2 ⟨hzero, hfinite⟩)]
    have hrounded := toNat_rounded (magnitude_lt bits) (by omega : 1 ≤ k) (by omega)
    have hcut : (truncated bits.magnitude k).toNat = bits.magnitude.toNat / 2 ^ k * 2 ^ k :=
      half_even.toNat_and_not_lowMask bits.magnitude (by omega)
    have hatmost : half_even.round (2 ^ k) bits.magnitude.toNat ≤ infinity := by
      obtain ⟨count, hcount⟩ := hdvd
      have hdiv : bits.magnitude.toNat / 2 ^ k + 1 ≤ count := Nat.div_lt_of_lt_mul (hcount ▸ hlt)
      calc half_even.round (2 ^ k) bits.magnitude.toNat
          ≤ bits.magnitude.toNat / 2 ^ k * 2 ^ k + 2 ^ k := half_even.round_le _ _
        _ = 2 ^ k * (bits.magnitude.toNat / 2 ^ k + 1) := by ring
        _ ≤ infinity := hcount ▸ Nat.mul_le_mul_left _ hdiv
    have hfits : half_even.roundBelow infinity (2 ^ k) bits.magnitude.toNat < 2 ^ 63 :=
      (half_even.roundBelow_lt hlt).trans hinfinity
    have hoverflow : rounded bits.magnitude k &&& exponentMask = exponentMask ↔
        infinity ≤ (rounded bits.magnitude k).toNat := exponent_eq_iff (by omega)
    rw [hrounded] at hoverflow
    rw [half_even.roundBelow] at hfits ⊢
    by_cases hover : infinity ≤ half_even.round (2 ^ k) bits.magnitude.toNat
    · rw [if_pos hover] at hfits ⊢
      obtain ⟨hsign, hmagnitude⟩ := sign_or (sign_and_magnitudeMask bits) (hcut ▸ hfits)
      rw [if_pos (hoverflow.2 hover), hsign, hmagnitude, hcut]
      exact ⟨rfl, rfl⟩
    · rw [if_neg hover] at hfits ⊢
      obtain ⟨hsign, hmagnitude⟩ := sign_or (sign_and_magnitudeMask bits) (hrounded ▸ hfits)
      rw [if_neg fun h => hover (hoverflow.1 h), hsign, hmagnitude, hrounded]
      exact ⟨rfl, rfl⟩

theorem roundMantissaBits_finite (hfinite : bits.Finite) {retainedBits : Nat} (hretained : 1 ≤ retainedBits)
    (hbits : retainedBits < 52) : (RoundMantissaBits bits retainedBits).Finite := by
  rw [finite_iff, (roundMantissaBits_spec hfinite hretained hbits).2]
  exact half_even.roundBelow_lt (finite_iff.1 hfinite)

theorem sign_cases (bits : DoubleBits) : bits.sign = 0 ∨ bits.sign = signMask := by
  have hcut : bits.sign.toNat = bits.toNat / 2 ^ 63 * 2 ^ 63 :=
    half_even.toNat_and_not_lowMask bits (k := 63) (by decide)
  have hlt := bits.isLt
  obtain hlow | hhigh : bits.toNat / 2 ^ 63 = 0 ∨ bits.toNat / 2 ^ 63 = 1 := by omega
  · rw [hlow, Nat.zero_mul] at hcut
    exact .inl (BitVec.eq_of_toNat_eq hcut)
  · rw [hhigh, Nat.one_mul] at hcut
    exact .inr (BitVec.eq_of_toNat_eq hcut)

theorem magnitude_near {half : Nat} (hdvd : 2 * half ∣ second.magnitude.toNat)
    (hnear : |first.signedMagnitude - second.signedMagnitude| < half) :
    first.magnitude.toNat < second.magnitude.toNat + half ∧ second.magnitude.toNat < first.magnitude.toNat + half
      ∧ (first.sign ≠ second.sign → second.magnitude.toNat = 0) := by
  rw [abs_lt, signedMagnitude, signedMagnitude] at hnear
  have hzero : second.magnitude.toNat < 2 * half → second.magnitude.toNat = 0 := Nat.eq_zero_of_dvd_of_lt hdvd
  have hmask : signMask ≠ 0 := by decide
  obtain hfirst | hfirst := sign_cases first <;> obtain hsecond | hsecond := sign_cases second
  · simp only [hfirst, hsecond, ↓reduceIte] at hnear
    exact ⟨by omega, by omega, fun hdiffer => absurd (hfirst.trans hsecond.symm) hdiffer⟩
  · simp only [hfirst, hsecond, hmask, ↓reduceIte] at hnear
    exact ⟨by omega, by omega, fun _ => hzero (by omega)⟩
  · simp only [hfirst, hsecond, hmask, ↓reduceIte] at hnear
    exact ⟨by omega, by omega, fun _ => hzero (by omega)⟩
  · simp only [hfirst, hsecond, hmask, ↓reduceIte] at hnear
    exact ⟨by omega, by omega, fun hdiffer => absurd (hfirst.trans hsecond.symm) hdiffer⟩

theorem normalizeTransportDouble_of_finite (hfinite : bits.Finite) :
    NormalizeTransportDouble (some bits) = .ok (some (RoundMantissaBits bits 40)) :=
  if_pos hfinite

theorem doubleCanonical_of_finite (hfinite : bits.Finite) :
    DoubleCanonical (some bits) = .ok (some (toHex
      (if RoundMantissaBits (RoundMantissaBits bits 40) 36 &&& magnitudeMask = 0 then 0
        else RoundMantissaBits (RoundMantissaBits bits 40) 36))) :=
  if_pos hfinite

/-- Transported doubles that differ in the sign of a zero at most have one canonical
    text. -/
theorem doubleCanonical_congr (hfirst : first.Finite) (hsecond : second.Finite)
    (hmagnitude : (RoundMantissaBits first 40).magnitude.toNat = (RoundMantissaBits second 40).magnitude.toNat)
    (hsign : (RoundMantissaBits first 40).sign ≠ (RoundMantissaBits second 40).sign →
      (RoundMantissaBits second 40).magnitude.toNat = 0) :
    DoubleCanonical (some first) = DoubleCanonical (some second) := by
  rw [doubleCanonical_of_finite hfirst, doubleCanonical_of_finite hsecond]
  by_cases hsame : (RoundMantissaBits first 40).sign = (RoundMantissaBits second 40).sign
  · rw [eq_of_sign_magnitude hsame hmagnitude]
  · have hzero : ∀ bits : DoubleBits, bits.Finite → (RoundMantissaBits bits 40).magnitude.toNat = 0 →
        RoundMantissaBits (RoundMantissaBits bits 40) 36 &&& magnitudeMask = 0 := by
      intro bits hfinite hnone
      have hown : (RoundMantissaBits bits 40).Finite := roundMantissaBits_finite hfinite (by decide) (by decide)
      have hround := (roundMantissaBits_spec hown (by decide : 1 ≤ 36) (by decide)).2
      rw [hnone, half_even.roundBelow_of_dvd (by decide) (Nat.dvd_zero _) (by decide)] at hround
      exact BitVec.eq_of_toNat_eq hround
    rw [if_pos (hzero first hfirst (hmagnitude.trans (hsign hsame))), if_pos (hzero second hsecond (hsign hsame))]

end bits

/-- A transported double is finite, stays as it is when it is transported again,
    and every double less than 2048 places from it has the canonical text of the
    original. -/
theorem transport_stable (value : DoubleBits) (hfinite : value.Finite) :
    ∃ transported, NormalizeTransportDouble (some value) = .ok (some transported) ∧ transported.Finite
      ∧ NormalizeTransportDouble (some transported) = .ok (some transported)
      ∧ ∃ canonical, DoubleCanonical (some value) = .ok (some canonical)
        ∧ ∀ reparsed : DoubleBits, reparsed.Finite →
          |reparsed.signedMagnitude - transported.signedMagnitude| < 2048 →
            DoubleCanonical (some reparsed) = .ok (some canonical) := by
  have hspec : ∀ bits : DoubleBits, bits.Finite → (RoundMantissaBits bits 40).sign = bits.sign
      ∧ (RoundMantissaBits bits 40).magnitude.toNat = half_even.roundBelow infinity 4096 bits.magnitude.toNat :=
    fun bits h => roundMantissaBits_spec h (by decide : 1 ≤ 40) (by decide)
  have hown := roundMantissaBits_finite hfinite (by decide : 1 ≤ 40) (by decide)
  have hlimit := finite_iff.1 hown
  have hdvd : 4096 ∣ (RoundMantissaBits value 40).magnitude.toNat :=
    (hspec value hfinite).2 ▸ half_even.dvd_roundBelow infinity 4096 _
  refine ⟨RoundMantissaBits value 40, normalizeTransportDouble_of_finite hfinite, hown, ?_, _,
    doubleCanonical_of_finite hfinite, ?_⟩
  · rw [normalizeTransportDouble_of_finite hown]
    obtain ⟨hsign, hmagnitude⟩ := hspec _ hown
    rw [half_even.roundBelow_of_dvd (by decide) hdvd hlimit] at hmagnitude
    rw [eq_of_sign_magnitude hsign hmagnitude]
  · intro reparsed hreparsed hnear
    have hdouble : 2 * 2048 ∣ (RoundMantissaBits value 40).magnitude.toNat := hdvd
    obtain ⟨habove, hbelow, hzero⟩ := magnitude_near hdouble hnear
    obtain ⟨hsign, hmagnitude⟩ := hspec reparsed hreparsed
    rw [half_even.roundBelow_eq_of_near hdvd hlimit (by omega) (by omega)] at hmagnitude
    rw [← doubleCanonical_of_finite hfinite]
    refine doubleCanonical_congr hreparsed hfinite hmagnitude fun hdiffer => hzero ?_
    rwa [hsign] at hdiffer

/-- The finite double of the largest magnitude. -/
def largest : DoubleBits := 0x7fefffffffffffff#64

theorem transport_stable_largest : largest.Finite ∧ ∃ transported canonical,
    NormalizeTransportDouble (some largest) = .ok (some transported) ∧ transported.Finite
      ∧ DoubleCanonical (some largest) = .ok (some canonical)
      ∧ DoubleCanonical (some transported) = .ok (some canonical) := by
  have hfinite : largest.Finite := by decide
  obtain ⟨transported, hnormal, hown, -, canonical, hcanonical, hnear⟩ := transport_stable largest hfinite
  exact ⟨hfinite, transported, canonical, hnormal, hown, hcanonical, hnear transported hown (by simp)⟩

end revit_operator.dynamic_revit_sdk
