import Mathlib.Data.BitVec
import Mathlib.Tactic.Ring

/-! Rounding of naturals to a multiple of a quantum, ties to the even multiple, and
    the masks of a machine word that compute it. -/

namespace half_even

/-- The nearest multiple of the quantum; of two equally near ones the even one. -/
def round (quantum m : Nat) : Nat :=
  if quantum < 2 * (m % quantum) ∨ 2 * (m % quantum) = quantum ∧ m / quantum % 2 = 1 then
    m / quantum * quantum + quantum
  else m / quantum * quantum

/-- The same below a limit: what would round up to the limit is cut off. -/
def roundBelow (limit quantum m : Nat) : Nat :=
  if limit ≤ round quantum m then m / quantum * quantum else round quantum m

theorem dvd_round (quantum m : Nat) : quantum ∣ round quantum m := by
  rw [round]
  split_ifs
  · exact (Nat.dvd_add_right (Nat.dvd_mul_left _ _)).2 dvd_rfl
  · exact Nat.dvd_mul_left _ _

theorem dvd_roundBelow (limit quantum m : Nat) : quantum ∣ roundBelow limit quantum m := by
  rw [roundBelow]
  split_ifs
  · exact Nat.dvd_mul_left _ _
  · exact dvd_round quantum m

theorem round_le (quantum m : Nat) : round quantum m ≤ m / quantum * quantum + quantum := by
  rw [round]
  split_ifs <;> omega

theorem roundBelow_lt {limit quantum m : Nat} (h : m < limit) : roundBelow limit quantum m < limit := by
  have hcut := Nat.div_mul_le_self m quantum
  rw [roundBelow]
  split_ifs with hround <;> omega

theorem round_eq_of_near {quantum n x : Nat} (hdvd : quantum ∣ n) (habove : 2 * x < 2 * n + quantum)
    (hbelow : 2 * n < 2 * x + quantum) : round quantum x = n := by
  obtain ⟨k, rfl⟩ := hdvd
  have hpos : 0 < quantum := by
    by_contra hzero
    obtain rfl : quantum = 0 := by omega
    simp only [Nat.zero_mul] at habove hbelow
    omega
  obtain hlt | hle := Nat.lt_or_ge x (quantum * k)
  · obtain ⟨rest, hrest⟩ : ∃ rest, quantum * k = x + rest := ⟨quantum * k - x, by omega⟩
    obtain ⟨j, rfl⟩ : ∃ j, k = j + 1 := Nat.exists_eq_succ_of_ne_zero fun hzero => by
      subst hzero
      omega
    have hnext : quantum * (j + 1) = quantum * j + quantum := by ring
    have hx : x = quantum * j + (quantum - rest) := by omega
    have hsmall : quantum - rest < quantum := by omega
    rw [round, hx, Nat.mul_add_mod, Nat.mod_eq_of_lt hsmall, Nat.mul_add_div hpos, Nat.div_eq_of_lt hsmall,
      Nat.add_zero, if_pos (by omega)]
    ring
  · obtain ⟨rest, rfl⟩ := Nat.exists_eq_add_of_le hle
    have hrest : rest < quantum := by omega
    rw [round, Nat.mul_add_mod, Nat.mod_eq_of_lt hrest, Nat.mul_add_div hpos, Nat.div_eq_of_lt hrest, Nat.add_zero,
      if_neg (by omega), Nat.mul_comm]

theorem roundBelow_eq_of_near {limit quantum n x : Nat} (hdvd : quantum ∣ n) (hlimit : n < limit)
    (habove : 2 * x < 2 * n + quantum) (hbelow : 2 * n < 2 * x + quantum) : roundBelow limit quantum x = n := by
  rw [roundBelow, round_eq_of_near hdvd habove hbelow, if_neg (by omega)]

theorem roundBelow_of_dvd {limit quantum n : Nat} (hpos : 0 < quantum) (hdvd : quantum ∣ n) (hlimit : n < limit) :
    roundBelow limit quantum n = n :=
  roundBelow_eq_of_near hdvd hlimit (by omega) (by omega)

section words

variable {w : Nat} (x : BitVec w) {k : Nat}

theorem toNat_lowMask (hk : k < w) : (1#w <<< k - 1#w).toNat = 2 ^ k - 1 := by
  have hlt : 2 ^ k < 2 ^ w := Nat.pow_lt_pow_right (by decide) hk
  have hone : 1 ≤ 2 ^ k := Nat.one_le_two_pow
  have hbit : (1#w).toNat = 1 := BitVec.toNat_one (by omega)
  rw [BitVec.toNat_sub, BitVec.toNat_shiftLeft, hbit, Nat.one_shiftLeft, Nat.mod_eq_of_lt hlt,
    show 2 ^ w - 1 + 2 ^ k = 2 ^ k - 1 + 2 ^ w by omega, Nat.add_mod_right, Nat.mod_eq_of_lt (by omega)]

theorem toNat_and_lowMask (hk : k < w) : (x &&& (1#w <<< k - 1#w)).toNat = x.toNat % 2 ^ k := by
  rw [BitVec.toNat_and, toNat_lowMask hk, Nat.and_two_pow_sub_one_eq_mod]

theorem toNat_and_not_lowMask (hk : k < w) : (x &&& ~~~(1#w <<< k - 1#w)).toNat = x.toNat / 2 ^ k * 2 ^ k := by
  have hshift : x &&& ~~~(1#w <<< k - 1#w) = (x >>> k) <<< k := by
    refine BitVec.eq_of_getLsbD_eq fun i hi => ?_
    have hmask : (1#w <<< k - 1#w).getLsbD i = decide (i < k) := by
      rw [BitVec.getLsbD, toNat_lowMask hk, Nat.testBit_two_pow_sub_one]
    simp only [BitVec.getLsbD_and, BitVec.getLsbD_not, hmask, BitVec.getLsbD_shiftLeft, BitVec.getLsbD_ushiftRight,
      hi, decide_true, Bool.true_and]
    by_cases hlow : i < k
    · simp [hlow]
    · simp only [hlow, decide_false, Bool.not_false, Bool.and_true, Bool.true_and]
      rw [Nat.add_sub_cancel' (by omega)]
  rw [hshift, BitVec.toNat_shiftLeft, BitVec.toNat_ushiftRight, Nat.shiftRight_eq_div_pow, Nat.shiftLeft_eq]
  exact Nat.mod_eq_of_lt (lt_of_le_of_lt (Nat.div_mul_le_self _ _) x.isLt)

end words

end half_even
