import AlicatBasis2.Model.Driver
import Mathlib.Tactic.Ring

/-! # Scaling in exact arithmetic

The readings of `Pow10`, `ScaleFlow` and the hundredths at the rationals, and of the integers they scale: a
16-bit word is signed, a pair of words is one 32-bit word whose sign `ScaleFlow` reads. -/

namespace AlicatBasis2.Driver

/-- `Pow10(n)` is the power of ten. -/
theorem pow10_eq (n : ℕ) : (pow10 n : ℚ) = 10 ^ n := by
  induction n with
  | zero => rfl
  | succ n ih =>
    have hstep : (pow10 (n + 1) : ℚ) = FloatArith.mul (pow10 n) (FloatArith.literal 10) := by
      rw [pow10, pow10, List.range_succ, List.foldl_append]
      rfl
    have hmul : FloatArith.mul (pow10 n : ℚ) (FloatArith.literal 10) = pow10 n * 10 := rfl
    rw [hstep, hmul, ih, pow_succ]

/-- `ScaleFlow(raw, decimals)` divides the signed value by the power of ten. -/
theorem scaleFlow_eq (raw : U32) (decimals : U8) :
    (scaleFlow raw decimals : ℚ) = raw.toInt / 10 ^ decimals.toNat := by
  have hdiv : (scaleFlow raw decimals : ℚ) = raw.toInt / pow10 decimals.toNat := rfl
  rw [hdiv, pow10_eq]

/-- Hundredths of a signed word. -/
theorem hundredths_eq (raw : U16) : (hundredths raw : ℚ) = raw.toInt / 100 := by
  have hmul : (hundredths raw : ℚ) = raw.toInt * (1 / 100) := rfl
  rw [hmul, mul_one_div]

/-- A sign-extended word keeps its value. -/
theorem toInt_signExtend (w : U16) : (w.signExtend 32).toInt = w.toInt :=
  BitVec.toInt_signExtend_of_le (Nat.le_add_left 16 16)

/-- A pair of words, high word first, as a number. -/
theorem toNat_joinWords (high low : U16) :
    (joinWords high low).toNat = 65536 * high.toNat + low.toNat := by
  have hhigh : (high.setWidth 32).toNat = high.toNat :=
    BitVec.toNat_setWidth_of_le (Nat.le_add_left 16 16)
  have hlow : (low.setWidth 32).toNat = low.toNat :=
    BitVec.toNat_setWidth_of_le (Nat.le_add_left 16 16)
  have hlt : low.toNat < 2 ^ 16 := low.isLt
  have hfit : high.toNat * 2 ^ 16 < 2 ^ 32 := by
    have := high.isLt
    omega
  rw [joinWords, BitVec.toNat_or, BitVec.toNat_shiftLeft, hhigh, hlow, Nat.shiftLeft_eq,
    Nat.mod_eq_of_lt hfit, ← Nat.shiftLeft_eq, ← Nat.shiftLeft_add_eq_or_of_lt hlt, Nat.shiftLeft_eq]
  omega

/-- A pair of words determines both. -/
theorem joinWords_inj {high low high' low' : U16} :
    joinWords high low = joinWords high' low' ↔ high = high' ∧ low = low' := by
  constructor
  · intro h
    have hnat := congrArg BitVec.toNat h
    rw [toNat_joinWords, toNat_joinWords] at hnat
    have hlow := low.isLt
    have hlow' := low'.isLt
    exact ⟨BitVec.eq_of_toNat_eq (by omega), BitVec.eq_of_toNat_eq (by omega)⟩
  · rintro ⟨rfl, rfl⟩
    rfl

/-- A 32-bit word is read with its sign, which changes nothing exactly below `2^31`. -/
theorem toInt_eq_toNat_iff (v : U32) : v.toInt = v.toNat ↔ v.toNat < 2 ^ 31 := by
  have hlt := v.isLt
  rw [BitVec.toInt_eq_toNat_cond]
  split_ifs with hsmall
  · exact iff_of_true rfl (by omega)
  · exact iff_of_false (by omega) (by omega)

/-- A scaled 32-bit word is its unsigned value scaled exactly below `2^31`. -/
theorem scaleFlow_eq_toNat_iff (raw : U32) (decimals : U8) :
    (scaleFlow raw decimals : ℚ) = (raw.toNat : ℚ) / 10 ^ decimals.toNat ↔ raw.toNat < 2 ^ 31 := by
  have hpow : (10 : ℚ) ^ decimals.toNat ≠ 0 := pow_ne_zero _ (by norm_num)
  rw [scaleFlow_eq, div_left_inj' hpow, ← toInt_eq_toNat_iff]
  exact_mod_cast Iff.rfl

end AlicatBasis2.Driver
