import AlicatBasis2.FloatingPoint.Arithmetic
import AlicatBasis2.Operations.Measurement
import AlicatBasis2.Operations.Totality
import Mathlib.Tactic.NormNum
import Mathlib.Tactic.IntervalCases

/-! # The driver in single precision

A `float` is an IEEE 754 binary32 number, every operation rounds to nearest, and the driver computes with
nothing else. Its readings are the exact ones up to a relative error and in the same order; what it sends is
the truncation of a rounded product, which loses a unit for some decimal arguments. -/

namespace AlicatBasis2

open FloatingPoint

/-- `float`, which is IEEE 754 binary32. -/
abbrev Binary32 : Type := Binary binary32

/-- The operations on `float`s. A conversion to an integer type is undefined for what is no number. -/
instance : FloatArith Binary32 where
  literal q := .ofRat false q
  ofInt n := .ofRat false n
  mul := .mul
  div := .div
  lt := Binary.lt
  toInt32 x := x.toRat.bind FloatArith.toInt32
  toUInt16 x := x.toRat.bind FloatArith.toUInt16

namespace Driver

/-! ## Rounding of the driver's numbers -/

/-- Numbers `|q| ≤ 2 ^ 127` stay in range. -/
theorem inRange {q : ℚ} (h : |q| ≤ 2 ^ 127) : binary32.InRange q :=
  binary32.inRange_of_abs_le (by exact_mod_cast h)

/-- Whole numbers below `2 ^ 24` are binary32 numbers: `rnd n = n`. -/
theorem rnd_intCast {n : ℤ} (hn : |n| < 2 ^ 24) : binary32.rnd n = n :=
  binary32.rnd_of_representable (binary32.representable_intCast (by decide) hn)

/-- Rounding does not cross a power of two: `|q| ≤ 2 ^ e` gives `|rnd q| ≤ 2 ^ e`. -/
theorem abs_rnd_le_twoPow {q : ℚ} {e : ℕ} (h : |q| ≤ 2 ^ e) : |binary32.rnd q| ≤ 2 ^ e := by
  have hleast : (-149 : ℤ) ≤ e := (by decide : (-149 : ℤ) ≤ 0).trans e.cast_nonneg
  have hrep : binary32.Representable (2 ^ e) := ⟨1, e, by decide, hleast, by simp⟩
  have hrep' : binary32.Representable (-2 ^ e) := ⟨-1, e, by decide, hleast, by simp⟩
  obtain ⟨hlow, hhigh⟩ := abs_le.mp h
  exact abs_le.mpr ⟨binary32.le_rnd hrep' hlow, binary32.rnd_le hrep hhigh⟩

/-- The relative error of one rounding: `|rnd x - x| ≤ |x| * 2 ^ (-24)`, for zero and from `2 ^ (-126)` on. -/
theorem near_rnd {x : ℚ} (h : x = 0 ∨ 2 ^ (-126 : ℤ) ≤ |x|) :
    Near (2 ^ (-24 : ℤ)) (binary32.rnd x) x :=
  binary32.near_rnd h

/-- A whole number `n ≠ 0` keeps a magnitude of one at least: `1 ≤ |rnd n|`. -/
theorem one_le_abs_rnd {n : ℤ} (hn : n ≠ 0) : 1 ≤ |binary32.rnd n| := by
  have hone : binary32.Representable ((1 : ℤ) : ℚ) := binary32.representable_intCast (by decide) (by decide)
  have hone' : binary32.Representable ((-1 : ℤ) : ℚ) :=
    binary32.representable_intCast (by decide) (by decide)
  rcases hn.lt_or_gt with hneg | hpos
  · have hle : binary32.rnd n ≤ ((-1 : ℤ) : ℚ) := binary32.rnd_le hone' (by exact_mod_cast Int.le_sub_one_of_lt hneg)
    rw [le_abs]
    right
    push_cast at hle
    linarith
  · have hle : ((1 : ℤ) : ℚ) ≤ binary32.rnd n := binary32.le_rnd hone (by exact_mod_cast hpos)
    rw [le_abs]
    left
    exact_mod_cast hle

/-- A 32-bit integer converts to a number: `(float)n` is `rnd n`. -/
theorem toRat_ofInt {n : ℤ} (hn : |n| ≤ 2 ^ 31) :
    (FloatArith.ofInt n : Binary32).toRat = some (binary32.rnd n) := by
  refine Binary.toRat_ofRat (inRange ?_) _
  calc |(n : ℚ)| ≤ 2 ^ 31 := by exact_mod_cast hn
    _ ≤ 2 ^ 127 := by norm_num

/-- `|raw| ≤ 2 ^ 31` for a signed 32-bit register pair. -/
theorem abs_toInt_le (raw : U32) : |raw.toInt| ≤ 2 ^ 31 := by
  have hlow := BitVec.le_toInt raw
  have hhigh := BitVec.toInt_lt (x := raw)
  rw [abs_le]
  omega

/-- A rounded 32-bit integer is no larger than `2 ^ 31`: `|rnd raw| ≤ 2 ^ 31`. -/
theorem abs_rnd_toInt_le (raw : U32) : |binary32.rnd raw.toInt| ≤ 2 ^ 31 := by
  refine abs_rnd_le_twoPow ?_
  exact_mod_cast abs_toInt_le raw

/-! ## Powers of ten -/

/-- The loop of `Pow10`, from its end: `10 ^ (n + 1)` is computed as `10 ^ n * 10`. -/
theorem pow10_succ {F : Type} [FloatArith F] (n : ℕ) :
    (pow10 (n + 1) : F) = FloatArith.mul (pow10 n) (FloatArith.literal 10) := by
  rw [pow10, pow10, List.range_succ, List.foldl_append]
  rfl

/-- A literal below `2 ^ 24` is exact: `(n : float) = n`. -/
theorem toRat_literal {n : ℤ} (hn : |n| < 2 ^ 24) :
    (FloatArith.literal (n : ℚ) : Binary32).toRat = some (n : ℚ) := by
  refine (Binary.toRat_ofRat (inRange ?_) _).trans (congrArg some (rnd_intCast hn))
  calc |(n : ℚ)| ≤ 2 ^ 24 := by exact_mod_cast hn.le
    _ ≤ 2 ^ 127 := by norm_num

/-- `1.0f` is `1`. -/
theorem toRat_one : (pow10 0 : Binary32).toRat = some 1 := toRat_literal (n := 1) (by decide)

/-- `10.0f` is `10`. -/
theorem toRat_ten : (FloatArith.literal 10 : Binary32).toRat = some 10 := toRat_literal (n := 10) (by decide)

/-- Powers of ten up to the tenth are exact: `10 ^ n = 5 ^ n * 2 ^ n` with `5 ^ n < 2 ^ 24`. -/
theorem toRat_pow10 {n : ℕ} (hn : n ≤ 10) : (pow10 n : Binary32).toRat = some (10 ^ n) := by
  induction n with
  | zero => exact toRat_one
  | succ n ih =>
    have hrep : binary32.Representable (10 ^ n * 10) := by
      refine ⟨5 ^ (n + 1), (n + 1 : ℕ), ?_, ?_, ?_⟩
      · rw [abs_of_nonneg (by positivity)]
        calc (5 : ℤ) ^ (n + 1) ≤ 5 ^ 10 := pow_le_pow_right₀ (by norm_num) hn
          _ < 2 ^ 24 := by norm_num
      · exact (show (-149 : ℤ) ≤ 0 by decide).trans (Int.natCast_nonneg _)
      · rw [zpow_natCast, ← pow_succ]
        push_cast
        rw [← mul_pow]
        norm_num
    have hsmall : |(10 : ℚ) ^ n * 10| ≤ 2 ^ 127 := by
      rw [abs_of_nonneg (by positivity), ← pow_succ]
      calc (10 : ℚ) ^ (n + 1) ≤ 10 ^ 10 := pow_le_pow_right₀ (by norm_num) hn
        _ ≤ 2 ^ 127 := by norm_num
    rw [pow10_succ, pow_succ, ← binary32.rnd_of_representable hrep]
    exact Binary.toRat_mul (ih (by omega)) toRat_ten (inRange hsmall)

/-- Every power of ten is a number `p ≥ 1`, or `+∞`. -/
theorem pow10_cases (n : ℕ) :
    (∃ p : ℚ, (pow10 n : Binary32).toRat = some p ∧ 1 ≤ p) ∨ (pow10 n : Binary32) = .infinity false := by
  obtain ⟨t, ht, hlit⟩ := Binary.toRat_eq_some toRat_ten
  induction n with
  | zero =>
    left
    exact ⟨1, toRat_one, le_rfl⟩
  | succ n ih =>
    rw [pow10_succ]
    rcases ih with ⟨p, hp, hone⟩ | hinf
    · by_cases hrange : binary32.InRange (p * 10)
      · left
        refine ⟨_, Binary.toRat_mul hp toRat_ten hrange, ?_⟩
        have hrep : binary32.Representable 1 := by
          simpa using binary32.representable_intCast (n := 1) (by decide) (by decide)
        exact binary32.le_rnd hrep (by linarith)
      · right
        obtain ⟨s, hs, hpow⟩ := Binary.toRat_eq_some hp
        rw [hpow, hlit]
        exact (Binary.ofRat_of_not_inRange hrange _).trans (by simp; linarith)
    · right
      have hsign : t = false := by
        have hten := ht.sign
        cases t with
        | false => rfl
        | true => norm_num at hten
      rw [hinf, hlit]
      simp [FloatArith.mul, Binary.mul, hsign]

/-- Ten decimals stay far from the subnormal numbers: `2 ^ (-126) * 10 ^ d ≤ 1` for `d ≤ 10`. -/
theorem twoPow_mul_tenPow_le_one {d : ℕ} (hd : d ≤ 10) : (2 : ℚ) ^ (-126 : ℤ) * 10 ^ d ≤ 1 :=
  calc (2 : ℚ) ^ (-126 : ℤ) * 10 ^ d ≤ 2 ^ (-126 : ℤ) * 10 ^ 10 :=
        mul_le_mul_of_nonneg_left (pow_le_pow_right₀ (by norm_num) hd) (by positivity)
    _ ≤ 1 := by norm_num

/-- The relative error of rounding a decimal `k / 10 ^ d`, for `d ≤ 10`. -/
theorem near_rnd_div_tenPow (k : ℤ) {d : ℕ} (hd : d ≤ 10) :
    Near (2 ^ (-24 : ℤ)) (binary32.rnd (k / 10 ^ d)) (k / 10 ^ d) := by
  refine near_rnd ?_
  rcases eq_or_ne k 0 with rfl | hne
  · left
    simp
  · right
    have hten : (0 : ℚ) < 10 ^ d := by positivity
    rw [abs_div, abs_of_pos hten, le_div_iff₀ hten]
    exact (twoPow_mul_tenPow_le_one hd).trans (by exact_mod_cast Int.one_le_abs hne)

/-! ## Scaled registers -/

/-- With `d` decimals every register is `rnd (rnd raw / p)` for one `p ≥ 1`, or every register is `0`. -/
theorem scaleFlow_cases (d : U8) :
    (∃ p : ℚ, 1 ≤ p ∧ ∀ raw : U32,
        (scaleFlow raw d : Binary32).toRat = some (binary32.rnd (binary32.rnd raw.toInt / p)))
      ∨ ∀ raw : U32, (scaleFlow raw d : Binary32).toRat = some 0 := by
  rcases pow10_cases d.toNat with ⟨p, hp, hone⟩ | hinf
  · left
    refine ⟨p, hone, fun raw => ?_⟩
    have hpos : 0 < p := by linarith
    refine Binary.toRat_div (toRat_ofInt (abs_toInt_le raw)) hp hpos.ne' (inRange ?_)
    rw [abs_div, abs_of_pos hpos]
    calc |binary32.rnd raw.toInt| / p ≤ |binary32.rnd raw.toInt| := div_le_self (abs_nonneg _) hone
      _ ≤ 2 ^ 31 := abs_rnd_toInt_le raw
      _ ≤ 2 ^ 127 := by norm_num
  · right
    intro raw
    obtain ⟨s, hs, hraw⟩ := Binary.toRat_eq_some (toRat_ofInt (abs_toInt_le raw))
    rw [scaleFlow, hraw, hinf]
    rfl

/-- With `d ≤ 10` decimals the power of ten is the exact one: `ScaleFlow` is `rnd (rnd raw / 10 ^ d)`. -/
theorem toRat_scaleFlow (raw : U32) {d : U8} (hd : d.toNat ≤ 10) :
    (scaleFlow raw d : Binary32).toRat
      = some (binary32.rnd (binary32.rnd raw.toInt / 10 ^ d.toNat)) := by
  have hone : (1 : ℚ) ≤ 10 ^ d.toNat := one_le_pow₀ (by norm_num)
  have hpos : (0 : ℚ) < 10 ^ d.toNat := by positivity
  refine Binary.toRat_div (toRat_ofInt (abs_toInt_le raw)) (toRat_pow10 hd) hpos.ne' (inRange ?_)
  rw [abs_div, abs_of_pos hpos]
  calc |binary32.rnd raw.toInt| / 10 ^ d.toNat
      ≤ |binary32.rnd raw.toInt| := div_le_self (abs_nonneg _) hone
    _ ≤ 2 ^ 31 := abs_rnd_toInt_le raw
    _ ≤ 2 ^ 127 := by norm_num

/-- `0.01f`, which is `rnd (1 / 100)`. -/
def hundredth : ℚ := binary32.rnd (1 / 100)

/-- `0.01f` is a hundredth up to a relative error of `2 ^ (-24)`. -/
theorem near_hundredth : Near (2 ^ (-24 : ℤ)) hundredth (1 / 100) :=
  near_rnd (Or.inr (by rw [abs_of_pos (by norm_num)]; norm_num))

/-- `2 ^ (-7) ≤ 0.01f`. -/
theorem hundredth_ge : 2 ^ (-7 : ℤ) ≤ hundredth :=
  binary32.le_rnd ⟨1, -7, by decide, by decide, by norm_num⟩ (by norm_num)

/-- `0.01f ≤ 2 ^ (-6)`. -/
theorem hundredth_le : hundredth ≤ 2 ^ (-6 : ℤ) :=
  binary32.rnd_le ⟨1, -6, by decide, by decide, by norm_num⟩ (by norm_num)

/-- `|raw| ≤ 2 ^ 15` for a signed 16-bit register. -/
theorem abs_toInt16_le (raw : U16) : |raw.toInt| ≤ 2 ^ 15 := by
  have hlow := BitVec.le_toInt raw
  have hhigh := BitVec.toInt_lt (x := raw)
  rw [abs_le]
  omega

/-- A 16-bit register in hundredths is one multiplication: `rnd (raw * 0.01f)`. -/
theorem toRat_hundredths (raw : U16) :
    (hundredths raw : Binary32).toRat = some (binary32.rnd (raw.toInt * hundredth)) := by
  have hle := abs_toInt16_le raw
  have hraw : (FloatArith.ofInt raw.toInt : Binary32).toRat = some (raw.toInt : ℚ) := by
    rw [toRat_ofInt (hle.trans (by norm_num)), rnd_intCast (hle.trans_lt (by norm_num))]
  have hliteral : (FloatArith.literal (1 / 100) : Binary32).toRat = some hundredth :=
    Binary.toRat_ofRat (inRange (by rw [abs_of_pos (by norm_num)]; norm_num)) _
  refine Binary.toRat_mul hraw hliteral (inRange ?_)
  have hpos : 0 ≤ hundredth := le_trans (by positivity) hundredth_ge
  rw [abs_mul, abs_of_nonneg hpos]
  calc |(raw.toInt : ℚ)| * hundredth ≤ 2 ^ 15 * 2 ^ (-6 : ℤ) :=
        mul_le_mul (by exact_mod_cast hle) hundredth_le hpos (by norm_num)
    _ ≤ 2 ^ 127 := by norm_num

/-! ## The readings against exact arithmetic -/

/-- A `float` that is the exact `q` up to a relative error: `|x - q| ≤ |q| * 2 ^ (-22)`. -/
def Reads (x : Binary32) (q : ℚ) : Prop := ∃ y, x.toRat = some y ∧ Near (2 ^ (-22 : ℤ)) y q

/-- Two relative errors of `2 ^ (-24)` in a row are within one of `2 ^ (-22)`. -/
theorem near_of_near_of_near {y a q : ℚ} (h : Near (2 ^ (-24 : ℤ)) y a) (h' : Near (2 ^ (-24 : ℤ)) a q) :
    Near (2 ^ (-22 : ℤ)) y q :=
  (h.trans h' (by positivity)).mono (by norm_num)

/-- `0.0f` reads as `0`. -/
theorem reads_zero : Reads (FloatArith.literal 0) 0 :=
  ⟨0, toRat_literal (n := 0) (by decide), Near.rfl (by positivity)⟩

/-- A scaled register reads as the exact `raw / 10 ^ d`, for `d ≤ 10`. -/
theorem reads_scaleFlow (raw : U32) {d : U8} (hd : d.toNat ≤ 10) :
    Reads (scaleFlow raw d) (scaleFlow raw d) := by
  refine ⟨_, toRat_scaleFlow raw hd, ?_⟩
  rw [scaleFlow_eq]
  have hint : Near (2 ^ (-24 : ℤ)) (binary32.rnd raw.toInt) raw.toInt := by
    simpa using near_rnd_div_tenPow raw.toInt (Nat.zero_le 10)
  refine near_of_near_of_near (near_rnd ?_) (hint.div_right _)
  rcases eq_or_ne raw.toInt 0 with hzero | hne
  · left
    simp [hzero]
  · right
    have hpos : (0 : ℚ) < 10 ^ d.toNat := by positivity
    rw [abs_div, abs_of_pos hpos, le_div_iff₀ hpos]
    exact (twoPow_mul_tenPow_le_one hd).trans (one_le_abs_rnd hne)

/-- A register in hundredths reads as the exact `raw / 100`. -/
theorem reads_hundredths (raw : U16) : Reads (hundredths raw) (hundredths raw) := by
  refine ⟨_, toRat_hundredths raw, ?_⟩
  rw [hundredths_eq, div_eq_mul_one_div, mul_comm _ (1 / 100 : ℚ)]
  rw [mul_comm _ hundredth]
  refine near_of_near_of_near (near_rnd ?_) (near_hundredth.mul_right _)
  rcases eq_or_ne raw.toInt 0 with hzero | hne
  · left
    simp [hzero]
  · right
    have hone : (1 : ℚ) ≤ |(raw.toInt : ℚ)| := by exact_mod_cast Int.one_le_abs hne
    have hlow := hundredth_ge
    rw [abs_mul, abs_of_nonneg (le_trans (by positivity) hlow)]
    calc (2 : ℚ) ^ (-126 : ℤ) ≤ 2 ^ (-7 : ℤ) := by norm_num
      _ ≤ hundredth := hlow
      _ ≤ hundredth * |(raw.toInt : ℚ)| := le_mul_of_one_le_right (le_trans (by positivity) hlow) hone

end Driver

end AlicatBasis2
