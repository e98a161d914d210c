import Mathlib.Algebra.Order.Field.Power
import Mathlib.Data.Int.Log
import Mathlib.Data.Rat.Floor
import Mathlib.Tactic.FieldSimp
import Mathlib.Tactic.Linarith
import Mathlib.Tactic.Positivity

/-! # Rounding to a binary floating-point format

A format has a precision and a least exponent: its numbers are the integers of at most so many bits times a
power of two from the least exponent on. A rational number is rounded to the nearest of them, ties to even, by
rounding a multiple of the unit in its last place. Rounding fixes the numbers of the format, keeps signs, errs
by half a unit at most, and above the least normal number by a relative error of half the precision's unit.
Nothing here bounds the exponents from above. -/

namespace FloatingPoint

/-! ## The nearest integer, ties to even -/

/-- The nearest integer to `q`, which is `⌊q⌋` or `⌊q⌋ + 1`; of two as near, the even one. -/
def nearestEven (q : ℚ) : ℤ :=
  if q - ⌊q⌋ < 1 / 2 then ⌊q⌋
  else if 1 / 2 < q - ⌊q⌋ then ⌊q⌋ + 1
  else if ⌊q⌋ % 2 = 0 then ⌊q⌋ else ⌊q⌋ + 1

/-- The nearest integer is within a half: `|nearestEven q - q| ≤ 1 / 2`. -/
theorem abs_nearestEven_sub_le (q : ℚ) : |(nearestEven q : ℚ) - q| ≤ 1 / 2 := by
  have hfloor := Int.floor_le q
  have hlt := Int.lt_floor_add_one q
  unfold nearestEven
  split_ifs <;> rw [abs_le] <;> push_cast <;> constructor <;> linarith

/-- No integer is nearer: `|nearestEven q - q| ≤ |k - q|`. -/
theorem abs_nearestEven_sub_le_abs (q : ℚ) (k : ℤ) : |(nearestEven q : ℚ) - q| ≤ |(k : ℚ) - q| := by
  rcases eq_or_ne (nearestEven q) k with rfl | hne
  · rfl
  · -- two integers are at least one apart, and the nearest is within a half
    have hone : (1 : ℚ) ≤ |(nearestEven q : ℚ) - k| := by
      exact_mod_cast Int.one_le_abs (sub_ne_zero.mpr hne)
    have htriangle := abs_sub_le (nearestEven q : ℚ) q k
    rw [abs_sub_comm q] at htriangle
    linarith [abs_nearestEven_sub_le q]

/-- An integer is its own nearest: `nearestEven n = n`. -/
@[simp] theorem nearestEven_intCast (n : ℤ) : nearestEven n = n := by
  simp [nearestEven]

/-- A bound that is an integer stays one: `|q| ≤ n` gives `|nearestEven q| ≤ n`. -/
theorem abs_nearestEven_le {q : ℚ} {n : ℕ} (h : |q| ≤ n) : |nearestEven q| ≤ n := by
  have hclose := abs_le.mp (abs_nearestEven_sub_le q)
  obtain ⟨hlow, hhigh⟩ := abs_le.mp h
  have hupper : (nearestEven q : ℚ) < n + 1 := by linarith [hclose.2]
  have hlower : -(n + 1 : ℚ) < nearestEven q := by linarith [hclose.1]
  rw [abs_le]
  constructor
  · have : -((n : ℤ) + 1) < nearestEven q := by exact_mod_cast hlower
    omega
  · have : nearestEven q < (n : ℤ) + 1 := by exact_mod_cast hupper
    omega

/-! ## Formats -/

/-- A binary format: the bits of a significand (`precision`), the exponent of its least significant bit at its
least (`least`), and the power of two below which the magnitudes stay (`top`). -/
structure Format where
  precision : ℕ
  least : ℤ
  top : ℤ
  precision_pos : 0 < precision
  least_add_le : least + precision ≤ top

/-- IEEE 754 binary32: 24 bits, units of `2 ^ (-149)` or more, magnitudes below `2 ^ 128`. -/
def binary32 : Format := ⟨24, -149, 128, by decide, by decide⟩

namespace Format

variable (fmt : Format)

/-- `x = m * 2 ^ e` with `|m| < 2 ^ precision` and `least ≤ e`. -/
def Representable (x : ℚ) : Prop :=
  ∃ (m : ℤ) (e : ℤ), |m| < 2 ^ fmt.precision ∧ fmt.least ≤ e ∧ x = m * 2 ^ e

/-- The exponent of the unit in the last place: `⌊log₂ |x|⌋ + 1 - precision`, but at least `least`. -/
def unitExponent (x : ℚ) : ℤ := max (Int.log 2 |x| + 1 - fmt.precision) fmt.least

/-- The nearest number of the format, ties to even: the nearest integer to `x / u`, times the unit `u = 2 ^
unitExponent x`. -/
def rnd (x : ℚ) : ℚ := nearestEven (x / 2 ^ fmt.unitExponent x) * 2 ^ fmt.unitExponent x

/-- `rnd 0 = 0`. -/
@[simp] theorem rnd_zero : fmt.rnd 0 = 0 := by
  have hzero : nearestEven 0 = 0 := nearestEven_intCast 0
  simp [rnd, hzero]

/-- The unit in the last place is `2 ^ least` or more. -/
theorem least_le_unitExponent (x : ℚ) : fmt.least ≤ fmt.unitExponent x := le_max_right _ _

/-- A number is less than `2 ^ precision` units: `|x / u| < 2 ^ precision`. -/
theorem abs_div_lt (x : ℚ) : |x / 2 ^ fmt.unitExponent x| < 2 ^ fmt.precision := by
  have hlog : |x| < (2 : ℚ) ^ (Int.log 2 |x| + 1) := by
    exact_mod_cast Int.lt_zpow_succ_log_self (b := 2) (by decide) |x|
  have hpow : (2 : ℚ) ^ (Int.log 2 |x| + 1) ≤ 2 ^ ((fmt.precision : ℤ) + fmt.unitExponent x) := by
    refine zpow_le_zpow_right₀ (by norm_num) ?_
    have := le_max_left (Int.log 2 |x| + 1 - fmt.precision) fmt.least
    unfold unitExponent
    omega
  have hunit : (0 : ℚ) < 2 ^ fmt.unitExponent x := by positivity
  rw [abs_div, abs_of_pos hunit, div_lt_iff₀ hunit]
  calc |x| < 2 ^ ((fmt.precision : ℤ) + fmt.unitExponent x) := hlog.trans_le hpow
    _ = 2 ^ fmt.precision * 2 ^ fmt.unitExponent x := by rw [zpow_add₀ (by norm_num), zpow_natCast]

/-- **Rounding gives numbers of the format**: `rnd x` is representable. -/
theorem representable_rnd (x : ℚ) : fmt.Representable (fmt.rnd x) := by
  have hle : |nearestEven (x / 2 ^ fmt.unitExponent x)| ≤ (2 ^ fmt.precision : ℕ) :=
    abs_nearestEven_le (by exact_mod_cast (fmt.abs_div_lt x).le)
  have hleast := fmt.least_le_unitExponent x
  obtain ⟨k, hk⟩ := Nat.exists_eq_succ_of_ne_zero fmt.precision_pos.ne'
  rcases hle.lt_or_eq with hlt | heq
  · exact ⟨_, _, by exact_mod_cast hlt, hleast, rfl⟩
  · -- the significand has rounded up to a power of two, whose half has the next exponent
    have hpow : (2 : ℤ) ^ k < 2 ^ fmt.precision := by
      rw [hk]
      exact pow_lt_pow_right₀ (by norm_num) (Nat.lt_succ_self k)
    have hstep : (2 : ℚ) ^ (fmt.unitExponent x + 1) = 2 ^ fmt.unitExponent x * 2 :=
      zpow_add_one₀ (by norm_num) _
    rw [hk, Nat.pow_succ] at heq
    push_cast at heq
    rcases abs_eq (by positivity) |>.mp heq with hpos | hneg
    · refine ⟨2 ^ k, fmt.unitExponent x + 1, by rwa [abs_of_pos (by positivity)], by omega, ?_⟩
      rw [rnd, hpos, hstep]
      push_cast
      ring
    · refine ⟨-2 ^ k, fmt.unitExponent x + 1, by rwa [abs_neg, abs_of_pos (by positivity)], by omega, ?_⟩
      rw [rnd, hneg, hstep]
      push_cast
      ring

/-- A number whose exponent is no less than the unit's is a whole number of units: `m * 2 ^ e = k * u` for `u ≤
2 ^ e`. -/
theorem exists_units {x : ℚ} {m e : ℤ} (he : fmt.unitExponent x ≤ e) :
    ∃ k : ℤ, (m * 2 ^ e : ℚ) = k * 2 ^ fmt.unitExponent x := by
  obtain ⟨n, hn⟩ := Int.eq_ofNat_of_zero_le (sub_nonneg.mpr he)
  refine ⟨m * 2 ^ n, ?_⟩
  have hexp : e = n + fmt.unitExponent x := by omega
  rw [hexp, zpow_add₀ (by norm_num), zpow_natCast]
  push_cast
  ring

/-- No whole number of units is nearer than the rounded number: `|rnd x - x| ≤ |k * u - x|`. -/
theorem abs_rnd_sub_le_units (x : ℚ) (k : ℤ) :
    |fmt.rnd x - x| ≤ |k * 2 ^ fmt.unitExponent x - x| := by
  have hunit : (0 : ℚ) < 2 ^ fmt.unitExponent x := by positivity
  have hscale : ∀ n : ℤ, |n * 2 ^ fmt.unitExponent x - x|
      = |(n : ℚ) - x / 2 ^ fmt.unitExponent x| * 2 ^ fmt.unitExponent x := by
    intro n
    rw [← abs_of_pos hunit, ← abs_mul, abs_of_pos hunit, sub_mul, div_mul_cancel₀ _ hunit.ne']
  rw [rnd, hscale, hscale]
  exact mul_le_mul_of_nonneg_right (abs_nearestEven_sub_le_abs _ k) hunit.le

/-- Rounding errs by half a unit at most: `|rnd x - x| ≤ u / 2`. -/
theorem abs_rnd_sub_le (x : ℚ) : |fmt.rnd x - x| ≤ 2 ^ fmt.unitExponent x / 2 := by
  have hunit : (0 : ℚ) < 2 ^ fmt.unitExponent x := by positivity
  have hscale : |fmt.rnd x - x| = |(nearestEven (x / 2 ^ fmt.unitExponent x) : ℚ)
      - x / 2 ^ fmt.unitExponent x| * 2 ^ fmt.unitExponent x := by
    rw [rnd, ← abs_of_pos hunit, ← abs_mul, abs_of_pos hunit, sub_mul, div_mul_cancel₀ _ hunit.ne']
  rw [hscale]
  linarith [mul_le_mul_of_nonneg_right (abs_nearestEven_sub_le (x / 2 ^ fmt.unitExponent x)) hunit.le]

/-- The power of two that starts the exponent of `x` is a whole number of units, and no larger than `|x|`: `2 ^
(precision - 1) * u = k * u ≤ |x|`. -/
theorem exists_units_log {x : ℚ} (h : fmt.least < fmt.unitExponent x) (hx : x ≠ 0) :
    ∃ k : ℤ, (2 : ℚ) ^ (fmt.precision - 1 + fmt.unitExponent x) = k * 2 ^ fmt.unitExponent x
      ∧ (k : ℚ) * 2 ^ fmt.unitExponent x ≤ |x| := by
  have hunit : fmt.unitExponent x = Int.log 2 |x| + 1 - fmt.precision := by
    unfold unitExponent at h ⊢
    omega
  have hprecision := fmt.precision_pos
  obtain ⟨k, hk⟩ := fmt.exists_units (x := x) (m := 1) (e := fmt.precision - 1 + fmt.unitExponent x)
    (by omega)
  rw [Int.cast_one, one_mul] at hk
  refine ⟨k, hk, ?_⟩
  have hlog : (2 : ℚ) ^ Int.log 2 |x| ≤ |x| := by
    exact_mod_cast Int.zpow_log_le_self (b := 2) (by decide) (abs_pos.mpr hx)
  rwa [← hk, show (fmt.precision : ℤ) - 1 + fmt.unitExponent x = Int.log 2 |x| by omega]

/-- **Rounding gives the nearest number of the format**: `|rnd x - x| ≤ |y - x|` for every representable `y`. -/
theorem abs_rnd_sub_le_abs {x y : ℚ} (hy : fmt.Representable y) : |fmt.rnd x - x| ≤ |y - x| := by
  obtain ⟨m, e, hm, he, rfl⟩ := hy
  rcases le_or_gt (fmt.unitExponent x) e with hle | hlt
  · obtain ⟨k, hk⟩ := fmt.exists_units (m := m) hle
    rw [hk]
    exact fmt.abs_rnd_sub_le_units x k
  · -- a number with smaller units is nearer to zero than the power of two that starts the exponent of `x`
    rcases eq_or_ne x 0 with rfl | hx
    · rw [rnd_zero, sub_zero, abs_zero]
      exact abs_nonneg _
    obtain ⟨k, hk, hkx⟩ := fmt.exists_units_log (he.trans_lt hlt) hx
    have hsmall : |(m * 2 ^ e : ℚ)| < k * 2 ^ fmt.unitExponent x := by
      have hm' : |(m : ℚ)| < 2 ^ fmt.precision := by exact_mod_cast hm
      have hunit : (0 : ℚ) < 2 ^ e := by positivity
      rw [abs_mul, abs_of_pos hunit, ← hk]
      calc |(m : ℚ)| * 2 ^ e < 2 ^ fmt.precision * 2 ^ e := mul_lt_mul_of_pos_right hm' hunit
        _ = 2 ^ ((fmt.precision : ℤ) + e) := by rw [zpow_add₀ (by norm_num), zpow_natCast]
        _ ≤ 2 ^ (fmt.precision - 1 + fmt.unitExponent x) :=
          zpow_le_zpow_right₀ (by norm_num) (by omega)
    obtain ⟨hlow, hhigh⟩ := abs_lt.mp hsmall
    rcases abs_cases x with ⟨habs, -⟩ | ⟨habs, -⟩ <;> rw [habs] at hkx
    · refine (fmt.abs_rnd_sub_le_units x k).trans ?_
      rw [abs_of_nonpos (by linarith), abs_of_neg (by linarith)]
      linarith
    · refine (fmt.abs_rnd_sub_le_units x (-k)).trans ?_
      push_cast
      rw [abs_of_nonneg (by linarith), abs_of_pos (by linarith)]
      linarith

/-- Rounding fixes the numbers of the format: `rnd x = x` for a representable `x`. -/
theorem rnd_of_representable {x : ℚ} (h : fmt.Representable x) : fmt.rnd x = x := by
  have hnear := fmt.abs_rnd_sub_le_abs (x := x) h
  rw [sub_self, abs_zero] at hnear
  exact sub_eq_zero.mp (abs_nonpos_iff.mp hnear)

/-- **Rounding keeps the order**: `x ≤ y` gives `rnd x ≤ rnd y`. -/
theorem rnd_mono : Monotone fmt.rnd := by
  intro x y hxy
  by_contra hlt
  rcases hxy.lt_or_eq with hxy | rfl
  · -- otherwise both are at the midpoint of the two rounded numbers
    have hx := fmt.abs_rnd_sub_le_abs (x := x) (fmt.representable_rnd y)
    have hy := fmt.abs_rnd_sub_le_abs (x := y) (fmt.representable_rnd x)
    rcases abs_cases (fmt.rnd x - x) with h1 | h1 <;> rcases abs_cases (fmt.rnd y - x) with h2 | h2 <;>
      rcases abs_cases (fmt.rnd y - y) with h3 | h3 <;> rcases abs_cases (fmt.rnd x - y) with h4 | h4 <;>
      linarith
  · exact hlt le_rfl

/-- Rounding does not cross a number of the format from below: `x ≤ y` gives `rnd x ≤ y`. -/
theorem rnd_le {x y : ℚ} (hy : fmt.Representable y) (h : x ≤ y) : fmt.rnd x ≤ y :=
  (fmt.rnd_mono h).trans_eq (fmt.rnd_of_representable hy)

/-- Rounding does not cross a number of the format from above: `x ≤ y` gives `x ≤ rnd y`. -/
theorem le_rnd {x y : ℚ} (hx : fmt.Representable x) (h : x ≤ y) : x ≤ fmt.rnd y :=
  (fmt.rnd_of_representable hx).symm.trans_le (fmt.rnd_mono h)

/-- Whole numbers `|n| < 2 ^ precision` are numbers of a format with units of one or less. -/
theorem representable_intCast {n : ℤ} (hleast : fmt.least ≤ 0) (hn : |n| < 2 ^ fmt.precision) :
    fmt.Representable n :=
  ⟨n, 0, hn, hleast, by simp⟩

/-- `0 = 0 * 2 ^ least` is a number of every format. -/
theorem representable_zero : fmt.Representable 0 := ⟨0, fmt.least, by simp, le_rfl, by simp⟩

end Format

/-! ## Relative errors -/

/-- `y` is `q` up to a relative error `ε`: `|y - q| ≤ |q| * ε`. -/
def Near (ε y q : ℚ) : Prop := |y - q| ≤ |q| * ε

namespace Near

variable {ε δ y a q : ℚ}

/-- A number is itself up to any relative error `ε ≥ 0`. -/
theorem rfl (hε : 0 ≤ ε) : Near ε q q := by
  unfold Near
  rw [sub_self, abs_zero]
  exact mul_nonneg (abs_nonneg q) hε

/-- A relative error `ε` is one of `δ ≥ ε`. -/
theorem mono (h : Near ε y q) (hεδ : ε ≤ δ) : Near δ y q :=
  h.trans (mul_le_mul_of_nonneg_left hεδ (abs_nonneg q))

/-- A common factor keeps a relative error: from `y` near `q`, `y * c` near `q * c`. -/
theorem mul_right (h : Near ε y q) (c : ℚ) : Near ε (y * c) (q * c) := by
  unfold Near
  calc |y * c - q * c| = |y - q| * |c| := by rw [← sub_mul, abs_mul]
    _ ≤ |q| * ε * |c| := mul_le_mul_of_nonneg_right h (abs_nonneg c)
    _ = |q * c| * ε := by rw [abs_mul]; ring

/-- A common divisor keeps a relative error: from `y` near `q`, `y / c` near `q / c`. -/
theorem div_right (h : Near ε y q) (c : ℚ) : Near ε (y / c) (q / c) := by
  simpa [div_eq_mul_inv] using h.mul_right c⁻¹

/-- `|y| ≤ |q| * (1 + ε)`: a relative error bounds the magnitude. -/
theorem abs_le (h : Near ε y q) : |y| ≤ |q| * (1 + ε) := by
  have htriangle := abs_add_le (y - q) q
  rw [sub_add_cancel] at htriangle
  unfold Near at h
  linarith

/-- Two relative errors, one after the other: `(1 + ε) * (1 + δ) = 1 + (ε + δ + ε * δ)`. -/
theorem trans (h : Near ε y a) (h' : Near δ a q) (hε : 0 ≤ ε) : Near (ε + δ + ε * δ) y q := by
  have hstep : |a| * ε ≤ |q| * (1 + δ) * ε := mul_le_mul_of_nonneg_right h'.abs_le hε
  have htriangle := abs_sub_le y a q
  unfold Near at *
  linarith

end Near

/-- **The relative error of rounding** is `2 ^ (-precision)`, for zero and from the least normal number `2 ^
(least + precision - 1)` on. -/
theorem Format.near_rnd (fmt : Format) {x : ℚ}
    (h : x = 0 ∨ (2 : ℚ) ^ (fmt.least + fmt.precision - 1) ≤ |x|) :
    Near (2 ^ (-fmt.precision : ℤ)) (fmt.rnd x) x := by
  rcases h with rfl | h
  · rw [rnd_zero]
    exact Near.rfl (by positivity)
  have hpos : 0 < |x| := lt_of_lt_of_le (by positivity) h
  have hlog : fmt.least + fmt.precision - 1 ≤ Int.log 2 |x| :=
    (Int.zpow_le_iff_le_log (by decide) hpos).mp (by exact_mod_cast h)
  have hunit : fmt.unitExponent x = Int.log 2 |x| + -fmt.precision + 1 := by
    unfold unitExponent
    omega
  have hself : (2 : ℚ) ^ Int.log 2 |x| ≤ |x| := by
    exact_mod_cast Int.zpow_log_le_self (b := 2) (by decide) hpos
  calc |fmt.rnd x - x| ≤ 2 ^ fmt.unitExponent x / 2 := fmt.abs_rnd_sub_le x
    _ = 2 ^ Int.log 2 |x| * 2 ^ (-fmt.precision : ℤ) := by
      rw [hunit, zpow_add_one₀ (by norm_num), zpow_add₀ (by norm_num)]
      ring
    _ ≤ |x| * 2 ^ (-fmt.precision : ℤ) := mul_le_mul_of_nonneg_right hself (by positivity)

/-- **Rounding keeps multiples apart.** Two multiples `m * c < n * c` of a normal number `c` with `|m| + |n| < 2
^ precision` round to different numbers: `rnd (m * c) < rnd (n * c)`. -/
theorem Format.rnd_mul_lt_rnd_mul (fmt : Format) {c : ℚ} (hc : (2 : ℚ) ^ (fmt.least + fmt.precision - 1) ≤ c)
    {m n : ℤ} (hsum : |m| + |n| < 2 ^ fmt.precision) (hlt : m < n) :
    fmt.rnd (m * c) < fmt.rnd (n * c) := by
  have hpos : 0 < c := lt_of_lt_of_le (by positivity) hc
  have herr : ∀ k : ℤ, |fmt.rnd (k * c) - k * c| ≤ |(k : ℚ)| * c * 2 ^ (-fmt.precision : ℤ) := by
    intro k
    have hnear : Near (2 ^ (-fmt.precision : ℤ)) (fmt.rnd (k * c)) (k * c) := by
      refine fmt.near_rnd ?_
      rcases eq_or_ne k 0 with rfl | hk
      · left
        simp
      · right
        have hone : (1 : ℚ) ≤ |(k : ℚ)| := by exact_mod_cast Int.one_le_abs hk
        rw [abs_mul, abs_of_pos hpos]
        exact hc.trans (le_mul_of_one_le_left hpos.le hone)
    simpa [Near, abs_mul, abs_of_pos hpos] using hnear
  have hgap : (m : ℚ) * c + c ≤ n * c := by
    have hstep : (m : ℚ) + 1 ≤ n := by exact_mod_cast hlt
    linarith [mul_le_mul_of_nonneg_right hstep hpos.le]
  -- the two errors together are less than one multiple
  have hunit : (0 : ℚ) < 2 ^ (-fmt.precision : ℤ) := by positivity
  have hcancel : (2 : ℚ) ^ fmt.precision * 2 ^ (-fmt.precision : ℤ) = 1 := by
    rw [zpow_neg, zpow_natCast, mul_inv_cancel₀ (by positivity)]
  have herrors : (|(m : ℚ)| + |(n : ℚ)|) * c * 2 ^ (-fmt.precision : ℤ) < c := by
    have hsum' : |(m : ℚ)| + |(n : ℚ)| < 2 ^ fmt.precision := by exact_mod_cast hsum
    calc (|(m : ℚ)| + |(n : ℚ)|) * c * 2 ^ (-fmt.precision : ℤ)
        < 2 ^ fmt.precision * c * 2 ^ (-fmt.precision : ℤ) :=
          mul_lt_mul_of_pos_right (mul_lt_mul_of_pos_right hsum' hpos) hunit
      _ = c * (2 ^ fmt.precision * 2 ^ (-fmt.precision : ℤ)) := by ring
      _ = c := by rw [hcancel, mul_one]
  have hm := (abs_le.mp (herr m)).2
  have hn := (abs_le.mp (herr n)).1
  linarith

end FloatingPoint
