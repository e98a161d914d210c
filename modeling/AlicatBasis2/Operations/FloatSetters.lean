import AlicatBasis2.Operations.FloatReadings
import AlicatBasis2.Operations.Setpoint

/-! # Setters in single precision

Both setters that take a `float` send the truncation of a rounded product. A decimal argument is not a `float`,
so what is sent of it may be one unit nearer to zero; of a number of the readback that `ReadInstantaneous`
reports, too. A reference temperature that is not a number passes the range test. -/

namespace AlicatBasis2

open FloatingPoint Modbus

/-! ## Truncation -/

/-- Truncation is odd: `truncate (-x) = -truncate x`. -/
theorem truncate_neg (x : ℚ) : truncate (-x) = -truncate x := by
  simp [truncate, Int.neg_tdiv]

/-- A number from zero on is truncated downwards. -/
theorem truncate_of_nonneg {x : ℚ} (hx : 0 ≤ x) : truncate x = ⌊x⌋ := by
  rw [truncate, Rat.floor_def', Int.tdiv_eq_ediv_of_nonneg (Rat.num_nonneg.mpr hx)]

/-- An integer is its own truncation. -/
theorem truncate_intCast (k : ℤ) : truncate k = k := by
  simp [truncate]

/-- A number between minus one and one is truncated to zero. -/
theorem truncate_eq_zero {x : ℚ} (h : |x| < 1) : truncate x = 0 := by
  have hzero : ∀ {y : ℚ}, 0 ≤ y → y < 1 → truncate y = 0 := fun hy hlt => by
    rw [truncate_of_nonneg hy]
    exact Int.floor_eq_zero_iff.mpr ⟨hy, hlt⟩
  obtain ⟨hlow, hhigh⟩ := abs_lt.mp h
  rcases le_total 0 x with hx | hx
  · exact hzero hx hhigh
  · rw [← neg_neg x, truncate_neg, hzero (by linarith) (by linarith), neg_zero]

/-- A number within `1 / D` of a positive quotient `N / D` is truncated to `⌊N / D⌋` or to the integer before,
but not below zero. -/
theorem truncate_of_pos {x : ℚ} {N D : ℤ} (hD : 0 < D) (hN : 0 < N) (h : |x - N / D| < 1 / D) :
    truncate x = N.tdiv D ∨ truncate x = N.tdiv D - (N.tdiv D).sign := by
  have hD' : (0 : ℚ) < D := by exact_mod_cast hD
  obtain ⟨hlow, hhigh⟩ := abs_lt.mp h
  have hupper : x < (N + 1) / D := by
    rw [add_div]
    linarith
  have hlower : (N - 1) / D < x := by
    rw [sub_div]
    linarith
  have hone : (1 : ℚ) ≤ N := by exact_mod_cast hN
  have hpos : 0 ≤ x := (div_nonneg (by linarith) hD'.le).trans hlower.le
  have hnonneg : 0 ≤ N / D := Int.ediv_nonneg hN.le hD.le
  have hfloor : 0 ≤ ⌊x⌋ := Int.floor_nonneg.mpr hpos
  have hlt : ⌊x⌋ < N / D + 1 := by
    refine Int.floor_lt.mpr (hupper.trans_le ((div_le_iff₀ hD').mpr ?_))
    exact_mod_cast Int.add_one_le_of_lt (Int.lt_ediv_add_one_mul_self N hD)
  have hle : N / D - 1 ≤ ⌊x⌋ := by
    refine Int.le_floor.mpr (le_trans ((le_div_iff₀ hD').mpr ?_) hlower.le)
    have hmul : (N / D - 1) * D ≤ N - 1 := by
      rw [sub_mul, one_mul]
      exact sub_le_sub (Int.ediv_mul_le N hD.ne') hD
    exact_mod_cast hmul
  rw [truncate_of_nonneg hpos, Int.tdiv_eq_ediv_of_nonneg hN.le]
  rcases hnonneg.lt_or_eq with hquotient | hquotient
  · rw [Int.sign_eq_one_of_pos hquotient]
    omega
  · -- below one there is no integer on the way to zero
    left
    omega

/-- A number within `1 / D` of `N / D` is truncated to what `N / D` is, or to its neighbour on the way to
zero. -/
theorem truncate_of_abs_sub_lt {x : ℚ} {N D : ℤ} (hD : 0 < D) (h : |x - N / D| < 1 / D) :
    truncate x = N.tdiv D ∨ truncate x = N.tdiv D - (N.tdiv D).sign := by
  rcases lt_trichotomy N 0 with hneg | rfl | hpos
  · -- truncation is odd, so the negative quotients mirror the positive ones
    have hneg' : |-x - ((-N : ℤ) : ℚ) / D| < 1 / D := by
      rw [← abs_neg]
      push_cast
      rwa [show -(-x - -(N : ℚ) / D) = x - N / D by ring]
    have htruncate := truncate_of_pos hD (neg_pos.mpr hneg) hneg'
    rw [truncate_neg, Int.neg_tdiv, Int.sign_neg] at htruncate
    omega
  · left
    have hone : (1 : ℚ) / D ≤ 1 := by
      rw [div_le_one (by exact_mod_cast hD)]
      exact_mod_cast hD
    rw [Int.cast_zero, zero_div, sub_zero] at h
    rw [truncate_eq_zero (h.trans_le hone), Int.zero_tdiv]
  · exact truncate_of_pos hD hpos h

namespace Driver

/-! ## A decimal argument and its product -/

/-- A quotient `k / m`, converted, multiplied by `n` and rounded, has twice the relative error of a rounding. -/
theorem near_rnd_mul {k m n : ℤ} (hk : k ≠ 0) (hm : 0 < m) (hm' : m ≤ 2 ^ 64) (hn : 0 < n) :
    Near (2 ^ (-24 : ℤ) + 2 ^ (-24 : ℤ) + 2 ^ (-24 : ℤ) * 2 ^ (-24 : ℤ))
      (binary32.rnd (binary32.rnd (k / m) * n)) (k / m * n) := by
  have hpos : (0 : ℚ) < m := by exact_mod_cast hm
  have hquotient : (2 : ℚ) ^ (-64 : ℤ) ≤ |(k : ℚ) / m| := by
    have hone : (1 : ℚ) ≤ |(k : ℚ)| := by exact_mod_cast Int.one_le_abs hk
    have hle : (m : ℚ) ≤ 2 ^ 64 := by exact_mod_cast hm'
    rw [abs_div, abs_of_pos hpos, le_div_iff₀ hpos]
    calc (2 : ℚ) ^ (-64 : ℤ) * m ≤ 2 ^ (-64 : ℤ) * 2 ^ 64 := mul_le_mul_of_nonneg_left hle (by positivity)
      _ ≤ |(k : ℚ)| := by norm_num; linarith
  have hfirst : Near (2 ^ (-24 : ℤ)) (binary32.rnd (k / m)) (k / m) :=
    near_rnd (Or.inr (le_trans (by norm_num) hquotient))
  -- the rounded quotient is at least half of the quotient, and the product no smaller
  have hhalf : (2 : ℚ) ^ (-126 : ℤ) ≤ |binary32.rnd ((k : ℚ) / m)| := by
    have htriangle := abs_sub_le ((k : ℚ) / m) (binary32.rnd (k / m)) 0
    rw [sub_zero, sub_zero, abs_sub_comm] at htriangle
    have herr : |(k : ℚ) / m| * 2 ^ (-24 : ℤ) ≤ |(k : ℚ) / m| * (1 / 2) :=
      mul_le_mul_of_nonneg_left (by norm_num) (abs_nonneg _)
    have hlow : (2 : ℚ) ^ (-126 : ℤ) ≤ 2 ^ (-64 : ℤ) * (1 / 2) := by norm_num
    unfold Near at hfirst
    linarith
  have hproduct : (2 : ℚ) ^ (-126 : ℤ) ≤ |binary32.rnd ((k : ℚ) / m) * n| := by
    have hone : (1 : ℚ) ≤ |(n : ℚ)| := by exact_mod_cast Int.one_le_abs hn.ne'
    rw [abs_mul]
    exact hhalf.trans (le_mul_of_one_le_right (abs_nonneg _) hone)
  exact (near_rnd (Or.inr hproduct)).trans (hfirst.mul_right n) (by positivity)

/-- Where the exact product is `N / D` with `|N| < 2 ^ 23`, its truncation is that of `N / D`, or the neighbour
of that on the way to zero. -/
theorem truncate_rnd_mul {k m n N D : ℤ} (hm : 0 < m) (hm' : m ≤ 2 ^ 64) (hn : 0 < n) (hD : 0 < D)
    (hproduct : (k : ℚ) / m * n = N / D) (hN : |N| < 2 ^ 23) :
    truncate (binary32.rnd (binary32.rnd (k / m) * n)) = N.tdiv D
      ∨ truncate (binary32.rnd (binary32.rnd (k / m) * n)) = N.tdiv D - (N.tdiv D).sign := by
  have hD' : (0 : ℚ) < D := by exact_mod_cast hD
  -- the error is `|N / D| * 2 ^ (-23)` and a little, less than the step `1 / D` of the quotients
  refine truncate_of_abs_sub_lt hD ?_
  rw [← hproduct]
  rcases eq_or_ne k 0 with rfl | hk
  · simpa using hD'
  · refine (near_rnd_mul hk hm hm' hn).trans_lt ?_
    have hsmall : |(N : ℚ)| ≤ 2 ^ 23 - 1 := by
      have hint : |N| ≤ 2 ^ 23 - 1 := by omega
      exact_mod_cast hint
    rw [hproduct, abs_div, abs_of_pos hD', div_mul_eq_mul_div, div_lt_div_iff_of_pos_right hD']
    calc |(N : ℚ)| * (2 ^ (-24 : ℤ) + 2 ^ (-24 : ℤ) + 2 ^ (-24 : ℤ) * 2 ^ (-24 : ℤ))
        ≤ (2 ^ 23 - 1) * (2 ^ (-24 : ℤ) + 2 ^ (-24 : ℤ) + 2 ^ (-24 : ℤ) * 2 ^ (-24 : ℤ)) :=
          mul_le_mul_of_nonneg_right hsmall (by positivity)
      _ < 1 := by norm_num

/-- A decimal of `k` units, `n` of them to one, is sent as `k` or as its neighbour on the way to zero. -/
theorem truncate_rnd_decimal {n k : ℤ} (hn : 0 < n) (hn' : n ≤ 2 ^ 64) (hk : |k| < 2 ^ 23) :
    truncate (binary32.rnd (binary32.rnd (k / n) * n)) = k
      ∨ truncate (binary32.rnd (binary32.rnd (k / n) * n)) = k - k.sign := by
  have hcancel : (k : ℚ) / n * n = k / (1 : ℤ) := by
    rw [div_mul_cancel₀ _ (by exact_mod_cast hn.ne'), Int.cast_one, div_one]
  simpa only [Int.tdiv_one] using truncate_rnd_mul hn hn' hn one_pos hcancel hk

-- the nearest `float` to 0.251 is below it, and so is its product with 1000
example : truncate (binary32.rnd (binary32.rnd (251 / 1000) * 1000)) = 250 := by decide +kernel

/-- Numbers inside the range of `int32_t` convert. -/
theorem fitsInt32_of_abs_lt {x : ℚ} (h : |x| < 2 ^ 31) : FitsInt32 x := by
  obtain ⟨hlow, hhigh⟩ := abs_lt.mp h
  unfold FitsInt32
  rcases le_total 0 x with hpos | hneg
  · have hfloor : 0 ≤ ⌊x⌋ := Int.floor_nonneg.mpr hpos
    have hlt : ⌊x⌋ < 2 ^ 31 := Int.floor_lt.mpr (by exact_mod_cast hhigh)
    rw [truncate_of_nonneg hpos]
    omega
  · have hfloor : 0 ≤ ⌊-x⌋ := Int.floor_nonneg.mpr (by linarith)
    have hlt : ⌊-x⌋ < 2 ^ 31 := Int.floor_lt.mpr (by push_cast; linarith)
    rw [← neg_neg x, truncate_neg, truncate_of_nonneg (by linarith)]
    omega

/-! ## `SetSetpoint` -/

section Setpoint

variable {σ : Type} (uart : Uart σ)

/-- `SetSetpoint` of the number `x` sends the truncation of the rounded `x * 1000`, where neither product
reaches `2 ^ 31`. -/
theorem setSetpoint_of_toRat {v : Binary32} {x : ℚ} (hv : v.toRat = some x) {d : U8} (hd : d.toNat ≤ 10)
    (hscaled : |x * 10 ^ d.toNat| ≤ 2 ^ 31 - 2 ^ 7) (hraw : |x * 1000| ≤ 2 ^ 31 - 2 ^ 7) (s : Session σ) :
    setSetpoint uart v d s = writeMultipleRegisters uart Reg.setpointCommand
      (some (splitWords (BitVec.ofInt 32 (truncate (binary32.rnd (x * 1000)))))) 2 s := by
  -- the largest binary32 number below `2 ^ 31` bounds the rounded products too
  have hproduct : ∀ {b : Binary32} {y : ℚ}, b.toRat = some y → |x * y| ≤ 2 ^ 31 - 2 ^ 7 →
      (FloatArith.toInt32 (FloatArith.mul v b) : Option U32)
        = some (BitVec.ofInt 32 (truncate (binary32.rnd (x * y)))) := by
    intro b y hb hle
    obtain ⟨hlow, hhigh⟩ := abs_le.mp hle
    have hrnd : |binary32.rnd (x * y)| < 2 ^ 31 :=
      lt_of_le_of_lt (abs_le.mpr ⟨binary32.le_rnd ⟨-(2 ^ 24 - 1), 7, by decide, by decide, by norm_num⟩ hlow,
        binary32.rnd_le ⟨2 ^ 24 - 1, 7, by decide, by decide, by norm_num⟩ hhigh⟩) (by norm_num)
    have hmul : (FloatArith.mul v b : Binary32).toRat = some (binary32.rnd (x * y)) :=
      Binary.toRat_mul hv hb (inRange (hle.trans (by norm_num)))
    change (FloatArith.mul v b : Binary32).toRat.bind FloatArith.toInt32 = _
    rw [hmul, Option.bind_some, toInt32_eq, if_pos (fitsInt32_of_abs_lt hrnd)]
  have hpow : (pow10 (d.toNat + 0) : Binary32).toRat = some (10 ^ d.toNat) := toRat_pow10 hd
  have hthousand : (FloatArith.literal 1000 : Binary32).toRat = some 1000 :=
    toRat_literal (n := 1000) (by decide)
  rw [setSetpoint, hproduct hpow hscaled, Option.bind_eq_bind, Option.bind_some, hproduct hthousand hraw,
    Option.bind_some]

/-- Of the exponents `3 - d` and `d - 3` one is zero: `10 ^ (3 - d) * 10 ^ d = 1000 * 10 ^ (d - 3)`. -/
theorem tenPow_sub_mul_tenPow (d : ℕ) : (10 : ℤ) ^ (3 - d) * 10 ^ d = 1000 * 10 ^ (d - 3) := by
  rw [← pow_add, show (1000 : ℤ) = 10 ^ 3 by norm_num, ← pow_add]
  congr 1
  omega

/-- `k * 1000 / 10 ^ d` in lower terms, truncated. -/
theorem thousand_tdiv_tenPow (k : ℤ) (d : ℕ) :
    (k * 1000).tdiv (10 ^ d) = (k * 10 ^ (3 - d)).tdiv (10 ^ (d - 3)) := by
  have hten : (0 : ℤ) < 10 ^ d := by positivity
  have hlower : (0 : ℤ) < 10 ^ (d - 3) := by positivity
  rw [← Int.mul_tdiv_mul_of_pos_left (k * 1000) (10 ^ d) hlower, mul_assoc, ← tenPow_sub_mul_tenPow,
    ← mul_assoc, mul_comm (10 ^ d : ℤ) (10 ^ (d - 3)), Int.mul_tdiv_mul_of_pos_left _ _ hten]

/-- A raw readback `k` with `d` decimals is sent back as the truncation of `k * 1000 / 10 ^ d`, or as the
neighbour of that on the way to zero. -/
theorem truncate_rnd_readback {k : ℤ} (hk : |k| ≤ 2 ^ 15) {d : ℕ} (hd : d ≤ 10) :
    truncate (binary32.rnd (binary32.rnd (k / 10 ^ d) * 1000)) = (k * 1000).tdiv (10 ^ d)
      ∨ truncate (binary32.rnd (binary32.rnd (k / 10 ^ d) * 1000))
          = (k * 1000).tdiv (10 ^ d) - ((k * 1000).tdiv (10 ^ d)).sign := by
  rcases Nat.eq_zero_or_pos d with rfl | hpos
  · -- without decimals the product is a number of the format: `k * 125` has twenty-two bits
    left
    have hrep : binary32.Representable ((k : ℚ) * 1000) :=
      ⟨k * 125, 3, by rw [abs_mul]; exact (mul_le_mul_of_nonneg_right hk (by decide)).trans_lt (by decide),
        by decide, by push_cast; ring⟩
    rw [pow_zero, pow_zero, div_one, Int.tdiv_one, rnd_intCast (hk.trans_lt (by decide)),
      binary32.rnd_of_representable hrep]
    exact_mod_cast truncate_intCast (k * 1000)
  · -- the quotient in lower terms has a numerator below `2 ^ 23`
    have hten : (0 : ℤ) < 10 ^ d := by positivity
    have hlower : (0 : ℤ) < 10 ^ (d - 3) := by positivity
    have hproduct : (k : ℚ) / ((10 ^ d : ℤ) : ℚ) * (1000 : ℤ)
        = ((k * 10 ^ (3 - d) : ℤ) : ℚ) / ((10 ^ (d - 3) : ℤ) : ℚ) := by
      have hcast : (10 : ℚ) ^ (3 - d) * 10 ^ d = 1000 * 10 ^ (d - 3) := by
        exact_mod_cast tenPow_sub_mul_tenPow d
      push_cast
      rw [div_mul_eq_mul_div, div_eq_div_iff (by positivity) (by positivity)]
      linear_combination -(k : ℚ) * hcast
    have hsmall : |k * 10 ^ (3 - d)| < 2 ^ 23 := by
      have hfactor : (10 : ℤ) ^ (3 - d) ≤ 10 ^ 2 := pow_le_pow_right₀ (by norm_num) (by omega)
      rw [abs_mul, abs_of_pos (by positivity : (0 : ℤ) < 10 ^ (3 - d))]
      calc |k| * 10 ^ (3 - d) ≤ 2 ^ 15 * 10 ^ 2 := mul_le_mul hk hfactor (by positivity) (by norm_num)
        _ < 2 ^ 23 := by norm_num
    have hbound : (10 : ℤ) ^ d ≤ 2 ^ 64 :=
      (pow_le_pow_right₀ (by norm_num) hd).trans (by norm_num)
    rw [thousand_tdiv_tenPow]
    simpa using truncate_rnd_mul hten hbound (by norm_num) hlower hproduct hsmall

/-- A raw readback with `d` decimals, converted and multiplied by either power of ten, stays far below
`2 ^ 31`. -/
theorem abs_rnd_readback_mul_le {k : ℤ} (hk : |k| ≤ 2 ^ 15) {d : ℕ} (hd : d ≤ 10) :
    |binary32.rnd (k / 10 ^ d) * 10 ^ d| ≤ 2 ^ 31 - 2 ^ 7
      ∧ |binary32.rnd (k / 10 ^ d) * 1000| ≤ 2 ^ 31 - 2 ^ 7 := by
  have hten : (0 : ℚ) < 10 ^ d := by positivity
  have hk' : |(k : ℚ)| ≤ 2 ^ 15 := by exact_mod_cast hk
  constructor
  · have hproduct := ((near_rnd_div_tenPow k hd).mul_right (10 ^ d)).abs_le
    rw [div_mul_cancel₀ _ hten.ne'] at hproduct
    calc |binary32.rnd (k / 10 ^ d) * 10 ^ d| ≤ |(k : ℚ)| * (1 + 2 ^ (-24 : ℤ)) := hproduct
      _ ≤ 2 ^ 15 * (1 + 2 ^ (-24 : ℤ)) := mul_le_mul_of_nonneg_right hk' (by positivity)
      _ ≤ 2 ^ 31 - 2 ^ 7 := by norm_num
  · have hquotient : |(k : ℚ) / 10 ^ d| ≤ 2 ^ 15 := by
      rw [abs_div, abs_of_pos hten]
      exact (div_le_self (abs_nonneg _) (one_le_pow₀ (by norm_num))).trans hk'
    have hrnd := abs_rnd_le_twoPow hquotient
    rw [abs_mul, abs_of_pos (by norm_num : (0 : ℚ) < 1000)]
    linarith

/-- `SetSetpoint` of `v` with `d` decimals sends the integer `k`, or its neighbour on the way to zero. -/
def SentWithinOne (v : Binary32) (d : U8) (s : Session σ) (k : ℤ) : Prop :=
  ∃ r : ℤ, (r = k ∨ r = k - k.sign)
    ∧ setSetpoint uart v d s
      = writeMultipleRegisters uart Reg.setpointCommand (some (splitWords (BitVec.ofInt 32 r))) 2 s

/-- A setpoint written as `k` thousandths. -/
theorem sentWithinOne_decimal {k : ℤ} (hk : |k| < 2 ^ 23) {d : U8} (hd : d.toNat ≤ 5) (s : Session σ) :
    SentWithinOne uart (FloatArith.literal ((k : ℚ) / 1000)) d s k := by
  have hquotient : |(k : ℚ) / 1000| ≤ 2 ^ 14 := by
    have hk' : |(k : ℚ)| ≤ 2 ^ 23 := by exact_mod_cast hk.le
    rw [abs_div, abs_of_pos (by norm_num : (0 : ℚ) < 1000), div_le_iff₀ (by norm_num)]
    exact hk'.trans (by norm_num)
  have hsmall := abs_rnd_le_twoPow hquotient
  have hv : (FloatArith.literal ((k : ℚ) / 1000) : Binary32).toRat = some (binary32.rnd (k / 1000)) :=
    Binary.toRat_ofRat (inRange (hquotient.trans (by norm_num))) _
  -- either product is up to `2 ^ 14 * 10 ^ 5`
  have hproduct : ∀ y : ℚ, 0 ≤ y → y ≤ 10 ^ 5 → |binary32.rnd ((k : ℚ) / 1000) * y| ≤ 2 ^ 31 - 2 ^ 7 := by
    intro y hy hy'
    rw [abs_mul, abs_of_nonneg hy]
    exact (mul_le_mul hsmall hy' hy (by norm_num)).trans (by norm_num)
  refine ⟨_, ?_, setSetpoint_of_toRat uart hv (hd.trans (by decide))
    (hproduct _ (by positivity) (pow_le_pow_right₀ (by norm_num) hd)) (hproduct _ (by norm_num) (by norm_num)) s⟩
  simpa using truncate_rnd_decimal (n := 1000) (by norm_num) (by norm_num) hk

/-- A setpoint reported by `ReadInstantaneous`, set again. -/
theorem sentWithinOne_readback {d : U8} (hd : d.toNat ≤ 10) {s s' : Session σ} {data : InstantaneousData Binary32}
    (hread : readInstantaneous uart d s = some (.success data, s')) :
    SentWithinOne uart data.setpoint d s' ((data.rawSetpoint2053To2054.toInt * 1000).tdiv (10 ^ d.toNat)) := by
  have hdecoded := decoded_of_readInstantaneous uart hread
  obtain ⟨w, hw⟩ := hdecoded.rawSetpoint
  have hle : |data.rawSetpoint2053To2054.toInt| ≤ 2 ^ 15 := by
    rw [hw, toInt_signExtend]
    exact abs_toInt16_le w
  have hv : data.setpoint.toRat = some (binary32.rnd (data.rawSetpoint2053To2054.toInt / 10 ^ d.toNat)) := by
    rw [hdecoded.setpoint, toRat_scaleFlow _ hd, rnd_intCast (hle.trans_lt (by norm_num))]
  obtain ⟨hscaled, hraw⟩ := abs_rnd_readback_mul_le hle hd
  exact ⟨_, truncate_rnd_readback hle hd, setSetpoint_of_toRat uart hv hd hscaled hraw s'⟩

/-- **Decimal setpoints.** In single precision, on every UART: with five decimals at most, a setpoint written as
`k` thousandths, `|k| < 2 ^ 23`, is sent as `k` or as its neighbour on the way to zero. With `d` decimals, ten at
most, the setpoint that `ReadInstantaneous` reports for the raw readback `raw` is, when it is set again, sent as
the truncation of `raw * 1000 / 10 ^ d` or as the neighbour of that on the way to zero; with three decimals that
is `raw` itself or its neighbour. -/
theorem setpoint_loses_at_most_one :
    (∀ (s : Session σ) (d : U8) (k : ℤ), |k| < 2 ^ 23 → d.toNat ≤ 5 →
      SentWithinOne uart (FloatArith.literal ((k : ℚ) / 1000)) d s k)
    ∧ (∀ (s s' : Session σ) (d : U8) (data : InstantaneousData Binary32), d.toNat ≤ 10 →
      readInstantaneous uart d s = some (.success data, s') →
      SentWithinOne uart data.setpoint d s' ((data.rawSetpoint2053To2054.toInt * 1000).tdiv (10 ^ d.toNat)))
    ∧ ∀ (s s' : Session σ) (data : InstantaneousData Binary32),
      readInstantaneous uart 3 s = some (.success data, s') →
      SentWithinOne uart data.setpoint 3 s' data.rawSetpoint2053To2054.toInt := by
  refine ⟨fun s d k hk hd => sentWithinOne_decimal uart hk hd s,
    fun s s' d data hd hread => sentWithinOne_readback uart hd hread, fun s s' data hread => ?_⟩
  have hsent := sentWithinOne_readback uart (by decide) hread
  have hthree : (data.rawSetpoint2053To2054.toInt * 1000).tdiv (10 ^ (3 : U8).toNat)
      = data.rawSetpoint2053To2054.toInt := Int.mul_tdiv_cancel _ (by decide)
  rwa [hthree] at hsent

/-- Readbacks of 1000 with two decimals and of 251 with three: set again, the first is sent as 10000 or 9999, the
second as 251 or 250. -/
theorem setpoint_loses_at_most_one_readback :
    (∃ (data : InstantaneousData Binary32) (s' : Session Unit),
      readInstantaneous (Uart.constant (readReply 1 [0, 0, 0, 0, 0, 0, 1000, 0, 0, 0])) 2 (constructDefault () 1)
        = some (.success data, s')
      ∧ SentWithinOne (Uart.constant (readReply 1 [0, 0, 0, 0, 0, 0, 1000, 0, 0, 0])) data.setpoint 2 s' 10000)
    ∧ ∃ (data : InstantaneousData Binary32) (s' : Session Unit),
      readInstantaneous (Uart.constant (readReply 1 [0, 0, 0, 0, 0, 0, 251, 0, 0, 0])) 3 (constructDefault () 1)
        = some (.success data, s')
      ∧ SentWithinOne (Uart.constant (readReply 1 [0, 0, 0, 0, 0, 0, 251, 0, 0, 0])) data.setpoint 3 s' 251 := by
  -- a slave that answers with a raw readback `w` is read
  have hread : ∀ (w : U16) (d : U8),
      (burst Reg.selectedGas 10).delivered (Uart.constant (readReply 1 [0, 0, 0, 0, 0, 0, w, 0, 0, 0]))
        (constructDefault () 1) = readReply 1 [0, 0, 0, 0, 0, 0, w, 0, 0, 0] →
      readDecode (Uart.constant (readReply 1 [0, 0, 0, 0, 0, 0, w, 0, 0, 0])) Reg.selectedGas 10
        (fun regs => decodeInstantaneous (F := Binary32) regs d) (constructDefault () 1) = some (.success _, _) :=
    fun w d hreply => readDecode_of_reply _ (by decide) (by decide)
      (rfl : ([0, 0, 0, 0, 0, 0, w, 0, 0, 0] : List U16).length = (10 : U8).toNat) hreply rfl
  constructor
  · have hread := hread 1000 2 (by decide +kernel)
    rw [← readInstantaneous_eq_readDecode] at hread
    exact ⟨_, _, hread, (setpoint_loses_at_most_one _).2.1 _ _ 2 _ (by decide) hread⟩
  · have hread := hread 251 3 (by decide +kernel)
    rw [← readInstantaneous_eq_readDecode] at hread
    exact ⟨_, _, hread, (setpoint_loses_at_most_one _).2.2 _ _ _ hread⟩

end Setpoint

/-! ## `SetReferenceTemperatureC` -/

section ReferenceTemperature

variable {σ : Type} (uart : Uart σ)

/-- The range test lets through the numbers from 0 to 30. -/
theorem outside_eq {c : Binary32} {x : ℚ} (hc : c.toRat = some x) :
    (FloatArith.lt c (FloatArith.literal 0) || FloatArith.lt (FloatArith.literal 30) c)
      = decide ¬(0 ≤ x ∧ x ≤ 30) := by
  have hzero : (FloatArith.literal 0 : Binary32).toRat = some 0 := toRat_literal (n := 0) (by decide)
  have hthirty : (FloatArith.literal 30 : Binary32).toRat = some 30 := toRat_literal (n := 30) (by decide)
  have hlow : FloatArith.lt c (FloatArith.literal 0) = decide (x < 0) := Binary.lt_eq hc hzero
  have hhigh : FloatArith.lt (FloatArith.literal 30) c = decide (30 < x) := Binary.lt_eq hthirty hc
  rw [hlow, hhigh, ← Bool.decide_or]
  congr 1
  rw [not_and_or, not_le, not_le]

/-- Infinities fail the range test. -/
theorem outside_infinity (t : Bool) :
    (FloatArith.lt (.infinity t : Binary32) (FloatArith.literal 0)
      || FloatArith.lt (FloatArith.literal 30) (.infinity t : Binary32)) = true := by
  obtain ⟨s, h, hzero⟩ := Binary.toRat_eq_some (toRat_literal (n := 0) (by decide))
  obtain ⟨s', h', hthirty⟩ := Binary.toRat_eq_some (toRat_literal (n := 30) (by decide))
  rw [show (FloatArith.literal 0 : Binary32) = .finite s 0 h by simpa using hzero,
    show (FloatArith.literal 30 : Binary32) = .finite s' 30 h' by simpa using hthirty]
  cases t <;> rfl

/-- A temperature from 0 to 30 is converted to its hundredths, rounded and truncated. -/
theorem toUInt16_mul_hundred {c : Binary32} {x : ℚ} (hc : c.toRat = some x) (hx : 0 ≤ x) (hx' : x ≤ 30) :
    (FloatArith.toUInt16 (FloatArith.mul c (FloatArith.literal 100)) : Option U16)
        = some (BitVec.ofInt 16 (truncate (binary32.rnd (x * 100))))
      ∧ 0 ≤ truncate (binary32.rnd (x * 100)) ∧ truncate (binary32.rnd (x * 100)) ≤ 3000 := by
  have hhundred : (FloatArith.literal 100 : Binary32).toRat = some 100 :=
    toRat_literal (n := 100) (by decide)
  have hrep : binary32.Representable ((3000 : ℤ) : ℚ) :=
    binary32.representable_intCast (by decide) (by decide)
  have hhigh : binary32.rnd (x * 100) ≤ ((3000 : ℤ) : ℚ) := binary32.rnd_le hrep (by push_cast; linarith)
  have hlow : 0 ≤ binary32.rnd (x * 100) := binary32.le_rnd binary32.representable_zero (by linarith)
  have hmul : (FloatArith.mul c (FloatArith.literal 100) : Binary32).toRat
      = some (binary32.rnd (x * 100)) :=
    Binary.toRat_mul hc hhundred (inRange (by
      rw [abs_of_nonneg (by linarith)]
      calc x * 100 ≤ 3000 := by linarith
        _ ≤ 2 ^ 127 := by norm_num))
  have htruncate := truncate_of_nonneg hlow
  have hfloor : 0 ≤ ⌊binary32.rnd (x * 100)⌋ := Int.floor_nonneg.mpr hlow
  have hfloor' : ⌊binary32.rnd (x * 100)⌋ ≤ 3000 :=
    Int.cast_le.mp ((Int.floor_le _).trans hhigh)
  refine ⟨?_, by omega, by omega⟩
  change (FloatArith.mul c (FloatArith.literal 100) : Binary32).toRat.bind FloatArith.toUInt16 = _
  rw [hmul, Option.bind_some]
  exact if_pos ⟨by omega, by omega⟩

/-- **`SetReferenceTemperatureC` in single precision.** On every UART and from every session: what is not a
number passes the range test into an undefined conversion; an infinity or a number outside 0 to 30 is refused
and nothing is sent; of a number `x` inside, the truncation of the rounded `x * 100` is written, a value up to
3000, and a decimal of `k` hundredths is written as `k` or `k - 1`. -/
theorem reference_temperature_single_precision (s : Session σ) (c : Binary32) :
    (c = .nan ∧ setReferenceTemperatureC uart c s = none)
    ∨ (c ≠ .nan ∧ (∀ x, c.toRat = some x → x < 0 ∨ 30 < x)
      ∧ setReferenceTemperatureC uart c s = some (.failure .invalidParameter, s))
    ∨ ∃ (x : ℚ) (w : ℤ), c.toRat = some x ∧ 0 ≤ x ∧ x ≤ 30
      ∧ w = truncate (binary32.rnd (x * 100)) ∧ 0 ≤ w ∧ w ≤ 3000
      ∧ setReferenceTemperatureC uart c s
        = writeSingleRegister uart Reg.referenceTemperature (BitVec.ofInt 16 w) s
      ∧ ∀ k : ℤ, 0 ≤ k → k ≤ 3000 → x = binary32.rnd (k / 100) → w = k ∨ w = k - k.sign := by
  cases hc : c with
  | nan =>
    -- both comparisons with what is not a number are false
    left
    have hpass : (FloatArith.lt (.nan : Binary32) (FloatArith.literal 0)
        || FloatArith.lt (FloatArith.literal 30) (.nan : Binary32)) = false :=
      (congrArg₂ or (Binary.nan_lt _) (Binary.lt_nan _)).trans rfl
    refine ⟨rfl, ?_⟩
    rw [setReferenceTemperatureC, hpass]
    rfl
  | infinity t =>
    right; left
    refine ⟨nofun, nofun, ?_⟩
    rw [setReferenceTemperatureC, if_pos (outside_infinity t)]
    rfl
  | finite t x h =>
    right
    rw [← hc]
    have hx : c.toRat = some x := by rw [hc, Binary.toRat_finite]
    by_cases hin : 0 ≤ x ∧ x ≤ 30
    · right
      obtain ⟨hraw, hlow, hhigh⟩ := toUInt16_mul_hundred hx hin.1 hin.2
      refine ⟨x, _, hx, hin.1, hin.2, rfl, hlow, hhigh, ?_, ?_⟩
      · rw [setReferenceTemperatureC, outside_eq hx, decide_eq_false (not_not.mpr hin), hraw]
        rfl
      · rintro k hk hk' rfl
        simpa using truncate_rnd_decimal (n := 100) (by norm_num) (by norm_num)
          (by rw [abs_of_nonneg hk]; omega : |k| < 2 ^ 23)
    · left
      refine ⟨by rw [hc]; nofun, fun y hy => ?_, ?_⟩
      · obtain rfl := Option.some.inj (hx.symm.trans hy)
        rwa [not_and_or, not_le, not_le] at hin
      · rw [setReferenceTemperatureC, outside_eq hx, decide_eq_true hin]
        rfl

/-- 0.53 degrees are written as 52 hundredths. -/
theorem reference_temperature_single_precision_decimal :
    setReferenceTemperatureC (Uart.constant []) (FloatArith.literal (53 / 100) : Binary32) (constructDefault () 1)
      = writeSingleRegister (Uart.constant []) Reg.referenceTemperature 52 (constructDefault () 1) := by
  have hc : (FloatArith.literal (53 / 100) : Binary32).toRat = some (binary32.rnd (53 / 100)) :=
    Binary.toRat_ofRat (inRange (by rw [abs_of_pos (by norm_num)]; norm_num)) _
  -- 0.53 is a number inside the range, so the first two cases are not its
  rcases reference_temperature_single_precision (Uart.constant []) (constructDefault () 1)
      (FloatArith.literal (53 / 100)) with ⟨hnan, -⟩ | ⟨-, hout, -⟩ | ⟨x, w, hx, -, -, rfl, -, -, hsent, -⟩
  · rw [hnan] at hc
    cases hc
  · exact absurd (hout _ hc) (by decide +kernel)
  · obtain rfl := Option.some.inj (hc.symm.trans hx)
    have hw : truncate (binary32.rnd (binary32.rnd (53 / 100) * 100)) = 52 := by decide +kernel
    rw [hsent, hw]
    rfl

end ReferenceTemperature

end Driver

end AlicatBasis2
