import AlicatBasis2.CyclicCode.ShiftRegister
import Mathlib.Algebra.Polynomial.Eval.Defs
import Mathlib.Algebra.Ring.Parity

/-! # Error patterns a cyclic code detects

An error pattern goes undetected exactly when the generator divides its polynomial
(`run_xorBits_eq_zero_iff`). Three kinds of pattern are never divisible: a burst no longer than the
register, a pattern of odd weight when the generator vanishes at one, and two flipped bits closer
together than the period of `X` modulo the generator. -/

open Polynomial

namespace CyclicCode

/-- Every set bit of a string lies in the window of `n` places from place `i`. -/
def ConfinedTo (e : List Bool) (i n : ℕ) : Prop := ∀ p, e[p]? = some true → i ≤ p ∧ p < i + n

instance (e : List Bool) (i n : ℕ) : Decidable (ConfinedTo e i n) :=
  decidable_of_iff (∀ p < e.length, e[p]? = some true → i ≤ p ∧ p < i + n)
    ⟨fun h p hp => h p (List.getElem?_eq_some_iff.mp hp).1 hp, fun h p _ hp => h p hp⟩

/-- The number of set bits of a string. -/
def weight (e : List Bool) : ℕ := e.count true

/-- A string without set bits is the zero polynomial. -/
theorem bitsPoly_eq_zero_of_not_mem {e : List Bool} (h : true ∉ e) : bitsPoly e = 0 := by
  rw [bitsPoly_eq_zero_iff]
  intro b hb
  cases b with
  | false => rfl
  | true => exact absurd hb h

/-- A string with a set bit is not the zero polynomial. -/
theorem bitsPoly_ne_zero_of_mem {e : List Bool} (h : true ∈ e) : bitsPoly e ≠ 0 := by
  intro hzero
  exact absurd ((bitsPoly_eq_zero_iff e).mp hzero true h) (by decide)

/-! ## Bursts -/

/-- A string confined to a window is the string of the window, shifted. -/
theorem bitsPoly_of_confinedTo {e : List Bool} {i n : ℕ} (h : ConfinedTo e i n) :
    bitsPoly e = X ^ ((e.drop i).drop n).length * bitsPoly ((e.drop i).take n) := by
  -- no bit is set before the window, and none behind it
  have hhead : bitsPoly (e.take i) = 0 := by
    apply bitsPoly_eq_zero_of_not_mem
    intro hmem
    obtain ⟨p, hp⟩ := List.mem_iff_getElem?.mp hmem
    rw [List.getElem?_take] at hp
    split at hp
    · have := (h p hp).1
      omega
    · exact absurd hp (by simp)
  have htail : bitsPoly ((e.drop i).drop n) = 0 := by
    apply bitsPoly_eq_zero_of_not_mem
    intro hmem
    obtain ⟨p, hp⟩ := List.mem_iff_getElem?.mp hmem
    rw [List.getElem?_drop, List.getElem?_drop] at hp
    have := (h _ hp).2
    omega
  have hsplit : e = e.take i ++ ((e.drop i).take n ++ (e.drop i).drop n) := by
    rw [List.take_append_drop, List.take_append_drop]
  conv_lhs => rw [hsplit]
  rw [bitsPoly_append, bitsPoly_append, hhead, htail, zero_mul, zero_add, add_zero, mul_comm]

/-- **Bursts are detected.** The generator divides no nonzero pattern confined to a window of the
register's width. -/
theorem not_generator_dvd_burst {w : ℕ} {g : BitVec w} (hw : 0 < w) (hg : g.getLsbD (w - 1) = true)
    {e : List Bool} {i : ℕ} (hconf : ConfinedTo e i w) (hset : true ∈ e) :
    ¬ generator g ∣ bitsPoly e := by
  intro hdvd
  rw [bitsPoly_of_confinedTo hconf] at hdvd
  have hwindow := generator_dvd_of_dvd_X_pow_mul hw hg hdvd
  -- the window has degree below the width, where zero is the only multiple
  have hdeg : (bitsPoly ((e.drop i).take w)).degree < w :=
    lt_of_lt_of_le (degree_bitsPoly_lt _) (by exact_mod_cast List.length_take_le _ _)
  have hzero : bitsPoly e = 0 := by
    rw [bitsPoly_of_confinedTo hconf, eq_zero_of_generator_dvd hdeg hwindow, mul_zero]
  exact bitsPoly_ne_zero_of_mem hset hzero

/-! ## Odd weight -/

/-- At one, a string evaluates to its weight modulo two. -/
theorem eval_one_bitsPoly (e : List Bool) : (bitsPoly e).eval 1 = (weight e : ZMod 2) := by
  induction e with
  | nil => simp [weight]
  | cons b bs ih =>
    rw [bitsPoly_cons, eval_add, ih, eval_mul, eval_C, eval_pow, eval_X, one_pow, mul_one, weight,
      weight, List.count_cons]
    cases b <;> simp [add_comm]

/-- A generator with an odd feedback weight vanishes at one. -/
theorem eval_one_generator {w : ℕ} {g : BitVec w} (hodd : Odd (weight (lsbFirst g))) :
    (generator g).eval 1 = 0 := by
  have hcast : (weight (lsbFirst g) : ZMod 2) = 1 := ZMod.natCast_eq_one_iff_odd.mpr hodd
  rw [generator, eval_add, eval_pow, eval_X, one_pow, ← bitsPoly_lsbFirst, eval_one_bitsPoly, hcast]
  decide

/-- **Odd weights are detected.** A generator that vanishes at one divides no pattern of odd weight. -/
theorem not_generator_dvd_odd {w : ℕ} {g : BitVec w} (hodd : Odd (weight (lsbFirst g)))
    {e : List Bool} (he : Odd (weight e)) : ¬ generator g ∣ bitsPoly e := by
  rintro ⟨q, hq⟩
  have hzero : (weight e : ZMod 2) = 0 := by
    rw [← eval_one_bitsPoly, hq, eval_mul, eval_one_generator hodd, zero_mul]
  exact (Nat.not_even_iff_odd.mpr he) (ZMod.natCast_eq_zero_iff_even.mp hzero)

/-! ## Two flipped bits -/

/-- A string of positive weight splits at its first set bit. -/
theorem exists_split_of_weight_pos {e : List Bool} (h : 0 < weight e) :
    ∃ as bs, e = as ++ true :: bs ∧ true ∉ as ∧ weight bs + 1 = weight e := by
  have hmem : true ∈ e := List.count_pos_iff.mp h
  obtain ⟨as, bs, rfl, has⟩ := List.eq_append_cons_of_mem hmem
  refine ⟨as, bs, rfl, has, ?_⟩
  rw [weight, weight, List.count_append, List.count_eq_zero_of_not_mem has, List.count_cons_self,
    zero_add]

/-- A string of weight two is a shifted `X^d + 1` for the distance `d` of its set bits. -/
theorem bitsPoly_of_weight_two {e : List Bool} (h : weight e = 2) :
    ∃ k d, bitsPoly e = X ^ k * (X ^ d + 1) ∧ 0 < d ∧ d < e.length := by
  -- split at the first set bit and again at the second
  obtain ⟨as, bs, rfl, has, hbs⟩ := exists_split_of_weight_pos (by omega : 0 < weight e)
  obtain ⟨cs, ds, rfl, hcs, hds⟩ := exists_split_of_weight_pos (by omega : 0 < weight bs)
  have hlast : bitsPoly ds = 0 := by
    refine bitsPoly_eq_zero_of_not_mem (List.count_eq_zero.mp ?_)
    rw [weight] at hds
    omega
  refine ⟨ds.length, cs.length + 1, ?_, Nat.succ_pos _, ?_⟩
  · rw [bitsPoly_append, bitsPoly_eq_zero_of_not_mem has, bitsPoly_cons, bitsPoly_append,
      bitsPoly_eq_zero_of_not_mem hcs, bitsPoly_cons, hlast, List.length_append, List.length_cons,
      List.length_cons, bit_true, C_1]
    ring
  · simp only [List.length_append, List.length_cons]
    omega

/-- **Double errors are detected.** When the generator divides no `X^d + 1` with `0 < d < period`, it
divides no pattern of weight two on a string no longer than the period. -/
theorem not_generator_dvd_double {w : ℕ} {g : BitVec w} (hw : 0 < w)
    (hg : g.getLsbD (w - 1) = true) {period : ℕ}
    (hperiod : ∀ d, 0 < d → d < period → ¬ generator g ∣ X ^ d + 1) {e : List Bool}
    (he : weight e = 2) (hlen : e.length ≤ period) : ¬ generator g ∣ bitsPoly e := by
  intro hdvd
  obtain ⟨k, d, hpoly, hd, hdlen⟩ := bitsPoly_of_weight_two he
  rw [hpoly] at hdvd
  exact hperiod d hd (by omega) (generator_dvd_of_dvd_X_pow_mul hw hg hdvd)

end CyclicCode
