import AlicatBasis2.CyclicCode.BitPolynomial
import Mathlib.Logic.Function.Iterate
import Mathlib.RingTheory.Coprime.Lemmas
import Mathlib.Tactic.LinearCombination

/-! # The reflected shift register as polynomial division

A register of width `w` with feedback word `g` takes a bit into its least significant place and shifts
toward it, folding `g` in whenever a set bit leaves. In the reading of `BitPolynomial` one clock is
multiplication by `X` modulo `generator g = X^w + wordPoly g`, so a whole run computes a polynomial
remainder. -/

open Polynomial

namespace CyclicCode

variable {w : ℕ}

/-- One clock of the register: shift down, and fold the feedback in when bit `0` was set. -/
def shift (g s : BitVec w) : BitVec w :=
  if s.getLsbD 0 then (s >>> 1) ^^^ g else s >>> 1

/-- One clock with an input bit. -/
def feed (g s : BitVec w) (b : Bool) : BitVec w := shift g (s ^^^ inject w b)

/-- The register after a bit string. -/
def run (g s : BitVec w) (bits : List Bool) : BitVec w := bits.foldl (feed g) s

/-- `run g s [] = s`. -/
@[simp] theorem run_nil (g s : BitVec w) : run g s [] = s := rfl

/-- Cons reading of `run`: the first bit is fed, the rest run from there. -/
@[simp] theorem run_cons (g s : BitVec w) (b : Bool) (bs : List Bool) :
    run g s (b :: bs) = run g (feed g s b) bs := rfl

/-- Two strings in a row. -/
theorem run_append (g s : BitVec w) (as bs : List Bool) :
    run g s (as ++ bs) = run g (run g s as) bs := List.foldl_append

/-- The generator polynomial of a feedback word. -/
noncomputable def generator (g : BitVec w) : (ZMod 2)[X] := X ^ w + wordPoly g

/-- The generator is monic. -/
theorem generator_monic (g : BitVec w) : (generator g).Monic := monic_X_pow_add (degree_wordPoly_lt g)

/-- The generator has degree the width of the register. -/
theorem degree_generator (g : BitVec w) : (generator g).degree = w := by
  rw [generator, degree_add_eq_left_of_degree_lt, degree_X_pow]
  rw [degree_X_pow]
  exact degree_wordPoly_lt g

/-- A polynomial of degree below the width that the generator divides is zero. -/
theorem eq_zero_of_generator_dvd {g : BitVec w} {p : (ZMod 2)[X]} (hdeg : p.degree < w)
    (hdvd : generator g ∣ p) : p = 0 := by
  by_contra hp
  refine (generator_monic g).not_dvd_of_degree_lt hp ?_ hdvd
  rwa [degree_generator]

/-- Register words that are congruent modulo the generator are equal. -/
theorem eq_of_generator_dvd {g s t : BitVec w} (hdvd : generator g ∣ wordPoly s + wordPoly t) :
    s = t := by
  have hzero : wordPoly s + wordPoly t = 0 :=
    eq_zero_of_generator_dvd
      (lt_of_le_of_lt (degree_add_le _ _) (max_lt (degree_wordPoly_lt s) (degree_wordPoly_lt t))) hdvd
  apply wordPoly_injective
  rw [← sub_eq_zero, sub_eq_add_neg, CharTwo.neg_eq, hzero]

/-! ## One clock and a whole run -/

/-- A clock multiplies by `X` modulo the generator. -/
theorem wordPoly_shift (g s : BitVec w) (hw : 0 < w) :
    wordPoly (shift g s) = X * wordPoly s + C (bit (s.getLsbD 0)) * generator g := by
  rw [X_mul_wordPoly s hw, shift, generator]
  cases s.getLsbD 0 with
  | false => simp
  | true =>
    -- folding the feedback in removes the carry, as `X^w + X^w = 0`
    rw [if_pos rfl, wordPoly_xor, bit_true, C_1, one_mul, one_mul]
    linear_combination -add_self (X ^ w : (ZMod 2)[X])

/-- A clock with an input bit also adds that bit at `X^w`. -/
theorem generator_dvd_feed (g s : BitVec w) (b : Bool) (hw : 0 < w) :
    generator g ∣ wordPoly (feed g s b) + (X * wordPoly s + C (bit b) * X ^ w) := by
  rw [feed, wordPoly_shift _ _ hw, wordPoly_xor, wordPoly_inject b hw]
  refine ⟨C (bit ((s ^^^ inject w b).getLsbD 0)), ?_⟩
  have hpow : (X : (ZMod 2)[X]) * X ^ (w - 1) = X ^ w := by
    rw [← pow_succ', Nat.sub_add_cancel hw]
  linear_combination C (bit b) * hpow + add_self (X * wordPoly s) + add_self (C (bit b) * X ^ w)

/-- **A run is a division.** The register after `bits` is congruent to the initial word shifted past the
message plus the message shifted past the register. -/
theorem generator_dvd_run (g s : BitVec w) (bits : List Bool) (hw : 0 < w) :
    generator g ∣ wordPoly (run g s bits)
      + (X ^ bits.length * wordPoly s + X ^ w * bitsPoly bits) := by
  induction bits generalizing s with
  | nil =>
    refine ⟨0, ?_⟩
    simp [add_self]
  | cons b bs ih =>
    obtain ⟨q, hq⟩ := ih (feed g s b)
    obtain ⟨r, hr⟩ := generator_dvd_feed g s b hw
    -- what this clock adds is shifted past the rest of the string
    refine ⟨q + X ^ bs.length * r, ?_⟩
    rw [run_cons, bitsPoly_cons, List.length_cons, pow_succ]
    linear_combination hq + X ^ bs.length * hr
      - X ^ bs.length * add_self (wordPoly (feed g s b))

/-- The register holds the remainder of that division. -/
theorem wordPoly_run (g s : BitVec w) (bits : List Bool) (hw : 0 < w) :
    wordPoly (run g s bits)
      = (X ^ bits.length * wordPoly s + X ^ w * bitsPoly bits) %ₘ generator g := by
  obtain ⟨q, hq⟩ := generator_dvd_run g s bits hw
  -- the register has degree below the generator, so it is the remainder
  refine ((div_modByMonic_unique q (wordPoly (run g s bits)) (generator_monic g) ⟨?_, ?_⟩).2).symm
  · linear_combination add_self (wordPoly (run g s bits)) - hq
  · rw [degree_generator]
    exact degree_wordPoly_lt _

/-- `k` clocks multiply by `X^k` modulo the generator. -/
theorem generator_dvd_shift_iterate (g s : BitVec w) (k : ℕ) (hw : 0 < w) :
    generator g ∣ wordPoly ((shift g)^[k] s) + X ^ k * wordPoly s := by
  induction k generalizing s with
  | zero =>
    refine ⟨0, ?_⟩
    simp [add_self]
  | succ k ih =>
    obtain ⟨q, hq⟩ := ih (shift g s)
    refine ⟨q + X ^ k * C (bit (s.getLsbD 0)), ?_⟩
    rw [Function.iterate_succ_apply, pow_succ]
    rw [wordPoly_shift g s hw] at hq
    linear_combination hq - X ^ k * add_self (X * wordPoly s)
      - X ^ k * C (bit (s.getLsbD 0)) * (add_self (generator g)) + add_self (X ^ k * X * wordPoly s)

/-! ## Bits fed one by one and a word folded in at once -/

/-- A word widened at the top is shifted up by the difference of the widths. -/
theorem wordPoly_setWidth {n : ℕ} (v : BitVec n) (hn : n ≤ w) :
    wordPoly (v.setWidth w) = X ^ (w - n) * wordPoly v := by
  ext j
  rw [coeff_X_pow_mul', coeff_wordPoly, BitVec.getLsbD_setWidth]
  by_cases hj : w - n ≤ j
  · rw [if_pos hj, coeff_wordPoly]
    by_cases hjw : j < w
    · rw [if_pos hjw, if_pos (by omega), show n - 1 - (j - (w - n)) = w - 1 - j by omega]
      simp [show w - 1 - j < w by omega]
    · rw [if_neg hjw, if_neg (by omega)]
  · rw [if_neg hj]
    split
    · rw [BitVec.getLsbD_of_ge v (w - 1 - j) (by omega), Bool.and_false, bit_false]
    · rfl

/-- Folding a narrow word into the register and clocking once per bit is feeding its bits, least
significant first. -/
theorem run_lsbFirst_eq_shift_iterate {n : ℕ} (g s : BitVec w) (v : BitVec n) (hw : 0 < w)
    (hn : n ≤ w) : run g s (lsbFirst v) = (shift g)^[n] (s ^^^ v.setWidth w) := by
  apply eq_of_generator_dvd (g := g)
  obtain ⟨q, hq⟩ := generator_dvd_run g s (lsbFirst v) hw
  obtain ⟨r, hr⟩ := generator_dvd_shift_iterate g (s ^^^ v.setWidth w) n hw
  -- both are `X^n * s + X^w * v` modulo the generator
  refine ⟨q + r, ?_⟩
  rw [wordPoly_xor, wordPoly_setWidth v hn] at hr
  rw [length_lsbFirst, bitsPoly_lsbFirst] at hq
  have hpow : (X : (ZMod 2)[X]) ^ n * X ^ (w - n) = X ^ w := by
    rw [← pow_add, Nat.add_sub_cancel' hn]
  linear_combination hq + hr - add_self (X ^ n * wordPoly s) - wordPoly v * hpow
    - add_self (X ^ w * wordPoly v)

/-! ## Accepted strings

A string is accepted when it drives the register to zero. The feedback word has its top bit set, so the
generator has a constant term and is coprime to `X`. -/

/-- A run ends at zero exactly when the generator divides the shifted string. -/
theorem run_eq_zero_iff (g s : BitVec w) (bits : List Bool) (hw : 0 < w) :
    run g s bits = 0
      ↔ generator g ∣ X ^ bits.length * wordPoly s + X ^ w * bitsPoly bits := by
  have hrun := generator_dvd_run g s bits hw
  constructor
  · intro hzero
    rwa [hzero, wordPoly_zero, zero_add] at hrun
  · intro hdvd
    apply eq_of_generator_dvd (g := g)
    rw [wordPoly_zero, add_zero]
    exact (dvd_add_left hdvd).mp hrun

section Accepted

variable {g : BitVec w} (hw : 0 < w) (hg : g.getLsbD (w - 1) = true)

include hw hg

/-- A generator with a constant term is coprime to `X`. -/
theorem isCoprime_generator_X : IsCoprime (generator g) X := by
  have hcoeff : (generator g).coeff 0 = 1 := by
    rw [generator, coeff_add, coeff_X_pow, if_neg (by omega), coeff_wordPoly, if_pos hw,
      Nat.sub_zero, hg, bit_true, zero_add]
  -- the generator is `1 + q * X`
  obtain ⟨q, hq⟩ := X_dvd_sub_C (p := generator g)
  rw [hcoeff, C_1] at hq
  exact ⟨1, -q, by linear_combination hq⟩

/-- Powers of `X` do not help the generator to divide. -/
theorem generator_dvd_of_dvd_X_pow_mul {k : ℕ} {p : (ZMod 2)[X]} (h : generator g ∣ X ^ k * p) :
    generator g ∣ p :=
  (isCoprime_generator_X hw hg).pow_right.dvd_of_dvd_mul_left h

/-- The last word of an accepted string is the register before it, least significant bit first. -/
theorem run_lsbFirst_eq_zero_iff (s v : BitVec w) : run g s (lsbFirst v) = 0 ↔ v = s := by
  rw [run_eq_zero_iff _ _ _ hw, length_lsbFirst, bitsPoly_lsbFirst, ← mul_add]
  constructor
  · intro h
    exact (eq_of_generator_dvd (generator_dvd_of_dvd_X_pow_mul hw hg h)).symm
  · rintro rfl
    rw [add_self, mul_zero]
    exact dvd_zero _

/-- **Undetected errors.** Against an accepted string, an error pattern leaves the string accepted exactly
when the generator divides the pattern. -/
theorem run_xorBits_eq_zero_iff {s : BitVec w} {bits e : List Bool} (hrun : run g s bits = 0)
    (hlen : bits.length = e.length) :
    run g s (xorBits bits e) = 0 ↔ generator g ∣ bitsPoly e := by
  have hbits := (run_eq_zero_iff g s bits hw).mp hrun
  rw [run_eq_zero_iff _ _ _ hw, bitsPoly_xorBits hlen, length_xorBits hlen, mul_add, ← add_assoc,
    dvd_add_right hbits]
  constructor
  · exact generator_dvd_of_dvd_X_pow_mul hw hg
  · exact fun h => h.mul_left _

end Accepted

end CyclicCode
