import AlicatBasis2.CyclicCode.ShiftRegister
import Mathlib.GroupTheory.OrderOfElement
import Mathlib.RingTheory.AdjoinRoot

/-! # The period of `X` modulo a generator

Multiplication modulo the generator on register words, and from it powers of `X` by repeated squaring.
Both compute, so the period of a concrete generator is found by evaluation: it is `n` when `X^n` is one
and no `X^(n/p)` is, for the primes `p` dividing `n`. -/

open Polynomial

namespace CyclicCode

variable {w : ℕ}

/-- The product of a bit string and a word modulo the generator, by Horner's rule from `acc`. -/
def mulBits (g b : BitVec w) (acc : BitVec w) (bits : List Bool) : BitVec w :=
  bits.foldl (fun acc bit => shift g acc ^^^ (if bit then b else 0)) acc

/-- The product of two words modulo the generator. -/
def mulWord (g a b : BitVec w) : BitVec w := mulBits g b 0 (lsbFirst a)

/-- The word of the constant polynomial one. -/
def oneWord (w : ℕ) : BitVec w := BitVec.twoPow w (w - 1)

/-- The power of `X` whose exponent has the given binary digits, most significant first. -/
def powX (g : BitVec w) (digits : List Bool) : BitVec w :=
  digits.foldl (fun acc digit =>
    if digit then shift g (mulWord g acc acc) else mulWord g acc acc) (oneWord w)

/-- The number with the given binary digits, most significant first. -/
def ofDigits (digits : List Bool) : ℕ := digits.foldl (fun n digit => 2 * n + digit.toNat) 0

/-- `oneWord` is one. -/
theorem wordPoly_oneWord (hw : 0 < w) : wordPoly (oneWord w) = 1 := by
  ext j
  rw [coeff_wordPoly, oneWord, BitVec.getLsbD_twoPow, coeff_one]
  by_cases hj : j = 0
  · subst hj
    simp [hw]
  · rw [if_neg hj]
    split
    · rw [decide_eq_false (by omega : ¬ w - 1 = w - 1 - j), Bool.and_false, bit_false]
    · rfl

/-- Horner's rule multiplies. -/
theorem generator_dvd_mulBits (g b acc : BitVec w) (bits : List Bool) (hw : 0 < w) :
    generator g ∣ wordPoly (mulBits g b acc bits)
      + (X ^ bits.length * wordPoly acc + bitsPoly bits * wordPoly b) := by
  induction bits generalizing acc with
  | nil =>
    refine ⟨0, ?_⟩
    simp [mulBits, add_self]
  | cons bit bits ih =>
    obtain ⟨q, hq⟩ := ih (shift g acc ^^^ (if bit then b else 0))
    refine ⟨q + X ^ bits.length * C (CyclicCode.bit (acc.getLsbD 0)), ?_⟩
    -- one step of the rule adds `b` for a set digit
    have hbit : wordPoly (if bit then b else 0) = C (CyclicCode.bit bit) * wordPoly b := by
      cases bit with
      | false => rw [if_neg Bool.false_ne_true, wordPoly_zero, bit_false, C_0, zero_mul]
      | true => rw [if_pos rfl, bit_true, C_1, one_mul]
    rw [wordPoly_xor, wordPoly_shift g acc hw, hbit] at hq
    rw [bitsPoly_cons, List.length_cons, pow_succ]
    have hfold : mulBits g b acc (bit :: bits)
        = mulBits g b (shift g acc ^^^ (if bit then b else 0)) bits := rfl
    rw [hfold]
    linear_combination hq
      - X ^ bits.length * C (CyclicCode.bit (acc.getLsbD 0)) * add_self (generator g)

/-- `mulWord` is multiplication modulo the generator. -/
theorem generator_dvd_mulWord (g a b : BitVec w) (hw : 0 < w) :
    generator g ∣ wordPoly (mulWord g a b) + wordPoly a * wordPoly b := by
  have h := generator_dvd_mulBits g b 0 (lsbFirst a) hw
  rwa [wordPoly_zero, mul_zero, zero_add, bitsPoly_lsbFirst] at h

/-- Square-and-multiply from an accumulator that holds `X^n`. -/
theorem generator_dvd_powX_foldl (g acc : BitVec w) (digits : List Bool) (n : ℕ) (hw : 0 < w)
    (hacc : generator g ∣ wordPoly acc + X ^ n) :
    generator g ∣ wordPoly (digits.foldl (fun acc digit =>
        if digit then shift g (mulWord g acc acc) else mulWord g acc acc) acc)
      + X ^ digits.foldl (fun n digit => 2 * n + digit.toNat) n := by
  induction digits generalizing acc n with
  | nil => exact hacc
  | cons digit digits ih =>
    rw [List.foldl_cons, List.foldl_cons]
    apply ih _ _
    obtain ⟨q, hq⟩ := hacc
    obtain ⟨r, hr⟩ := generator_dvd_mulWord g acc acc hw
    -- squaring doubles the exponent, and a set digit adds one more clock
    have hsquare : generator g ∣ wordPoly (mulWord g acc acc) + X ^ (2 * n) := by
      refine ⟨r + q * (wordPoly acc + X ^ n), ?_⟩
      rw [two_mul n, pow_add]
      linear_combination hr + (wordPoly acc + X ^ n) * hq
        - add_self (wordPoly acc * wordPoly acc) - add_self (X ^ n * wordPoly acc)
    cases digit with
    | false => exact hsquare
    | true =>
      obtain ⟨t, ht⟩ := hsquare
      refine ⟨X * t + C (bit ((mulWord g acc acc).getLsbD 0)), ?_⟩
      rw [if_pos rfl, wordPoly_shift g _ hw, Bool.toNat_true, pow_succ]
      linear_combination X * ht

/-- `powX` is a power of `X` modulo the generator. -/
theorem generator_dvd_powX (g : BitVec w) (digits : List Bool) (hw : 0 < w) :
    generator g ∣ wordPoly (powX g digits) + X ^ ofDigits digits := by
  apply generator_dvd_powX_foldl g (oneWord w) digits 0 hw
  rw [wordPoly_oneWord hw, pow_zero, add_self]
  exact dvd_zero _

/-- Evaluating `powX` decides whether a power of `X` is one modulo the generator. -/
theorem generator_dvd_X_pow_add_one_iff (g : BitVec w) {digits : List Bool} {n : ℕ}
    (hn : ofDigits digits = n) (hw : 0 < w) :
    generator g ∣ X ^ n + 1 ↔ powX g digits = oneWord w := by
  have hpow := generator_dvd_powX g digits hw
  rw [hn] at hpow
  have hsum : wordPoly (powX g digits) + wordPoly (oneWord w)
      = wordPoly (powX g digits) + X ^ n + (X ^ n + 1) := by
    rw [wordPoly_oneWord hw]
    linear_combination -add_self (X ^ n : (ZMod 2)[X])
  constructor
  · intro h
    apply eq_of_generator_dvd (g := g)
    rw [hsum]
    exact dvd_add hpow h
  · intro h
    rw [h, add_self] at hsum
    rw [← h] at hsum
    exact (dvd_add_right hpow).mp (hsum ▸ dvd_zero _)

/-- **The period of `X`.** When the generator divides `X^n + 1` but no `X^(n/p) + 1`, it divides
`X^d + 1` exactly for the multiples `d` of `n`. -/
theorem generator_dvd_iff_dvd_of_period {g : BitVec w} {n : ℕ} (hn : 0 < n)
    (hone : generator g ∣ X ^ n + 1)
    (hprime : ∀ p : ℕ, p.Prime → p ∣ n → ¬ generator g ∣ X ^ (n / p) + 1) (d : ℕ) :
    generator g ∣ X ^ d + 1 ↔ n ∣ d := by
  have key : ∀ k, (AdjoinRoot.root (generator g)) ^ k = 1 ↔ generator g ∣ X ^ k + 1 := by
    intro k
    rw [← AdjoinRoot.mk_X, ← map_pow, ← map_one (AdjoinRoot.mk (generator g)), AdjoinRoot.mk_eq_mk,
      sub_eq_add_neg, CharTwo.neg_eq]
  -- in the quotient by the generator, `n` is the order of `X`
  have horder : orderOf (AdjoinRoot.root (generator g)) = n := by
    apply orderOf_eq_of_pow_and_pow_div_prime hn ((key n).mpr hone)
    intro p hp hdvd hpow
    exact hprime p hp hdvd ((key _).mp hpow)
  rw [← key, ← orderOf_dvd_iff_pow_eq_one, horder]

end CyclicCode
