import Mathlib.Algebra.CharP.Two
import Mathlib.Algebra.Field.ZMod
import Mathlib.Algebra.Polynomial.Div
import Mathlib.Algebra.Polynomial.RingDivision

/-! # Bit words and bit strings as polynomials over `GF(2)`

A register word is read with its least significant bit as the highest coefficient, the convention of a
reflected shift register, and a bit string with its first bit as the highest coefficient, the convention
of serial transmission. Both readings turn exclusive or into addition. -/

open Polynomial

namespace CyclicCode

/-- A bit as an element of `GF(2)`. -/
def bit (b : Bool) : ZMod 2 := if b then 1 else 0

/-- `bit false = 0`. -/
@[simp] theorem bit_false : bit false = 0 := rfl

/-- `bit true = 1`. -/
@[simp] theorem bit_true : bit true = 1 := rfl

/-- Exclusive or is addition. -/
theorem bit_xor (a b : Bool) : bit (a ^^ b) = bit a + bit b := by
  cases a <;> cases b <;> decide

/-- A bit is determined by its reading. -/
theorem bit_injective : Function.Injective bit := by
  intro a b h
  cases a <;> cases b <;> first | rfl | exact absurd h (by decide)

/-- Over `GF(2)[X]` a polynomial is its own negative. -/
theorem add_self (p : (ZMod 2)[X]) : p + p = 0 := CharTwo.add_self_eq_zero p

/-! ## Words -/

section Word

variable {w : ℕ}

/-- A word as the polynomial whose coefficient of `X^i` is bit `w - 1 - i`. -/
noncomputable def wordPoly (s : BitVec w) : (ZMod 2)[X] :=
  ∑ i ∈ Finset.range w, C (bit (s.getLsbD (w - 1 - i))) * X ^ i

/-- The coefficients of a word. -/
theorem coeff_wordPoly (s : BitVec w) (j : ℕ) :
    (wordPoly s).coeff j = if j < w then bit (s.getLsbD (w - 1 - j)) else 0 := by
  simp only [wordPoly, finsetSum_coeff, coeff_C_mul_X_pow]
  by_cases hj : j < w
  · -- only the term of `X^j` reaches place `j`
    rw [if_pos hj, Finset.sum_eq_single j]
    · rw [if_pos rfl]
    · intro i _ hij
      rw [if_neg (Ne.symm hij)]
    · intro hj'
      exact absurd (Finset.mem_range.mpr hj) hj'
  · rw [if_neg hj]
    refine Finset.sum_eq_zero fun i hi => if_neg ?_
    have := Finset.mem_range.mp hi
    omega

/-- The word of zeros is the zero polynomial. -/
@[simp] theorem wordPoly_zero : wordPoly (0 : BitVec w) = 0 := by
  ext j
  simp [coeff_wordPoly]

/-- Exclusive or of words is addition of polynomials. -/
theorem wordPoly_xor (s t : BitVec w) : wordPoly (s ^^^ t) = wordPoly s + wordPoly t := by
  ext j
  rw [coeff_add, coeff_wordPoly, coeff_wordPoly, coeff_wordPoly, BitVec.getLsbD_xor, bit_xor]
  split <;> simp

/-- A word's polynomial has degree below the width. -/
theorem degree_wordPoly_lt (s : BitVec w) : (wordPoly s).degree < w := by
  rw [degree_lt_iff_coeff_zero]
  intro j hj
  rw [coeff_wordPoly, if_neg (not_lt.mpr hj)]

/-- A word is determined by its polynomial. -/
theorem wordPoly_injective : Function.Injective (wordPoly : BitVec w → (ZMod 2)[X]) := by
  intro s t h
  refine BitVec.eq_of_getLsbD_eq fun i hi => bit_injective ?_
  have hc := congrArg (fun p => p.coeff (w - 1 - i)) h
  simp only [coeff_wordPoly] at hc
  rw [if_pos (by omega), if_pos (by omega)] at hc
  have hidx : w - 1 - (w - 1 - i) = i := by omega
  rwa [hidx] at hc

/-- Multiplying by `X` moves the word down one place and carries bit `0` into `X^w`. -/
theorem X_mul_wordPoly (s : BitVec w) (hw : 0 < w) :
    X * wordPoly s = wordPoly (s >>> 1) + C (bit (s.getLsbD 0)) * X ^ w := by
  ext j
  rw [coeff_add, coeff_C_mul_X_pow, coeff_wordPoly]
  -- place `0` is emptied, place `w` receives the carry, every other place moves up
  simp only [BitVec.getLsbD_ushiftRight]
  cases j with
  | zero =>
    rw [mul_coeff_zero, coeff_X_zero, zero_mul, if_pos hw, if_neg (by omega : ¬ 0 = w), add_zero,
      BitVec.getLsbD_of_ge s (1 + (w - 1 - 0)) (by omega), bit_false]
  | succ k =>
    rw [coeff_X_mul, coeff_wordPoly]
    rcases lt_trichotomy (k + 1) w with h | h | h
    · rw [if_pos (by omega), if_pos h, if_neg (by omega), add_zero,
        show 1 + (w - 1 - (k + 1)) = w - 1 - k by omega]
    · rw [if_pos (by omega), if_neg (by omega), if_pos h, zero_add,
        show w - 1 - k = 0 by omega]
    · rw [if_neg (by omega), if_neg (by omega), if_neg (by omega), add_zero]

/-- A word in the unreflected reading, bit `i` the coefficient of `X^i`. -/
noncomputable def plainPoly (s : BitVec w) : (ZMod 2)[X] :=
  ∑ i ∈ Finset.range w, C (bit (s.getLsbD i)) * X ^ i

/-- The two readings differ by a reversal of the bits. -/
theorem plainPoly_reverse (s : BitVec w) : plainPoly s.reverse = wordPoly s := by
  refine Finset.sum_congr rfl fun i hi => ?_
  rw [BitVec.getLsbD_reverse, BitVec.getMsbD, decide_eq_true (Finset.mem_range.mp hi),
    Bool.true_and]

/-- The word with bit `0` set to `b` and every other bit clear. -/
def inject (w : ℕ) (b : Bool) : BitVec w := (BitVec.ofBool b).setWidth w

/-- Bit `0` is the coefficient of `X^(w-1)`. -/
theorem wordPoly_inject (b : Bool) (hw : 0 < w) :
    wordPoly (inject w b) = C (bit b) * X ^ (w - 1) := by
  ext j
  rw [coeff_wordPoly, coeff_C_mul_X_pow, inject, BitVec.getLsbD_setWidth, BitVec.getLsbD_ofBool]
  by_cases hj : j = w - 1
  · subst hj
    simp [hw]
  · rw [if_neg hj]
    split
    · rw [decide_eq_false (by omega : ¬ w - 1 - j = 0)]
      simp
    · rfl

end Word

/-! ## Bit strings -/

/-- A bit string as a polynomial, first bit highest. -/
noncomputable def bitsPoly : List Bool → (ZMod 2)[X]
  | [] => 0
  | b :: bs => C (bit b) * X ^ bs.length + bitsPoly bs

/-- The empty string is the zero polynomial. -/
@[simp] theorem bitsPoly_nil : bitsPoly [] = 0 := rfl

/-- Cons reading of `bitsPoly`. -/
theorem bitsPoly_cons (b : Bool) (bs : List Bool) :
    bitsPoly (b :: bs) = C (bit b) * X ^ bs.length + bitsPoly bs := rfl

/-- Concatenation shifts the first string past the second. -/
theorem bitsPoly_append (as bs : List Bool) :
    bitsPoly (as ++ bs) = bitsPoly as * X ^ bs.length + bitsPoly bs := by
  induction as with
  | nil => simp
  | cons a as ih =>
    rw [List.cons_append, bitsPoly_cons, bitsPoly_cons, ih, List.length_append, pow_add]
    ring

/-- A string of clear bits is the zero polynomial. -/
@[simp] theorem bitsPoly_replicate_false (n : ℕ) : bitsPoly (List.replicate n false) = 0 := by
  induction n with
  | zero => rfl
  | succ n ih => rw [List.replicate_succ, bitsPoly_cons, ih, bit_false, C_0, zero_mul, add_zero]

/-- A bit string's polynomial has degree below its length. -/
theorem degree_bitsPoly_lt (bs : List Bool) : (bitsPoly bs).degree < bs.length := by
  induction bs with
  | nil => simp
  | cons b bs ih =>
    rw [bitsPoly_cons, List.length_cons]
    have hlead : (C (bit b) * X ^ bs.length : (ZMod 2)[X]).degree < (bs.length + 1 : ℕ) :=
      lt_of_le_of_lt (degree_C_mul_X_pow_le _ _) (by exact_mod_cast Nat.lt_succ_self _)
    have hrest : (bitsPoly bs).degree < (bs.length + 1 : ℕ) :=
      lt_trans ih (by exact_mod_cast Nat.lt_succ_self _)
    exact lt_of_le_of_lt (degree_add_le _ _) (max_lt hlead hrest)

/-- A bit string with the zero polynomial has only clear bits. -/
theorem bitsPoly_eq_zero_iff (bs : List Bool) : bitsPoly bs = 0 ↔ ∀ b ∈ bs, b = false := by
  induction bs with
  | nil => simp
  | cons b bs ih =>
    rw [List.forall_mem_cons, ← ih]
    constructor
    · intro h
      -- the coefficient at the length of the rest is the first bit alone
      have hb : b = false := by
        have hc := congrArg (fun p => p.coeff bs.length) h
        simp only [bitsPoly_cons, coeff_add, coeff_C_mul_X_pow, if_true, coeff_zero] at hc
        rw [coeff_eq_zero_of_degree_lt (degree_bitsPoly_lt bs), add_zero] at hc
        exact bit_injective hc
      refine ⟨hb, ?_⟩
      rwa [bitsPoly_cons, hb, bit_false, C_0, zero_mul, zero_add] at h
    · rintro ⟨rfl, h⟩
      rw [bitsPoly_cons, h, bit_false, C_0, zero_mul, add_zero]

/-- Bitwise exclusive or of two strings. -/
def xorBits (as bs : List Bool) : List Bool := List.zipWith xor as bs

/-- The length of a bitwise exclusive or of equally long strings. -/
theorem length_xorBits {as bs : List Bool} (h : as.length = bs.length) :
    (xorBits as bs).length = as.length := by
  rw [xorBits, List.length_zipWith, ← h, min_self]

/-- Bitwise exclusive or of equally long strings is addition of polynomials. -/
theorem bitsPoly_xorBits {as bs : List Bool} (h : as.length = bs.length) :
    bitsPoly (xorBits as bs) = bitsPoly as + bitsPoly bs := by
  induction as generalizing bs with
  | nil =>
    cases bs with
    | nil => simp [xorBits]
    | cons b bs => simp at h
  | cons a as ih =>
    cases bs with
    | nil => simp at h
    | cons b bs =>
      have hlen : as.length = bs.length := by simpa using h
      have hstep : xorBits (a :: as) (b :: bs) = (a ^^ b) :: xorBits as bs := rfl
      rw [hstep, bitsPoly_cons, bitsPoly_cons, bitsPoly_cons, ih hlen, length_xorBits hlen, bit_xor,
        ← hlen, C_add]
      ring

/-- The bits of a word, least significant first. -/
def lsbFirst {n : ℕ} (v : BitVec n) : List Bool := (List.range n).map v.getLsbD

/-- A word of `n` bits is sent as `n` bits. -/
@[simp] theorem length_lsbFirst {n : ℕ} (v : BitVec n) : (lsbFirst v).length = n := by
  simp [lsbFirst]

/-- A word sent least significant bit first has the word's own polynomial. -/
theorem bitsPoly_lsbFirst {n : ℕ} (v : BitVec n) : bitsPoly (lsbFirst v) = wordPoly v := by
  -- the first `k` bits are a word of width `k`; induction on `k` appends one bit at the low end
  have key : ∀ k, k ≤ n → ∀ j, (bitsPoly ((List.range k).map v.getLsbD)).coeff j
      = if j < k then bit (v.getLsbD (k - 1 - j)) else 0 := by
    intro k hk
    induction k with
    | zero => simp
    | succ k ih =>
      intro j
      rw [List.range_succ, List.map_append, bitsPoly_append, coeff_add]
      cases j with
      | zero => simp [bitsPoly_cons]
      | succ j =>
        have hj : (j + 1 < k + 1) ↔ j < k := by omega
        have hidx : k - (j + 1) = k - 1 - j := by omega
        simp [bitsPoly_cons, coeff_mul_X, ih (by omega), coeff_C_succ, hj, hidx]
  ext j
  rw [lsbFirst, key n le_rfl, coeff_wordPoly]

end CyclicCode
