import AlicatBasis2.CyclicCode.Detection

/-! # Where detection ends

The error patterns just beyond those a cyclic code detects. Of the bursts one place longer than the register
the generator's own bits go undetected and no others, and two flipped bits go undetected at the distances `d`
for which the generator divides `X^d + 1`. -/

open Polynomial

namespace CyclicCode

variable {w : ℕ}

/-- A string is determined by its length and its polynomial. -/
theorem eq_of_bitsPoly_eq {as bs : List Bool} (hlen : as.length = bs.length)
    (h : bitsPoly as = bitsPoly bs) : as = bs := by
  have hzero : bitsPoly (xorBits as bs) = 0 := by
    rw [bitsPoly_xorBits hlen, h, add_self]
  rw [bitsPoly_eq_zero_iff] at hzero
  refine List.ext_getElem hlen fun i hi hi' => ?_
  have hbit := hzero (as[i] ^^ bs[i])
    (List.mem_iff_getElem.mpr ⟨i, by rw [length_xorBits hlen]; exact hi, List.getElem_zipWith⟩)
  simpa using hbit

/-! ## Bursts -/

/-- Of the strings one place longer than the register and with a set bit in front, the generator divides its own
bits alone. -/
theorem generator_dvd_cons_iff {g : BitVec w} {bs : List Bool} (hlen : bs.length = w) :
    generator g ∣ bitsPoly (true :: bs) ↔ bs = lsbFirst g := by
  have hsum : bitsPoly (true :: bs) + generator g = bitsPoly bs + wordPoly g := by
    rw [bitsPoly_cons, generator, hlen, bit_true, C_1]
    linear_combination add_self (X ^ w : (ZMod 2)[X])
  rw [← dvd_add_left (dvd_refl (generator g)), hsum]
  constructor
  · intro h
    have hdeg : (bitsPoly bs + wordPoly g).degree < w :=
      lt_of_le_of_lt (degree_add_le _ _) (max_lt (hlen ▸ degree_bitsPoly_lt bs) (degree_wordPoly_lt g))
    have hzero : bitsPoly bs + wordPoly g = 0 := eq_zero_of_generator_dvd hdeg h
    apply eq_of_bitsPoly_eq (by rw [hlen, length_lsbFirst])
    rw [bitsPoly_lsbFirst, ← sub_eq_zero, sub_eq_add_neg, CharTwo.neg_eq, hzero]
  · rintro rfl
    rw [bitsPoly_lsbFirst, add_self]
    exact dvd_zero _

/-- **The shortest undetected bursts.** A nonzero pattern confined to one place more than the register's width goes
undetected exactly when it is the generator, from the first place of the window. -/
theorem generator_dvd_burst_succ_iff {g : BitVec w} (hw : 0 < w) (hg : g.getLsbD (w - 1) = true)
    {e : List Bool} {i : ℕ} (hconf : ConfinedTo e i (w + 1)) (hset : true ∈ e) :
    generator g ∣ bitsPoly e ↔ (e.drop i).take (w + 1) = true :: lsbFirst g := by
  have hpoly := bitsPoly_of_confinedTo hconf
  have hwindow : generator g ∣ bitsPoly e ↔ generator g ∣ bitsPoly ((e.drop i).take (w + 1)) := by
    rw [hpoly]
    exact ⟨generator_dvd_of_dvd_X_pow_mul hw hg, fun h => h.mul_left _⟩
  have hne : bitsPoly ((e.drop i).take (w + 1)) ≠ 0 := by
    intro hzero
    rw [hzero, mul_zero] at hpoly
    exact bitsPoly_ne_zero_of_mem hset hpoly
  have hle : ((e.drop i).take (w + 1)).length ≤ w + 1 := List.length_take_le _ _
  rw [hwindow]
  cases hbits : (e.drop i).take (w + 1) with
  | nil =>
    rw [hbits] at hne
    exact absurd bitsPoly_nil hne
  | cons b bs =>
    rw [hbits] at hne hle
    rcases eq_or_ne (b :: bs).length (w + 1) with hfull | hshort
    · have hlen : bs.length = w := Nat.succ.inj hfull
      cases b with
      | true => rw [generator_dvd_cons_iff hlen, List.cons_eq_cons, and_iff_right rfl]
      | false =>
        -- a clear bit in front leaves a degree below the width
        refine iff_of_false (fun h => hne ?_) (by simp)
        rw [bitsPoly_cons, bit_false, C_0, zero_mul, zero_add] at h ⊢
        exact eq_zero_of_generator_dvd (hlen ▸ degree_bitsPoly_lt bs) h
    · refine iff_of_false (fun h => hne ?_) fun h => hshort ?_
      · refine eq_zero_of_generator_dvd (lt_of_lt_of_le (degree_bitsPoly_lt _) ?_) h
        exact_mod_cast Nat.lt_succ_iff.mp (lt_of_le_of_ne hle hshort)
      · rw [h, List.length_cons, length_lsbFirst]

/-! ## Two flipped bits -/

/-- **Two flipped bits** go undetected exactly when the generator divides `X^d + 1` for their distance `d`. -/
theorem generator_dvd_double_iff {g : BitVec w} (hw : 0 < w) (hg : g.getLsbD (w - 1) = true)
    {as bs cs : List Bool} (has : true ∉ as) (hbs : true ∉ bs) (hcs : true ∉ cs) :
    generator g ∣ bitsPoly (as ++ true :: (bs ++ true :: cs)) ↔ generator g ∣ X ^ (bs.length + 1) + 1 := by
  have hpoly : bitsPoly (as ++ true :: (bs ++ true :: cs)) = X ^ cs.length * (X ^ (bs.length + 1) + 1) := by
    have hlen : (bs ++ true :: cs).length = bs.length + 1 + cs.length := by
      rw [List.length_append, List.length_cons, add_assoc, add_comm 1]
    rw [bitsPoly_append, bitsPoly_eq_zero_of_not_mem has, bitsPoly_cons, hlen, bitsPoly_append,
      bitsPoly_eq_zero_of_not_mem hbs, bitsPoly_cons, bitsPoly_eq_zero_of_not_mem hcs, bit_true, C_1]
    ring
  rw [hpoly]
  exact ⟨generator_dvd_of_dvd_X_pow_mul hw hg, fun h => h.mul_left _⟩

end CyclicCode
