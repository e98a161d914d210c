import Mathlib.Data.List.GetD

/-! # Bitmaps

A set of natural numbers kept in a list of machine words of `w` bits: the number `k` in bit `k % w` of word
`k / w`. -/

namespace Bitmap

variable {w : ℕ}

/-- Whether `k` is in the set. -/
def mem (bitmap : List (BitVec w)) (k : ℕ) : Bool := (bitmap.getD (k / w) 0).getLsbD (k % w)

/-- How many numbers are in the set. -/
def card (bitmap : List (BitVec w)) : ℕ := (List.range (w * bitmap.length)).countP (mem bitmap)

/-- The bitmap with `k` added. -/
def insert (bitmap : List (BitVec w)) (k : ℕ) : List (BitVec w) :=
  bitmap.set (k / w) (bitmap.getD (k / w) 0 ||| BitVec.twoPow w (k % w))

/-- The bitmap with the numbers of a list added one after the other. -/
def insertAll (bitmap : List (BitVec w)) (ks : List ℕ) : List (BitVec w) := ks.foldl insert bitmap

/-- Adding a number keeps the length. -/
@[simp] theorem length_insert (bitmap : List (BitVec w)) (k : ℕ) :
    (insert bitmap k).length = bitmap.length := List.length_set

/-- `insertAll bitmap [] = bitmap`. -/
@[simp] theorem insertAll_nil (bitmap : List (BitVec w)) : insertAll bitmap [] = bitmap := rfl

/-- Cons reading of `insertAll`. -/
@[simp] theorem insertAll_cons (bitmap : List (BitVec w)) (k : ℕ) (ks : List ℕ) :
    insertAll bitmap (k :: ks) = insertAll (insert bitmap k) ks := rfl

/-- Adding numbers keeps the length. -/
@[simp] theorem length_insertAll (bitmap : List (BitVec w)) (ks : List ℕ) :
    (insertAll bitmap ks).length = bitmap.length := by
  induction ks generalizing bitmap with
  | nil => rfl
  | cons k ks ih => rw [insertAll_cons, ih, length_insert]

/-- Adding a number whose word is there adds it and nothing else. -/
theorem mem_insert (hw : 0 < w) {bitmap : List (BitVec w)} {k : ℕ} (hk : k / w < bitmap.length)
    (j : ℕ) : mem (insert bitmap k) j = (decide (j = k) || mem bitmap j) := by
  have hbit : k % w < w := Nat.mod_lt k hw
  unfold mem insert
  rw [List.getD_eq_getElem?_getD, List.getElem?_set]
  by_cases hword : k / w = j / w
  · have hsame : (k % w = j % w) ↔ (j = k) := by
      constructor
      · intro hmod
        rw [← Nat.div_add_mod j w, ← Nat.div_add_mod k w, hword, hmod]
      · rintro rfl
        rfl
    rw [if_pos hword, if_pos hk, Option.getD_some, BitVec.getLsbD_or, BitVec.getLsbD_twoPow,
      decide_eq_true hbit, Bool.true_and, hword, Bool.or_comm]
    simp only [hsame]
  · have hne : j ≠ k := by
      rintro rfl
      exact hword rfl
    rw [if_neg hword, decide_eq_false hne, Bool.false_or, List.getD_eq_getElem?_getD]

/-- Adding numbers whose words are there adds them and nothing else. -/
theorem mem_insertAll (hw : 0 < w) {bitmap : List (BitVec w)} {ks : List ℕ}
    (hks : ∀ k ∈ ks, k / w < bitmap.length) (j : ℕ) :
    mem (insertAll bitmap ks) j = (decide (j ∈ ks) || mem bitmap j) := by
  induction ks generalizing bitmap with
  | nil => simp
  | cons k ks ih =>
    have hrest : ∀ i ∈ ks, i / w < (insert bitmap k).length := fun i hi => by
      rw [length_insert]
      exact hks i (List.mem_cons_of_mem k hi)
    rw [insertAll_cons, ih hrest, mem_insert hw (hks k List.mem_cons_self), ← Bool.or_assoc,
      Bool.or_comm (decide (j ∈ ks))]
    congr 1
    rw [← Bool.decide_or]
    exact decide_eq_decide.mpr List.mem_cons.symm

/-- Words of zeros at the front hold nothing. -/
theorem mem_replicate_append (n : ℕ) (rest : List (BitVec w)) {k : ℕ}
    (hk : k < w * n) : mem (List.replicate n 0 ++ rest) k = false := by
  have hword : k / w < n := Nat.div_lt_of_lt_mul hk
  rw [mem, List.getD_append _ _ _ _ (by rwa [List.length_replicate]), List.getD_replicate _ hword]
  exact BitVec.getLsbD_zero

/-- Adding a number changes no word after its own. -/
theorem drop_insert (bitmap : List (BitVec w)) {k n : ℕ} (hk : k / w < n) :
    (insert bitmap k).drop n = bitmap.drop n := List.drop_set_of_lt hk

/-- Adding numbers changes no word after theirs. -/
theorem drop_insertAll {bitmap : List (BitVec w)} {ks : List ℕ} {n : ℕ}
    (hks : ∀ k ∈ ks, k / w < n) : (insertAll bitmap ks).drop n = bitmap.drop n := by
  induction ks generalizing bitmap with
  | nil => rfl
  | cons k ks ih =>
    rw [insertAll_cons, ih fun i hi => hks i (List.mem_cons_of_mem k hi),
      drop_insert bitmap (hks k List.mem_cons_self)]

/-! ## Counting -/

/-- The first words hold what the whole bitmap holds of their numbers. -/
theorem mem_take (bitmap : List (BitVec w)) {n k : ℕ} (hk : k < w * n) :
    mem (bitmap.take n) k = mem bitmap k := by
  have hword : k / w < n := Nat.div_lt_of_lt_mul hk
  rw [mem, mem, List.getD_eq_getElem?_getD, List.getD_eq_getElem?_getD,
    List.getElem?_take_of_lt hword]

/-- A bitmap of the numbers of a list without repetitions has as many of them as the list. -/
theorem card_eq_length {bitmap : List (BitVec w)} {ks : List ℕ} (hnodup : ks.Nodup)
    (hlt : ∀ k ∈ ks, k < w * bitmap.length)
    (hmem : ∀ k < w * bitmap.length, mem bitmap k = true ↔ k ∈ ks) : card bitmap = ks.length := by
  have hperm : (((List.range (w * bitmap.length)).filter (mem bitmap))).Perm ks := by
    rw [List.perm_ext_iff_of_nodup (List.nodup_range.filter _) hnodup]
    intro k
    rw [List.mem_filter, List.mem_range]
    constructor
    · rintro ⟨hk, hset⟩
      exact (hmem k hk).mp hset
    · intro hk
      exact ⟨hlt k hk, (hmem k (hlt k hk)).mpr hk⟩
  rw [card, List.countP_eq_length_filter, hperm.length_eq]

end Bitmap
