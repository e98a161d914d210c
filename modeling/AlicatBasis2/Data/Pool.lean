import Mathlib.Data.List.Perm.Basic

/-! # Picking from a pool

Elements are taken out of a list one after the other, each by its position in what is then left. Every
element that is taken or left was in the pool, and none is taken twice. -/

namespace Pool

variable {α : Type*}

/-- Take the elements at the given positions out of a pool, one after the other; positions outside the
pool take nothing. -/
def takeAt : List ℕ → List α → List α × List α
  | [], pool => ([], pool)
  | k :: ks, pool =>
      match pool[k]? with
      | some x => (x :: (takeAt ks (pool.eraseIdx k)).1, (takeAt ks (pool.eraseIdx k)).2)
      | none => takeAt ks pool

/-- What is taken and what is left make up the pool: nothing is duplicated. -/
theorem takeAt_perm (ks : List ℕ) (pool : List α) :
    ((takeAt ks pool).1 ++ (takeAt ks pool).2).Perm pool := by
  induction ks generalizing pool with
  | nil => exact List.Perm.refl _
  | cons k ks ih =>
    unfold takeAt
    split
    · next x hx =>
      obtain ⟨hk, rfl⟩ := List.getElem?_eq_some_iff.mp hx
      exact ((ih _).cons _).trans (List.getElem_cons_eraseIdx_perm hk)
    · exact ih pool

/-- Only what is in the pool is taken. -/
theorem mem_of_mem_takeAt {ks : List ℕ} {pool : List α} {x : α}
    (h : x ∈ (takeAt ks pool).1) : x ∈ pool :=
  (takeAt_perm ks pool).mem_iff.mp (List.mem_append_left _ h)

/-- Only what is in the pool is left. -/
theorem mem_of_mem_left {ks : List ℕ} {pool : List α} {x : α}
    (h : x ∈ (takeAt ks pool).2) : x ∈ pool :=
  (takeAt_perm ks pool).mem_iff.mp (List.mem_append_right _ h)

end Pool
