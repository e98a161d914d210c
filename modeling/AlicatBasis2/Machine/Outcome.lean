import Mathlib.Logic.Basic

/-! # What a partial operation ensures

An operation in a state gives a value and a next state, or nothing where it is undefined. `Ensures Q r` says
of its result that the value and the state satisfy `Q` if there are any. One rule for each way in which a
body is put together carries `Q` from its parts to the whole. -/

namespace Machine

variable {S α β : Type*} {Q R : α → S → Prop}

/-- A result satisfies `Q` if there is one. -/
def Ensures (Q : α → S → Prop) (r : Option (α × S)) : Prop := ∀ a s, r = some (a, s) → Q a s

/-- No result satisfies everything. -/
theorem ensures_none : Ensures Q none := by
  rintro a s ⟨⟩

/-- A value returned satisfies what it is. -/
theorem ensures_some {a : α} {s : S} (h : Q a s) : Ensures Q (some (a, s)) := by
  rintro a' s' ⟨⟩
  exact h

/-- A weaker condition is ensured too. -/
theorem Ensures.mono {r : Option (α × S)} (h : Ensures Q r) (hQR : ∀ a s, Q a s → R a s) :
    Ensures R r := fun a s hr => hQR a s (h a s hr)

/-- A guard returns early or goes on. -/
theorem ensures_guard {c : Prop} [Decidable c] {a : α} {s : S} {r : Option (α × S)}
    (hreturn : c → Q a s) (hrest : ¬ c → Ensures Q r) : Ensures Q (if c then some (a, s) else r) := by
  by_cases hc : c
  · rw [if_pos hc]
    exact ensures_some (hreturn hc)
  · rw [if_neg hc]
    exact hrest hc

/-- A value computed beside the state comes first. -/
theorem ensures_bind_value {x : Option β} {f : β → Option (α × S)} (hf : ∀ b, Ensures Q (f b)) :
    Ensures Q (x.bind f) := by
  cases x with
  | none => exact ensures_none
  | some b => exact hf b

/-- What comes after may know the value. -/
theorem ensures_bind_known {x : Option β} {f : β → Option (α × S)}
    (hf : ∀ b, x = some b → Ensures Q (f b)) : Ensures Q (x.bind f) := by
  cases x with
  | none => exact ensures_none
  | some b => exact hf b rfl

/-- One operation after another: the second starts from what the first ensures. -/
theorem ensures_bind {P : β → S → Prop} {r : Option (β × S)} {f : β × S → Option (α × S)}
    (hr : Ensures P r) (hf : ∀ b t, P b t → Ensures Q (f (b, t))) : Ensures Q (r.bind f) := by
  cases r with
  | none => exact ensures_none
  | some p => exact hf p.1 p.2 (hr p.1 p.2 rfl)

/-- A value handed on under another name. -/
theorem ensures_map {r : Option (β × S)} {g : β → α} (h : Ensures (fun b s => Q (g b) s) r) :
    Ensures Q (r.map fun p => (g p.1, p.2)) := by
  cases r with
  | none => exact ensures_none
  | some p => exact ensures_some (h p.1 p.2 rfl)

end Machine
