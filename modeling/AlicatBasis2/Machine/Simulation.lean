import AlicatBasis2.Machine.Run

/-! # Two machines side by side

Two partial operations are alike when both are undefined, or both give one value and leave related states;
one rule for each way in which a body is put together. A machine that several users share projects on one of
them when the inputs of that user do to the user's part what they do in a machine of its own, and the others
leave that part alone: then whole runs project, outputs included. -/

namespace Machine

variable {S T S' T' I J O α β : Type*}

/-! ## Alike results -/

/-- Both results are undefined, or they have one value and related states. -/
inductive Alike (R : S → T → Prop) : Option (α × S) → Option (α × T) → Prop
  | none : Alike R none none
  | some {a : α} {s : S} {t : T} : R s t → Alike R (some (a, s)) (some (a, t))

section Alike

variable {R : S → T → Prop} {R' : S' → T' → Prop}

/-- Where one result is defined, so is the other. -/
theorem Alike.exists_eq_some {r : Option (α × S)} {r' : Option (α × T)} (h : Alike R r r') {a : α} {s : S}
    (hr : r = .some (a, s)) : ∃ t, r' = .some (a, t) ∧ R s t := by
  cases h with
  | none => cases hr
  | some hst =>
    cases hr
    exact ⟨_, rfl, hst⟩

/-- A guard on the same condition. -/
theorem alike_guard {c : Prop} [Decidable c] {a : α} {s : S} {t : T} {r : Option (α × S)}
    {r' : Option (α × T)} (hreturn : c → R s t) (hrest : ¬ c → Alike R r r') :
    Alike R (if c then .some (a, s) else r) (if c then .some (a, t) else r') := by
  by_cases hc : c
  · rw [if_pos hc, if_pos hc]
    exact .some (hreturn hc)
  · rw [if_neg hc, if_neg hc]
    exact hrest hc

/-- The same value computed beside the states comes first. -/
theorem alike_bind_value {x : Option β} {f : β → Option (α × S)} {g : β → Option (α × T)}
    (hf : ∀ b, x = .some b → Alike R (f b) (g b)) : Alike R (x.bind f) (x.bind g) := by
  cases x with
  | none => exact .none
  | some b => exact hf b rfl

/-- One operation after another. -/
theorem alike_bind {r : Option (β × S)} {r' : Option (β × T)} {f : β × S → Option (α × S')}
    {g : β × T → Option (α × T')} (h : Alike R r r')
    (hf : ∀ b s t, r = .some (b, s) → R s t → Alike R' (f (b, s)) (g (b, t))) :
    Alike R' (r.bind f) (r'.bind g) := by
  cases h with
  | none => exact .none
  | some hst => exact hf _ _ _ rfl hst

/-- A value handed on under another name. -/
theorem alike_map {r : Option (β × S)} {r' : Option (β × T)} {f : β → α} (h : Alike R r r') :
    Alike R (r.map fun p => (f p.1, p.2)) (r'.map fun p => (f p.1, p.2)) := by
  cases h with
  | none => exact .none
  | some hst => exact .some hst

end Alike

/-! ## Projections -/

/-- The outputs of the inputs that `f` keeps. -/
def heard (f : I → Option J) (is : List I) (os : List O) : List O :=
  (is.zip os).filterMap fun p => (f p.1).map fun _ => p.2

/-- What a step is to one user: a step of its own machine, or nothing. -/
def Projects (step : Step T J O) (proj : S → T) (f : I → Option J) (i : I) (s : S) (o : O) (t : S) : Prop :=
  match f i with
  | some j => step j (proj s) = some (o, proj t)
  | none => proj t = proj s

/-- **Projection of runs.** If every step is to one user a step of its own machine or nothing, a whole run is to
the user the run of its own inputs, with the same outputs to them. -/
theorem Execution.run_project {step : Step T J O} {proj : S → T} {f : I → Option J} {is : List I} {s t : S}
    {os : List O} (h : Execution (Projects step proj f) is s os t) :
    run step (is.filterMap f) (proj s) = some (heard f is os, proj t) := by
  induction h with
  | nil s => rfl
  | @cons i is o os s t u hstep _ ih =>
    unfold Projects at hstep
    cases hi : f i with
    | none =>
      -- an input of somebody else
      rw [hi] at hstep
      rw [List.filterMap_cons_none hi, ← hstep, ih, heard, heard, List.zip_cons_cons,
        List.filterMap_cons_none (by rw [hi]; rfl)]
    | some j =>
      rw [hi] at hstep
      rw [List.filterMap_cons_some hi, run_cons_eq_some_iff]
      refine ⟨o, proj t, _, hstep, ih, ?_⟩
      rw [heard, heard, List.zip_cons_cons, List.filterMap_cons_some (by rw [hi]; rfl)]

end Machine
