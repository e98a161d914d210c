import Mathlib.Data.List.Induction

/-! # Runs of a partial machine

A machine takes an input in a state and, where its step is defined, gives an output and a next state. A run
feeds it a list of inputs. An execution is the same thing for a specification, a relation between a state,
an input, an output and a next state; a machine refines a specification when its runs are executions. -/

namespace Machine

variable {S A I O : Type*}

/-- One step: an input in a state, an output and the next state. -/
abbrev Step (S I O : Type*) := I → S → Option (O × S)

/-- What a step may do, as a relation. -/
abbrev Spec (S I O : Type*) := I → S → O → S → Prop

/-- The outputs and the last state of a run; `none` when a step is undefined. -/
def run (step : Step S I O) : List I → S → Option (List O × S)
  | [], s => some ([], s)
  | i :: is, s => do
      let (o, s) ← step i s
      let (os, s) ← run step is s
      return (o :: os, s)

/-- `Execution spec is s os t`: inputs `is` may lead from `s` to `t` with outputs `os`. -/
inductive Execution (spec : Spec S I O) : List I → S → List O → S → Prop
  | nil (s : S) : Execution spec [] s [] s
  | cons {i : I} {is : List I} {o : O} {os : List O} {s t u : S} :
      spec i s o t → Execution spec is t os u → Execution spec (i :: is) s (o :: os) u

/-! ## Runs -/

/-- A run of no input stays where it is. -/
@[simp] theorem run_nil (step : Step S I O) (s : S) : run step [] s = some ([], s) := rfl

/-- A run takes its first step first. -/
theorem run_cons_eq_some_iff {step : Step S I O} {i : I} {is : List I} {s u : S} {os : List O} :
    run step (i :: is) s = some (os, u)
      ↔ ∃ o t os', step i s = some (o, t) ∧ run step is t = some (os', u) ∧ os = o :: os' := by
  rw [run]
  constructor
  · intro h
    obtain ⟨⟨o, t⟩, hstep, h⟩ := Option.bind_eq_some_iff.mp h
    obtain ⟨⟨os', u'⟩, hrun, h⟩ := Option.bind_eq_some_iff.mp h
    cases h
    exact ⟨o, t, os', hstep, hrun, rfl⟩
  · rintro ⟨o, t, os', hstep, hrun, rfl⟩
    simp [hstep, hrun]

/-- A run of a concatenation passes through the state between the parts. -/
theorem run_append_eq_some_iff {step : Step S I O} {is js : List I} {s u : S} {os : List O} :
    run step (is ++ js) s = some (os, u)
      ↔ ∃ t os₁ os₂, run step is s = some (os₁, t) ∧ run step js t = some (os₂, u)
        ∧ os = os₁ ++ os₂ := by
  induction is generalizing s os with
  | nil => simp
  | cons i is ih =>
    rw [List.cons_append, run_cons_eq_some_iff]
    constructor
    · rintro ⟨o, t, os', hstep, hrun, rfl⟩
      obtain ⟨v, os₁, os₂, h₁, h₂, rfl⟩ := ih.mp hrun
      exact ⟨v, o :: os₁, os₂, run_cons_eq_some_iff.mpr ⟨o, t, os₁, hstep, h₁, rfl⟩, h₂, rfl⟩
    · rintro ⟨v, os₁, os₂, h₁, h₂, rfl⟩
      obtain ⟨o, t, os₁', hstep, hrun, rfl⟩ := run_cons_eq_some_iff.mp h₁
      exact ⟨o, t, os₁' ++ os₂, hstep, ih.mpr ⟨v, os₁', os₂, hrun, h₂, rfl⟩, rfl⟩

/-- A run of one more input is a run and a step. -/
theorem run_snoc_eq_some_iff {step : Step S I O} {is : List I} {i : I} {s u : S} {os : List O} :
    run step (is ++ [i]) s = some (os, u)
      ↔ ∃ t os' o, run step is s = some (os', t) ∧ step i t = some (o, u) ∧ os = os' ++ [o] := by
  rw [run_append_eq_some_iff]
  constructor
  · rintro ⟨t, os₁, os₂, h₁, h₂, rfl⟩
    obtain ⟨o, v, os', hstep, hnil, rfl⟩ := run_cons_eq_some_iff.mp h₂
    cases hnil
    exact ⟨t, os₁, o, h₁, hstep, rfl⟩
  · rintro ⟨t, os', o, h₁, hstep, rfl⟩
    exact ⟨t, os', [o], h₁, run_cons_eq_some_iff.mpr ⟨o, u, [], hstep, rfl, rfl⟩, rfl⟩

/-- **Induction along a run.** What holds at the start and is kept by every step, with the inputs and
outputs up to it in view, holds at the end. -/
theorem run_induction {step : Step S I O} {P : List I → List O → S → Prop} {s : S}
    (start : P [] [] s)
    (next : ∀ is os t i o u, run step is s = some (os, t) → P is os t → step i t = some (o, u) →
      P (is ++ [i]) (os ++ [o]) u)
    {is : List I} {os : List O} {t : S} (h : run step is s = some (os, t)) : P is os t := by
  induction is using List.reverseRecOn generalizing os t with
  | nil =>
    cases h
    exact start
  | append_singleton is i ih =>
    obtain ⟨v, os', o, hrun, hstep, rfl⟩ := run_snoc_eq_some_iff.mp h
    exact next is os' v i o t hrun (ih hrun) hstep

/-- A run is an execution of its own step. -/
theorem run_eq_some_iff_execution {step : Step S I O} {is : List I} {s t : S} {os : List O} :
    run step is s = some (os, t) ↔ Execution (fun i s o t => step i s = some (o, t)) is s os t := by
  induction is generalizing s os with
  | nil =>
    constructor
    · intro h
      cases h
      exact .nil _
    · intro h
      cases h
      rfl
  | cons i is ih =>
    rw [run_cons_eq_some_iff]
    constructor
    · rintro ⟨o, u, os', hstep, hrun, rfl⟩
      exact .cons hstep (ih.mp hrun)
    · rintro (_ | ⟨hstep, hrest⟩)
      exact ⟨_, _, _, hstep, ih.mpr hrest, rfl⟩

/-! ## Executions -/

variable {spec : Spec S I O}

/-- An execution has one output for each input. -/
theorem Execution.length_eq {is : List I} {s t : S} {os : List O} (h : Execution spec is s os t) :
    is.length = os.length := by
  induction h with
  | nil => rfl
  | cons _ _ ih => rw [List.length_cons, List.length_cons, ih]

/-- An execution has an output for every input. -/
theorem Execution.exists_mem_zip {is : List I} {s t : S} {os : List O} (h : Execution spec is s os t)
    {i : I} (hi : i ∈ is) : ∃ o, (i, o) ∈ is.zip os := by
  obtain ⟨k, hk, rfl⟩ := List.getElem_of_mem hi
  have hko : k < os.length := h.length_eq ▸ hk
  have hzip : k < (is.zip os).length := List.length_zip ▸ Nat.lt_min.mpr ⟨hk, hko⟩
  exact ⟨os[k], List.getElem_zip (h := hzip) ▸ List.getElem_mem hzip⟩

/-- Executions of one specification are executions of a weaker one. -/
theorem Execution.weaken {spec' : Spec S I O} {is : List I} {s t : S} {os : List O}
    (h : Execution spec is s os t) (hstep : ∀ i s o t, spec i s o t → spec' i s o t) :
    Execution spec' is s os t := by
  induction h with
  | nil s => exact .nil s
  | cons hspec _ ih => exact .cons (hstep _ _ _ _ hspec) ih

/-- An execution of a concatenation passes through a state between the parts. -/
theorem Execution.exists_append {is js : List I} {s u : S} {os : List O}
    (h : Execution spec (is ++ js) s os u) :
    ∃ t os₁ os₂, Execution spec is s os₁ t ∧ Execution spec js t os₂ u ∧ os = os₁ ++ os₂ := by
  induction is generalizing s os with
  | nil => exact ⟨s, [], os, .nil s, h, rfl⟩
  | cons i is ih =>
    rcases h with _ | ⟨hstep, hrest⟩
    obtain ⟨t, os₁, os₂, h₁, h₂, rfl⟩ := ih hrest
    exact ⟨t, _ :: os₁, os₂, .cons hstep h₁, h₂, rfl⟩

/-- Every step of an execution takes one of its inputs. -/
theorem Execution.of_mem {is : List I} {s t : S} {os : List O} (h : Execution spec is s os t) :
    Execution (fun i s o t => i ∈ is ∧ spec i s o t) is s os t := by
  induction h with
  | nil s => exact .nil s
  | @cons i is o os s t u hspec _ ih =>
    refine .cons ⟨List.mem_cons_self, hspec⟩ ?_
    exact (ih.weaken fun j _ _ _ hj => ⟨List.mem_cons_of_mem i hj.1, hj.2⟩)

/-- What every step says of its input and output under an invariant it keeps, an execution says of all its
inputs and outputs. -/
theorem Execution.forall_mem_zip (Inv : S → Prop) {Q : I → O → Prop}
    (hstep : ∀ i s o t, Inv s → spec i s o t → Q i o ∧ Inv t)
    {is : List I} {s t : S} {os : List O} (h : Execution spec is s os t) (hs : Inv s) :
    ∀ p ∈ is.zip os, Q p.1 p.2 := by
  induction h with
  | nil => exact fun p hp => absurd hp List.not_mem_nil
  | cons hspec _ ih =>
    obtain ⟨hQ, ht⟩ := hstep _ _ _ _ hs hspec
    intro p hp
    rcases List.mem_cons.mp hp with rfl | hp
    · exact hQ
    · exact ih ht p hp

/-! ## Refinement -/

/-- Executions of one specification are executions of a weaker one along an invariant. -/
theorem Execution.mono {spec spec' : Spec S I O} (Inv : S → Prop)
    (hstep : ∀ i s o t, Inv s → spec i s o t → spec' i s o t ∧ Inv t)
    {is : List I} {s t : S} {os : List O} (h : Execution spec is s os t) (hs : Inv s) :
    Execution spec' is s os t ∧ Inv t := by
  induction h with
  | nil s => exact ⟨.nil s, hs⟩
  | cons hspec _ ih =>
    obtain ⟨hspec', ht⟩ := hstep _ _ _ _ hs hspec
    exact ⟨.cons hspec' (ih ht).1, (ih ht).2⟩

/-- **Refinement.** A machine whose step is defined under an invariant, keeps it, and does in the abstract
state what the specification allows, has a run on all admitted inputs, and the run is an execution. -/
theorem exists_run_execution {step : Step S I O} {spec : Spec A I O} (abstr : S → A)
    (Inv : S → Prop) {Admit : I → Prop}
    (hstep : ∀ i s, Admit i → Inv s →
      ∃ o t, step i s = some (o, t) ∧ Inv t ∧ spec i (abstr s) o (abstr t))
    {is : List I} (his : ∀ i ∈ is, Admit i) {s : S} (hs : Inv s) :
    ∃ os t, run step is s = some (os, t) ∧ Inv t ∧ Execution spec is (abstr s) os (abstr t) := by
  induction is generalizing s with
  | nil => exact ⟨[], s, rfl, hs, .nil _⟩
  | cons i is ih =>
    obtain ⟨o, t, hi, ht, hspec⟩ := hstep i s (his i (List.mem_cons_self)) hs
    obtain ⟨os, u, hrun, hu, hexec⟩ := ih (fun j hj => his j (List.mem_cons_of_mem i hj)) ht
    exact ⟨o :: os, u, run_cons_eq_some_iff.mpr ⟨o, t, os, hi, hrun, rfl⟩, hu,
      .cons hspec hexec⟩

/-- A machine whose step is defined under an invariant and keeps it has a run on all admitted inputs. -/
theorem exists_run {step : Step S I O} (Inv : S → Prop) {Admit : I → Prop}
    (hstep : ∀ i s, Admit i → Inv s → ∃ o t, step i s = some (o, t) ∧ Inv t)
    {is : List I} (his : ∀ i ∈ is, Admit i) {s : S} (hs : Inv s) :
    ∃ os t, run step is s = some (os, t) ∧ Inv t := by
  have hspec : ∀ i s, Admit i → Inv s →
      ∃ o t, step i s = some (o, t) ∧ Inv t ∧ step i s = some (o, t) := by
    intro i s hi hs
    obtain ⟨o, t, hdefined, ht⟩ := hstep i s hi hs
    exact ⟨o, t, hdefined, ht, hdefined⟩
  have hown : ∃ os t, run step is s = some (os, t) ∧ Inv t
      ∧ Execution (fun i s o t => step i s = some (o, t)) is s os t :=
    exists_run_execution id Inv hspec his hs
  obtain ⟨os, t, hrun, ht, -⟩ := hown
  exact ⟨os, t, hrun, ht⟩

end Machine
