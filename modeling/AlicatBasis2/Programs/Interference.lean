import AlicatBasis2.Bus.Durability

/-! # A program among others

A program on the host is the calls of one driver in their order. Between them anything may happen that keeps
the addresses and the registers under consideration: calls of other drivers, other rates, measurements. If the
program stores in every register one value at most, a register of the instrument it addresses keeps what it
held or gets that value, under all faults of the line, and has it for good once the store was acknowledged. -/

namespace AlicatBasis2

open Modbus

variable {F : Type} {m n : ℕ}

/-! ## Programs and their surroundings -/

/-- The call of a driver that an input is. -/
def FleetInput.callOf (d : Fin m) : FleetInput F m n → Option (Call F)
  | .call c => if c.driver = d then some c.call else none
  | .tune _ | .own _ _ => none

/-- The calls of a driver in a run, in their order. -/
def FleetInput.program (d : Fin m) (inputs : List (FleetInput F m n)) : List (Call F) :=
  inputs.filterMap (FleetInput.callOf d)

/-- A call is one of its own driver. -/
@[simp] theorem FleetInput.callOf_call {d : Fin m} {c : FleetCall F m n} (h : c.driver = d) :
    (FleetInput.call c).callOf d = some c.call := if_pos h

/-- Nothing else is. -/
theorem FleetInput.callOf_eq_some {d : Fin m} {input : FleetInput F m n} {call : Call F}
    (h : input.callOf d = some call) : ∃ c, input = .call c ∧ c.driver = d ∧ c.call = call := by
  cases input with
  | call c =>
    rw [callOf] at h
    split_ifs at h with hd
    exact ⟨c, rfl, hd, Option.some.inj h⟩
  | tune | own => cases h

variable [FloatArith F]

/-- An input that is no call of driver `d` stores nothing in the registers of `A`. -/
def FleetInput.Respects (d : Fin m) (A : Set U16) (input : FleetInput F m n) (sys : FleetSystem m n) : Prop :=
  input.callOf d = none → ∀ a ∈ A, input.Spares a sys

/-- A call that leaves its driver as it is and stores nothing but values of a table. -/
structure Call.Within (driver : Driver) (table : List (U16 × U16)) (call : Call F) : Prop where
  keeps : ∀ reply, call.driverAfter reply driver = driver
  stores : ∀ message ∈ call.script driver, ∀ a v, message.request.sets a = some v → (a, v) ∈ table

/-- What a program within a table may have done to the registers of `A`. -/
structure FleetSystem.Programmed (d : Fin m) (table : List (U16 × U16)) (A : Set U16)
    (sys sys' : FleetSystem m n) : Prop where
  driver : sys'.drivers d = sys.drivers d
  registers : ∀ i, ∀ a ∈ A, sys'.stores i a = sys.stores i a
    ∨ sys.stores i 45 = (sys.drivers d).address.setWidth 16 ∧ (a, sys'.stores i a) ∈ table

section Programmed

variable {d : Fin m} {table : List (U16 × U16)} {A : Set U16} {sys sys' sys'' : FleetSystem m n}

omit [FloatArith F] in
/-- No program has done nothing. -/
theorem FleetSystem.Programmed.refl (sys : FleetSystem m n) : sys.Programmed d table A sys :=
  ⟨rfl, fun _ _ _ => Or.inl rfl⟩

omit [FloatArith F] in
/-- A table that moves no instrument. -/
theorem FleetSystem.Programmed.address (h : sys.Programmed d table A sys') (haddr : 45 ∈ A)
    (htable : 45 ∉ table.map Prod.fst) (i : Fin n) : sys'.stores i 45 = sys.stores i 45 :=
  (h.registers i 45 haddr).resolve_right fun hset => htable (List.mem_map_of_mem (f := Prod.fst) hset.2)

omit [FloatArith F] in
/-- Two parts of a program in a row. -/
theorem FleetSystem.Programmed.trans (h : sys.Programmed d table A sys')
    (h' : sys'.Programmed d table A sys'') (haddr : 45 ∈ A) (htable : 45 ∉ table.map Prod.fst) :
    sys.Programmed d table A sys'' := by
  refine ⟨h'.driver.trans h.driver, fun i a ha => ?_⟩
  rcases h'.registers i a ha with hkept | ⟨hat, hset⟩
  · rw [hkept]
    exact h.registers i a ha
  · rw [h.address haddr htable, h.driver] at hat
    exact Or.inr ⟨hat, hset⟩

/-- One input: a call of the program, or something that respects its registers. -/
theorem Fleet.Allows.programmed {fleet : Fleet n} {input : FleetInput F m n} {reply : Reply F}
    (h : fleet.Allows input sys reply sys') (hrespects : input.Respects d A sys)
    (hwithin : ∀ call, input.callOf d = some call → call.Within (sys.drivers d) table)
    (hunicast : (sys.drivers d).address ≠ kBroadcastAddress) : sys.Programmed d table A sys' := by
  cases hcall : input.callOf d with
  | none =>
    refine ⟨?_, fun i a ha => Or.inl (h.spares (hrespects hcall a ha) i)⟩
    cases input with
    | call c =>
      have hother : d ≠ c.driver := fun hd => by simp [hd] at hcall
      rw [h.1, Function.update_of_ne hother]
    | tune bps => exact congrFun (congrArg FleetSystem.drivers h.2) d
    | own j regs => exact congrFun (congrArg FleetSystem.drivers h.2) d
  | some call =>
    obtain ⟨c, rfl, rfl, rfl⟩ := FleetInput.callOf_eq_some hcall
    obtain ⟨hkeeps, hstores⟩ := hwithin c.call hcall
    refine ⟨?_, fun i a _ => ?_⟩
    · rw [h.1, Function.update_self, hkeeps]
    · rcases h.2.only i with hkept | ⟨message, hmessage, hhears, -, happlied⟩
      · exact Or.inl (congrFun hkept a)
      · have hvalue : sys'.stores i a = message.request.apply (sys.stores i) a := congrFun happlied a
        cases hsets : message.request.sets a with
        | none => exact Or.inl (hvalue.trans (Request.apply_of_sets_eq_none hsets _))
        | some v =>
          rw [Request.apply_of_sets_eq_some hsets] at hvalue
          rw [c.call.unit_of_sets hmessage hsets] at hhears
          rw [hvalue]
          exact Or.inr ⟨hhears.2.resolve_left hunicast, hstores message hmessage a v hsets⟩

/-! ## Runs -/

variable {fleet : Fleet n} {P : FleetInput F m n → FleetSystem m n → Prop}
  {inputs : List (FleetInput F m n)} {replies : List (Reply F)}

/-- The surroundings of a program within a table: its driver talks to one instrument, everybody else respects
the registers of `A`, and the table moves no instrument. -/
structure FleetInput.Hosts (d : Fin m) (table : List (U16 × U16)) (A : Set U16)
    (inputs : List (FleetInput F m n)) (P : FleetInput F m n → FleetSystem m n → Prop)
    (sys : FleetSystem m n) : Prop where
  respects : ∀ input s, P input s → input.Respects d A s
  within : ∀ call ∈ program d inputs, call.Within (sys.drivers d) table
  unicast : (sys.drivers d).address ≠ kBroadcastAddress
  address : 45 ∈ A
  unmoved : 45 ∉ table.map Prod.fst

/-- After its first input a program is in the same surroundings. -/
theorem FleetInput.Hosts.tail {input : FleetInput F m n} (h : Hosts d table A (input :: inputs) P sys)
    (hprogrammed : sys.Programmed d table A sys') : Hosts d table A inputs P sys' := by
  refine ⟨h.respects, fun call hcall => ?_, ?_, h.address, h.unmoved⟩
  · obtain ⟨other, hmem, hother⟩ := List.mem_filterMap.mp hcall
    rw [hprogrammed.driver]
    exact h.within call (List.mem_filterMap.mpr ⟨other, List.mem_cons_of_mem _ hmem, hother⟩)
  · rw [hprogrammed.driver]
    exact h.unicast

/-- One input of a run that has come to `sys'`. -/
theorem FleetInput.Hosts.step (h : Hosts d table A inputs P sys)
    (hprogrammed : sys.Programmed d table A sys') {input : FleetInput F m n} (hmem : input ∈ inputs)
    {reply : Reply F} (hruns : fleet.Runs P input sys' reply sys'') : sys.Programmed d table A sys'' := by
  refine hprogrammed.trans (hruns.allows.programmed (h.respects _ _ hruns.2.2) (fun call hcall => ?_) ?_)
    h.address h.unmoved
  · rw [hprogrammed.driver]
    exact h.within call (List.mem_filterMap.mpr ⟨input, hmem, hcall⟩)
  · rw [hprogrammed.driver]
    exact h.unicast

/-- **A program among others.** Through every run a program within a table does to the registers of `A` what the
table says or nothing. -/
theorem FleetInput.Hosts.programmed (h : Hosts d table A inputs P sys)
    (hexec : Machine.Execution (fleet.Runs P) inputs sys replies sys') : sys.Programmed d table A sys' := by
  have hstep : ∀ input s reply s', sys.Programmed d table A s →
      (input ∈ inputs ∧ fleet.Runs P input s reply s') →
      fleet.Runs P input s reply s' ∧ sys.Programmed d table A s' :=
    fun _ _ _ _ hs hruns => ⟨hruns.2, h.step hs hruns.1 hruns.2⟩
  exact (hexec.of_mem.mono _ hstep (.refl sys)).2

/-- What a call of the program has stored and seen acknowledged stands to the end of the run. -/
theorem FleetInput.Hosts.acknowledged (h : Hosts d table A inputs P sys)
    (hexec : Machine.Execution (fleet.Runs P) inputs sys replies sys') (hsep : sys.Separate)
    (honce : (table.map Prod.fst).Nodup) {c : FleetCall F m n} {reply : Reply F}
    (hmem : (FleetInput.call c, reply) ∈ inputs.zip replies) (hd : c.driver = d)
    (hok : reply.error = .none) {message : Message} (hmessage : message ∈ c.call.script (sys.drivers d))
    {a v : U16} (ha : a ∈ A) (hsets : message.request.sets a = some v) :
    ∃ i, sys.stores i 45 = (sys.drivers d).address.setWidth 16 ∧ sys'.stores i a = v := by
  induction hexec with
  | nil => exact absurd hmem List.not_mem_nil
  | @cons input inputs reply₁ replies sys sys₁ sys' hruns hrest ih =>
    have hstep : sys.Programmed d table A sys₁ :=
      h.step (.refl sys) List.mem_cons_self hruns
    have hat : ∀ i, sys₁.stores i 45 = sys.stores i 45 := hstep.address h.address h.unmoved
    rcases List.mem_cons.mp hmem with heq | hlater
    · obtain ⟨rfl, rfl⟩ := Prod.mk.inj heq
      subst hd
      obtain ⟨i, honly, happlied, -⟩ := hruns.allows.stored hsep h.unicast hok hmessage hsets
      have hvalue : sys₁.stores i a = v := by
        rw [happlied, Request.apply_of_sets_eq_some hsets]
      refine ⟨i, (honly i).mpr rfl, ?_⟩
      -- what is stored there later is the same value
      rcases ((h.tail hstep).programmed hrest).registers i a ha with hkept | ⟨-, hset⟩
      · exact hkept.trans hvalue
      · have hwithin : c.call.Within (sys.drivers c.driver) table :=
          h.within c.call (List.mem_filterMap.mpr ⟨_, List.mem_cons_self, callOf_call rfl⟩)
        have hin : (a, v) ∈ table := hwithin.stores message hmessage a v hsets
        exact (Prod.mk.inj (List.inj_on_of_nodup_map honce hset hin rfl)).2
    · obtain ⟨i, hi, hvalue⟩ := ih (h.tail hstep) (hsep.of_eq hat) hlater (hstep.driver ▸ hmessage)
      exact ⟨i, by rw [← hat, hi, hstep.driver], hvalue⟩

/-- What a call of the program that succeeds tells of is what the registers of `A` held at the start or what the
table says. -/
theorem FleetInput.Hosts.told (h : Hosts d table A inputs P sys)
    (hexec : Machine.Execution (fleet.Runs P) inputs sys replies sys') (hsep : sys.Separate)
    {c : FleetCall F m n} {reply : Reply F} (hmem : (FleetInput.call c, reply) ∈ inputs.zip replies)
    (hd : c.driver = d) (hok : reply.error = .none) (hsweep : ¬ c.call.IsDiscovery)
    (hne : c.call.script (sys.drivers d) ≠ []) :
    ∃ i regs, sys.stores i 45 = (sys.drivers d).address.setWidth 16 ∧ c.call.Told reply regs
      ∧ ∀ a ∈ A, regs a = sys.stores i a ∨ (a, regs a) ∈ table := by
  refine hexec.of_mem.forall_mem_zip (sys.Programmed d table A)
    (Q := fun input reply => ∀ c, input = .call c → c.driver = d → reply.error = .none →
      ¬ c.call.IsDiscovery → c.call.script (sys.drivers d) ≠ [] →
      ∃ i regs, sys.stores i 45 = (sys.drivers d).address.setWidth 16 ∧ c.call.Told reply regs
        ∧ ∀ a ∈ A, regs a = sys.stores i a ∨ (a, regs a) ∈ table)
    (fun input s reply s' hs hruns => ⟨?_, h.step hs hruns.1 hruns.2⟩)
    (.refl sys) _ hmem c rfl hd hok hsweep hne
  rintro c rfl rfl hok hsweep hne
  have hat : ∀ i, s.stores i 45 = sys.stores i 45 := hs.address h.address h.unmoved
  obtain ⟨i, honly, htold, -⟩ := (hruns.2.allows.2.exclusive (hsep.of_eq hat)).whole hok hsweep
    (hs.driver ▸ hne) (hs.driver ▸ h.unicast)
  refine ⟨i, s.stores i, ?_, htold, fun a ha => (hs.registers i a ha).imp_right And.right⟩
  rw [← hat, (honly i).mpr rfl, hs.driver]

/-- A call that an instrument can answer: a sweep with room for its bitmap, or messages that are waited for and
that the instrument accepts. -/
def Call.Answerable (fleet : Fleet n) (i : Fin n) (driver : Driver) (call : Call F) : Prop :=
  (∃ buf bytes ms first last, call = .discoverPresentAddresses (some buf) bytes ms first last ∧ 32 ≤ bytes)
    ∨ ¬ call.IsDiscovery ∧ call.script driver ≠ []
      ∧ ∀ message ∈ call.script driver, message.Awaited ∧ fleet.accepts i message.request = true

/-- Where nothing is lost and the instrument is at the rate of the line, the calls of the program succeed. -/
theorem FleetInput.Hosts.succeeds (h : Hosts d table A inputs P sys)
    (hexec : Machine.Execution (fleet.Runs P) inputs sys replies sys') (hsep : sys.Separate) {i : Fin n}
    (hat : sys.stores i 45 = (sys.drivers d).address.setWidth 16)
    (hclean : ∀ (c : FleetCall F m n) s, P (.call c) s → c.driver = d →
      c.faults = [] ∧ (s.stores i).lineRate = some s.rate)
    (hanswers : ∀ call ∈ program d inputs, call.Answerable fleet i (sys.drivers d))
    {c : FleetCall F m n} {reply : Reply F} (hmem : (FleetInput.call c, reply) ∈ inputs.zip replies)
    (hd : c.driver = d) : reply.error = .none := by
  refine hexec.of_mem.forall_mem_zip (sys.Programmed d table A)
    (Q := fun input reply => ∀ c, input = .call c → c.driver = d → reply.error = .none)
    (fun input s reply s' hs hruns => ⟨?_, h.step hs hruns.1 hruns.2⟩)
    (.refl sys) _ hmem c rfl hd
  rintro c rfl rfl
  obtain ⟨hinput, hruns⟩ := hruns
  obtain ⟨hfaults, hrate⟩ := hclean c s hruns.2.2 rfl
  have hsame : ∀ j, s.stores j 45 = sys.stores j 45 := hs.address h.address h.unmoved
  rcases hanswers c.call (List.mem_filterMap.mpr ⟨_, hinput, callOf_call rfl⟩) with
    ⟨buf, bytes, ms, first, last, hcall, hbytes⟩ | ⟨hsweep, hne, hmessages⟩
  · obtain ⟨rc, buf', rfl, hrc, -⟩ := hruns.allows.2.found buf bytes ms first last hcall hbytes
    exact hrc
  · rw [← hs.driver] at hne hmessages
    refine hruns.allows.2.live hfaults hsweep hne ((hsep.of_eq hsame).alone _ _) i ⟨hrate, ?_, ?_⟩ hmessages
    · exact hs.driver ▸ h.unicast
    · change s.stores i 45 = _
      rw [hsame, hs.driver]
      exact hat

/-! ## Nothing in the way -/

/-- The surroundings in which nothing of a program is lost: its transactions are without faults, and the instrument
is at the rate of the line when they come. -/
def FleetInput.Undisturbed (d : Fin m) (i : Fin n) (A : Set U16) (input : FleetInput F m n)
    (sys : FleetSystem m n) : Prop :=
  input.Respects d A sys ∧ ∀ c, input = .call c → c.driver = d →
    c.faults = [] ∧ (sys.stores i).lineRate = some sys.rate

/-- Nothing in the way is within respect. -/
theorem FleetInput.respects_of_undisturbed {i : Fin n}
    (h : Machine.Execution (fleet.Runs (Undisturbed d i A)) inputs sys replies sys') :
    Machine.Execution (fleet.Runs (Respects d A)) inputs sys replies sys' :=
  h.weaken fun _ _ _ _ hruns => ⟨hruns.1, hruns.2.1, hruns.2.2.1⟩

/-- Calls of one driver and nothing else, on an empty receive buffer. -/
def FleetInput.alone (n : ℕ) (d : Fin m) (calls : List (Call F)) : List (FleetInput F m n) :=
  calls.map fun call => .call ⟨d, call, [], []⟩

omit [FloatArith F] in
/-- The program of a driver alone is its calls. -/
@[simp] theorem FleetInput.program_alone (d : Fin m) (calls : List (Call F)) :
    program d (alone n d calls) = calls := by
  rw [program, alone, List.filterMap_map]
  exact (List.filterMap_congr fun call _ => callOf_call rfl).trans List.filterMap_some

/-- Alone on the bus a program runs, and nothing is in its way. -/
theorem FleetInput.exists_execution_alone (fleet : Fleet n) {i : Fin n} {calls : List (Call F)}
    (hdefined : ∀ call ∈ calls, call.Defined)
    (hwithin : ∀ call ∈ calls, call.Within (sys.drivers d) table)
    (hunicast : (sys.drivers d).address ≠ kBroadcastAddress) (htable : 45 ∉ table.map Prod.fst)
    (hrates : 21 ∉ table.map Prod.fst) (hrate : (sys.stores i).lineRate = some sys.rate) :
    ∃ replies sys', Machine.Execution (fleet.Runs (Undisturbed d i Set.univ)) (alone n d calls) sys replies
      sys' := by
  let Inv : FleetSystem m n → Prop := fun s => sys.Programmed d table Set.univ s ∧ s.rate = sys.rate
  have hstep : ∀ input s, input ∈ alone n d calls → Inv s → ∃ reply s',
      fleet.step input s = some (reply, s') ∧ Inv s' ∧ fleet.Runs (Undisturbed d i Set.univ) input s reply s' := by
    rintro input s hinput ⟨hs, hsrate⟩
    obtain ⟨call, hcall, rfl⟩ := List.mem_map.mp hinput
    obtain ⟨reply, s', hstep, hallows⟩ :=
      fleet.step_refines (.call ⟨d, call, [], []⟩) s (hdefined call hcall)
    have hof : callOf d (.call (n := n) ⟨d, call, [], []⟩) = some call := if_pos rfl
    have hrespects : (FleetInput.call (n := n) ⟨d, call, [], []⟩).Respects d Set.univ s := by
      intro hnone
      rw [hof] at hnone
      cases hnone
    have hnext : s.Programmed d table Set.univ s' := by
      refine hallows.programmed hrespects (fun other hother => ?_) (hs.driver ▸ hunicast)
      rw [hof] at hother
      rw [hs.driver, ← Option.some.inj hother]
      exact hwithin call hcall
    refine ⟨reply, s', hstep, ⟨hs.trans hnext trivial htable, hallows.2.rate.trans hsrate⟩, hstep,
      hdefined call hcall, hrespects, ?_⟩
    rintro _ ⟨⟩ -
    refine ⟨rfl, ?_⟩
    have hcode : s.stores i 21 = sys.stores i 21 := (hs.registers i 21 trivial).resolve_right fun hset =>
      hrates (List.mem_map_of_mem (f := Prod.fst) hset.2)
    rwa [Registers.lineRate, hcode, ← Registers.lineRate, hsrate]
  obtain ⟨replies, sys', -, -, hexec⟩ :=
    Machine.exists_run_execution id Inv hstep (fun _ h => h) ⟨.refl sys, rfl⟩
  exact ⟨replies, sys', hexec⟩

end Programmed

end AlicatBasis2
