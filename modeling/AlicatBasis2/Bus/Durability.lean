import AlicatBasis2.Bus.Separation

/-! # What an acknowledgement is worth

On separate addresses a register that was written and acknowledged keeps the value until something writes it
again, whoever talks to the bus in between and under all faults of the line, and every later read that succeeds
reports it. A change of address is the one write whose acknowledgement the driver itself depends on: if it is
carried out and its acknowledgement is lost, the driver addresses nobody from then on, and no repetition
helps, until it is told the new address. -/

namespace AlicatBasis2

open Modbus

section Durability

variable {F : Type} [FloatArith F] {m n : ℕ}

/-- The inputs of a run that the code carries out and that satisfy `P` where they come. -/
def Fleet.Runs (fleet : Fleet n) (P : FleetInput F m n → FleetSystem m n → Prop) :
    Machine.Spec (FleetSystem m n) (FleetInput F m n) (Reply F) :=
  fun input sys reply sys' => fleet.step input sys = some (reply, sys') ∧ input.Defined ∧ P input sys

/-- What the code carries out the abstract machine allows. -/
theorem Fleet.Runs.allows {fleet : Fleet n} {P : FleetInput F m n → FleetSystem m n → Prop}
    {input : FleetInput F m n} {sys sys' : FleetSystem m n} {reply : Reply F}
    (h : fleet.Runs P input sys reply sys') : fleet.Allows input sys reply sys' := by
  obtain ⟨hstep, hdefined, -⟩ := h
  obtain ⟨reply', t, hstep', hallows⟩ := fleet.step_refines input sys hdefined
  rw [hstep] at hstep'
  cases hstep'
  exact hallows

/-! ## Registers nobody writes -/

/-- An input that stores nothing in register `a` of any instrument. -/
def FleetInput.Spares (a : U16) (input : FleetInput F m n) (sys : FleetSystem m n) : Prop :=
  match input with
  | .call c => ∀ message ∈ c.call.script (sys.drivers c.driver), message.request.sets a = none
  | .tune _ => True
  | .own i regs => regs a = sys.stores i a

omit [FloatArith F] in
/-- A message that stores nothing in a register leaves it. -/
theorem Request.apply_of_sets_eq_none {request : Request} {a : U16} (h : request.sets a = none)
    (regs : Registers) : request.apply regs a = regs a := by
  rw [Request.apply_eq, h, Option.getD_none]

omit [FloatArith F] in
/-- A message that stores a value in a register leaves it there. -/
theorem Request.apply_of_sets_eq_some {request : Request} {a v : U16} (h : request.sets a = some v)
    (regs : Registers) : request.apply regs a = v := by
  rw [Request.apply_eq, h, Option.getD_some]

/-- A register that an input spares stays, in every instrument. -/
theorem Fleet.Allows.spares {fleet : Fleet n} {input : FleetInput F m n} {sys sys' : FleetSystem m n}
    {reply : Reply F} (h : fleet.Allows input sys reply sys') {a : U16} (ha : input.Spares a sys)
    (i : Fin n) : sys'.stores i a = sys.stores i a := by
  cases input with
  | tune bps =>
    obtain ⟨-, rfl⟩ := h
    rfl
  | own j regs =>
    obtain ⟨-, rfl⟩ := h
    change Function.update sys.stores j regs i a = sys.stores i a
    rcases eq_or_ne i j with rfl | hij
    · rw [Function.update_self]
      exact ha
    · rw [Function.update_of_ne hij]
  | call c =>
    rcases h.2.only i with hkept | ⟨message, hmessage, -, -, happlied⟩
    · exact congrFun hkept a
    · exact (congrFun happlied a).trans (Request.apply_of_sets_eq_none (ha message hmessage) _)

/-- A register that all inputs of a run spare stays, in every instrument. -/
theorem Fleet.stores_of_spares {fleet : Fleet n} {P : FleetInput F m n → FleetSystem m n → Prop} {a : U16}
    (hP : ∀ input sys, P input sys → input.Spares a sys) {inputs : List (FleetInput F m n)}
    {replies : List (Reply F)} {sys sys' : FleetSystem m n}
    (h : Machine.Execution (fleet.Runs P) inputs sys replies sys') (i : Fin n) :
    sys'.stores i a = sys.stores i a := by
  induction h with
  | nil => rfl
  | cons hstep _ ih => exact ih.trans (hstep.allows.spares (hP _ _ hstep.2.2) i)

/-! ## Acknowledged writes -/

/-- A call of one message, to one unit, that stores `v` in register `a` and no address. -/
def FleetCall.Stores (c : FleetCall F m n) (a v : U16) (sys : FleetSystem m n) : Prop :=
  (sys.drivers c.driver).address ≠ kBroadcastAddress
    ∧ ∃ message, c.call.script (sys.drivers c.driver) = [message]
      ∧ message.request.sets a = some v ∧ message.request.sets 45 = none

/-- A call that says something to the unit at `address` and is no sweep. -/
def FleetCall.Addresses (c : FleetCall F m n) (address : U8) (sys : FleetSystem m n) : Prop :=
  (sys.drivers c.driver).address = address ∧ address ≠ kBroadcastAddress
    ∧ c.call.script (sys.drivers c.driver) ≠ [] ∧ ¬ c.call.IsDiscovery

/-- Addresses that stay where they are stay separate. -/
theorem FleetSystem.Separate.of_eq {sys sys' : FleetSystem m n} (hsep : sys.Separate)
    (h : ∀ i, sys'.stores i 45 = sys.stores i 45) : sys'.Separate := by
  intro i j hij
  rw [h, h] at hij
  exact hsep i j hij

/-- On separate addresses a call that stores something and succeeds was carried out by the one instrument at the
address of its driver, and by no other. -/
theorem Fleet.Allows.stored {fleet : Fleet n} {c : FleetCall F m n} {sys sys' : FleetSystem m n}
    {reply : Reply F} (h : fleet.Allows (.call c) sys reply sys') (hsep : sys.Separate)
    (hunicast : (sys.drivers c.driver).address ≠ kBroadcastAddress) (hok : reply.error = .none)
    {message : Message} (hmessage : message ∈ c.call.script (sys.drivers c.driver)) {a v : U16}
    (hsets : message.request.sets a = some v) :
    ∃ i, (∀ j, sys.stores j 45 = (sys.drivers c.driver).address.setWidth 16 ↔ j = i)
      ∧ sys'.stores i = message.request.apply (sys.stores i)
      ∧ ∀ j, j ≠ i → sys'.stores j = sys.stores j := by
  have hsweep : ¬ c.call.IsDiscovery := by
    intro hdiscovery
    have happly : message.request.apply (fun _ => v + 1) = fun _ => v + 1 :=
      Call.script_of_isDiscovery hdiscovery hmessage
    have hvalue := congrFun happly a
    rw [Request.apply_of_sets_eq_some hsets] at hvalue
    exact absurd hvalue (by bv_omega)
  obtain ⟨i, honly, -, hdone, hothers⟩ :=
    (h.2.exclusive hsep).whole hok hsweep (List.ne_nil_of_mem hmessage) hunicast
  exact ⟨i, honly, (hdone message hmessage).2, hothers⟩

/-- **Reads see acknowledged writes.** On separate addresses, once a call that stores `v` in a register has
succeeded, and through every run in which nobody stores anything in that register or in an address, with all
faults, other drivers and changes of the rate in it, a call of any driver at the same address, other than a sweep,
that asks something and succeeds tells of registers in which the value is `v`. -/
theorem acknowledged_write_is_read (fleet : Fleet n) {write read : FleetCall F m n} {a v : U16}
    {between : List (FleetInput F m n)} {reply reply' : Reply F} {replies : List (Reply F)}
    {sys sys₁ sys₂ sys' : FleetSystem m n} (hsep : sys.Separate)
    (hwrite : fleet.Runs (fun _ s => write.Stores a v s) (.call write) sys reply sys₁)
    (hacknowledged : reply.error = .none)
    (hbetween : Machine.Execution (fleet.Runs fun input s => input.Spares a s ∧ input.Spares 45 s)
      between sys₁ replies sys₂)
    (hread : fleet.Runs (fun _ s => read.Addresses (sys.drivers write.driver).address s) (.call read)
      sys₂ reply' sys')
    (hok : reply'.error = .none) :
    ∃ regs : Registers, read.call.Told reply' regs ∧ regs a = v := by
  obtain ⟨hunicast, message, hscript, hsets, hkeeps⟩ := hwrite.2.2
  obtain ⟨haddress, -, hasks, hsweep⟩ := hread.2.2
  have hmember : message ∈ write.call.script (sys.drivers write.driver) :=
    hscript ▸ List.mem_singleton_self message
  -- the write was carried out by the one instrument at the address
  obtain ⟨i, honly, happlied, hothers⟩ := hwrite.allows.stored hsep hunicast hacknowledged hmember hsets
  have hvalue : sys₁.stores i a = v := by
    rw [happlied, Request.apply_of_sets_eq_some hsets]
  have hat : ∀ j, sys₁.stores j 45 = sys.stores j 45 := by
    intro j
    rcases eq_or_ne j i with rfl | hj
    · exact (congrFun happlied 45).trans (Request.apply_of_sets_eq_none hkeeps _)
    · rw [hothers j hj]
  -- neither the value nor the addresses have changed since
  have hkept : ∀ j, sys₂.stores j a = sys₁.stores j a :=
    Fleet.stores_of_spares (fun _ _ h => h.1) hbetween
  have hstayed : ∀ j, sys₂.stores j 45 = sys.stores j 45 := fun j =>
    (Fleet.stores_of_spares (fun _ _ h => h.2) hbetween j).trans (hat j)
  obtain ⟨k, hreader, htold, -⟩ := (hread.allows.2.exclusive (hsep.of_eq hstayed)).whole hok hsweep hasks
    (haddress ▸ hunicast)
  have hsame : i = k := by
    refine (hreader i).mp ?_
    rw [hstayed, haddress]
    exact (honly i).mpr rfl
  exact ⟨sys₂.stores k, htold, by rw [← hsame, hkept, hvalue]⟩

/-! ## A lost acknowledgement -/

/-- A driver at an address, and the instruments at theirs. -/
structure FleetSystem.Stranded (d : Fin m) (address : U8) (home : Fin n → U16) (sys : FleetSystem m n) :
    Prop where
  driver : (sys.drivers d).address = address
  homes : ∀ j, sys.stores j 45 = home j

/-- Inputs that move no instrument, and do not tell driver `d` an address; what `d` itself says is free. -/
def FleetInput.Leaves (d : Fin m) (input : FleetInput F m n) (sys : FleetSystem m n) : Prop :=
  match input with
  | .call c => if c.driver = d then ∀ a, c.call ≠ .setAddress a else input.Spares 45 sys
  | .tune _ | .own _ _ => input.Spares 45 sys

section Stranded

variable {fleet : Fleet n} {d : Fin m} {address : U8} {home : Fin n → U16} {sys sys' : FleetSystem m n}

/-- A driver that addresses nobody gets nothing done. -/
theorem FleetSystem.Stranded.fails (h : sys.Stranded d address home)
    (haway : ∀ j, home j ≠ address.setWidth 16) (hunicast : address ≠ kBroadcastAddress)
    {c : FleetCall F m n} (hd : c.driver = d) {reply : Reply F} (hallows : fleet.Allows (.call c) sys reply sys')
    (hsweep : ¬ c.call.IsDiscovery) (hne : c.call.script (sys.drivers c.driver) ≠ []) :
    reply.error ≠ .none := by
  have haddress : (sys.drivers c.driver).address = address := hd ▸ h.driver
  have hnobody : ∀ i, ¬ (sys.bus c.faults).At (sys.drivers c.driver).address i := by
    intro i hat
    exact haway i ((h.homes i).symm.trans (haddress ▸ hat.2.2))
  intro hnone
  obtain ⟨i, hat, -⟩ := hallows.2.done hnone hsweep hne (haddress ▸ hunicast)
    fun i j hi _ => absurd hi (hnobody i)
  exact hnobody i hat

/-- A change of address that has nothing to say is refused. -/
theorem Fleet.refused_of_script_eq_nil {c : FleetCall F m n} {new : U8} (hcall : c.call = .setModbusAddress new)
    (hscript : c.call.script (sys.drivers c.driver) = []) {reply : Reply F}
    (hstep : fleet.step (.call c) sys = some (reply, sys')) : reply.error ≠ .none := by
  have hillegal : new < 1 ∨ new > kMaxModbusAddress := by
    by_contra hlegal
    obtain ⟨hpos, hle⟩ := not_or.mp hlegal
    rw [hcall, Call.script, if_pos ⟨BitVec.not_lt.mp hpos, BitVec.not_lt.mp hle⟩] at hscript
    cases hscript
  unfold step at hstep
  simp only [hcall, Call.exec, Driver.setModbusAddress, if_pos hillegal] at hstep
  cases hstep
  exact fun h => DriverError.noConfusion h

/-- It stays where it is, and so do the instruments. -/
theorem FleetSystem.Stranded.step (h : sys.Stranded d address home)
    (haway : ∀ j, home j ≠ address.setWidth 16) (hunicast : address ≠ kBroadcastAddress)
    {input : FleetInput F m n} {reply : Reply F}
    (hruns : fleet.Runs (fun input s => input.Leaves d s) input sys reply sys') :
    sys'.Stranded d address home := by
  have hallows := hruns.allows
  obtain ⟨hstep, -, hleaves⟩ := hruns
  cases input with
  | tune bps =>
    obtain ⟨-, rfl⟩ := hallows
    exact ⟨h.driver, h.homes⟩
  | own i regs =>
    refine ⟨?_, fun j => (hallows.spares hleaves j).trans (h.homes j)⟩
    obtain ⟨-, rfl⟩ := hallows
    exact h.driver
  | call c =>
    simp only [FleetInput.Leaves] at hleaves
    by_cases hd : c.driver = d
    · rw [if_pos hd] at hleaves
      subst hd
      refine ⟨?_, fun j => ?_⟩
      · rw [hallows.1, Function.update_self]
        change c.call.addressAfter reply (sys.drivers c.driver).address = address
        cases hcall : c.call with
        | setAddress a => exact absurd hcall (hleaves a)
        | setModbusAddress new =>
          have hfailed : reply.error ≠ .none := by
            by_cases hscript : c.call.script (sys.drivers c.driver) = []
            · exact Fleet.refused_of_script_eq_nil hcall hscript hstep
            · exact h.fails haway hunicast rfl hallows (by rw [hcall]; exact id) hscript
          rw [Call.addressAfter, if_neg hfailed]
          exact h.driver
        | _ => exact h.driver
      · rw [← h.homes j]
        rcases hallows.2.only j with hkept | ⟨message, hmessage, hhears, -, happlied⟩
        · exact congrFun hkept 45
        · -- what stores an address is for the driver's own, where nobody is
          refine (congrFun happlied 45).trans (Request.apply_of_sets_eq_none ?_ _)
          by_contra hsets
          obtain ⟨v, hv⟩ := Option.ne_none_iff_exists'.mp hsets
          rw [c.call.unit_of_sets hmessage hv, h.driver] at hhears
          exact haway j ((h.homes j).symm.trans (hhears.2.resolve_left hunicast))
    · rw [if_neg hd] at hleaves
      refine ⟨?_, fun j => (hallows.spares hleaves j).trans (h.homes j)⟩
      rw [hallows.1, Function.update_of_ne (Ne.symm hd)]
      exact h.driver

/-- Through every such run. -/
theorem FleetSystem.Stranded.runs (h : sys.Stranded d address home)
    (haway : ∀ j, home j ≠ address.setWidth 16) (hunicast : address ≠ kBroadcastAddress)
    {inputs : List (FleetInput F m n)} {replies : List (Reply F)}
    (hexec : Machine.Execution (fleet.Runs fun input s => input.Leaves d s) inputs sys replies sys') :
    sys'.Stranded d address home := by
  induction hexec with
  | nil => exact h
  | cons hruns _ ih => exact ih (h.step haway hunicast hruns)

end Stranded

/-- **A lost acknowledgement strands the driver.** On separate addresses, let `SetModbusAddress` to a free legal
address get through to the instrument at the driver's address, which carries it out, and let the driver report
a failure. Through every run in which nobody else moves an instrument and the driver is not told an address,
whatever it says itself, the driver stays at the old address, the instrument is at the new one, and every
call of the driver other than a sweep that says anything fails, repetitions of the change among them (a sweep
reports success whoever answers). Once the driver is told the new address, its calls other than
sweeps that the instrument accepts succeed on a faultless line. -/
theorem lost_acknowledgement_strands (fleet : Fleet n) {d : Fin m} {i : Fin n} {new : U8} {garbage : List U8}
    {faults : List (Fault n)} {between : List (FleetInput F m n)} {reply : Reply F}
    {replies : List (Reply F)} {sys sys₁ sys₂ : FleetSystem m n} (hsep : sys.Separate)
    (hlegal : 1 ≤ new ∧ new ≤ kMaxModbusAddress) (hfree : ∀ j, sys.stores j 45 ≠ new.setWidth 16)
    (hat : (sys.bus faults).At (sys.drivers d).address i)
    (hreaches : (sys.bus faults).fault.reaches i = true)
    (haccepts : fleet.accepts i (.writeSingle 45 (new.setWidth 16)) = true)
    (hmove : fleet.step (.call ⟨d, .setModbusAddress new, garbage, faults⟩) sys = some (reply, sys₁))
    (hlost : reply.error ≠ .none)
    (hbetween : Machine.Execution (fleet.Runs fun input s => input.Leaves d s) between sys₁ replies sys₂) :
    (sys₂.drivers d).address = (sys.drivers d).address ∧ sys₂.stores i 45 = new.setWidth 16
    ∧ (∀ (c : FleetCall F m n) reply' sys', c.driver = d →
      fleet.Runs (fun _ _ => True) (.call c) sys₂ reply' sys' → ¬ c.call.IsDiscovery →
      c.call.script (sys₂.drivers c.driver) ≠ [] → reply'.error ≠ .none)
    ∧ ∃ sys₃, fleet.step (F := F) (.call ⟨d, .setAddress new, [], []⟩) sys₂ = some (.unit, sys₃)
      ∧ ∀ (c : FleetCall F m n) reply' sys', c.driver = d → c.faults = [] →
        fleet.Runs (fun _ _ => True) (.call c) sys₃ reply' sys' → ¬ c.call.IsDiscovery →
        c.call.script (sys₃.drivers c.driver) ≠ [] → (sys₃.stores i).lineRate = some sys₃.rate →
        (∀ message ∈ c.call.script (sys₃.drivers c.driver),
          message.Awaited ∧ fleet.accepts i message.request = true) → reply'.error = .none := by
  have hunicast : (sys.drivers d).address ≠ kBroadcastAddress := hat.2.1
  have hscript : (Call.setModbusAddress (F := F) new).script (sys.drivers d)
      = [(sys.drivers d).asks (.writeSingle 45 (new.setWidth 16))] := if_pos hlegal
  have hallows : fleet.Allows (.call ⟨d, .setModbusAddress new, garbage, faults⟩) sys reply sys₁ :=
    Fleet.Runs.allows (P := fun _ _ => True) ⟨hmove, trivial, trivial⟩
  -- the instrument has moved, and nobody else
  have hmoved : sys₁.stores i 45 = new.setWidth 16 := by
    have happlied : sys₁.stores i = _ :=
      hallows.2.reached _ hscript i hreaches ⟨hat.1, Or.inr hat.2.2⟩ haccepts
    rw [happlied, Request.apply_eq, Driver.asks, Request.sets_writeSingle, if_pos rfl, Option.getD_some]
  have hothers : ∀ j, j ≠ i → sys₁.stores j = sys.stores j := by
    intro j hj
    by_contra hchanged
    exact hj (hsep j i (((hallows.2.exclusive hsep).touched hunicast j hchanged).trans hat.2.2.symm))
  have hsep₁ : sys₁.Separate := hallows.2.separate
    (FleetInput.careful_setModbusAddress (F := F) sys hunicast hfree garbage faults) hsep
  have haway : ∀ j, sys₁.stores j 45 ≠ (sys.drivers d).address.setWidth 16 := by
    intro j
    rcases eq_or_ne j i with rfl | hj
    · rw [hmoved, ← hat.2.2]
      exact (hfree j).symm
    · rw [hothers j hj, ← hat.2.2]
      exact fun heq => hj (hsep j i heq)
  have hstart : sys₁.Stranded d (sys.drivers d).address fun j => sys₁.stores j 45 := by
    refine ⟨?_, fun _ => rfl⟩
    rw [hallows.1, Function.update_self]
    change (Call.setModbusAddress (F := F) new).addressAfter reply (sys.drivers d).address = _
    rw [Call.addressAfter, if_neg hlost]
  have hstranded := hstart.runs haway hunicast hbetween
  refine ⟨hstranded.driver, (hstranded.homes i).trans hmoved, fun c reply' sys' hd hruns hsweep hne =>
    hstranded.fails haway hunicast hd hruns.allows hsweep hne, _, Fleet.step_setAddress _ _ _ _ _ _, ?_⟩
  rintro c reply' sys' rfl hclean hruns hsweep hne hrate haccepted
  have hnew : ∀ j, sys₂.stores j 45 = new.setWidth 16 → j = i := fun j hj =>
    hsep₁ j i (((hstranded.homes j).symm.trans hj).trans hmoved.symm)
  have haddress : (Function.update sys₂.drivers c.driver
      ⟨new, (sys₂.drivers c.driver).timeoutMs⟩ c.driver).address = new := by
    rw [Function.update_self]
  have hnotzero : new ≠ kBroadcastAddress := by
    rintro rfl
    exact absurd hlegal.1 (by decide)
  refine hruns.allows.2.live hclean hsweep hne (fun j k hj hk => ?_) i ?_ haccepted
  · rw [haddress] at hj hk
    exact (hnew j hj.2.2).trans (hnew k hk.2.2).symm
  · rw [haddress]
    exact ⟨hrate, hnotzero, (hstranded.homes i).trans hmoved⟩

end Durability

/-! ## Two instruments -/

/-- Both drivers at the address of the first of two fresh instruments. -/
def FleetSystem.shared : FleetSystem 2 2 := { FleetSystem.fresh ![1, 2] with drivers := fun _ => ⟨1, 200⟩ }

/-- One driver selects nitrogen; the host's rate is away for a while and the second instrument measures; then
the other driver reads the gas. -/
theorem acknowledged_write_is_read_gas :
    ∃ (s₁ s₂ s' : FleetSystem 2 2) (reply reply' : Reply ℚ) (regs : Registers),
      (Fleet.standard 2).step (.call ⟨0, .setGas ⟨3⟩, [], []⟩) .shared = some (reply, s₁)
      ∧ s₂.rate = 38400
      ∧ (Fleet.standard 2).step (.call ⟨1, .readInstantaneous 3, [0xFF], []⟩) s₂ = some (reply', s')
      ∧ reply'.error = .none ∧ (Call.readInstantaneous 3).Told reply' regs ∧ regs 2100 = 3 := by
  have hsep : FleetSystem.shared.Separate := FleetSystem.separate_fresh (by decide)
  obtain ⟨reply, s₁, hwrite, hallows⟩ :=
    (Fleet.standard 2).step_refines (.call ⟨0, (.setGas ⟨3⟩ : Call ℚ), [], []⟩) .shared trivial
  have hok : reply.error = .none :=
    hallows.2.live rfl id (List.cons_ne_nil _ _) (hsep.alone _ _) 0 (by decide) (by
      intro message hmessage
      rw [List.mem_singleton.mp hmessage]
      exact ⟨show (1 : U8) ≠ kBroadcastAddress by decide, rfl⟩)
  have hkept : ∀ a i, a ≠ 2100 → s₁.stores i a = FleetSystem.shared.stores i a := fun a i ha =>
    hallows.spares (by simpa [FleetInput.Spares, Call.script, Driver.asks] using ha) i
  let s₂ : FleetSystem 2 2 :=
    { s₁ with stores := Function.update s₁.stores 1 (Function.update (s₁.stores 1) 2103 77), rate := 38400 }
  have haddress : ∀ i, s₂.stores i 45 = FleetSystem.shared.stores i 45 :=
    Fin.forall_fin_two.mpr ⟨hkept 45 0 (by decide), hkept 45 1 (by decide)⟩
  have hdriver : s₂.drivers = FleetSystem.shared.drivers :=
    hallows.1.trans (funext (Fin.forall_fin_two.mpr ⟨rfl, rfl⟩))
  obtain ⟨reply', s', hread, hallows'⟩ := (Fleet.standard 2).step_refines
    (.call ⟨1, (.readInstantaneous 3 : Call ℚ), [0xFF], []⟩) s₂ trivial
  have hok' : reply'.error = .none := by
    refine hallows'.2.live rfl id (List.cons_ne_nil _ _) ((hsep.of_eq haddress).alone _ _) 0 ⟨?_, ?_, ?_⟩ ?_
    · have hrate : s₂.stores 0 21 = 3 := hkept 21 0 (by decide)
      change (s₂.stores 0).lineRate = some 38400
      rw [Registers.lineRate, hrate]
      decide
    · rw [hdriver]
      decide
    · rw [hdriver]
      exact haddress 0
    · intro message hmessage
      rw [List.mem_singleton.mp hmessage]
      exact ⟨show (10 : U16).toNat ≤ 32 by decide, rfl⟩
  have hbetween : Machine.Execution ((Fleet.standard 2).Runs fun (input : FleetInput ℚ 2 2) s =>
      input.Spares 2100 s ∧ input.Spares 45 s)
      [.tune 9600, .own 1 (Function.update (s₁.stores 1) 2103 77), .tune 38400] s₁ [.unit, .unit, .unit] s₂ :=
    .cons ⟨rfl, trivial, trivial, trivial⟩ (.cons ⟨rfl, trivial, rfl, rfl⟩
      (.cons ⟨rfl, trivial, trivial, trivial⟩ (.nil s₂)))
  obtain ⟨regs, htold, hgas⟩ := acknowledged_write_is_read (Fleet.standard 2) (a := 2100) (v := 3) hsep
    ⟨hwrite, trivial, by decide, _, rfl, rfl, rfl⟩ hok hbetween
    ⟨hread, trivial, by rw [hdriver]; rfl, by decide, List.cons_ne_nil _ _, id⟩ hok'
  exact ⟨s₁, s₂, s', reply, reply', regs, hwrite, rfl, hread, hok', htold, hgas⟩

/-- The first of two fresh instruments moves to address 9 and its echo is lost; the change is repeated. -/
theorem lost_acknowledgement_strands_first :
    ∃ (s₁ s₂ : FleetSystem 2 2) (reply reply' : Reply ℚ),
      (Fleet.standard 2).step (.call ⟨0, .setModbusAddress 9, [], [.unanswered]⟩) (.fresh ![1, 2])
        = some (reply, s₁)
      ∧ (Fleet.standard 2).step (.call ⟨0, .setModbusAddress 9, [], []⟩) s₁ = some (reply', s₂)
      ∧ (s₂.drivers 0).address = 1 ∧ s₂.stores 0 45 = 9 := by
  obtain ⟨reply, s₁, hmove, -⟩ := (Fleet.standard 2).step_refines
    (.call ⟨0, (.setModbusAddress 9 : Call ℚ), [], [.unanswered]⟩) (.fresh ![1, 2]) trivial
  obtain ⟨reply', s₂, hagain, -⟩ := (Fleet.standard 2).step_refines
    (.call ⟨0, (.setModbusAddress 9 : Call ℚ), [], []⟩) s₁ trivial
  have hlost : reply.error ≠ .none := by
    have hrun : ((Fleet.standard 2).step (.call ⟨0, (.setModbusAddress 9 : Call ℚ), [], [.unanswered]⟩)
        (.fresh ![1, 2])).map (fun r => r.1.error) = some .timeout := by decide +kernel
    rw [hmove, Option.map_some] at hrun
    rw [Option.some.inj hrun]
    decide
  obtain ⟨hdriver, hinstrument, -⟩ := lost_acknowledgement_strands (Fleet.standard 2) (i := 0)
    (FleetSystem.separate_fresh (by decide)) (by decide) (by decide) (by decide) rfl rfl hmove hlost
    (.cons ⟨hagain, trivial, fun a h => by cases h⟩ (.nil s₂))
  exact ⟨s₁, s₂, reply, reply', hmove, hagain, hdriver, hinstrument⟩

end AlicatBasis2
