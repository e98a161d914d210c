import AlicatBasis2.Bus.Durability
import AlicatBasis2.Operations.InStep

/-! # Drivers that do not interfere

Every driver on the line has an instrument of its own and speaks to no other one. Then what a driver is told,
and what becomes of it and of its instrument, is what would happen on a line with the two of them alone: the
calls of the other drivers, with all faults of their transactions, and what the other instruments do cannot be
told from what it sees. A sweep is about the others, so it has no counterpart there; it leaves no trace either. -/

namespace AlicatBasis2

open Machine Modbus

/-! ## One driver and one instrument -/

section Only

variable {F : Type} {m n : ℕ}

instance : DecidablePred (Call.IsDiscovery (F := F)) := fun call => by
  cases call <;> first | exact isTrue trivial | exact isFalse id

/-- The faults of a transaction as one instrument has them. -/
def Fault.only (i : Fin n) (fault : Fault n) : Fault 1 :=
  ⟨fun _ => fault.reaches i, fault.deliver, fault.disturbed, fault.collide⟩

/-- The fleet of one instrument. -/
def Fleet.only (fleet : Fleet n) (i : Fin n) : Fleet 1 :=
  ⟨fun _ => fleet.accepts i, fun _ => fleet.exceptionCode i⟩

/-- The bus with one instrument. -/
def FleetBus.only (bus : FleetBus n) (i : Fin n) : FleetBus 1 :=
  ⟨fun _ => bus.stores i, bus.rate, bus.faults.map (Fault.only i)⟩

/-- The system of one driver and one instrument. -/
def FleetSystem.only (d : Fin m) (i : Fin n) (sys : FleetSystem m n) : FleetSystem 1 1 :=
  ⟨fun _ => sys.drivers d, fun _ => sys.stores i, sys.rate⟩

/-- What an input is to one driver and one instrument: the calls of the driver less its sweeps, the rate of the
host, and what the instrument does on its own. -/
def FleetInput.only (d : Fin m) (i : Fin n) : FleetInput F m n → Option (FleetInput F 1 1)
  | .call c =>
      if c.driver = d ∧ ¬ c.call.IsDiscovery then
        some (.call ⟨0, c.call, c.garbage, c.faults.map (Fault.only i)⟩)
      else none
  | .tune bps => some (.tune bps)
  | .own j regs => if j = i then some (.own 0 regs) else none

end Only

/-! ## One transaction -/

section Transaction

variable {n : ℕ} (fleet : Fleet n) {bus : FleetBus n} {unit : U8} {i : Fin n}

/-- No other instrument has the address. -/
def FleetBus.Private (bus : FleetBus n) (unit : U8) (i : Fin n) : Prop :=
  ∀ j, j ≠ i → bus.stores j 45 ≠ unit.setWidth 16

/-- The next fault, as the one instrument has it: `(bus.only i).fault = bus.fault.only i`. -/
@[simp] theorem FleetBus.fault_only (bus : FleetBus n) (i : Fin n) :
    (bus.only i).fault = bus.fault.only i := by
  rw [fault, fault, only]
  cases bus.faults <;> rfl

/-- The instrument carries out the same requests. -/
theorem Fleet.settle_only (bus : FleetBus n) (unit : U8) (request : Request) (i : Fin n) :
    (fleet.only i).settle (bus.only i) unit request = fun _ => fleet.settle bus unit request i := by
  funext j
  rw [settle, settle, FleetBus.fault_only]
  rfl

/-- A request to a private address is to its instrument what it is on a line of its own. -/
theorem Fleet.respond_only {frame : List U8} {request : Request}
    (hdecode : decode frame = some (unit, request)) (hprivate : bus.Private unit i) :
    (fleet.only i).respond frame (bus.only i)
      = ((fleet.respond frame bus).1.only i, (fleet.respond frame bus).2) := by
  have hone : answering bus unit = if bus.fault.reaches i = true ∧ bus.At unit i then [i] else [] :=
    answering_eq bus unit fun j hj => not_not.mp fun hne =>
      hprivate j hne ((mem_answering bus unit).mp hj).2.2.2
  have honly : answering (bus.only i) unit = if bus.fault.reaches i = true ∧ bus.At unit i then [0] else [] := by
    rw [answering_eq _ _ fun j _ => Subsingleton.elim j 0, FleetBus.fault_only]
    rfl
  rw [respond_of_decode _ hdecode, respond_of_decode _ hdecode, fleet.settle_only]
  refine Prod.ext ?_ ?_
  · simp only [FleetBus.only, List.map_tail]
  · rw [hone, honly, FleetBus.fault_only]
    split_ifs <;> rfl

/-- The other instruments do not hear a request to a private address. -/
theorem FleetBus.Private.respond {frame : List U8} {request : Request} (h : bus.Private unit i)
    (hunit : unit ≠ kBroadcastAddress) (hdecode : decode frame = some (unit, request)) :
    (fleet.respond frame bus).1.Private unit i := by
  intro j hj
  rw [fleet.respond_of_decode hdecode]
  have hdeaf : ¬ (bus.stores j).Hears bus.rate unit := fun hhears =>
    h j hj (hhears.2.resolve_left hunit)
  change fleet.settle bus unit request j 45 ≠ unit.setWidth 16
  rw [Fleet.settle, if_neg fun hheard => hdeaf hheard.2.1]
  exact h j hj

/-- A line and the line of one instrument of it: the same bytes wait in the receive buffer, and a driver that
speaks has the instrument's address to itself. -/
structure Line.Shows (speaks : Prop) (unit : U8) (i : Fin n) (line : Line (FleetBus n))
    (own : Line (FleetBus 1)) : Prop where
  parties : own.parties = line.parties.only i
  rx : own.rx = line.rx
  alone : speaks → line.parties.Private unit i

/-- The two lines are in step on the address. -/
theorem Line.inStep {speaks : Prop} (hspeaks : speaks) (hunit : unit ≠ kBroadcastAddress) :
    fleet.uart.InStep (fleet.only i).uart unit (Line.Shows speaks unit i) where
  send := by
    rintro frame request line own hdecode ⟨hparties, -, halone⟩
    have hrespond := fleet.respond_only hdecode (halone hspeaks)
    rw [← hparties] at hrespond
    exact ⟨congrArg Prod.fst hrespond, congrArg (fun r : FleetBus 1 × List U8 => [] ++ r.2) hrespond, fun _ =>
      (halone hspeaks).respond fleet hunit hdecode⟩
  bytes := by
    rintro max timeoutMs line own ⟨-, hrx, -⟩
    exact congrArg (List.take max) hrx.symm
  read := by
    rintro max timeoutMs line own ⟨hparties, hrx, halone⟩
    exact ⟨hparties, congrArg (List.drop max) hrx, halone⟩

end Transaction

/-! ## One input -/

variable {F : Type} [FloatArith F] {m n : ℕ} {fleet : Fleet n} {own : Fin m → Fin n}
  {input : FleetInput F m n} {sys sys' : FleetSystem m n} {reply : Reply F}

/-- A call that is no sweep speaks, if at all, to an address that no instrument has but the one of its
driver. -/
def FleetInput.MindsOwn (own : Fin m → Fin n) (input : FleetInput F m n) (sys : FleetSystem m n) : Prop :=
  match input with
  | .call c => ¬ c.call.IsDiscovery → c.call.script (sys.drivers c.driver) ≠ [] →
      (sys.drivers c.driver).address ≠ kBroadcastAddress
        ∧ (sys.bus c.faults).Private (sys.drivers c.driver).address (own c.driver)
  | .tune _ | .own _ _ => True

omit [FloatArith F] in
/-- A sweep puts the driver's fields back. -/
theorem Call.driverAfter_of_isDiscovery {call : Call F} (h : call.IsDiscovery) (driver : Driver) :
    call.driverAfter reply driver = driver := by
  cases call with
  | discoverPresentAddresses => rfl
  | _ => exact absurd h id

/-- A sweep leaves no trace. -/
theorem Fleet.Allows.only_sweep {c : FleetCall F m n} (h : fleet.Allows (.call c) sys reply sys')
    (hsweep : c.call.IsDiscovery) (d : Fin m) (i : Fin n) : sys'.only d i = sys.only d i := by
  obtain ⟨hdrivers, hserved⟩ := h
  have hdriver : sys'.drivers d = sys.drivers d := by
    rw [hdrivers, Call.driverAfter_of_isDiscovery hsweep, Function.update_eq_self]
  have hstore : sys'.stores i = sys.stores i := by
    rcases hserved.only i with hkept | ⟨message, hmessage, -, -, happlied⟩
    · exact hkept
    · exact happlied.trans (Call.script_of_isDiscovery hsweep hmessage)
  simp only [FleetSystem.only, hdriver, hstore, show sys'.rate = sys.rate from hserved.rate]

/-- A call of another driver to its own instrument leaves this one and its driver alone. -/
theorem Fleet.Allows.only_other {c : FleetCall F m n} (h : fleet.Allows (.call c) sys reply sys')
    (hsweep : ¬ c.call.IsDiscovery) (hminds : (FleetInput.call c).MindsOwn own sys) {d : Fin m}
    (hd : d ≠ c.driver) {i : Fin n} (hi : i ≠ own c.driver) : sys'.only d i = sys.only d i := by
  obtain ⟨hdrivers, hserved⟩ := h
  have hdriver : sys'.drivers d = sys.drivers d := by rw [hdrivers, Function.update_of_ne hd]
  have hstore : sys'.stores i = sys.stores i := by
    by_contra hchanged
    obtain ⟨message, hmessage, -⟩ := (hserved.only i).resolve_left hchanged
    obtain ⟨hunicast, hprivate⟩ := hminds hsweep (List.ne_nil_of_mem hmessage)
    exact hprivate i hi (hserved.address_of_touched hunicast hchanged)
  simp only [FleetSystem.only, hdriver, hstore, show sys'.rate = sys.rate from hserved.rate]

/-- A call of the driver does what it does with the instrument alone. -/
theorem Fleet.step_only {c : FleetCall F m n} (h : fleet.step (.call c) sys = some (reply, sys'))
    (hsweep : ¬ c.call.IsDiscovery) (hminds : (FleetInput.call c).MindsOwn own sys) :
    (fleet.only (own c.driver)).step (.call ⟨0, c.call, c.garbage, c.faults.map (Fault.only (own c.driver))⟩)
        (sys.only c.driver (own c.driver))
      = some (reply, sys'.only c.driver (own c.driver)) := by
  obtain ⟨⟨reply', t⟩, hexec, heq⟩ := Option.bind_eq_some_iff.mp h
  cases heq
  let speaks := c.call.script (sys.drivers c.driver) ≠ []
  let s : Session (Line (FleetBus n)) := ⟨sys.drivers c.driver, ⟨sys.bus c.faults, c.garbage⟩, []⟩
  let s' : Session (Line (FleetBus 1)) :=
    ⟨sys.drivers c.driver, ⟨(sys.bus c.faults).only (own c.driver), c.garbage⟩, []⟩
  have hstart : s.InStep (Line.Shows speaks (sys.drivers c.driver).address (own c.driver)) s' :=
    ⟨rfl, rfl, rfl, fun hspeaks => (hminds hsweep hspeaks).2⟩
  obtain ⟨t', hexec', hdriver, hparties, -⟩ := (Call.alike_exec hsweep hstart fun hspeaks =>
    ⟨Line.inStep fleet hspeaks (hminds hsweep hspeaks).1, (hminds hsweep hspeaks).1⟩).exists_eq_some hexec
  refine Option.bind_eq_some_iff.mpr ⟨(reply, t'), hexec', ?_⟩
  simp only [FleetSystem.only, Function.update_eq_const_of_subsingleton, Function.update_self, hparties, hdriver]
  rfl

/-! ## Runs -/

/-- One input projects on every driver and its instrument. -/
theorem Fleet.Runs.projects (hown : Function.Injective own)
    (h : fleet.Runs (FleetInput.MindsOwn own) input sys reply sys') (d : Fin m) :
    Projects (fleet.only (own d)).step (FleetSystem.only d (own d)) (FleetInput.only d (own d)) input sys
      reply sys' := by
  have hallows := h.allows
  obtain ⟨hstep, -, hminds⟩ := h
  unfold Projects
  cases input with
  | tune bps =>
    obtain ⟨rfl, rfl⟩ := hallows
    rfl
  | own j regs =>
    obtain ⟨rfl, rfl⟩ := hallows
    rw [FleetInput.only]
    by_cases hj : j = own d
    · rw [if_pos hj, ← hj]
      simp only [step, FleetSystem.only, Function.update_eq_const_of_subsingleton, Function.update_self]
      rfl
    · rw [if_neg hj]
      simp only [FleetSystem.only, Function.update_of_ne (Ne.symm hj)]
  | call c =>
    rw [FleetInput.only]
    by_cases hsweep : c.call.IsDiscovery
    · rw [if_neg fun hmine => hmine.2 hsweep]
      exact hallows.only_sweep hsweep d (own d)
    · by_cases hd : c.driver = d
      · subst hd
        rw [if_pos ⟨rfl, hsweep⟩]
        exact Fleet.step_only hstep hsweep hminds
      · rw [if_neg fun hmine => hd hmine.1]
        exact hallows.only_other hsweep hminds (Ne.symm hd) (hown.ne (Ne.symm hd))

/-- **Drivers do not interfere.** Each driver of a line has an instrument of its own. In every run in which the
calls that are no sweeps speak to no other instrument, under all faults of the line, each driver is told what it
would be told on a line with its instrument alone, and both end as they would there. -/
theorem no_interference {inputs : List (FleetInput F m n)} {replies : List (Reply F)} (fleet : Fleet n)
    (hown : Function.Injective own)
    (hexec : Machine.Execution (fleet.Runs (FleetInput.MindsOwn own)) inputs sys replies sys') (d : Fin m) :
    Machine.run (fleet.only (own d)).step (inputs.filterMap (FleetInput.only d (own d))) (sys.only d (own d))
      = some (Machine.heard (FleetInput.only d (own d)) inputs replies, sys'.only d (own d)) :=
  (hexec.weaken fun _ _ _ _ hruns => hruns.projects hown d).run_project

/-! ## Orders of the same calls -/

/-- Every driver has the address of an instrument of its own. -/
structure FleetSystem.Paired (own : Fin m → Fin n) (sys : FleetSystem m n) : Prop where
  unicast : ∀ d, (sys.drivers d).address ≠ kBroadcastAddress
  address : ∀ d, sys.stores (own d) 45 = (sys.drivers d).address.setWidth 16
  separate : sys.Separate

/-- An input that leaves the addresses of drivers and instruments as they are in `sys`. -/
def FleetInput.Stays (sys : FleetSystem m n) : FleetInput F m n → Prop
  | .call c => (∀ reply addr, c.call.addressAfter reply addr = addr)
      ∧ ∀ driver, ∀ message ∈ c.call.script driver, message.request.sets 45 = none
  | .tune _ => True
  | .own i regs => regs 45 = sys.stores i 45

/-- A call that gives no address to its driver or to an instrument. -/
theorem FleetInput.stays_call {c : FleetCall F m n} (h : ¬ c.call.Readdresses)
    (haddr : ∀ reply addr, c.call.addressAfter reply addr = addr) : (FleetInput.call c).Stays sys :=
  ⟨haddr, fun _ _ hmessage => Call.sets_address_of_not_readdresses h hmessage⟩

/-- Two systems with the same addresses. -/
structure FleetSystem.SameAddresses (sys sys' : FleetSystem m n) : Prop where
  drivers : ∀ d, (sys'.drivers d).address = (sys.drivers d).address
  stores : ∀ i, sys'.stores i 45 = sys.stores i 45

omit [FloatArith F] in
/-- The same addresses are paired the same way. -/
theorem FleetSystem.Paired.of_same {s : FleetSystem m n} (h : sys.Paired own) (hs : sys.SameAddresses s) :
    s.Paired own where
  unicast d := hs.drivers d ▸ h.unicast d
  address d := by rw [hs.stores, hs.drivers, h.address]
  separate := h.separate.of_eq hs.stores

/-- Paired drivers mind their own instruments. -/
theorem FleetSystem.Paired.mindsOwn (h : sys.Paired own) : input.MindsOwn own sys := by
  cases input with
  | tune | own => trivial
  | call c =>
    refine fun _ _ => ⟨h.unicast c.driver, fun j hj hat => hj (h.separate j (own c.driver) ?_)⟩
    exact hat.trans (h.address c.driver).symm

/-- One input that stays. -/
theorem Fleet.Allows.same {s : FleetSystem m n} (h : fleet.Allows input s reply sys') (hs : sys.SameAddresses s)
    (hstays : input.Stays sys) : sys.SameAddresses sys' := by
  have hspares : input.Spares 45 s := by
    cases input with
    | tune => trivial
    | own j regs => exact hstays.trans (hs.stores j).symm
    | call c => exact hstays.2 (s.drivers c.driver)
  refine ⟨fun d => ?_, fun i => (h.spares hspares i).trans (hs.stores i)⟩
  cases input with
  | tune =>
    obtain ⟨-, rfl⟩ := h
    exact hs.drivers d
  | own =>
    obtain ⟨-, rfl⟩ := h
    exact hs.drivers d
  | call c =>
    rw [h.1]
    rcases eq_or_ne d c.driver with rfl | hd
    · rw [Function.update_self, ← hs.drivers]
      exact hstays.1 reply _
    · rw [Function.update_of_ne hd]
      exact hs.drivers d

/-- A run from paired drivers exists, and every call of it minds its own instrument. -/
theorem FleetSystem.Paired.exists_execution (h : sys.Paired own) (fleet : Fleet n)
    {inputs : List (FleetInput F m n)} (hinputs : ∀ input ∈ inputs, input.Defined ∧ input.Stays sys) :
    ∃ replies sys', Machine.run fleet.step inputs sys = some (replies, sys')
      ∧ Machine.Execution (fleet.Runs (FleetInput.MindsOwn own)) inputs sys replies sys' := by
  have hstep : ∀ (input : FleetInput F m n) s, input.Defined ∧ input.Stays sys → sys.SameAddresses s →
      ∃ reply s', fleet.step input s = some (reply, s') ∧ sys.SameAddresses s'
        ∧ fleet.Runs (FleetInput.MindsOwn own) input s reply s' := by
    rintro input s ⟨hdefined, hstays⟩ hs
    obtain ⟨reply, s', hstep, hallows⟩ := fleet.step_refines input s hdefined
    exact ⟨reply, s', hstep, hallows.same hs hstays, hstep, hdefined, (h.of_same hs).mindsOwn⟩
  obtain ⟨replies, sys', hrun, -, hexec⟩ :=
    Machine.exists_run_execution id sys.SameAddresses hstep hinputs ⟨fun _ => rfl, fun _ => rfl⟩
  exact ⟨replies, sys', hrun, hexec⟩

/-- **The order of different drivers' calls is immaterial.** From drivers paired with instruments, two runs that
give every driver the same calls, with the same faults, between the same changes of the host's rate and of its
instrument, and that leave the addresses alone, tell every driver the same and leave it and its instrument the
same, however the calls of different drivers are interleaved, and wherever and however often drivers sweep. -/
theorem interleaving_immaterial (fleet : Fleet n) (hown : Function.Injective own) (hpaired : sys.Paired own)
    {inputs inputs' : List (FleetInput F m n)} (hinputs : ∀ input ∈ inputs, input.Defined ∧ input.Stays sys)
    (hinputs' : ∀ input ∈ inputs', input.Defined ∧ input.Stays sys)
    (hsame : ∀ d, inputs.filterMap (FleetInput.only d (own d)) = inputs'.filterMap (FleetInput.only d (own d))) :
    ∃ replies replies' s s', Machine.run fleet.step inputs sys = some (replies, s)
      ∧ Machine.run fleet.step inputs' sys = some (replies', s')
      ∧ ∀ d, Machine.heard (FleetInput.only d (own d)) inputs replies
            = Machine.heard (FleetInput.only d (own d)) inputs' replies'
          ∧ s.drivers d = s'.drivers d ∧ s.stores (own d) = s'.stores (own d) := by
  obtain ⟨replies, s, hrun, hexec⟩ := hpaired.exists_execution fleet hinputs
  obtain ⟨replies', s', hrun', hexec'⟩ := hpaired.exists_execution fleet hinputs'
  refine ⟨replies, replies', s, s', hrun, hrun', fun d => ?_⟩
  have hproject := (hexec.weaken fun _ _ _ _ hruns => hruns.projects hown d).run_project
  have hproject' := (hexec'.weaken fun _ _ _ _ hruns => hruns.projects hown d).run_project
  rw [hsame d, hproject'] at hproject
  obtain ⟨hheard, hends⟩ := Prod.mk.inj (Option.some.inj hproject)
  have hdriver := congrArg (fun t => t.drivers 0) hends
  have hstore := congrArg (fun t => t.stores 0) hends
  exact ⟨hheard.symm, hdriver.symm, hstore.symm⟩

/-! ## Two drivers and two instruments -/

/-- Fresh instruments are paired with their drivers. -/
theorem FleetSystem.paired_fresh {addresses : Fin n → U8} (h : Function.Injective addresses)
    (hunicast : ∀ i, addresses i ≠ kBroadcastAddress) : (FleetSystem.fresh addresses).Paired id :=
  ⟨hunicast, fun _ => rfl, separate_fresh h⟩

/-- A lost identification of the first instrument, with garbage in the receive buffer, and a sweep, around a
change of gas of the second: the second driver sees the change of gas and the new rate. -/
theorem no_interference_pair :
    ∃ (inputs : List (FleetInput ℚ 2 2)) (replies : List (Reply ℚ)) (sys' : FleetSystem 2 2),
      inputs = [.call ⟨0, .readIdentity, [0xFF], [.unanswered]⟩, .call ⟨1, .setGas ⟨3⟩, [], []⟩,
        .call ⟨0, .discoverPresentAddresses (some (List.replicate 32 0)) 32 50 1 247, [], []⟩, .tune 9600]
      ∧ Machine.run (Fleet.standard 2).step inputs (.fresh ![1, 2]) = some (replies, sys')
      ∧ Machine.run ((Fleet.standard 2).only 1).step [.call ⟨0, .setGas ⟨3⟩, [], []⟩, .tune 9600]
          (.only 1 1 (.fresh ![1, 2]))
        = some (Machine.heard (FleetInput.only 1 1) inputs replies, sys'.only 1 1) := by
  have hpaired : (FleetSystem.fresh ![1, 2]).Paired id :=
    FleetSystem.paired_fresh (by decide) (by decide)
  have hinputs : ∀ input ∈ [.call ⟨0, .readIdentity, [0xFF], [.unanswered]⟩, .call ⟨1, .setGas ⟨3⟩, [], []⟩,
      .call ⟨0, .discoverPresentAddresses (some (List.replicate 32 0)) 32 50 1 247, [], []⟩, .tune 9600],
      FleetInput.Defined (F := ℚ) input ∧ input.Stays (.fresh ![1, 2]) := by
    intro input hinput
    simp only [List.mem_cons, List.not_mem_nil, or_false] at hinput
    rcases hinput with rfl | rfl | rfl | rfl
    · exact ⟨trivial, FleetInput.stays_call id fun _ _ => rfl⟩
    · exact ⟨trivial, FleetInput.stays_call id fun _ _ => rfl⟩
    · refine ⟨?_, FleetInput.stays_call id fun _ _ => rfl⟩
      rintro _ ⟨⟩
      exact List.length_replicate.ge
    · exact ⟨trivial, trivial⟩
  obtain ⟨replies, sys', hrun, hexec⟩ := hpaired.exists_execution (Fleet.standard 2) hinputs
  exact ⟨_, replies, sys', rfl, hrun, no_interference (Fleet.standard 2) Function.injective_id hexec 1⟩

/-- The second driver starts a measurement between the two calls of the first, or before them. -/
theorem interleaving_immaterial_pair :
    ∃ (replies replies' : List (Reply ℚ)) (s s' : FleetSystem 2 2),
      Machine.run (Fleet.standard 2).step [.call ⟨0, .setGas ⟨3⟩, [], []⟩,
          .call ⟨1, .startMeasurementSamples 40, [0xFF], []⟩, .call ⟨0, .readInstantaneous 3, [], []⟩]
        (.fresh ![1, 2]) = some (replies, s)
      ∧ Machine.run (Fleet.standard 2).step [.call ⟨1, .startMeasurementSamples 40, [0xFF], []⟩,
          .call ⟨0, .setGas ⟨3⟩, [], []⟩, .call ⟨0, .readInstantaneous 3, [], []⟩]
        (.fresh ![1, 2]) = some (replies', s')
      ∧ s.stores 0 = s'.stores 0 ∧ s.stores 1 = s'.stores 1 := by
  have hpaired : (FleetSystem.fresh ![1, 2]).Paired id :=
    FleetSystem.paired_fresh (by decide) (by decide)
  let Fixed : FleetInput ℚ 2 2 → Prop := fun input => input.Defined ∧ input.Stays (.fresh ![1, 2])
  have hgas : Fixed (.call ⟨0, .setGas ⟨3⟩, [], []⟩) :=
    ⟨trivial, FleetInput.stays_call id fun _ _ => rfl⟩
  have hstart : Fixed (.call ⟨1, .startMeasurementSamples 40, [0xFF], []⟩) :=
    ⟨trivial, FleetInput.stays_call id fun _ _ => rfl⟩
  have hread : Fixed (.call ⟨0, .readInstantaneous 3, [], []⟩) :=
    ⟨trivial, FleetInput.stays_call id fun _ _ => rfl⟩
  obtain ⟨replies, replies', s, s', hrun, hrun', hends⟩ :=
    interleaving_immaterial (Fleet.standard 2) Function.injective_id hpaired
      (List.forall_mem_cons.mpr ⟨hgas, List.forall_mem_cons.mpr ⟨hstart, List.forall_mem_singleton.mpr hread⟩⟩)
      (List.forall_mem_cons.mpr ⟨hstart, List.forall_mem_cons.mpr ⟨hgas, List.forall_mem_singleton.mpr hread⟩⟩)
      (Fin.forall_fin_two.mpr ⟨rfl, rfl⟩)
  exact ⟨replies, replies', s, s', hrun, hrun', (hends 0).2.2, (hends 1).2.2⟩

end AlicatBasis2
