import AlicatBasis2.Bus.FleetRefinement

/-! # Addresses that stay apart

An instrument answers to what is in its register 45, which the operations of any driver may write. As long as
an address is written to one instrument at a time and is one that no other instrument has, the addresses stay
apart under all faults of the line; then no two instruments ever answer at once, an operation that is no
broadcast touches the instrument at its driver's address and no other, and its success means that exactly one
instrument has done all that was asked, sweeps apart. -/

namespace AlicatBasis2

open Modbus

/-! ## What a request stores -/

/-- The value a request stores in a register, where it stores one. -/
def Request.sets (a : U16) : Request → Option U16
  | read _ _ => none
  | writeSingle regAddr value => [value][(a - regAddr).toNat]?
  | writeMultiple regAddr words => words[(a - regAddr).toNat]?

/-- A register holds what a request stores in it, or what it held. -/
theorem Request.apply_eq (request : Request) (regs : Registers) (a : U16) :
    request.apply regs a = (request.sets a).getD (regs a) := by
  cases request <;> simp [apply, sets, Registers.write, List.getD_eq_getElem?_getD]

/-- A single write stores its value in its register alone. -/
@[simp] theorem Request.sets_writeSingle (regAddr value a : U16) :
    (writeSingle regAddr value).sets a = if a = regAddr then some value else none := by
  unfold sets
  by_cases ha : a = regAddr
  · simp [ha]
  · have hne : (a - regAddr).toNat ≠ 0 := by bv_omega
    rw [if_neg ha]
    exact List.getElem?_eq_none (Nat.one_le_iff_ne_zero.mpr hne)

namespace Call

variable {F : Type} [FloatArith F]

/-- A message that stores something is one to the driver's own address. -/
theorem unit_of_sets (call : Call F) {driver : Driver} {m : Message} (hm : m ∈ call.script driver)
    {a v : U16} (hsets : m.request.sets a = some v) : m.unit = driver.address := by
  cases call with
  | discoverPresentAddresses bitmap bytes timeoutMs first last =>
    rw [script] at hm
    split_ifs at hm with hvalid
    · obtain ⟨b, -, rfl⟩ := List.mem_map.mp hm
      cases hsets
    · exact absurd hm List.not_mem_nil
  | readIdentity =>
    simp only [script, List.mem_cons, List.not_mem_nil, or_false] at hm
    rcases hm with rfl | rfl | rfl <;> rfl
  | writeMultipleRegisters regAddr regs count =>
    cases regs with
    | none => exact absurd hm List.not_mem_nil
    | some buf =>
      simp only [script] at hm
      split_ifs at hm <;> simp_all [Driver.asks]
  | _ =>
    rw [script] at hm
    repeat' split at hm
    all_goals simp_all [Driver.asks]

/-- The operations that may write register 45. -/
def Readdresses : Call F → Prop
  | setModbusAddress _ | writeSingleRegister _ _ | writeMultipleRegisters _ _ _ => True
  | _ => False

/-- No other operation writes register 45. -/
theorem sets_address_of_not_readdresses {call : Call F} (h : ¬ call.Readdresses) {driver : Driver}
    {m : Message} (hm : m ∈ call.script driver) : m.request.sets 45 = none := by
  cases call with
  | setModbusAddress | writeSingleRegister | writeMultipleRegisters => exact absurd trivial h
  | readIdentity =>
    simp only [script, List.mem_cons, List.not_mem_nil, or_false] at hm
    rcases hm with rfl | rfl | rfl <;> rfl
  | discoverPresentAddresses bitmap bytes timeoutMs first last =>
    rw [script] at hm
    split_ifs at hm with hvalid
    · obtain ⟨b, -, rfl⟩ := List.mem_map.mp hm
      rfl
    · exact absurd hm List.not_mem_nil
  | _ =>
    rw [script] at hm
    repeat' split at hm
    all_goals simp_all [Driver.asks, Driver.words32, Request.sets]

end Call

/-! ## Addresses one at a time -/

section Careful

variable {F : Type} [FloatArith F] {m n : ℕ}

/-- No two instruments have one address. -/
def FleetSystem.Separate (sys : FleetSystem m n) : Prop :=
  ∀ i j, sys.stores i 45 = sys.stores j 45 → i = j

/-- A message that stores an address stores it in one instrument, and no other instrument has it. -/
def FleetSystem.Careful (sys : FleetSystem m n) (message : Message) : Prop :=
  ∀ v, message.request.sets 45 = some v → message.unit ≠ kBroadcastAddress
    ∧ ∀ j, sys.stores j 45 = v → sys.stores j 45 = message.unit.setWidth 16

/-- Inputs that store addresses one at a time; what an instrument does on its own leaves its address apart
from the others. -/
def FleetInput.Careful (sys : FleetSystem m n) : FleetInput F m n → Prop
  | .call c => ∀ message ∈ c.call.script (sys.drivers c.driver), sys.Careful message
  | .tune _ => True
  | .own i regs => ∀ j, j ≠ i → sys.stores j 45 ≠ regs 45

/-- An operation that does not write register 45 is careful. -/
theorem FleetInput.careful_call (sys : FleetSystem m n) {c : FleetCall F m n}
    (h : ¬ c.call.Readdresses) : (FleetInput.call c).Careful sys := by
  intro message hmessage v hsets
  rw [Call.sets_address_of_not_readdresses h hmessage] at hsets
  cases hsets

/-- A driver that does not broadcast moves its instrument carefully to an address that nobody has. -/
theorem FleetInput.careful_setModbusAddress (sys : FleetSystem m n) {driver : Fin m} {addr : U8}
    (haddr : (sys.drivers driver).address ≠ kBroadcastAddress)
    (hfree : ∀ j, sys.stores j 45 ≠ addr.setWidth 16) (garbage : List U8) (faults : List (Fault n)) :
    (FleetInput.call ⟨driver, (.setModbusAddress addr : Call F), garbage, faults⟩).Careful sys := by
  intro message hmessage v hsets
  simp only [Call.script] at hmessage
  split_ifs at hmessage with hlegal
  · rw [List.mem_singleton.mp hmessage] at hsets ⊢
    cases hsets
    exact ⟨haddr, fun j hj => absurd hj (hfree j)⟩
  · exact absurd hmessage List.not_mem_nil

/-- On separate addresses no two instruments answer at once. -/
theorem FleetSystem.Separate.alone {sys : FleetSystem m n} (hsep : sys.Separate)
    (faults : List (Fault n)) (unit : U8) : (sys.bus faults).Alone unit :=
  fun i j hi hj => hsep i j (hi.2.2.trans hj.2.2.symm)

/-- Fresh instruments are at the addresses they were given. -/
theorem FleetSystem.separate_fresh {addresses : Fin n → U8} (h : Function.Injective addresses) :
    (FleetSystem.fresh addresses).Separate := fun _ _ hij => h (Registers.widen_injective hij)

end Careful

/-! ## One call -/

section Served

variable {F : Type} [FloatArith F] {m n : ℕ} {fleet : Fleet n} {call : Call F} {driver : Driver}
  {sys sys' : FleetSystem m n} {faults : List (Fault n)} {reply : Reply F}

/-- An address is kept, or is what a message heard has stored. -/
theorem Fleet.Served.address_cases
    (h : fleet.Served call driver (sys.bus faults) reply (sys'.bus [])) (i : Fin n) :
    sys'.stores i 45 = sys.stores i 45
      ∨ ∃ message ∈ call.script driver, message.request.sets 45 = some (sys'.stores i 45)
        ∧ (sys.stores i).Hears sys.rate message.unit := by
  rcases h.only i with hkept | ⟨message, hmessage, hhears, -, happlied⟩
  · exact Or.inl (congrFun hkept 45)
  · have hvalue : sys'.stores i 45 = _ := congrFun happlied 45
    rw [Request.apply_eq] at hvalue
    cases hsets : message.request.sets 45 with
    | none =>
      rw [hsets] at hvalue
      exact Or.inl hvalue
    | some v =>
      rw [hsets, Option.getD_some] at hvalue
      exact Or.inr ⟨message, hmessage, hvalue ▸ hsets, hhears⟩

/-- A careful call keeps the addresses apart. -/
theorem Fleet.Served.separate (h : fleet.Served call driver (sys.bus faults) reply (sys'.bus []))
    (hcareful : ∀ message ∈ call.script driver, sys.Careful message) (hsep : sys.Separate) :
    sys'.Separate := by
  -- an instrument that moved was at the driver's address
  have hmoved : ∀ i, sys'.stores i 45 ≠ sys.stores i 45 → sys.stores i 45 = driver.address.setWidth 16
      ∧ ∀ j, sys.stores j 45 = sys'.stores i 45 → sys.stores j 45 = driver.address.setWidth 16 := by
    intro i hi
    obtain ⟨message, hmessage, hsets, hhears⟩ := (h.address_cases i).resolve_left hi
    obtain ⟨hunicast, hfree⟩ := hcareful message hmessage _ hsets
    rw [call.unit_of_sets hmessage hsets] at hunicast hfree hhears
    exact ⟨hhears.2.resolve_left hunicast, hfree⟩
  intro i j heq
  by_cases hi : sys'.stores i 45 = sys.stores i 45
  · by_cases hj : sys'.stores j 45 = sys.stores j 45
    · exact hsep i j (hi.symm.trans (heq.trans hj))
    · exact hsep i j (((hmoved j hj).2 i (hi.symm.trans heq)).trans (hmoved j hj).1.symm)
  · by_cases hj : sys'.stores j 45 = sys.stores j 45
    · exact hsep i j ((hmoved i hi).1.trans ((hmoved i hi).2 j (hj.symm.trans heq.symm)).symm)
    · exact hsep i j ((hmoved i hi).1.trans (hmoved j hj).1.symm)

/-- What a call does on separate addresses: a driver that does not broadcast touches the instrument at its address
alone, and where its call, other than a sweep, succeeds with something asked, that instrument has done all that
was asked. -/
structure Fleet.Exclusive (fleet : Fleet n) (call : Call F) (driver : Driver)
    (sys : FleetSystem m n) (reply : Reply F) (sys' : FleetSystem m n) : Prop where
  touched : driver.address ≠ kBroadcastAddress →
    ∀ i, sys'.stores i ≠ sys.stores i → sys.stores i 45 = driver.address.setWidth 16
  whole : reply.error = .none → ¬ call.IsDiscovery → call.script driver ≠ [] →
    driver.address ≠ kBroadcastAddress →
    ∃ i, (∀ j, sys.stores j 45 = driver.address.setWidth 16 ↔ j = i)
      ∧ call.Told reply (sys.stores i)
      ∧ (∀ message ∈ call.script driver, fleet.accepts i message.request = true
        ∧ sys'.stores i = message.request.apply (sys.stores i))
      ∧ ∀ j, j ≠ i → sys'.stores j = sys.stores j

/-- A driver that does not broadcast touches nothing but what is at its address. -/
theorem Fleet.Served.address_of_touched (h : fleet.Served call driver (sys.bus faults) reply (sys'.bus []))
    (haddr : driver.address ≠ kBroadcastAddress) {i : Fin n} (hi : sys'.stores i ≠ sys.stores i) :
    sys.stores i 45 = driver.address.setWidth 16 := by
  obtain ⟨message, hmessage, hhears, -, happlied⟩ := (h.only i).resolve_left hi
  -- what was heard has stored something
  obtain ⟨a, ha⟩ : ∃ a, message.request.sets a ≠ none := by
    by_contra hnone
    simp only [ne_eq, not_exists, not_not] at hnone
    refine hi (happlied.trans (funext fun a => ?_))
    rw [Request.apply_eq, hnone a]
    rfl
  obtain ⟨v, hsets⟩ := Option.ne_none_iff_exists'.mp ha
  rw [call.unit_of_sets hmessage hsets] at hhears
  exact hhears.2.resolve_left haddr

/-- On separate addresses every call is exclusive. -/
theorem Fleet.Served.exclusive (h : fleet.Served call driver (sys.bus faults) reply (sys'.bus []))
    (hsep : sys.Separate) : fleet.Exclusive call driver sys reply sys' := by
  refine ⟨fun haddr i hi => h.address_of_touched haddr hi, fun hnone hsweep hne haddr => ?_⟩
  obtain ⟨i, hat, htold, hall⟩ := h.done hnone hsweep hne haddr (hsep.alone faults _)
  refine ⟨i, fun j => ⟨fun hj => hsep j i (hj.trans hat.2.2.symm), fun hj => hj ▸ hat.2.2⟩, htold,
    hall, fun j hj => ?_⟩
  by_contra hchanged
  exact hj (hsep j i ((h.address_of_touched haddr hchanged).trans hat.2.2.symm))

end Served

/-! ## Runs -/

/-- The calls of a run, each exclusive. -/
def Fleet.Apart {F : Type} [FloatArith F] {m n : ℕ} (fleet : Fleet n) :
    Machine.Spec (FleetSystem m n) (FleetInput F m n) (Reply F)
  | .call c, sys, reply, sys' => fleet.Exclusive c.call (sys.drivers c.driver) sys reply sys'
  | .tune _, _, _, _ | .own _ _, _, _, _ => True

/-- **Addresses stay apart.** From separate addresses, every run of calls of any drivers that writes addresses
one at a time and to free addresses, under all faults of the line, keeps the addresses separate. At
every call of a driver that does not broadcast no instrument but the one at the driver's address is touched, and
such a call, other than a sweep, was carried out whole by exactly that one if it asked anything and succeeded. -/
theorem addresses_stay_separate {F : Type} [FloatArith F] {m n : ℕ} (fleet : Fleet n)
    {inputs : List (FleetInput F m n)} {replies : List (Reply F)} {sys sys' : FleetSystem m n}
    (hexec : Machine.Execution (fun input s reply s' => fleet.step input s = some (reply, s')
      ∧ input.Defined ∧ input.Careful s) inputs sys replies sys') (hsep : sys.Separate) :
    Machine.Execution fleet.Apart inputs sys replies sys' ∧ sys'.Separate := by
  refine hexec.mono FleetSystem.Separate ?_ hsep
  rintro input s reply s' hs ⟨hstep, hdefined, hcareful⟩
  obtain ⟨reply', t, hstep', hallows⟩ := fleet.step_refines input s hdefined
  obtain ⟨rfl, rfl⟩ : reply' = reply ∧ t = s' := by
    rw [hstep] at hstep'
    cases hstep'
    exact ⟨rfl, rfl⟩
  cases input with
  | call c => exact ⟨hallows.2.exclusive hs, hallows.2.separate hcareful hs⟩
  | tune bps =>
    obtain ⟨-, rfl⟩ := hallows
    exact ⟨trivial, hs⟩
  | own i regs =>
    obtain ⟨-, rfl⟩ := hallows
    refine ⟨trivial, fun j k hjk => ?_⟩
    rcases eq_or_ne j i with rfl | hj
    · rcases eq_or_ne k j with rfl | hk
      · rfl
      · simp only [Function.update_self, Function.update_of_ne hk] at hjk
        exact absurd hjk.symm (hcareful k hk)
    · rcases eq_or_ne k i with rfl | hk
      · simp only [Function.update_self, Function.update_of_ne hj] at hjk
        exact absurd hjk (hcareful j hj)
      · simp only [Function.update_of_ne hj, Function.update_of_ne hk] at hjk
        exact hs j k hjk

/-- Two instruments at addresses 1 and 2: the first is moved to 9, then the second is asked who it is. -/
theorem addresses_stay_separate_pair :
    ∃ replies sys', Machine.Execution (Fleet.standard 2).Apart
        [.call ⟨0, (.setModbusAddress 9 : Call ℚ), [0xFF], []⟩, .call ⟨1, .readIdentity, [], []⟩]
        (.fresh ![1, 2]) replies sys'
      ∧ sys'.Separate := by
  obtain ⟨reply, s, hstep, -⟩ := (Fleet.standard 2).step_refines
    (.call ⟨0, (.setModbusAddress 9 : Call ℚ), [0xFF], []⟩) (.fresh ![1, 2]) trivial
  obtain ⟨reply', s', hstep', -⟩ := (Fleet.standard 2).step_refines
    (.call ⟨1, (.readIdentity : Call ℚ), [], []⟩) s trivial
  refine ⟨[reply, reply'], s', addresses_stay_separate (Fleet.standard 2) (.cons ⟨hstep, trivial, ?_⟩
    (.cons ⟨hstep', trivial, ?_⟩ (.nil s'))) (FleetSystem.separate_fresh (by decide))⟩
  · exact FleetInput.careful_setModbusAddress _ (by decide) (by decide) _ _
  · exact FleetInput.careful_call s id

end AlicatBasis2
