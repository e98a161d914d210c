import AlicatBasis2.Bus.FleetCalls

/-! # The driver's code refines the fleet machine

By cases on the call, what the driver's code does against the fleet is what the abstract machine allows. By
induction so is every run of calls of any drivers in any order, with changes of the line rate between them, under
the faults the fleet's line has. -/

namespace AlicatBasis2

open Machine Modbus

/-! ## Calls -/

namespace Call

variable {F : Type} [FloatArith F] {n : ℕ} (fleet : Fleet n)

/-- From `s` to `s'` a call with this reply did to the fleet what the abstract machine allows. -/
def ServedBy (call : Call F) (s : Session (Line (FleetBus n))) (reply : Reply F)
    (s' : Session (Line (FleetBus n))) : Prop :=
  fleet.Served call s.driver s.bus.parties reply s'.bus.parties

/-- An operation whose messages are handled, as a call that is not a sweep. -/
theorem served_pack {α : Type} {error : α → DriverError} {told : α → Registers → Prop}
    {call : Call F} {s : Session (Line (FleetBus n))} {r : Option (α × Session (Line (FleetBus n)))}
    (h : fleet.Handles (call.script s.driver) s error told r) {reply : α → Reply F}
    (hsweep : ¬ call.IsDiscovery) (herror : ∀ a, (reply a).error = error a)
    (htold : ∀ a regs, told a regs → call.Told (reply a) regs) :
    Ensures (call.ServedBy fleet s) (pack reply r) := by
  refine ensures_map (h.mono fun a s' hhandled => ?_)
  refine ⟨hhandled.rate, hhandled.only, hhandled.reached, fun hnone _ hne haddr halone => ?_, ?_, ?_⟩
  · obtain ⟨i, hat, htells, hdone⟩ := hhandled.done (herror a ▸ hnone) hne haddr halone
    exact ⟨i, hat, htold a _ htells, hdone⟩
  · exact fun hclean _ hne halone i hat hm => (herror a).trans (hhandled.live hclean hne halone i hat hm)
  · rintro buf bytes ms first last rfl
    exact absurd trivial hsweep

/-- A call that leaves the bus alone. -/
theorem served_here {call : Call F} {s s' : Session (Line (FleetBus n))} {reply : Reply F}
    (hscript : call.script s.driver = []) (hbus : s'.bus = s.bus) (hsweep : ¬ call.IsDiscovery) :
    Ensures (call.ServedBy fleet s) (some (reply, s')) := by
  refine ensures_some ⟨by rw [hbus], fun i => Or.inl (by rw [hbus]), ?_, ?_, ?_, ?_⟩
  · rw [hscript]
    exact nofun
  · exact fun _ _ hne => absurd hscript hne
  · exact fun _ _ hne => absurd hscript hne
  · rintro buf bytes ms first last rfl
    exact absurd trivial hsweep

/-- A command whose writes are handled. -/
theorem served_command {call : Call F} {s : Session (Line (FleetBus n))}
    {r : Option (DriverResult Unit × Session (Line (FleetBus n)))}
    (h : fleet.Handles (call.script s.driver) s DriverResult.error (fun _ _ => True) r)
    (hsweep : ¬ call.IsDiscovery) (htold : ∀ rc regs, call.Told (.command rc) regs) :
    Ensures (call.ServedBy fleet s) (pack .command r) :=
  served_pack fleet h hsweep (fun _ => rfl) fun rc regs _ => htold rc regs

/-- A command that refuses some arguments has no script for them. -/
theorem served_guard {call : Call F} {s : Session (Line (FleetBus n))} {refused : Prop}
    [Decidable refused] {e : DriverError}
    {r : Option (DriverResult Unit × Session (Line (FleetBus n)))}
    (hscript : refused → call.script s.driver = []) (hsweep : ¬ call.IsDiscovery)
    (hrest : ¬ refused → Ensures (call.ServedBy fleet s) (pack .command r)) :
    Ensures (call.ServedBy fleet s)
      (pack .command (if refused then some (.failure e, s) else r)) := by
  by_cases hrefused : refused
  · rw [if_pos hrefused]
    exact served_here fleet (hscript hrefused) rfl hsweep
  · rw [if_neg hrefused]
    exact hrest hrefused

/-- `SetModbusAddress`: the driver moves after the write, which does not concern the fleet. -/
theorem served_setModbusAddress (newAddress : U8) (s : Session (Line (FleetBus n))) :
    Ensures ((setModbusAddress (F := F) newAddress).ServedBy fleet s)
      (pack .command (Driver.setModbusAddress fleet.uart newAddress s)) := by
  rw [Driver.setModbusAddress]
  refine served_guard fleet (fun hrefused => if_neg fun hlegal => ?_) id fun hlegal => ?_
  · exact hrefused.elim (BitVec.not_lt.mpr hlegal.1) (BitVec.not_lt.mpr hlegal.2)
  · obtain ⟨hpos, hle⟩ := not_or.mp hlegal
    refine served_command fleet ?_ id fun _ _ => trivial
    rw [script, if_pos ⟨BitVec.not_lt.mp hpos, BitVec.not_lt.mp hle⟩]
    refine ensures_bind (fleet.handles_writeSingleRegister _ _ s) fun rc t hhandled => ?_
    exact ensures_guard (fun _ => hhandled) fun _ => ensures_some hhandled

/-- The messages of a sweep change nothing. -/
theorem script_of_isDiscovery {call : Call F} (h : call.IsDiscovery) {driver : Driver} {m : Message}
    (hm : m ∈ call.script driver) {regs : Registers} : m.request.apply regs = regs := by
  cases call with
  | discoverPresentAddresses bitmap bytes timeoutMs first last =>
    rw [script] at hm
    split_ifs at hm
    · obtain ⟨a, -, rfl⟩ := List.mem_map.mp hm
      rfl
    · exact absurd hm List.not_mem_nil
  | _ => exact absurd h id

/-- A sweep only reads. -/
theorem served_sweep {call : Call F} {s s' : Session (Line (FleetBus n))} {reply : Reply F}
    (hsweep : call.IsDiscovery) (hread : Fleet.ReadOnly s s')
    (hfound : ∀ buf bytes ms first last,
      call = .discoverPresentAddresses (some buf) bytes ms first last → 32 ≤ bytes →
      ∃ rc buf', reply = .discovery rc (some buf') ∧ rc.error = .none
        ∧ (∀ k < 8 * bytes, Bitmap.mem buf' k = true →
          ∃ a ∈ Driver.window first last, a.toNat = k ∧ ∃ i, s.bus.parties.At a i)
        ∧ (s.bus.parties.faults = [] → ∀ a ∈ Driver.window first last, s.bus.parties.Alone a →
          ∀ i, s.bus.parties.At a i → fleet.accepts i (.read 25 1) = true →
          Bitmap.mem buf' a.toNat = true)) : call.ServedBy fleet s reply s' := by
  refine ⟨hread.rate, fun i => Or.inl (congrFun hread.stores i), fun m hm i _ _ _ => ?_,
    fun _ hnot => absurd hsweep hnot, fun _ hnot => absurd hsweep hnot, hfound⟩
  rw [script_of_isDiscovery hsweep (hm ▸ List.mem_singleton_self m), hread.stores]

/-- A sweep only reads, and finds what its probes find. -/
theorem served_discoverPresentAddresses (bitmap : Option (List U8)) (bytes : ℕ)
    (timeoutMs : U16) (first last : U8) (s : Session (Line (FleetBus n)))
    (h : ∀ buf, bitmap = some buf → bytes ≤ buf.length) :
    Ensures ((discoverPresentAddresses (F := F) bitmap bytes timeoutMs first last).ServedBy fleet s)
      (pack (fun (rc, bitmap) => .discovery rc bitmap)
        (Driver.discoverPresentAddresses fleet.uart bitmap bytes timeoutMs first last s)) := by
  by_cases hvalid : bitmap.isNone ∨ bytes < 32
  · rw [Driver.discoverPresentAddresses, if_pos hvalid]
    refine ensures_some (served_sweep fleet trivial ⟨rfl, rfl, id⟩ ?_)
    rintro buf _ _ _ _ ⟨⟩ hbytes
    rcases hvalid with hnull | hsmall
    · cases hnull
    · exact absurd hbytes (not_le.mpr hsmall)
  · obtain ⟨hsome, hbytes⟩ := not_or.mp hvalid
    obtain ⟨buf, rfl⟩ : ∃ buf, bitmap = some buf := Option.ne_none_iff_exists'.mp fun h =>
      hsome (Option.isNone_iff_eq_none.mpr h)
    obtain ⟨gots, s', hrun, hdiscover⟩ := Driver.discoverPresentAddresses_eq fleet.uart
      (Nat.not_lt.mp hbytes) (h buf rfl) timeoutMs first last s
    obtain ⟨hread, hfound, hall⟩ := fleet.probes_found hrun
    rw [hdiscover]
    refine ensures_some (served_sweep fleet trivial ⟨hread.stores, hread.rate, hread.faults⟩ ?_)
    rintro _ _ _ _ _ ⟨⟩ -
    obtain ⟨hlen, -, -, -⟩ := Driver.probes_spec fleet.uart hrun
    have hwindow := Driver.present_sublist ((Driver.window first last).zip gots)
    rw [List.map_fst_zip hlen.ge] at hwindow
    refine ⟨_, _, rfl, rfl, fun k hk hmem => ?_, fun hclean a ha halone i hat haccepts => ?_⟩
    · obtain ⟨a, ha, rfl⟩ := (Driver.mem_marked_iff (Nat.not_lt.mp hbytes) _ _ hk).mp hmem
      exact ⟨a, hwindow.subset ha, rfl, hfound a ha⟩
    · have hsmall := a.isLt
      exact (Driver.mem_marked_iff (Nat.not_lt.mp hbytes) _ _ (by omega)).mpr
        ⟨a, hall hclean a ha halone i hat haccepts, rfl⟩

/-- **Every defined call is served as the abstract machine allows.** -/
theorem served_exec {call : Call F} (h : call.Defined) (s : Session (Line (FleetBus n))) :
    Ensures (call.ServedBy fleet s) (call.exec fleet.uart s) := by
  cases call with
  | setTimeoutMs ms | setAddress addr => exact served_here fleet rfl rfl id
  | getTimeoutMs | getAddress => exact served_here fleet rfl rfl id
  | readInstantaneous flowDecimals =>
    refine served_pack fleet ?_ id (fun _ => rfl) fun _ _ htold => htold
    rw [readInstantaneous_eq_readDecode]
    exact fleet.handles_readDecode (by decide) (by decide) s _
  | readMeasurement =>
    refine served_pack fleet ?_ id (fun _ => rfl) fun _ _ htold => htold
    rw [readMeasurement_eq_readDecode]
    exact fleet.handles_readDecode (by decide) (by decide) s _
  | readIdentity =>
    refine served_pack fleet ?_ id (fun _ => rfl) fun _ _ htold => htold
    exact fleet.handles_readIdentity s
  | setCommWatchdogMs ms | setFlowAveragingMs ms =>
    refine served_guard fleet (fun h => if_neg (BitVec.not_le.mpr h)) id fun h => ?_
    refine served_command fleet ?_ id fun _ _ => trivial
    rw [script, if_pos (BitVec.not_lt.mp h)]
    exact fleet.handles_writeSingleRegister _ _ s
  | setAsciiUnitId id' =>
    refine served_guard fleet (fun hrefused => if_neg fun hlegal => ?_) id fun h => ?_
    · exact hrefused.elim (BitVec.not_lt.mpr hlegal.1) (BitVec.not_lt.mpr hlegal.2)
    · obtain ⟨hge, hle⟩ := not_or.mp h
      refine served_command fleet ?_ id fun _ _ => trivial
      rw [script, if_pos ⟨BitVec.not_lt.mp hge, BitVec.not_lt.mp hle⟩]
      exact fleet.handles_writeSingleRegister _ _ s
  | setReferenceTemperatureC c =>
    refine served_guard fleet (fun h => if_pos h) id fun h => ?_
    refine served_command fleet ?_ id fun _ _ => trivial
    refine ensures_bind_known fun raw hraw => ?_
    rw [script, if_neg h, hraw]
    exact fleet.handles_writeSingleRegister _ _ s
  | setSetpoint value flowDecimals =>
    refine served_command fleet ?_ id fun _ _ => trivial
    refine ensures_bind_value fun _ => ensures_bind_known fun raw hraw => ?_
    simp only [script, hraw, Driver.words32, ← Driver.splitWords_eq]
    exact fleet.handles_writeMultipleRegisters _ (Driver.splitWords raw) (by decide) (by decide) s
  | setMaxSetpointRamp value | setTotalizerBatch value =>
    refine served_command fleet ?_ id fun _ _ => trivial
    rw [script, Driver.words32, ← Driver.splitWords_eq]
    exact fleet.handles_writeMultipleRegisters _ (Driver.splitWords value) (by decide) (by decide) s
  | setModbusAddress addr => exact served_setModbusAddress fleet addr s
  | discoverPresentAddresses bitmap bytes timeoutMs first last =>
    exact served_discoverPresentAddresses fleet bitmap bytes timeoutMs first last s h
  | readHoldingRegisters regAddr out count =>
    rw [exec]
    by_cases hvalid : out.isNone ∨ count = 0 ∨ count > 125
    · rw [Driver.readHoldingRegisters_of_invalid fleet.uart regAddr hvalid]
      refine served_here fleet (if_neg ?_) rfl id
      rintro ⟨hsome, hpos, hle⟩
      rcases hvalid with hnull | rfl | hgt
      · exact absurd hsome (by simp [Option.isNone_iff_eq_none.mp hnull])
      · exact absurd hpos (by decide)
      · exact absurd hle (BitVec.not_le.mpr hgt)
    · obtain ⟨buf, rfl, hpos, hle⟩ := Driver.not_invalid_iff.mp hvalid
      have hhandled := fleet.handles_readHoldingRegisters regAddr hpos hle (h buf rfl) s
      refine served_pack fleet ?_ id (fun _ => rfl) fun _ _ htold => htold
      rw [script, if_pos ⟨rfl, BitVec.le_def.mpr hpos, BitVec.le_def.mpr hle⟩]
      exact hhandled
  | writeMultipleRegisters regAddr regs count =>
    by_cases hvalid : regs.isNone ∨ count = 0 ∨ count > 32
    · rw [exec, Driver.writeMultipleRegisters_of_invalid fleet.uart regAddr hvalid]
      refine served_here fleet ?_ rfl id
      cases regs with
      | none => rfl
      | some buf =>
        refine if_neg ?_
        rintro ⟨hpos, hle⟩
        rcases hvalid with hnull | rfl | hgt
        · exact absurd hnull (by simp)
        · exact absurd hpos (by decide)
        · exact absurd hle (BitVec.not_le.mpr hgt)
    · obtain ⟨buf, rfl, hpos, hle⟩ := Driver.not_invalid_iff.mp hvalid
      refine served_command fleet ?_ id fun _ _ => trivial
      simp only [script]
      rw [if_pos ⟨BitVec.le_def.mpr hpos, BitVec.le_def.mpr hle⟩]
      exact fleet.handles_writeMultipleRegisters regAddr buf hpos hle s
  | _ =>
    exact served_command fleet (fleet.handles_writeSingleRegister _ _ s) id fun _ _ => trivial

end Call

/-! ## Runs -/

/-- The inputs a host may give: calls whose arrays hold what their counts say, with numbers that fit, and
any rate and any registers. -/
def FleetInput.Defined {F : Type} [FloatArith F] {m n : ℕ} : FleetInput F m n → Prop
  | .call c => c.call.Defined
  | .tune _ => True
  | .own _ _ => True

/-- **One input refines the abstract machine.** -/
theorem Fleet.step_refines {F : Type} [FloatArith F] {m n : ℕ} (fleet : Fleet n)
    (input : FleetInput F m n) (sys : FleetSystem m n) (h : input.Defined) :
    ∃ reply sys', fleet.step input sys = some (reply, sys')
      ∧ fleet.Allows input sys reply sys' := by
  cases input with
  | tune bps => exact ⟨_, _, rfl, rfl, rfl⟩
  | own i regs => exact ⟨_, _, rfl, rfl, rfl⟩
  | call c =>
    obtain ⟨⟨reply, s⟩, hexec⟩ := Call.exists_exec fleet.uart h
      ⟨sys.drivers c.driver, ⟨sys.bus c.faults, c.garbage⟩, []⟩
    have hserved := Call.served_exec fleet h _ reply s hexec
    have hframed := Call.framed_exec fleet.uart c.call _ reply s hexec
    refine ⟨reply, _, by simp only [step, hexec]; rfl, ?_, ?_⟩
    · rw [Call.driverAfter, ← hframed.address, ← hframed.timeoutMs]
    · exact ⟨hserved.rate, hserved.only, hserved.reached, hserved.done, hserved.live, hserved.found⟩

/-- **Refinement of the whole bus.** For any number of drivers and instruments, every order of public calls
of the drivers, changes of the host's rate and changes of the instruments' own, and all faults of the transactions
(requests lost, single replies lost, cut, or disturbed in at most sixteen consecutive bits, any bytes where several
answer), the calls return, and what they report, leave in the drivers and do to the instruments is an execution of
the abstract machine. -/
theorem fleet_refinement {F : Type} [FloatArith F] {m n : ℕ} (fleet : Fleet n)
    (inputs : List (FleetInput F m n)) (hinputs : ∀ input ∈ inputs, input.Defined)
    (sys : FleetSystem m n) :
    ∃ replies sys', Machine.run fleet.step inputs sys = some (replies, sys')
      ∧ Machine.Execution fleet.Allows inputs sys replies sys' := by
  have hstep : ∀ (input : FleetInput F m n) (sys : FleetSystem m n), input.Defined → True →
      ∃ reply sys', fleet.step input sys = some (reply, sys') ∧ True
        ∧ fleet.Allows input sys reply sys' := by
    intro input sys h _
    obtain ⟨reply, sys', hstep, hallows⟩ := fleet.step_refines input sys h
    exact ⟨reply, sys', hstep, trivial, hallows⟩
  obtain ⟨replies, sys', hrun, -, hexec⟩ :=
    Machine.exists_run_execution id (fun _ => True) hstep hinputs trivial
  exact ⟨replies, sys', hrun, hexec⟩

/-- A change of address with garbage in the receive buffer, a change of the host's rate that loses the
instruments, and a read after an instrument has restarted at the new rate. -/
theorem fleet_refinement_pair :
    ∃ replies sys', Machine.run (Fleet.standard 2).step
        [.call ⟨0, (.setModbusAddress 9 : Call ℚ), [0xFF], []⟩, .tune 9600, .own 1 fun _ => 1,
          .call ⟨1, .readIdentity, [], [.clean]⟩] (.fresh ![1, 2]) = some (replies, sys')
      ∧ Machine.Execution (Fleet.standard 2).Allows
        [.call ⟨0, (.setModbusAddress 9 : Call ℚ), [0xFF], []⟩, .tune 9600, .own 1 fun _ => 1,
          .call ⟨1, .readIdentity, [], [.clean]⟩] (.fresh ![1, 2]) replies sys' := by
  refine fleet_refinement (Fleet.standard 2) _ ?_ _
  intro input hinput
  simp only [List.mem_cons, List.not_mem_nil, or_false] at hinput
  rcases hinput with rfl | rfl | rfl | rfl <;> exact True.intro

end AlicatBasis2
