import AlicatBasis2.Operations.SinglePrecision
import AlicatBasis2.Programs.Interference

/-! # The example programs

`app_main` of the two examples, as the calls each makes on its driver. What the programs read goes to a log and
decides nothing, so the calls are the same whatever the instrument answers; the last loop does not end, and a run
has come some number of passes into it. -/

namespace AlicatBasis2

open Modbus Machine

/-! ## The programs -/

namespace MinimalExample

/-- `kModbusAddr`. -/
def kModbusAddr : U8 := 1

/-- `meter`: the driver that the program constructs. -/
def meter : Driver := ⟨kModbusAddr, kDefaultTimeoutMs⟩

/-- The calls of `app_main` after some passes of its loop. -/
def appMain (passes : ℕ) : List (Call Binary32) :=
  .readIdentity :: List.replicate passes (.readInstantaneous 3)

end MinimalExample

namespace FullExample

/-- `kPrimaryAddr`. -/
def kPrimaryAddr : U8 := 1

/-- `meter`: the driver that the program constructs. -/
def meter : Driver := ⟨kPrimaryAddr, kDefaultTimeoutMs⟩

/-- `present`. -/
def present : List U8 := List.replicate 32 0

/-- `Gas::Nitrogen`. -/
def nitrogen : Gas := ⟨3⟩

/-- `TotalizerLimitMode::SaturateNoError`. -/
def saturateNoError : TotalizerLimitMode := ⟨0⟩

/-- `SetpointSource::DigitalUnsaved`. -/
def digitalUnsaved : SetpointSource := ⟨2⟩

/-- The calls of `app_main` before its loop. -/
def walkthrough : List (Call Binary32) :=
  [.discoverPresentAddresses (some present) 32 40 1 kMaxModbusAddress,
    .readIdentity,
    .setGas nitrogen,
    .setReferenceTemperatureC (FloatArith.literal 25),
    .setFlowAveragingMs 50,
    .setTotalizerLimitMode saturateNoError,
    .setCommWatchdogMs 2000,
    .setSetpointSource digitalUnsaved,
    .setSetpoint (FloatArith.literal (5 / 2)) 3,
    .tare,
    .resetTotalizer,
    .configureMeasurementTrigger 0,
    .startMeasurementSamples 200,
    .readMeasurement]

/-- The calls of `app_main` after some passes of its loop. -/
def appMain (passes : ℕ) : List (Call Binary32) :=
  walkthrough ++ List.replicate passes (.readInstantaneous 3)

/-- The calls of the walkthrough that store something, with what each says. -/
def settings : List (Call Binary32 × Request) :=
  [(.setGas nitrogen, .writeSingle 2100 3),
    (.setReferenceTemperatureC (FloatArith.literal 25), .writeSingle 52 2500),
    (.setFlowAveragingMs 50, .writeSingle 55 50),
    (.setTotalizerLimitMode saturateNoError, .writeSingle 54 0),
    (.setCommWatchdogMs 2000, .writeSingle 514 2000),
    (.setSetpointSource digitalUnsaved, .writeSingle 516 2),
    (.setSetpoint (FloatArith.literal (5 / 2)) 3, .writeMultiple 2053 (Driver.words32 2500)),
    (.tare, .writeSingle 39 0xAA55),
    (.resetTotalizer, .writeSingle 53 0xAA55),
    (.configureMeasurementTrigger 0, .writeSingle 4200 0),
    (.startMeasurementSamples 200, .writeSingle 4201 200)]

/-- The registers they go to, with the values. -/
def configuration : List (U16 × U16) :=
  [(2100, 3), (52, 2500), (55, 50), (54, 0), (514, 2000), (516, 2), (2053, 0), (2054, 2500), (39, 0xAA55),
    (53, 0xAA55), (4200, 0), (4201, 200)]

end FullExample

/-! ## What the calls say -/

/-- The registers that a request stores something in, with the values. -/
def Request.entries : Request → List (U16 × U16)
  | read _ _ => []
  | writeSingle regAddr value => [(regAddr, value)]
  | writeMultiple regAddr words => words.zipIdx.map fun p => (regAddr + BitVec.ofNat 16 p.2, p.1)

/-- They are what it sets. -/
theorem Request.mem_entries {request : Request} {a v : U16} (h : request.sets a = some v) :
    (a, v) ∈ request.entries := by
  cases request with
  | read => cases h
  | writeSingle regAddr value =>
    rw [sets_writeSingle] at h
    split_ifs at h with ha
    · rw [ha, Option.some.inj h]
      exact List.mem_singleton_self _
  | writeMultiple regAddr words =>
    rw [sets] at h
    refine List.mem_map.mpr ⟨(v, (a - regAddr).toNat), List.mem_zipIdx_iff_getElem?.mpr h, ?_⟩
    rw [BitVec.ofNat_toNat, BitVec.setWidth_eq, BitVec.add_comm, BitVec.sub_add_cancel]

/-- A call is within a table that has all its script stores. -/
theorem Call.within_of_subset {F : Type} [FloatArith F] {driver : Driver} {table : List (U16 × U16)}
    {call : Call F} (hkeeps : ∀ reply, call.driverAfter reply driver = driver)
    (hsub : ((call.script driver).flatMap fun message => message.request.entries) ⊆ table) :
    call.Within driver table :=
  ⟨hkeeps, fun message hmessage _ _ hsets =>
    hsub (List.mem_flatMap.mpr ⟨message, hmessage, Request.mem_entries hsets⟩)⟩

namespace FullExample

/-- `SetReferenceTemperatureC(25.0f)` writes 2500 hundredths. -/
theorem script_setReferenceTemperatureC :
    (Call.setReferenceTemperatureC (FloatArith.literal 25 : Binary32)).script meter
      = [meter.asks (.writeSingle 52 2500)] := by
  have hraw : (FloatArith.toUInt16 (FloatArith.mul (FloatArith.literal 25 : Binary32)
      (FloatArith.literal 100)) : Option U16) = some 2500 := by decide +kernel
  rw [Call.script, if_neg (by decide +kernel), hraw]

/-- `SetSetpoint(2.5f)` writes 2500 thousandths. -/
theorem script_setSetpoint :
    (Call.setSetpoint (FloatArith.literal (5 / 2) : Binary32) 3).script meter
      = [meter.asks (.writeMultiple 2053 (Driver.words32 2500))] := by
  have hraw : (FloatArith.toInt32 (FloatArith.mul (FloatArith.literal (5 / 2) : Binary32)
      (FloatArith.literal 1000)) : Option U32) = some 2500 := by decide +kernel
  rw [Call.script, hraw]

/-- Every setting says what the table says and keeps the driver. -/
theorem setting_spec {call : Call Binary32} {request : Request} (h : (call, request) ∈ settings) :
    call.script meter = [meter.asks request] ∧ (∀ reply, call.driverAfter reply meter = meter)
      ∧ ¬ call.IsDiscovery ∧ (meter.asks request).Awaited := by
  have hunicast : meter.address ≠ kBroadcastAddress := by decide
  simp only [settings, List.mem_cons, List.not_mem_nil, or_false, Prod.mk.injEq] at h
  rcases h with ⟨rfl, rfl⟩ | ⟨rfl, rfl⟩ | ⟨rfl, rfl⟩ | ⟨rfl, rfl⟩ | ⟨rfl, rfl⟩ | ⟨rfl, rfl⟩ | ⟨rfl, rfl⟩ |
    ⟨rfl, rfl⟩ | ⟨rfl, rfl⟩ | ⟨rfl, rfl⟩ | ⟨rfl, rfl⟩ <;>
    refine ⟨?_, fun _ => rfl, id, hunicast⟩
  case inr.inl => exact script_setReferenceTemperatureC
  case inr.inr.inr.inr.inr.inr.inl => exact script_setSetpoint
  all_goals rfl

/-- The walkthrough is the sweep, the identity, the settings and the measurement. -/
theorem walkthrough_eq : walkthrough
    = [.discoverPresentAddresses (some present) 32 40 1 kMaxModbusAddress, .readIdentity]
      ++ settings.map Prod.fst ++ [.readMeasurement] := rfl

/-- A call of the program is the sweep, a read, or a setting. -/
theorem appMain_cases {passes : ℕ} {call : Call Binary32} (h : call ∈ appMain passes) :
    call = .discoverPresentAddresses (some present) 32 40 1 kMaxModbusAddress
      ∨ call = .readIdentity ∨ call = .readMeasurement ∨ call = .readInstantaneous 3
      ∨ ∃ request, (call, request) ∈ settings := by
  rw [appMain, walkthrough_eq] at h
  simp only [List.mem_append, List.mem_cons, List.not_mem_nil, or_false, List.mem_map, Prod.exists,
    exists_and_right, exists_eq_right, List.mem_replicate] at h
  tauto

/-- The program keeps its driver and stores the configuration. -/
theorem within_of_mem_appMain {passes : ℕ} {call : Call Binary32} (h : call ∈ appMain passes) :
    call.Within meter configuration := by
  have hsettings : (settings.flatMap fun p => p.2.entries) ⊆ configuration := by decide
  rcases appMain_cases h with rfl | rfl | rfl | rfl | ⟨request, hsetting⟩
  · refine Call.within_of_subset (fun _ => rfl) fun e he => ?_
    obtain ⟨message, hmessage, hin⟩ := List.mem_flatMap.mp he
    obtain ⟨a, -, rfl⟩ := List.mem_map.mp hmessage
    exact absurd hin List.not_mem_nil
  · exact Call.within_of_subset (fun _ => rfl) (List.nil_subset _)
  · exact Call.within_of_subset (fun _ => rfl) (List.nil_subset _)
  · exact Call.within_of_subset (fun _ => rfl) (List.nil_subset _)
  · obtain ⟨hscript, hkeeps, -, -⟩ := setting_spec hsetting
    refine Call.within_of_subset hkeeps fun e he => hsettings ?_
    rw [hscript, List.flatMap_singleton] at he
    exact List.mem_flatMap.mpr ⟨_, hsetting, he⟩

/-- An instrument that accepts what the program asks of its address can answer every call. -/
theorem answerable_of_mem_appMain {n passes : ℕ} {fleet : Fleet n} {i : Fin n} {call : Call Binary32}
    (h : call ∈ appMain passes)
    (haccepts : ¬ call.IsDiscovery → ∀ message ∈ call.script meter, fleet.accepts i message.request = true) :
    call.Answerable fleet i meter := by
  have hasks : ¬ call.IsDiscovery → call.script meter ≠ [] →
      (∀ message ∈ call.script meter, message.Awaited) → call.Answerable fleet i meter :=
    fun hsweep hne hawaited =>
      Or.inr ⟨hsweep, hne, fun message hmessage => ⟨hawaited message hmessage, haccepts hsweep message hmessage⟩⟩
  rcases appMain_cases h with rfl | rfl | rfl | rfl | ⟨request, hsetting⟩
  · exact Or.inl ⟨present, 32, 40, 1, kMaxModbusAddress, rfl, le_rfl⟩
  · exact hasks id (List.cons_ne_nil _ _) (by simp [Call.script, Driver.asks, Message.Awaited])
  · exact hasks id (List.cons_ne_nil _ _) (by simp [Call.script, Driver.asks, Message.Awaited])
  · exact hasks id (List.cons_ne_nil _ _) (by simp [Call.script, Driver.asks, Message.Awaited])
  · obtain ⟨hscript, -, hsweep, hawaited⟩ := setting_spec hsetting
    refine hasks hsweep (by simp [hscript]) fun message hmessage => ?_
    rw [hscript] at hmessage
    exact List.mem_singleton.mp hmessage ▸ hawaited

/-- What the program stores is stored by one of its calls. -/
theorem exists_setting {a v : U16} (h : (a, v) ∈ configuration) :
    ∃ call ∈ walkthrough, ∃ request, call.script meter = [meter.asks request] ∧ request.sets a = some v := by
  have hall : (configuration.all fun e => settings.any fun p => p.2.sets e.1 = some e.2) = true := by decide
  obtain ⟨⟨call, request⟩, hsetting, hsets⟩ := List.any_eq_true.mp (List.all_eq_true.mp hall _ h)
  refine ⟨call, ?_, request, (setting_spec hsetting).1, of_decide_eq_true hsets⟩
  rw [walkthrough_eq]
  exact List.mem_append_left _ (List.mem_append_right _ (List.mem_map_of_mem (f := Prod.fst) hsetting))

/-- The arguments of the program are in range. -/
theorem defined_of_mem_appMain {passes : ℕ} {call : Call Binary32} (h : call ∈ appMain passes) :
    call.Defined := by
  simp only [appMain, walkthrough, List.mem_append, List.mem_cons, List.not_mem_nil, or_false,
    List.mem_replicate] at h
  rcases h with (rfl | rfl | rfl | rfl | rfl | rfl | rfl | rfl | rfl | rfl | rfl | rfl | rfl | rfl) | ⟨-, rfl⟩
  case inl.inl =>
    rintro _ ⟨⟩
    exact List.length_replicate.ge
  case inl.inr.inr.inr.inl => exact Or.inr (by decide +kernel)
  case inl.inr.inr.inr.inr.inr.inr.inr.inr.inl => exact ⟨by decide +kernel, by decide +kernel⟩
  all_goals exact trivial

/-- What the program asks of its address lies inside the registers. -/
theorem fits_of_mem_appMain {passes : ℕ} {call : Call Binary32} (h : call ∈ appMain passes)
    (hsweep : ¬ call.IsDiscovery) {message : Message} (hmessage : message ∈ call.script meter) :
    message.request.Fits := by
  rcases appMain_cases h with rfl | rfl | rfl | rfl | ⟨request, hsetting⟩
  · exact absurd trivial hsweep
  · exact (by decide : ∀ message ∈ Call.script meter (.readIdentity (F := Binary32)), message.request.Fits)
      message hmessage
  · exact List.mem_singleton.mp hmessage ▸ (by decide : (Request.read 4201 14).Fits)
  · exact List.mem_singleton.mp hmessage ▸ (by decide : (Request.read 2100 10).Fits)
  · have hfits : ∀ p ∈ settings, p.2.Fits := by decide
    rw [(setting_spec hsetting).1] at hmessage
    exact List.mem_singleton.mp hmessage ▸ hfits _ hsetting

/-! ## Runs of the comprehensive example -/

section Runs

variable {m n : ℕ} {fleet : Fleet n} {d : Fin m} {A : Set U16} {passes : ℕ}
  {inputs : List (FleetInput Binary32 m n)} {replies : List (Reply Binary32)} {sys sys' : FleetSystem m n}
  {P : FleetInput Binary32 m n → FleetSystem m n → Prop}

/-- The program in surroundings that respect the registers of `A`. -/
theorem hosts (hP : ∀ input s, P input s → input.Respects d A s) (haddr : 45 ∈ A)
    (hmeter : sys.drivers d = meter) (hprogram : FleetInput.program d inputs <+: appMain passes) :
    FleetInput.Hosts d configuration A inputs P sys where
  respects := hP
  within call hcall := hmeter ▸ within_of_mem_appMain (hprogram.subset hcall)
  unicast := hmeter ▸ by decide
  address := haddr
  unmoved := by decide

/-- **What the program leaves behind.** At every moment of the program, among anything that respects the registers
of `A` and under all faults of the line, a register of `A` in which an instrument differs from the start is one of the instrument
at address 1 and has the value of the configuration; and what a call of the program has stored and seen
acknowledged is there, whichever other calls have failed. -/
theorem settings_stand (fleet : Fleet n) (haddr : 45 ∈ A) (hsep : sys.Separate)
    (hmeter : sys.drivers d = meter) (hprogram : FleetInput.program d inputs <+: appMain passes)
    (hexec : Execution (fleet.Runs (FleetInput.Respects d A)) inputs sys replies sys') :
    sys'.drivers d = meter
    ∧ (∀ i, ∀ a ∈ A, sys'.stores i a ≠ sys.stores i a →
      sys.stores i 45 = 1 ∧ (a, sys'.stores i a) ∈ configuration)
    ∧ ∀ c reply, (FleetInput.call c, reply) ∈ inputs.zip replies → c.driver = d → reply.error = .none →
      ∀ message ∈ c.call.script meter, ∀ a ∈ A, ∀ v, message.request.sets a = some v →
      ∃ i, sys.stores i 45 = 1 ∧ sys'.stores i a = v := by
  have hhosts : FleetInput.Hosts d configuration A inputs (FleetInput.Respects d A) sys :=
    hosts (fun _ _ h => h) haddr hmeter hprogram
  have hprogrammed := hhosts.programmed hexec
  have hone : (sys.drivers d).address.setWidth 16 = (1 : U16) := by
    rw [hmeter]
    rfl
  refine ⟨hprogrammed.driver.trans hmeter, fun i a ha hne => ?_, ?_⟩
  · rw [← hone]
    exact (hprogrammed.registers i a ha).resolve_left hne
  · intro c reply hmem hd hok message hmessage a ha v hsets
    rw [← hone]
    exact hhosts.acknowledged hexec hsep (by decide) hmem hd hok (hmeter ▸ hmessage) ha hsets

/-- Undisturbed, the calls of the program succeed. -/
theorem succeeds {i : Fin n} (hhosts : FleetInput.Hosts d configuration A inputs (FleetInput.Undisturbed d i A) sys)
    (hsep : sys.Separate) (hmeter : sys.drivers d = meter) (hat : sys.stores i 45 = 1)
    (hprogram : FleetInput.program d inputs <+: appMain passes)
    (haccepts : ∀ call ∈ appMain passes, ¬ call.IsDiscovery → ∀ message ∈ call.script meter,
      fleet.accepts i message.request = true)
    (hexec : Execution (fleet.Runs (FleetInput.Undisturbed d i A)) inputs sys replies sys')
    {c : FleetCall Binary32 m n} {reply : Reply Binary32}
    (hmem : (FleetInput.call c, reply) ∈ inputs.zip replies) (hd : c.driver = d) : reply.error = .none := by
  refine hhosts.succeeds hexec hsep (i := i) ?_ (fun c s hP => hP.2 c rfl) (fun call hcall => ?_) hmem hd
  · rw [hat, hmeter]
    rfl
  · have happ := hprogram.subset hcall
    exact hmeter ▸ answerable_of_mem_appMain happ (haccepts call happ)

/-- Undisturbed, the walkthrough leaves the configuration. -/
theorem configures {i : Fin n} (haddr : 45 ∈ A) (hsep : sys.Separate) (hmeter : sys.drivers d = meter)
    (hat : sys.stores i 45 = 1)
    (hprogram : FleetInput.program d inputs <+: appMain passes)
    (hwalked : walkthrough <+: FleetInput.program d inputs)
    (haccepts : ∀ call ∈ appMain passes, ¬ call.IsDiscovery → ∀ message ∈ call.script meter,
      fleet.accepts i message.request = true)
    (hexec : Execution (fleet.Runs (FleetInput.Undisturbed d i A)) inputs sys replies sys') {a v : U16}
    (hin : (a, v) ∈ configuration) (ha : a ∈ A) : sys'.stores i a = v := by
  have hhosts : FleetInput.Hosts d configuration A inputs (FleetInput.Undisturbed d i A) sys :=
    hosts (fun _ _ h => h.1) haddr hmeter hprogram
  obtain ⟨call, hcall, request, hscript, hsets⟩ := exists_setting hin
  obtain ⟨input, hinput, hof⟩ := List.mem_filterMap.mp (hwalked.subset hcall)
  obtain ⟨c, rfl, hd, rfl⟩ := FleetInput.callOf_eq_some hof
  obtain ⟨reply, hmem⟩ := hexec.exists_mem_zip hinput
  have hok := succeeds hhosts hsep hmeter hat hprogram haccepts hexec hmem hd
  have hmessage : meter.asks request ∈ c.call.script (sys.drivers d) := by
    rw [hmeter, hscript]
    exact List.mem_singleton_self _
  obtain ⟨j, hj, hvalue⟩ := hhosts.acknowledged hexec hsep (by decide) hmem hd hok hmessage ha hsets
  have hsame : j = i := by
    refine hsep j i (hj.trans ?_)
    rw [hmeter, hat]
    rfl
  exact hsame ▸ hvalue

/-- A call that reads live data hands back a frame of live data. -/
theorem exists_instantaneous (hexec : Execution (fleet.Runs P) inputs sys replies sys')
    {c : FleetCall Binary32 m n} {reply : Reply Binary32}
    (hmem : (FleetInput.call c, reply) ∈ inputs.zip replies) {k : U8} (hcall : c.call = .readInstantaneous k) :
    ∃ rc, reply = .instantaneous rc := by
  refine hexec.forall_mem_zip (fun _ => True) (Q := fun input reply => ∀ c, input = .call c →
    c.call = .readInstantaneous k → ∃ rc, reply = .instantaneous rc)
    (fun input s reply s' _ hruns => ⟨?_, trivial⟩) trivial _ hmem c rfl hcall
  rintro c rfl hcall
  have hstep := hruns.1
  unfold Fleet.step at hstep
  obtain ⟨⟨r, t⟩, hrun, hrest⟩ := Option.bind_eq_some_iff.mp hstep
  rw [hcall, Call.exec, Call.pack] at hrun
  obtain ⟨⟨rc, u⟩, -, hpack⟩ := Option.map_eq_some_iff.mp hrun
  cases hpack
  cases hrest
  exact ⟨rc, rfl⟩

/-- The gas of a frame of live data is what register 2100 holds. -/
theorem gas_of_decodeInstantaneous {regs : Registers} {k : U8} {data : InstantaneousData Binary32}
    (h : Driver.decodeInstantaneous (some (regs.contents 2100 10)) k = some data) :
    data.gas = ⟨(regs 2100 &&& 0xFF).setWidth 8⟩ := by
  cases h
  rfl

/-- The loop of the program, from a state in which the instrument has the gas. -/
theorem loop_reads_gas {i : Fin n} (haddr : 45 ∈ A) (hgas : 2100 ∈ A) (hsep : sys.Separate)
    (hmeter : sys.drivers d = meter) (hat : sys.stores i 45 = 1) (hselected : sys.stores i 2100 = 3)
    (hP : ∀ input s, P input s → input.Respects d A s)
    (hloop : ∀ call ∈ FleetInput.program d inputs, call = .readInstantaneous 3)
    (hexec : Execution (fleet.Runs P) inputs sys replies sys') {c : FleetCall Binary32 m n}
    {reply : Reply Binary32} (hmem : (FleetInput.call c, reply) ∈ inputs.zip replies) (hd : c.driver = d)
    (hok : reply.error = .none) :
    ∃ data, reply = .instantaneous (.success data) ∧ data.gas = nitrogen := by
  have hcall : c.call = .readInstantaneous 3 :=
    hloop _ (List.mem_filterMap.mpr ⟨_, (List.of_mem_zip hmem).1, FleetInput.callOf_call hd⟩)
  have hhosts : FleetInput.Hosts d [] A inputs P sys := by
    refine ⟨hP, fun call hin => ?_, hmeter ▸ by decide, haddr, List.not_mem_nil⟩
    rw [hloop call hin, hmeter]
    exact Call.within_of_subset (fun _ => rfl) (List.nil_subset _)
  obtain ⟨j, regs, hj, htold, hregs⟩ := hhosts.told hexec hsep hmem hd hok (hcall ▸ id)
    (by rw [hcall]; exact List.cons_ne_nil _ _)
  have hsame : j = i := by
    refine hsep j i (hj.trans ?_)
    rw [hmeter, hat]
    rfl
  have hthree : regs 2100 = 3 := by
    rw [(hregs 2100 hgas).resolve_right List.not_mem_nil, hsame, hselected]
  obtain ⟨⟨data, error⟩, rfl⟩ := exists_instantaneous hexec hmem hcall
  obtain rfl : error = .none := hok
  rw [hcall] at htold
  refine ⟨data, rfl, ?_⟩
  rw [gas_of_decodeInstantaneous htold, hthree]
  decide

/-- **The configuration arrives.** Where nothing is lost, and among anything that respects the registers of `A`, an
instrument at address 1 that accepts the requests of the program answers every call of it; once the walkthrough is
over the registers of `A` hold the configuration, and every pass of the loop reads nitrogen if register 2100, the
gas, is in `A`. -/
theorem walkthrough_configures (fleet : Fleet n) {i : Fin n} (haddr : 45 ∈ A) (hsep : sys.Separate)
    (hmeter : sys.drivers d = meter) (hat : sys.stores i 45 = 1)
    (hprogram : FleetInput.program d inputs = appMain passes)
    (haccepts : ∀ call ∈ appMain passes, ¬ call.IsDiscovery → ∀ message ∈ call.script meter,
      fleet.accepts i message.request = true)
    (hexec : Execution (fleet.Runs (FleetInput.Undisturbed d i A)) inputs sys replies sys') :
    (∀ c reply, (FleetInput.call c, reply) ∈ inputs.zip replies → c.driver = d → reply.error = .none)
    ∧ (∀ a v, (a, v) ∈ configuration → a ∈ A → sys'.stores i a = v)
    ∧ (2100 ∈ A → ∀ c reply, (FleetInput.call c, reply) ∈ inputs.zip replies → c.driver = d →
      c.call = .readInstantaneous 3 → ∃ data, reply = .instantaneous (.success data) ∧ data.gas = nitrogen) := by
  have hall : FleetInput.program d inputs <+: appMain passes := hprogram ▸ List.prefix_rfl
  have hok : ∀ c reply, (FleetInput.call c, reply) ∈ inputs.zip replies → c.driver = d →
      reply.error = .none := fun c reply hmem hd =>
    succeeds (hosts (fun _ _ h => h.1) haddr hmeter hall) hsep hmeter hat hall haccepts hexec hmem hd
  refine ⟨hok, fun a v => configures haddr hsep hmeter hat hall (hprogram ▸ List.prefix_append _ _) haccepts
    hexec, ?_⟩
  intro hgas c reply hmem hd hcall
  have hnone := hok c reply hmem hd
  -- the loop begins where the walkthrough has ended
  obtain ⟨before, after, rfl, hbefore, hafter⟩ := List.filterMap_eq_append_iff.mp hprogram
  obtain ⟨s, replies₁, replies₂, hexec₁, hexec₂, rfl⟩ := hexec.exists_append
  have hwalked : FleetInput.program d before <+: appMain passes := by
    rw [FleetInput.program, hbefore]
    exact List.prefix_append _ _
  have hstart := (hosts (fun _ _ h => h.1) haddr hmeter hwalked).programmed hexec₁
  have hstay : ∀ j, s.stores j 45 = sys.stores j 45 := hstart.address haddr (by decide)
  rw [List.zip_append hexec₁.length_eq] at hmem
  rcases List.mem_append.mp hmem with hearly | hlate
  · have hin : c.call ∈ walkthrough := hbefore ▸
      List.mem_filterMap.mpr ⟨_, (List.of_mem_zip hearly).1, FleetInput.callOf_call hd⟩
    rw [hcall] at hin
    simp [walkthrough] at hin
  · refine loop_reads_gas haddr hgas (hsep.of_eq hstay) (hstart.driver.trans hmeter) ((hstay i).trans hat) ?_
      (fun _ _ h => h.1) (fun call hin => ?_) hexec₂ hlate hd hnone
    · exact configures haddr hsep hmeter hat hwalked (hbefore ▸ List.prefix_rfl) haccepts hexec₁ (by decide) hgas
    · rw [FleetInput.program, hafter] at hin
      exact List.eq_of_mem_replicate hin

end Runs

/-- Alone on a bus with two fresh instruments the program runs. -/
theorem exists_alone (fleet : Fleet 2) (passes : ℕ) :
    ∃ replies sys', Execution (fleet.Runs (FleetInput.Undisturbed 0 0 Set.univ))
      (FleetInput.alone 2 (0 : Fin 2) (appMain passes)) (.fresh ![1, 2]) replies sys' :=
  FleetInput.exists_execution_alone fleet (fun _ hcall => defined_of_mem_appMain hcall)
    (fun _ hcall => within_of_mem_appMain hcall) (by decide) (by decide) (by decide) (by decide)

/-- Two instruments that know no setpoint. -/
theorem settings_stand_meters :
    ∃ (replies : List (Reply Binary32)) (sys' : FleetSystem 2 2),
      Execution (Fleet.Runs ⟨fun _ request => request.Fits ∧ request.sets 516 = none ∧ request.sets 2053 = none,
          fun _ => 1⟩ (FleetInput.Respects 0 Set.univ))
        (FleetInput.alone 2 0 (appMain 2)) (.fresh ![1, 2]) replies sys'
      ∧ ∀ i a, sys'.stores i a ≠ (FleetSystem.fresh ![1, 2]).stores i a →
        (FleetSystem.fresh ![1, 2]).stores i 45 = 1 ∧ (a, sys'.stores i a) ∈ configuration := by
  obtain ⟨replies, sys', hexec⟩ := exists_alone
    ⟨fun _ request => request.Fits ∧ request.sets 516 = none ∧ request.sets 2053 = none, fun _ => 1⟩ 2
  have hrespects := FleetInput.respects_of_undisturbed hexec
  have hprogram : FleetInput.program (0 : Fin 2) (FleetInput.alone 2 0 (appMain 2)) <+: appMain 2 := by
    rw [FleetInput.program_alone]
  obtain ⟨-, hstores, -⟩ := settings_stand _ (d := (0 : Fin 2)) (A := Set.univ) trivial
    (FleetSystem.separate_fresh (by decide)) rfl hprogram hrespects
  exact ⟨replies, sys', hrespects, fun i a => hstores i a trivial⟩

/-- The first of two fresh instruments, to the second pass of the loop. -/
theorem walkthrough_configures_first :
    ∃ (replies : List (Reply Binary32)) (sys' : FleetSystem 2 2),
      Execution ((Fleet.standard 2).Runs (FleetInput.Undisturbed 0 0 Set.univ))
        (FleetInput.alone 2 0 (appMain 2)) (.fresh ![1, 2]) replies sys'
      ∧ sys'.stores 0 2100 = 3 ∧ sys'.stores 0 52 = 2500 ∧ sys'.stores 0 2054 = 2500 := by
  obtain ⟨replies, sys', hexec⟩ := exists_alone (Fleet.standard 2) 2
  have haccepts : ∀ call ∈ appMain 2, ¬ call.IsDiscovery → ∀ message ∈ call.script meter,
      (Fleet.standard 2).accepts 0 message.request = true :=
    fun call hcall hsweep message hmessage => decide_eq_true (fits_of_mem_appMain hcall hsweep hmessage)
  obtain ⟨-, hconfigured, -⟩ := walkthrough_configures (Fleet.standard 2) (d := (0 : Fin 2)) (i := 0)
    (A := Set.univ) trivial (FleetSystem.separate_fresh (by decide)) rfl (by decide) (FleetInput.program_alone 0 _) haccepts hexec
  exact ⟨replies, sys', hexec, hconfigured 2100 3 (by decide) trivial, hconfigured 52 2500 (by decide) trivial,
    hconfigured 2054 2500 (by decide) trivial⟩

end FullExample

/-! ## Runs of the minimal example -/

namespace MinimalExample

variable {m n : ℕ} {d : Fin m} {A : Set U16} {passes : ℕ}
  {inputs : List (FleetInput Binary32 m n)} {replies : List (Reply Binary32)} {sys sys' : FleetSystem m n}

/-- **The minimal example only looks.** At every moment of it, among anything that respects the registers of `A` and
under all faults of the line, the registers of `A` are as at the start, and what a call that succeeds hands back is told by the
instrument at address 1 with these registers. -/
theorem only_looks (fleet : Fleet n) (haddr : 45 ∈ A) (hsep : sys.Separate)
    (hmeter : sys.drivers d = meter) (hprogram : FleetInput.program d inputs <+: appMain passes)
    (hexec : Execution (fleet.Runs (FleetInput.Respects d A)) inputs sys replies sys') :
    sys'.drivers d = meter ∧ (∀ i, ∀ a ∈ A, sys'.stores i a = sys.stores i a)
    ∧ ∀ c reply, (FleetInput.call c, reply) ∈ inputs.zip replies → c.driver = d → reply.error = .none →
      ∃ i regs, sys.stores i 45 = 1 ∧ c.call.Told reply regs ∧ ∀ a ∈ A, regs a = sys.stores i a := by
  have hcalls : ∀ call ∈ FleetInput.program d inputs, call = .readIdentity ∨ call = .readInstantaneous 3 :=
    fun call hcall => (List.mem_cons.mp (hprogram.subset hcall)).imp_right List.eq_of_mem_replicate
  have hhosts : FleetInput.Hosts d [] A inputs (FleetInput.Respects d A) sys := by
    refine ⟨fun _ _ h => h, fun call hcall => ?_, hmeter ▸ by decide, haddr, List.not_mem_nil⟩
    rw [hmeter]
    rcases hcalls call hcall with rfl | rfl <;> exact Call.within_of_subset (fun _ => rfl) (List.nil_subset _)
  have hprogrammed := hhosts.programmed hexec
  refine ⟨hprogrammed.driver.trans hmeter, fun i a ha => ?_, fun c reply hmem hd hok => ?_⟩
  · exact (hprogrammed.registers i a ha).resolve_right fun h => List.not_mem_nil h.2
  · have hcall := hcalls c.call
      (List.mem_filterMap.mpr ⟨_, (List.of_mem_zip hmem).1, FleetInput.callOf_call hd⟩)
    have hasks : ¬ c.call.IsDiscovery ∧ c.call.script (sys.drivers d) ≠ [] := by
      rcases hcall with h | h <;> exact h ▸ ⟨id, List.cons_ne_nil _ _⟩
    obtain ⟨i, regs, hi, htold, hregs⟩ := hhosts.told hexec hsep hmem hd hok hasks.1 hasks.2
    rw [hmeter] at hi
    exact ⟨i, regs, hi, htold, fun a ha => (hregs a ha).resolve_right List.not_mem_nil⟩

/-- Three passes of the loop on a bus with two fresh instruments. -/
theorem only_looks_three :
    ∃ (replies : List (Reply Binary32)) (sys' : FleetSystem 2 2),
      Execution ((Fleet.standard 2).Runs (FleetInput.Respects 0 Set.univ))
        (FleetInput.alone 2 0 (appMain 3)) (.fresh ![1, 2]) replies sys'
      ∧ sys'.stores = (FleetSystem.fresh ![1, 2]).stores := by
  have hcalls : ∀ call ∈ appMain 3, call = .readIdentity ∨ call = .readInstantaneous 3 := fun call hcall =>
    (List.mem_cons.mp hcall).imp_right List.eq_of_mem_replicate
  have hdefined : ∀ call ∈ appMain 3, call.Defined := by
    intro call hcall
    rcases hcalls call hcall with rfl | rfl <;> exact trivial
  have hwithin : ∀ call ∈ appMain 3, call.Within meter [] := by
    intro call hcall
    rcases hcalls call hcall with rfl | rfl <;> exact Call.within_of_subset (fun _ => rfl) (List.nil_subset _)
  obtain ⟨replies, sys', hexec⟩ : ∃ replies sys', Execution
      ((Fleet.standard 2).Runs (FleetInput.Undisturbed 0 0 Set.univ))
      (FleetInput.alone 2 (0 : Fin 2) (appMain 3)) (.fresh ![1, 2]) replies sys' :=
    FleetInput.exists_execution_alone _ hdefined hwithin (by decide) (by decide) (by decide) (by decide)
  have hrespects := FleetInput.respects_of_undisturbed hexec
  have hprogram : FleetInput.program (0 : Fin 2) (FleetInput.alone 2 0 (appMain 3)) <+: appMain 3 := by
    rw [FleetInput.program_alone]
  obtain ⟨-, hstores, -⟩ := only_looks (Fleet.standard 2) (d := (0 : Fin 2)) (A := Set.univ) trivial
    (FleetSystem.separate_fresh (by decide)) rfl hprogram hrespects
  exact ⟨replies, sys', hrespects, funext fun i => funext fun a => hstores i a trivial⟩

end MinimalExample

end AlicatBasis2
