import AlicatBasis2.Operations.DriverState
import AlicatBasis2.Operations.Setpoint
import AlicatBasis2.Operations.SweepWindow
import AlicatBasis2.Transactions.Transcript

/-! # What the operations say on the wire

Each public operation has a script, the requests the register map documents for it. Whatever the UART
delivers, an operation sends a front part of its script, the whole of it when it succeeds, and nothing
else. -/

namespace AlicatBasis2

open Machine Modbus Session

/-! ## Scripts -/

namespace Driver

/-- The words of a 32-bit value, high word first. -/
def words32 (v : U32) : List U16 := [v.extractLsb' 16 16, v.extractLsb' 0 16]

/-- A message to the driver's own unit, with its timeout. -/
def asks (driver : Driver) (request : Request) : Message := ⟨driver.address, request, driver.timeoutMs⟩

end Driver

namespace Call

variable {F : Type} [FloatArith F]

/-- The messages of an operation in order, by the documented register map; none where the operation refuses
its arguments. -/
def script (driver : Driver) : Call F → List Message
  | setTimeoutMs _ | getTimeoutMs | setAddress _ | getAddress => []
  | readInstantaneous _ => [driver.asks (.read 2100 10)]
  | readIdentity =>
      [driver.asks (.read 25 1), driver.asks (.read 26 6), driver.asks (.read 45 5)]
  | setSetpoint value _ =>
      match (FloatArith.toInt32 (FloatArith.mul value (FloatArith.literal 1000)) : Option U32) with
      | some raw => [driver.asks (.writeMultiple 2053 (Driver.words32 raw))]
      | none => []
  | setSetpointSource src => [driver.asks (.writeSingle 516 (src.code.setWidth 16))]
  | setCommWatchdogMs ms => if ms ≤ 5000 then [driver.asks (.writeSingle 514 ms)] else []
  | setMaxSetpointRamp ramp => [driver.asks (.writeMultiple 524 (Driver.words32 ramp))]
  | tare => [driver.asks (.writeSingle 39 0xAA55)]
  | setAutotareEnabled enabled => [driver.asks (.writeSingle 515 (if enabled then 1 else 0))]
  | setGas g => [driver.asks (.writeSingle 2100 (g.code.setWidth 16))]
  | resetTotalizer => [driver.asks (.writeSingle 53 0xAA55)]
  | setTotalizerLimitMode mode => [driver.asks (.writeSingle 54 (mode.code.setWidth 16))]
  | setTotalizerBatch value => [driver.asks (.writeMultiple 521 (Driver.words32 value))]
  | setFlowAveragingMs ms => if ms ≤ 2500 then [driver.asks (.writeSingle 55 ms)] else []
  | setReferenceTemperatureC c =>
      if FloatArith.lt c (FloatArith.literal 0) || FloatArith.lt (FloatArith.literal 30) c then []
      else
        match (FloatArith.toUInt16 (FloatArith.mul c (FloatArith.literal 100)) : Option U16) with
        | some raw => [driver.asks (.writeSingle 52 raw)]
        | none => []
  | configureMeasurementTrigger bits => [driver.asks (.writeSingle 4200 bits)]
  | startMeasurementSamples n => [driver.asks (.writeSingle 4201 n)]
  | readMeasurement => [driver.asks (.read 4201 14)]
  | setModbusAddress addr =>
      if 1 ≤ addr ∧ addr ≤ 247 then [driver.asks (.writeSingle 45 (addr.setWidth 16))] else []
  | setAsciiUnitId id =>
      if 0x41 ≤ id ∧ id ≤ 0x5A then [driver.asks (.writeSingle 46 (id.setWidth 16))] else []
  | setBaudRate br => [driver.asks (.writeSingle 21 (br.code.setWidth 16))]
  | factoryRestore => [driver.asks (.writeSingle 80 0x5214)]
  | discoverPresentAddresses bitmap bytes probeTimeoutMs first last =>
      if bitmap.isSome ∧ 32 ≤ bytes then
        (Driver.window first last).map fun a => ⟨a, .read 25 1, probeTimeoutMs⟩
      else []
  | readHoldingRegisters regAddr out count =>
      if out.isSome ∧ 1 ≤ count ∧ count ≤ 125 then
        [driver.asks (.read regAddr (count.setWidth 16))]
      else []
  | writeSingleRegister regAddr value => [driver.asks (.writeSingle regAddr value)]
  | writeMultipleRegisters regAddr regs count =>
      match regs with
      | some regs =>
          if 1 ≤ count ∧ count ≤ 32 then
            [driver.asks (.writeMultiple regAddr (regs.take count.toNat))]
          else []
      | none => []

end Call

/-! ## The primitives -/

namespace Driver

variable {σ : Type} (uart : Uart σ)

/-- Results that carried a front part of `messages`, and all of them if they report success. -/
def Performs {α : Type} (error : α → DriverError) (messages : List Message) (s : Session σ)
    (r : Option (α × Session σ)) : Prop :=
  Ensures (fun a s' => ∃ carried, carried <+: messages ∧ (error a = .none → carried = messages)
    ∧ Carried carried s s') r

/-- A result with all messages carried. -/
theorem performs_some {α : Type} {error : α → DriverError} {messages : List Message}
    {s s' : Session σ} {a : α} (h : Carried messages s s') :
    Performs error messages s (some (a, s')) :=
  ensures_some ⟨messages, List.prefix_rfl, fun _ => rfl, h⟩

/-- A failure with a front part of the messages carried. -/
theorem performs_failed {α : Type} {error : α → DriverError} {messages carried : List Message}
    {s s' : Session σ} {a : α} (hfailed : error a ≠ .none) (hfront : carried <+: messages)
    (h : Carried carried s s') : Performs error messages s (some (a, s')) :=
  ensures_some ⟨carried, hfront, fun hnone => absurd hnone hfailed, h⟩

/-- A value computed without the UART comes first. -/
theorem performs_bind_value {α β : Type} {error : α → DriverError} {messages : List Message}
    {s : Session σ} {x : Option β} {f : β → Option (α × Session σ)}
    (h : ∀ b, x = some b → Performs error messages s (f b)) : Performs error messages s (x.bind f) :=
  ensures_bind_known h

/-- A raw operation within the receive buffer carries its request. -/
theorem carried_finished (op : RawOp) (hop : op.InRange) (s : Session σ)
    (hread : (s.driver.asks op.toRequest).Awaited) :
    Carried [s.driver.asks op.toRequest] s (op.finished uart s) := by
  refine carried_exchange uart s (RawOp.decode_request hop.transmits _) ?_ ?_ rfl hread
  · cases op with
    | read regAddr out count => exact (by decide : 8 ≤ 9 + 32 * 2)
    | writeSingle regAddr value => exact (by decide : 8 ≤ 9 + 32 * 2)
    | writeMultiple regAddr regs count =>
      obtain ⟨-, hle, hregs⟩ := hop
      rw [RawOp.request, length_writeMultipleRequest, List.length_take]
      omega
  · cases op with
    | read regAddr out count => exact congrArg (5 + 2 * ·) (toNat_widen count)
    | writeSingle regAddr value => rfl
    | writeMultiple regAddr regs count => rfl

/-- `WriteSingleRegister` carries its request. -/
theorem performs_writeSingleRegister (regAddr value : U16) (s : Session σ) :
    Performs DriverResult.error [s.driver.asks (.writeSingle regAddr value)] s
      (writeSingleRegister uart regAddr value s) := by
  have hdecode := decode_writeSingleRequest s.driver.address regAddr value
  by_cases haddr : s.driver.address = kBroadcastAddress
  · rw [writeSingleRegister_of_broadcast uart regAddr value haddr]
    exact performs_some (carried_send uart s hdecode (by decide : 8 ≤ 9 + 32 * 2) (not_not.mpr haddr))
  · rw [writeSingleRegister_eq uart regAddr value haddr rfl]
    exact performs_some
      (carried_finished uart (.writeSingle regAddr value) trivial s haddr)

/-- `WriteMultipleRegisters` of one to 32 registers carries its request. -/
theorem performs_writeMultipleRegisters (regAddr : U16) (regs : List U16) {count : U8}
    (hpos : 0 < count.toNat) (hle : count.toNat ≤ 32) (s : Session σ) :
    Performs DriverResult.error
      [s.driver.asks (.writeMultiple regAddr (regs.take count.toNat))] s
      (writeMultipleRegisters uart regAddr (some regs) count s) := by
  rcases Nat.lt_or_ge regs.length count.toNat with hshort | hregs
  · rw [writeMultipleRegisters_of_short uart regAddr hpos hle hshort]
    exact ensures_none
  · have hwords : (regs.take count.toNat).length = count.toNat := by
      rw [List.length_take, min_eq_left hregs]
    have hsize : (writeMultipleRequest s.driver.address regAddr count
        (regs.take count.toNat)).length ≤ 9 + 32 * 2 := by
      rw [length_writeMultipleRequest, hwords]
      omega
    by_cases haddr : s.driver.address = kBroadcastAddress
    · rw [writeMultipleRegisters_of_broadcast uart regAddr hpos hle hregs haddr]
      exact performs_some (carried_send uart s
        (decode_writeMultipleRequest _ regAddr (by omega) hwords) hsize (not_not.mpr haddr))
    · rw [writeMultipleRegisters_eq uart regAddr hpos hle hregs haddr rfl]
      exact performs_some
        (carried_finished uart (.writeMultiple regAddr regs count) ⟨hpos, hle, hregs⟩ s haddr)

/-- `ReadHoldingRegisters` of one to 125 registers carries its request, and reads no reply where the receive
buffer is too small for it. -/
theorem performs_readHoldingRegisters (regAddr : U16) (buf : List U16) {count : U8}
    (hpos : 0 < count.toNat) (hle : count.toNat ≤ 125) (s : Session σ) :
    Performs Prod.fst [s.driver.asks (.read regAddr (count.setWidth 16))] s
      (readHoldingRegisters uart regAddr (some buf) count s) := by
  have hdecode := decode_readRequest s.driver.address regAddr (count.setWidth 16)
  have hsize : (readRequest s.driver.address regAddr (count.setWidth 16)).length ≤ 9 + 32 * 2 := by
    rw [length_readRequest]
    decide
  refine ensures_readHoldingRegisters uart regAddr (fun hinvalid => ?_) (fun _ hgt _ => ?_) ?_
  · exact absurd hinvalid (not_invalid_iff.mpr ⟨buf, rfl, hpos, hle⟩)
  · have hunread : ¬ (s.driver.asks (.read regAddr (count.setWidth 16))).Awaited := by
      rintro (h : (count.setWidth 16).toNat ≤ 32)
      rw [toNat_widen] at h
      omega
    exact performs_some (carried_send uart s hdecode hsize hunread) _ _ rfl
  · intro b out' _ hsmall
    have hread : (s.driver.asks (.read regAddr (count.setWidth 16))).Awaited :=
      (toNat_widen count).le.trans hsmall
    exact performs_some (carried_exchange uart s hdecode hsize
      (congrArg (5 + 2 * ·) (toNat_widen count)) rfl hread) _ _ rfl

/-! ## The readers and the sweep -/

/-- A burst carries its request. -/
theorem carried_burst (regAddr : U16) {count : U8} (hpos : 0 < count.toNat) (hle : count.toNat ≤ 32)
    (s : Session σ) :
    Carried [s.driver.asks (.read regAddr (count.setWidth 16))] s
      ((burst regAddr count).finished uart s) :=
  carried_finished uart _ (burst_inRange regAddr hpos hle) s ((toNat_widen count).le.trans hle)

/-- A burst and its decoding carry the request of the burst. -/
theorem performs_readDecode {T : Type} [Inhabited T] (regAddr : U16) {count : U8}
    (hpos : 0 < count.toNat) (hle : count.toNat ≤ 32) (decode : Option (List U16) → Option T)
    (s : Session σ) :
    Performs DriverResult.error [s.driver.asks (.read regAddr (count.setWidth 16))] s
      (readDecode uart regAddr count decode s) := by
  rw [readDecode, readHoldingRegisters_burst uart hpos hle]
  have hcarried := carried_burst uart regAddr hpos hle s
  exact ensures_guard (fun _ => ⟨_, List.prefix_rfl, fun _ => rfl, hcarried⟩) fun _ =>
    performs_bind_value fun v _ => performs_some hcarried

/-- `ReadIdentity` carries its three requests in order, up to the first that fails. -/
theorem performs_readIdentity (s : Session σ) :
    Performs DriverResult.error [s.driver.asks (.read 25 1), s.driver.asks (.read 26 6),
      s.driver.asks (.read 45 5)] s (readIdentity uart s) := by
  have hversion : Carried [s.driver.asks (.read 25 1)] s (afterVersion uart s) :=
    carried_burst uart Reg.firmwareVersion (by decide) (by decide) s
  have hserial : Carried [s.driver.asks (.read 25 1), s.driver.asks (.read 26 6)] s
      (afterSerial uart s) :=
    hversion.trans (carried_burst uart Reg.serialNumberStart (by decide) (by decide) _)
  have htail : Carried [s.driver.asks (.read 25 1), s.driver.asks (.read 26 6),
      s.driver.asks (.read 45 5)] s (afterTail uart s) :=
    hserial.trans (carried_burst uart Reg.modbusAddress (by decide) (by decide) _)
  rw [readIdentity_eq]
  split_ifs with hv hs ht
  · exact performs_failed hv (List.prefix_append _ _) hversion
  · exact performs_failed hs (List.prefix_append _ _) hserial
  · exact performs_some htail
  · exact performs_some htail

/-- A sweep carries one probe for each address of its window. -/
theorem performs_discoverPresentAddresses {bitmap : List U8} {bytes : ℕ} (hbytes : 32 ≤ bytes)
    (probeTimeoutMs : U16) (first last : U8) (s : Session σ) :
    Performs (fun r : DriverResult U8 × Option (List U8) => r.1.error)
      ((window first last).map fun a => ⟨a, .read 25 1, probeTimeoutMs⟩) s
      (discoverPresentAddresses uart (some bitmap) bytes probeTimeoutMs first last s) := by
  rcases Nat.lt_or_ge bitmap.length bytes with hshort | hroom
  · have hvalid : ¬ ((some bitmap).isNone ∨ bytes < 32) := by
      rintro (h | h)
      · cases h
      · omega
    rw [discoverPresentAddresses, if_neg hvalid]
    simp only [Option.bind_eq_bind, Option.bind_some, memset, if_neg (not_le.mpr hshort),
      Option.bind_none]
    exact ensures_none
  · obtain ⟨heard, bitmap', s', hswept, hcall⟩ :=
      exists_swept uart hbytes hroom probeTimeoutMs first last s
    rw [hcall, ← hswept.window, List.map_map]
    refine performs_some ⟨heard.map fun p => ⟨readRequest p.1 Reg.firmwareVersion 1,
      some (7, probeTimeoutMs.setWidth 32, p.2)⟩, ?_, ?_⟩
    · rw [hswept.trace, List.flatMap_map]
      rfl
    · rw [List.forall₂_map_left_iff, List.forall₂_map_right_iff, List.forall₂_same]
      intro p hp
      refine ⟨decode_readRequest p.1 25 1, (by decide : 8 ≤ 9 + 32 * 2), fun _ => ?_, fun h => ?_⟩
      · exact ⟨p.2, rfl, hswept.length_le hp⟩
      · exact absurd (by decide : (1 : U16).toNat ≤ 32) h

end Driver

/-! ## Every operation follows its script -/

namespace Call

open Driver (Performs performs_some performs_failed performs_bind_value)

variable {F σ : Type} [FloatArith F]

/-- From `s` to `s'` a call with this reply carried a front part of its script, and all of it if it
succeeded. -/
def Scripted (call : Call F) (s : Session σ) (reply : Reply F) (s' : Session σ) : Prop :=
  ∃ carried, carried <+: call.script s.driver
    ∧ (reply.error = .none → carried = call.script s.driver) ∧ Carried carried s s'

/-- An operation that performs the script of a call, as that call. -/
theorem scripted_pack {α : Type} (error : α → DriverError) {call : Call F} {s : Session σ}
    {r : Option (α × Session σ)} (h : Performs error (call.script s.driver) s r) {reply : α → Reply F}
    (herror : ∀ a, (reply a).error = error a) : Ensures (call.Scripted s) (pack reply r) := by
  refine ensures_map (h.mono ?_)
  rintro a s' ⟨carried, hfront, hall, hcarried⟩
  exact ⟨carried, hfront, fun hnone => hall (herror a ▸ hnone), hcarried⟩

/-- A call that leaves the UART alone follows an empty script. -/
theorem scripted_here {call : Call F} {s s' : Session σ} {reply : Reply F}
    (hscript : call.script s.driver = []) (htrace : s'.trace = s.trace) :
    Ensures (call.Scripted s) (some (reply, s')) := by
  refine ensures_some ⟨[], List.nil_prefix, fun _ => hscript.symm, ?_⟩
  exact (Carried.refl s).of_trace rfl htrace

/-- A guard that refuses the arguments of a call with an empty script. -/
theorem performs_guard {α : Type} {error : α → DriverError} {messages : List Message} {s : Session σ}
    {c : Prop} [Decidable c] {a : α} {r : Option (α × Session σ)}
    (hrefused : error a ≠ .none) (hrest : ¬ c → Performs error messages s r) :
    Performs error messages s (if c then some (a, s) else r) := by
  by_cases hc : c
  · rw [if_pos hc]
    exact performs_failed hrefused List.nil_prefix (Carried.refl s)
  · rw [if_neg hc]
    exact hrest hc

/-- A setter with a limit: its script is empty beyond the limit. -/
theorem performs_limited (uart : Uart σ) (regAddr value : U16) (s : Session σ) {refused : Prop}
    [Decidable refused] {messages : List Message}
    (hmessages : ¬ refused → messages = [s.driver.asks (.writeSingle regAddr value)]) :
    Performs DriverResult.error messages s
      (if refused then some (.failure .invalidParameter, s)
        else Driver.writeSingleRegister uart regAddr value s) := by
  refine performs_guard DriverError.noConfusion fun h => ?_
  rw [hmessages h]
  exact Driver.performs_writeSingleRegister uart regAddr value s

/-- `SetModbusAddress` carries the write of a legal address. -/
theorem performs_setModbusAddress (uart : Uart σ) (addr : U8) (s : Session σ) :
    Performs DriverResult.error ((setModbusAddress (F := F) addr).script s.driver) s
      (Driver.setModbusAddress uart addr s) := by
  rw [Driver.setModbusAddress]
  refine performs_guard DriverError.noConfusion fun h => ?_
  obtain ⟨hpos, hle⟩ := not_or.mp h
  rw [script, if_pos ⟨BitVec.not_lt.mp hpos, BitVec.not_lt.mp hle⟩]
  -- the driver moves after the write, which is not on the wire
  refine ensures_bind (Driver.performs_writeSingleRegister uart _ _ s) ?_
  rintro rc t ⟨carried, hfront, hall, hcarried⟩
  exact ensures_guard (fun _ => ⟨carried, hfront, hall, hcarried⟩) fun _ =>
    ensures_some ⟨carried, hfront, hall, hcarried⟩

/-- **Every call follows its script.** -/
theorem scripted_exec (uart : Uart σ) (call : Call F) (s : Session σ) :
    Ensures (call.Scripted s) (call.exec uart s) := by
  cases call with
  | setTimeoutMs ms | setAddress addr => exact scripted_here rfl rfl
  | getTimeoutMs | getAddress => exact scripted_here rfl rfl
  | readInstantaneous flowDecimals =>
    refine scripted_pack DriverResult.error ?_ fun _ => rfl
    rw [readInstantaneous_eq_readDecode]
    exact Driver.performs_readDecode uart Reg.selectedGas (by decide) (by decide) _ s
  | readMeasurement =>
    refine scripted_pack DriverResult.error ?_ fun _ => rfl
    rw [readMeasurement_eq_readDecode]
    exact Driver.performs_readDecode uart Reg.measurementSampleCount (by decide) (by decide) _ s
  | readIdentity => exact scripted_pack _ (Driver.performs_readIdentity uart s) fun _ => rfl
  | setCommWatchdogMs ms | setFlowAveragingMs ms =>
    refine scripted_pack _ (performs_limited uart _ _ s fun h => ?_) fun _ => rfl
    exact if_pos (BitVec.not_lt.mp h)
  | setAsciiUnitId id =>
    refine scripted_pack _ (performs_limited uart _ _ s fun h => ?_) fun _ => rfl
    obtain ⟨hge, hle⟩ := not_or.mp h
    exact if_pos ⟨BitVec.not_lt.mp hge, BitVec.not_lt.mp hle⟩
  | setReferenceTemperatureC c =>
    refine scripted_pack DriverResult.error ?_ fun _ => rfl
    refine performs_guard DriverError.noConfusion fun h => ?_
    refine performs_bind_value fun raw hraw => ?_
    rw [script, if_neg h, hraw]
    exact Driver.performs_writeSingleRegister uart _ _ s
  | setSetpoint value flowDecimals =>
    refine scripted_pack DriverResult.error ?_ fun _ => rfl
    refine performs_bind_value fun _ _ => performs_bind_value fun raw hraw => ?_
    simp only [script, hraw, Driver.words32, ← Driver.splitWords_eq]
    exact Driver.performs_writeMultipleRegisters uart _ (Driver.splitWords raw) (by decide) (by decide) s
  | setMaxSetpointRamp value | setTotalizerBatch value =>
    refine scripted_pack DriverResult.error ?_ fun _ => rfl
    rw [script, Driver.words32, ← Driver.splitWords_eq]
    exact Driver.performs_writeMultipleRegisters uart _ (Driver.splitWords value) (by decide) (by decide) s
  | setModbusAddress addr => exact scripted_pack _ (performs_setModbusAddress uart addr s) fun _ => rfl
  | discoverPresentAddresses bitmap bytes timeoutMs first last =>
    rw [exec]
    refine scripted_pack (fun r => r.1.error) ?_ fun _ => rfl
    by_cases hvalid : bitmap.isNone ∨ bytes < 32
    · rw [Driver.discoverPresentAddresses, if_pos hvalid]
      exact performs_failed DriverError.noConfusion List.nil_prefix (Carried.refl s)
    · obtain ⟨hsome, hbytes⟩ := not_or.mp hvalid
      obtain ⟨buf, rfl⟩ : ∃ buf, bitmap = some buf := Option.ne_none_iff_exists'.mp fun h =>
        hsome (Option.isNone_iff_eq_none.mpr h)
      rw [script, if_pos ⟨rfl, Nat.not_lt.mp hbytes⟩]
      exact Driver.performs_discoverPresentAddresses uart (Nat.not_lt.mp hbytes) timeoutMs first last s
  | readHoldingRegisters regAddr out count =>
    rw [exec]
    refine scripted_pack Prod.fst ?_ fun _ => rfl
    by_cases hvalid : out.isNone ∨ count = 0 ∨ count > 125
    · rw [Driver.readHoldingRegisters_of_invalid uart regAddr hvalid]
      exact performs_failed DriverError.noConfusion List.nil_prefix (Carried.refl s)
    · obtain ⟨buf, rfl, hpos, hle⟩ := Driver.not_invalid_iff.mp hvalid
      rw [script, if_pos ⟨rfl, BitVec.le_def.mpr hpos, BitVec.le_def.mpr hle⟩]
      exact Driver.performs_readHoldingRegisters uart regAddr buf hpos hle s
  | writeMultipleRegisters regAddr regs count =>
    refine scripted_pack DriverResult.error ?_ fun _ => rfl
    by_cases hvalid : regs.isNone ∨ count = 0 ∨ count > 32
    · rw [Driver.writeMultipleRegisters_of_invalid uart regAddr hvalid]
      exact performs_failed DriverError.noConfusion List.nil_prefix (Carried.refl s)
    · obtain ⟨buf, rfl, hpos, hle⟩ := Driver.not_invalid_iff.mp hvalid
      simp only [script]
      rw [if_pos ⟨BitVec.le_def.mpr hpos, BitVec.le_def.mpr hle⟩]
      exact Driver.performs_writeMultipleRegisters uart regAddr buf hpos hle s
  | _ => exact scripted_pack _ (Driver.performs_writeSingleRegister uart _ _ s) fun _ => rfl

/-! ## Whole runs -/

/-- The driver's fields after a call. -/
def driverAfter (call : Call F) (reply : Reply F) (driver : Driver) : Driver :=
  ⟨call.addressAfter reply driver.address, call.timeoutAfter driver.timeoutMs⟩

/-- The scripts of the calls of a run in order, each with the error its call reported. -/
def scripts : Driver → List (Call F × Reply F) → List (DriverError × List Message)
  | _, [] => []
  | driver, (call, reply) :: rest =>
      (reply.error, call.script driver) :: scripts (call.driverAfter reply driver) rest

/-- What was carried of a script: a front part, and all of it where the call succeeded. -/
def FrontOf (carried : List Message) (p : DriverError × List Message) : Prop :=
  carried <+: p.2 ∧ (p.1 = .none → carried = p.2)

/-- A run carries the scripts of its calls one after the other. -/
theorem carried_run (uart : Uart σ) {calls : List (Call F)} {replies : List (Reply F)}
    {s s' : Session σ} (h : Machine.run (exec uart) calls s = some (replies, s')) :
    ∃ parts, List.Forall₂ FrontOf parts (scripts s.driver (calls.zip replies))
      ∧ Carried parts.flatten s s' := by
  induction calls generalizing s replies with
  | nil =>
    cases h
    exact ⟨[], .nil, Carried.refl _⟩
  | cons call calls ih =>
    obtain ⟨reply, t, replies, hstep, hrun, rfl⟩ := Machine.run_cons_eq_some_iff.mp h
    obtain ⟨carried, hfront, hall, hcarried⟩ := scripted_exec uart call s reply t hstep
    obtain ⟨parts, hparts, hrest⟩ := ih hrun
    -- the next script is that of the driver this call leaves
    have hframed := framed_exec uart call s reply t hstep
    have hdriver : t.driver = call.driverAfter reply s.driver := by
      rw [driverAfter, ← hframed.address, ← hframed.timeoutMs]
    rw [hdriver] at hparts
    exact ⟨carried :: parts, .cons ⟨hfront, hall⟩ hparts, hcarried.trans hrest⟩

end Call

/-- Front parts of scripts have no longer timeouts than the scripts. -/
theorem timeoutSum_flatten_le {parts : List (List Message)}
    {scripts : List (DriverError × List Message)} (h : List.Forall₂ Call.FrontOf parts scripts) :
    timeoutSum parts.flatten ≤ timeoutSum (scripts.flatMap Prod.snd) := by
  induction h with
  | nil => rfl
  | cons hfront _ ih =>
    obtain ⟨rest, hrest⟩ := hfront.1
    rw [List.flatten_cons, List.flatMap_cons, ← hrest]
    simp only [timeoutSum, List.map_append, List.sum_append] at ih ⊢
    omega

/-- **What a run says on the wire.** For every UART and every run of public operations from any session: the
UART carried a front part of the documented script of each call, in the order of the calls and with the
address and timeout in force at each, all of it where the call succeeded, one transaction for each request
and nothing else. A transaction is a flush, one frame, and one read of the standard reply, but for broadcast
writes and reads of more than 32 registers, whose reply is not read. The run has waited no longer than the
timeouts of the scripts. -/
theorem wire_transcript {F σ : Type} [FloatArith F] (uart : Uart σ) (calls : List (Call F))
    (s : Session σ) (replies : List (Reply F)) (s' : Session σ)
    (h : Machine.run (Call.exec uart) calls s = some (replies, s')) :
    ∃ parts, List.Forall₂ Call.FrontOf parts (Call.scripts s.driver (calls.zip replies))
      ∧ Session.Carried parts.flatten s s'
      ∧ s'.waitMs ≤ s.waitMs
        + timeoutSum ((Call.scripts s.driver (calls.zip replies)).flatMap Prod.snd) := by
  obtain ⟨parts, hparts, hcarried⟩ := Call.carried_run uart h
  refine ⟨parts, hparts, hcarried, hcarried.waitMs_le.trans ?_⟩
  exact Nat.add_le_add_left (timeoutSum_flatten_le hparts) _

/-- A change of timeout, a choice of gas and an identification, on a line that answers everything with the echo of
the second: the choice of gas is carried whole, and of the identification's three reads a front part; the run
waits at most four times 10 milliseconds. -/
theorem wire_transcript_gas :
    ∃ replies s' identification, Machine.run (Call.exec (Uart.constant (writeSingleRequest 1 2100 3)))
        [.setTimeoutMs 10, .setGas ⟨3⟩, (.readIdentity : Call ℚ)] (Driver.construct () 1 200) = some (replies, s')
      ∧ replies.map Reply.error = [.none, .none, .badCrc]
      ∧ Session.Carried (⟨1, .writeSingle 2100 3, 10⟩ :: identification) (Driver.construct () 1 200) s'
      ∧ identification <+: (Call.readIdentity : Call ℚ).script ⟨1, 10⟩ ∧ s'.waitMs ≤ 40 := by
  have hcalls : ∀ call ∈ [.setTimeoutMs 10, .setGas ⟨3⟩, (.readIdentity : Call ℚ)], call.Defined := by
    intro call hcall
    simp only [List.mem_cons, List.not_mem_nil, or_false] at hcall
    rcases hcall with rfl | rfl | rfl <;> exact True.intro
  obtain ⟨replies, s', hrun⟩ :=
    Call.exists_run (Uart.constant (writeSingleRequest 1 2100 3)) hcalls (Driver.construct () 1 200)
  have herrors : (Machine.run (Call.exec (Uart.constant (writeSingleRequest 1 2100 3)))
      [.setTimeoutMs 10, .setGas ⟨3⟩, (.readIdentity : Call ℚ)] (Driver.construct () 1 200)).map
        (fun r => r.1.map Reply.error) = some [.none, .none, .badCrc] := by decide +kernel
  rw [hrun] at herrors
  have herrors := Option.some.inj herrors
  obtain ⟨hlen, -, -⟩ := Call.run_fields (Uart.constant (writeSingleRequest 1 2100 3)) hrun
  obtain ⟨timeout, gas, identity, rfl⟩ := List.length_eq_three.mp hlen
  obtain ⟨parts, hparts, hcarried, hwait⟩ :=
    wire_transcript (Uart.constant (writeSingleRequest 1 2100 3)) _ _ _ _ hrun
  cases hparts with
  | cons htimeout hrest =>
    cases hrest with
    | cons hgas hrest =>
      cases hrest with
      | cons hidentity hrest =>
        cases hrest
        have hgasError : gas.error = .none := congrArg (fun errors => errors.getD 1 .timeout) herrors
        rw [List.flatten_cons, List.flatten_cons, List.flatten_cons, List.prefix_nil.mp htimeout.1,
          hgas.2 hgasError, List.flatten_nil, List.append_nil] at hcarried
        exact ⟨_, s', _, hrun, herrors, hcarried, hidentity.1, hwait⟩

end AlicatBasis2
