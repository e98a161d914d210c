import AlicatBasis2.Model.Uart

/-! # The driver

`Driver<UartT>` of `alicat_basis2.hpp`, function by function. A member function takes the session it runs
in and returns its result with the session it leaves, or `none` where the source has undefined behaviour:
an access outside a buffer, or a `float` converted to an integer that cannot hold it. A caller's buffer is
passed in as it stands and returned as it stands on exit; a null pointer is `none`. -/

namespace AlicatBasis2.Driver

variable {σ : Type} (uart : Uart σ)

/-- `Driver(uart, address, timeout_ms)` on a UART in state `bus`. -/
def construct (bus : σ) (address : U8) (timeoutMs : U16) : Session σ := ⟨⟨address, timeoutMs⟩, bus, []⟩

/-- `Driver(uart, address)`, with the default timeout. -/
def constructDefault (bus : σ) (address : U8) : Session σ := construct bus address kDefaultTimeoutMs

/-- `p[i]` through a pointer, with null and the bound checked. -/
def deref {α : Type} (p : Option (List α)) (i : ℕ) : Option α := do
  let buf ← p
  buf[i]?

/-! ## Raw Modbus primitives -/

/-- `ReadHoldingRegisters(reg_addr, out, count)`: the error code and `out`. -/
def readHoldingRegisters (regAddr : U16) (out : Option (List U16)) (count : U8) (s : Session σ) :
    Option ((DriverError × Option (List U16)) × Session σ) := do
  if out.isNone ∨ count = 0 ∨ count > 125 then return ((.invalidParameter, out), s)
  let tx := List.replicate 8 0
  let (txLen, tx) ← Modbus.buildReadHolding s.driver.address regAddr (count.setWidth 16) tx
  if txLen = 0 then return ((.bufferTooSmall, out), s)
  let s := s.flushRx uart
  let s ← s.write uart tx txLen
  let need := 5 + 2 * count.toNat
  let rx := List.replicate (5 + 2 * 32) 0
  -- the size of the receive buffer is checked with the request already on the wire
  if need > rx.length then return ((.bufferTooSmall, out), s)
  let (got, rx, s) ← s.read uart rx need s.driver.timeoutMs
  if got = 0 then return ((.timeout, out), s)
  if got < 5 then return ((.invalidFrame, out), s)
  let regs ← out
  let (rc, regs) ← Modbus.parseReadHolding rx got s.driver.address count regs
  return ((rc, some regs), s)

/-- `WriteSingleRegister(reg_addr, value)`. -/
def writeSingleRegister (regAddr value : U16) (s : Session σ) :
    Option (DriverResult Unit × Session σ) := do
  let tx := List.replicate 8 0
  let (txLen, tx) ← Modbus.buildWriteSingle s.driver.address regAddr value tx
  if txLen = 0 then return (.failure .bufferTooSmall, s)
  let s := s.flushRx uart
  let s ← s.write uart tx txLen
  -- nobody answers a broadcast
  if s.driver.address = kBroadcastAddress then return (.success (), s)
  let rx := List.replicate 8 0
  let (got, rx, s) ← s.read uart rx 8 s.driver.timeoutMs
  if got = 0 then return (.failure .timeout, s)
  let rc ← Modbus.parseWriteSingleEcho rx got tx txLen
  return (⟨(), rc⟩, s)

/-- `WriteMultipleRegisters(reg_addr, regs, count)`. -/
def writeMultipleRegisters (regAddr : U16) (regs : Option (List U16)) (count : U8) (s : Session σ) :
    Option (DriverResult Unit × Session σ) := do
  if regs.isNone ∨ count = 0 ∨ count > 32 then return (.failure .invalidParameter, s)
  let regs ← regs
  let tx := List.replicate (9 + 32 * 2) 0
  let (txLen, tx) ← Modbus.buildWriteMultiple s.driver.address regAddr regs count tx
  if txLen = 0 then return (.failure .bufferTooSmall, s)
  let s := s.flushRx uart
  let s ← s.write uart tx txLen
  if s.driver.address = kBroadcastAddress then return (.success (), s)
  let rx := List.replicate 8 0
  let (got, rx, s) ← s.read uart rx 8 s.driver.timeoutMs
  if got = 0 then return (.failure .timeout, s)
  let rc ← Modbus.parseWriteMultipleEcho rx got s.driver.address regAddr (count.setWidth 16)
  return (⟨(), rc⟩, s)

/-! ## Driver fields -/

/-- `SetTimeoutMs(ms)`. -/
def setTimeoutMs (ms : U16) (s : Session σ) : Session σ := s.setTimeoutMs ms

/-- `GetTimeoutMs()`. -/
def getTimeoutMs (s : Session σ) : U16 := s.driver.timeoutMs

/-- `SetAddress(addr)`. -/
def setAddress (addr : U8) (s : Session σ) : Session σ := s.setAddress addr

/-- `GetAddress()`. -/
def getAddress (s : Session σ) : U8 := s.driver.address

/-! ## Scaling -/

section Scaling

variable {F : Type} [FloatArith F]

/-- `Pow10(n)`. -/
def pow10 (n : ℕ) : F :=
  (List.range n).foldl (fun v _ => FloatArith.mul v (FloatArith.literal 10)) (FloatArith.literal 1)

/-- `ScaleFlow(raw, decimals)`. -/
def scaleFlow (raw : U32) (decimals : U8) : F :=
  FloatArith.div (FloatArith.ofInt raw.toInt) (pow10 decimals.toNat)

/-- `static_cast<float>(static_cast<int16_t>(raw)) * 0.01f`. -/
def hundredths (raw : U16) : F :=
  FloatArith.mul (FloatArith.ofInt raw.toInt) (FloatArith.literal (1 / 100))

end Scaling

/-- `(static_cast<uint32_t>(high) << 16) | low`. -/
def joinWords (high low : U16) : U32 := (high.setWidth 32 <<< 16) ||| low.setWidth 32

/-! ## Instantaneous data -/

/-- The decoding of the ten registers read by `ReadInstantaneous`. -/
def decodeInstantaneous {F : Type} [FloatArith F] (regs : Option (List U16)) (flowDecimals : U8) :
    Option (InstantaneousData F) := do
  let gas ← deref regs 0
  let status ← deref regs 1
  let rawTemp ← deref regs 2
  let rawFlow ← deref regs 3
  let rawTotalVolume := joinWords (← deref regs 4) (← deref regs 5)
  let rawSetpoint := (← deref regs 6).signExtend 32
  let valveDrive ← deref regs 7
  let rawBatchRemaining := joinWords (← deref regs 8) (← deref regs 9)
  return {
    gas := ⟨(gas &&& 0xFF).setWidth 8⟩
    massFlowOverrange := status &&& 0x0001 ≠ 0
    temperatureOverrange := status &&& 0x0002 ≠ 0
    totalizerOverrange := status &&& 0x0004 ≠ 0
    valveHeld := status &&& 0x0008 ≠ 0
    valveThermalManagement := status &&& 0x0010 ≠ 0
    rawTemp2102 := rawTemp
    temperatureC := hundredths rawTemp
    rawFlow2103 := rawFlow
    flow := scaleFlow (rawFlow.signExtend 32) flowDecimals
    rawTotalVolume2104To2105 := rawTotalVolume
    totalVolume := scaleFlow rawTotalVolume flowDecimals
    rawSetpoint2053To2054 := rawSetpoint
    setpoint := scaleFlow rawSetpoint flowDecimals
    valveDrivePct := hundredths valveDrive
    rawBatchRemaining2108To2109 := rawBatchRemaining
    batchRemaining := scaleFlow rawBatchRemaining flowDecimals }

/-- `ReadInstantaneous(flow_decimals)`. -/
def readInstantaneous {F : Type} [FloatArith F] (flowDecimals : U8) (s : Session σ) :
    Option (DriverResult (InstantaneousData F) × Session σ) := do
  let ((rc, regs), s) ←
    readHoldingRegisters uart Reg.selectedGas (some (List.replicate 10 0)) 10 s
  if rc ≠ .none then return (.failure rc, s)
  let out ← decodeInstantaneous regs flowDecimals
  return (.success out, s)

/-! ## Instrument identity -/

/-- One pass of the serial-number loop of `ReadIdentity`. -/
def putSerial (sn : Option (List U16)) (serialNumber : List U8) (i : ℕ) : Option (List U8) := do
  let word ← deref sn i
  let serialNumber ← store serialNumber (i * 2) (highByte word)
  store serialNumber (i * 2 + 1) (lowByte word)

/-- `ReadIdentity()`. -/
def readIdentity (s : Session σ) : Option (DriverResult InstrumentIdentity × Session σ) := do
  let id : InstrumentIdentity := default
  -- firmware version
  let ((rc, fw), s) ← readHoldingRegisters uart Reg.firmwareVersion (some (List.replicate 1 0)) 1 s
  if rc ≠ .none then return (.failure rc, s)
  let fw0 ← deref fw 0
  let id := { id with
    firmwareVersionRaw := fw0
    fwMajor := ((fw0 >>> 8) &&& 0xFF).setWidth 8
    fwMinor := ((fw0 >>> 4) &&& 0x0F).setWidth 8
    fwPatch := (fw0 &&& 0x0F).setWidth 8 }
  -- serial number
  let ((rc, sn), s) ← readHoldingRegisters uart Reg.serialNumberStart
    (some (List.replicate Reg.serialNumberCount.toNat 0)) (Reg.serialNumberCount.setWidth 8) s
  if rc ≠ .none then return (.failure rc, s)
  let serialNumber ←
    (List.range Reg.serialNumberCount.toNat).foldlM (putSerial sn) id.serialNumber
  let serialNumber ← store serialNumber 12 0
  let id := { id with serialNumber }
  -- address, unit id, full scale and flow units
  let ((rc, tail), s) ← readHoldingRegisters uart Reg.modbusAddress (some (List.replicate 5 0)) 5 s
  if rc ≠ .none then return (.failure rc, s)
  let tail0 ← deref tail 0
  let tail1 ← deref tail 1
  let tail2 ← deref tail 2
  let tail3 ← deref tail 3
  let tail4 ← deref tail 4
  let id := { id with
    modbusAddress := (tail0 &&& 0xFF).setWidth 8
    asciiUnitId := (tail1 &&& 0xFF).setWidth 8
    fullScaleFlowRaw := joinWords tail2 tail3
    flowUnits := ⟨(tail4 &&& 0xFF).setWidth 8⟩ }
  return (.success id, s)

/-! ## Setpoint, watchdog and ramp -/

/-- The two words of a 32-bit value, high word first, as the setters split it. -/
def splitWords (v : U32) : List U16 :=
  [((v >>> 16) &&& 0xFFFF).setWidth 16, (v &&& 0xFFFF).setWidth 16]

/-- `SetSetpoint(value_in_user_units, flow_decimals)`. Both conversions to `int32_t` are evaluated, the
unused one first. The arithmetic shift of `raw` and the logical one agree below bit 16. -/
def setSetpoint {F : Type} [FloatArith F] (valueInUserUnits : F) (flowDecimals : U8)
    (s : Session σ) : Option (DriverResult Unit × Session σ) := do
  let _scaled ← FloatArith.toInt32
    (FloatArith.mul valueInUserUnits (pow10 (flowDecimals.toNat + 0)))
  let raw ← FloatArith.toInt32 (FloatArith.mul valueInUserUnits (FloatArith.literal 1000))
  writeMultipleRegisters uart Reg.setpointCommand (some (splitWords raw)) 2 s

/-- `SetSetpointSource(src)`. -/
def setSetpointSource (src : SetpointSource) (s : Session σ) :
    Option (DriverResult Unit × Session σ) :=
  writeSingleRegister uart Reg.setpointSource (src.code.setWidth 16) s

/-- `SetCommWatchdogMs(ms)`. -/
def setCommWatchdogMs (ms : U16) (s : Session σ) : Option (DriverResult Unit × Session σ) := do
  if ms > 5000 then return (.failure .invalidParameter, s)
  writeSingleRegister uart Reg.commWatchdogMs ms s

/-- `SetMaxSetpointRamp(pct_per_ms_x_10e7)`. -/
def setMaxSetpointRamp (pctPerMsX10e7 : U32) (s : Session σ) :
    Option (DriverResult Unit × Session σ) :=
  writeMultipleRegisters uart Reg.maxSetpointRamp (some (splitWords pctPerMsX10e7)) 2 s

/-! ## Taring, gas and totalizer -/

/-- `Tare()`. -/
def tare (s : Session σ) : Option (DriverResult Unit × Session σ) :=
  writeSingleRegister uart Reg.tareCommand kMagicTare s

/-- `SetAutotareEnabled(enabled)`. -/
def setAutotareEnabled (enabled : Bool) (s : Session σ) : Option (DriverResult Unit × Session σ) :=
  writeSingleRegister uart Reg.autotareEnable (if enabled then 1 else 0) s

/-- `SetGas(g)`. -/
def setGas (g : Gas) (s : Session σ) : Option (DriverResult Unit × Session σ) :=
  writeSingleRegister uart Reg.selectedGas (g.code.setWidth 16) s

/-- `ResetTotalizer()`. -/
def resetTotalizer (s : Session σ) : Option (DriverResult Unit × Session σ) :=
  writeSingleRegister uart Reg.totalizerResetCommand kMagicTare s

/-- `SetTotalizerLimitMode(mode)`. -/
def setTotalizerLimitMode (mode : TotalizerLimitMode) (s : Session σ) :
    Option (DriverResult Unit × Session σ) :=
  writeSingleRegister uart Reg.totalizerLimitMode (mode.code.setWidth 16) s

/-- `SetTotalizerBatch(value_scaled)`. -/
def setTotalizerBatch (valueScaled : U32) (s : Session σ) :
    Option (DriverResult Unit × Session σ) :=
  writeMultipleRegisters uart Reg.totalizerBatchVolume (some (splitWords valueScaled)) 2 s

/-! ## Flow processing -/

/-- `SetFlowAveragingMs(ms)`. -/
def setFlowAveragingMs (ms : U16) (s : Session σ) : Option (DriverResult Unit × Session σ) := do
  if ms > 2500 then return (.failure .invalidParameter, s)
  writeSingleRegister uart Reg.flowAveragingMs ms s

/-- `SetReferenceTemperatureC(c)`. -/
def setReferenceTemperatureC {F : Type} [FloatArith F] (c : F) (s : Session σ) :
    Option (DriverResult Unit × Session σ) := do
  if FloatArith.lt c (FloatArith.literal 0) || FloatArith.lt (FloatArith.literal 30) c then
    return (.failure .invalidParameter, s)
  let raw ← FloatArith.toUInt16 (FloatArith.mul c (FloatArith.literal 100))
  writeSingleRegister uart Reg.referenceTemperature raw s

/-! ## Measurement window -/

/-- `ConfigureMeasurementTrigger(trigger_bits)`. -/
def configureMeasurementTrigger (triggerBits : U16) (s : Session σ) :
    Option (DriverResult Unit × Session σ) :=
  writeSingleRegister uart Reg.measurementTriggerMode triggerBits s

/-- `StartMeasurementSamples(num_samples)`. -/
def startMeasurementSamples (numSamples : U16) (s : Session σ) :
    Option (DriverResult Unit × Session σ) :=
  writeSingleRegister uart Reg.measurementSampleCount numSamples s

/-- The decoding of the fourteen registers read by `ReadMeasurement`. -/
def decodeMeasurement {F : Type} [FloatArith F] (regs : Option (List U16)) :
    Option (MeasurementData F) := do
  let minTemperature ← deref regs 1
  let maxTemperature ← deref regs 2
  let avgTemperature ← deref regs 6
  return {
    numSamplesCollected := ← deref regs 0
    minTemperatureRaw := minTemperature
    maxTemperatureRaw := maxTemperature
    minFlowRaw := ← deref regs 3
    maxFlowRaw := ← deref regs 4
    avgTemperatureRaw := avgTemperature
    avgFlowRaw := ← deref regs 7
    prevAvgFlowRaw := ((← deref regs 12).signExtend 32 <<< 16) ||| (← deref regs 13).setWidth 32
    minTemperatureC := hundredths minTemperature
    maxTemperatureC := hundredths maxTemperature
    avgTemperatureC := hundredths avgTemperature
    avgFlow := FloatArith.literal 0 }

/-- `ReadMeasurement()`. -/
def readMeasurement {F : Type} [FloatArith F] (s : Session σ) :
    Option (DriverResult (MeasurementData F) × Session σ) := do
  let ((rc, regs), s) ←
    readHoldingRegisters uart Reg.measurementSampleCount (some (List.replicate 14 0)) 14 s
  if rc ≠ .none then return (.failure rc, s)
  let out ← decodeMeasurement regs
  return (.success out, s)

/-! ## Bus and identity reconfiguration -/

/-- `SetModbusAddress(new_address)`. -/
def setModbusAddress (newAddress : U8) (s : Session σ) :
    Option (DriverResult Unit × Session σ) := do
  if newAddress < 1 ∨ newAddress > kMaxModbusAddress then return (.failure .invalidAddress, s)
  let (rc, s) ← writeSingleRegister uart Reg.modbusAddress (newAddress.setWidth 16) s
  if rc.ok then return (rc, s.setAddress newAddress)
  return (rc, s)

/-- `SetAsciiUnitId(id)`. A `char` outside `'A'..'Z'` is refused whether `char` is signed or not. -/
def setAsciiUnitId (id : U8) (s : Session σ) : Option (DriverResult Unit × Session σ) := do
  if id < 0x41 ∨ id > 0x5A then return (.failure .invalidParameter, s)
  writeSingleRegister uart Reg.asciiUnitId (id.setWidth 16) s

/-- `SetBaudRate(br)`. -/
def setBaudRate (br : BaudRate) (s : Session σ) : Option (DriverResult Unit × Session σ) :=
  writeSingleRegister uart Reg.baudRate (br.code.setWidth 16) s

/-- `FactoryRestore()`. -/
def factoryRestore (s : Session σ) : Option (DriverResult Unit × Session σ) :=
  writeSingleRegister uart Reg.factoryRestoreCommand kMagicFactoryRestore s

/-! ## Bus discovery -/

/-- `memset(buf, value, bytes)`. -/
def memset (buf : List U8) (value : U8) (bytes : ℕ) : Option (List U8) :=
  if bytes ≤ buf.length then some (List.replicate bytes value ++ buf.drop bytes) else none

/-- `bitmap[a / 8] |= static_cast<uint8_t>(1U << (a % 8))`. -/
def markPresent (bitmap : List U8) (a : U16) : Option (List U8) := do
  let byte ← bitmap[a.toNat / 8]?
  store bitmap (a.toNat / 8) (byte ||| ((1 : U32) <<< (a.toNat % 8)).setWidth 8)

/-- The body of the sweep loop of `DiscoverPresentAddresses`: the probe of address `a`. -/
def probe (a : U16) (found : U8) (bitmap : List U8) (s : Session σ) :
    Option ((U8 × List U8) × Session σ) := do
  let s := s.setAddress (a.setWidth 8)
  let ((rc, _), s) ← readHoldingRegisters uart Reg.firmwareVersion (some (List.replicate 1 0)) 1 s
  if rc = .none then
    let bitmap ← markPresent bitmap a
    return ((found + 1, bitmap), s)
  return ((found, bitmap), s)

/-- The sweep counter compares as a number with the last address. -/
theorem counter_le_iff (a : U16) (lastAddr : U8) :
    a ≤ lastAddr.setWidth 16 ↔ a.toNat ≤ lastAddr.toNat := by
  rw [BitVec.le_def, toNat_widen]

/-- The sweep counter does not wrap inside the sweep. -/
theorem toNat_counter_succ {a : U16} {lastAddr : U8} (h : a.toNat ≤ lastAddr.toNat) :
    (a + 1).toNat = a.toNat + 1 := by
  have hlast : lastAddr.toNat < 256 := lastAddr.isLt
  have hone : (1 : U16).toNat = 1 := rfl
  rw [BitVec.toNat_add, hone, Nat.mod_eq_of_lt (by omega)]

/-- The sweep loop of `DiscoverPresentAddresses` from `a` on. The counter is wider than the last address,
so the loop ends. -/
def sweep (lastAddr : U8) (a : U16) (found : U8) (bitmap : List U8) (s : Session σ) :
    Option ((U8 × List U8) × Session σ) :=
  if a ≤ lastAddr.setWidth 16 then do
    let ((found, bitmap), s) ← probe uart a found bitmap s
    sweep lastAddr (a + 1) found bitmap s
  else
    some ((found, bitmap), s)
termination_by 256 - a.toNat
decreasing_by
  rename_i h
  have hle : a.toNat ≤ lastAddr.toNat := (counter_le_iff a lastAddr).mp h
  have hnext : (a + 1).toNat = a.toNat + 1 := toNat_counter_succ hle
  omega

/-- `DiscoverPresentAddresses(present_bitmap, bitmap_bytes, probe_timeout_ms, first_addr, last_addr)`:
the result and the bitmap. -/
def discoverPresentAddresses (presentBitmap : Option (List U8)) (bitmapBytes : ℕ)
    (probeTimeoutMs : U16) (firstAddr lastAddr : U8) (s : Session σ) :
    Option ((DriverResult U8 × Option (List U8)) × Session σ) := do
  if presentBitmap.isNone ∨ bitmapBytes < 32 then
    return ((.failure .bufferTooSmall, presentBitmap), s)
  let bitmap ← presentBitmap
  let bitmap ← memset bitmap 0 bitmapBytes
  let savedAddr := s.driver.address
  let savedTimeout := s.driver.timeoutMs
  let s := s.setTimeoutMs probeTimeoutMs
  let ((found, bitmap), s) ← sweep uart lastAddr (firstAddr.setWidth 16) 0 bitmap s
  let s := s.setAddress savedAddr
  let s := s.setTimeoutMs savedTimeout
  return ((.success found, some bitmap), s)

end AlicatBasis2.Driver
