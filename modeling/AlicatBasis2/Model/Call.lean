import AlicatBasis2.Model.Driver

/-! # Calls of the public operations

One constructor for each public member function of `Driver`, with its arguments, and what each hands back
to its caller. `Call.exec` runs a call in a session. -/

namespace AlicatBasis2

/-- A call of a public operation of the driver. -/
inductive Call (F : Type)
  | setTimeoutMs (ms : U16)
  | getTimeoutMs
  | setAddress (addr : U8)
  | getAddress
  | readInstantaneous (flowDecimals : U8)
  | readIdentity
  | setSetpoint (valueInUserUnits : F) (flowDecimals : U8)
  | setSetpointSource (src : SetpointSource)
  | setCommWatchdogMs (ms : U16)
  | setMaxSetpointRamp (pctPerMsX10e7 : U32)
  | tare
  | setAutotareEnabled (enabled : Bool)
  | setGas (g : Gas)
  | resetTotalizer
  | setTotalizerLimitMode (mode : TotalizerLimitMode)
  | setTotalizerBatch (valueScaled : U32)
  | setFlowAveragingMs (ms : U16)
  | setReferenceTemperatureC (c : F)
  | configureMeasurementTrigger (triggerBits : U16)
  | startMeasurementSamples (numSamples : U16)
  | readMeasurement
  | setModbusAddress (newAddress : U8)
  | setAsciiUnitId (id : U8)
  | setBaudRate (br : BaudRate)
  | factoryRestore
  | discoverPresentAddresses (presentBitmap : Option (List U8)) (bitmapBytes : ℕ)
      (probeTimeoutMs : U16) (firstAddr lastAddr : U8)
  | readHoldingRegisters (regAddr : U16) (out : Option (List U16)) (count : U8)
  | writeSingleRegister (regAddr value : U16)
  | writeMultipleRegisters (regAddr : U16) (regs : Option (List U16)) (count : U8)

/-- What a call hands back: its return value, and the caller's buffer where it takes one. -/
inductive Reply (F : Type)
  | unit
  | byte (b : U8)
  | word (w : U16)
  | command (rc : DriverResult Unit)
  | instantaneous (rc : DriverResult (InstantaneousData F))
  | identity (rc : DriverResult InstrumentIdentity)
  | measurement (rc : DriverResult (MeasurementData F))
  | discovery (rc : DriverResult U8) (presentBitmap : Option (List U8))
  | registers (rc : DriverError) (out : Option (List U16))

/-- The error code a call reports; the field accessors report none. -/
def Reply.error {F : Type} : Reply F → DriverError
  | .unit | .byte _ | .word _ => .none
  | .command rc => rc.error
  | .instantaneous rc => rc.error
  | .identity rc => rc.error
  | .measurement rc => rc.error
  | .discovery rc _ => rc.error
  | .registers rc _ => rc

namespace Call

variable {F σ : Type} [FloatArith F]

/-- The reply of an operation that returns one value, from the value. -/
def pack {α : Type} (reply : α → Reply F) (r : Option (α × Session σ)) :
    Option (Reply F × Session σ) :=
  r.map fun (a, s) => (reply a, s)

/-- The run of a call in a session. -/
def exec (uart : Uart σ) : Call F → Session σ → Option (Reply F × Session σ)
  | setTimeoutMs ms, s => some (.unit, Driver.setTimeoutMs ms s)
  | getTimeoutMs, s => some (.word (Driver.getTimeoutMs s), s)
  | setAddress addr, s => some (.unit, Driver.setAddress addr s)
  | getAddress, s => some (.byte (Driver.getAddress s), s)
  | readInstantaneous flowDecimals, s =>
      pack .instantaneous (Driver.readInstantaneous uart flowDecimals s)
  | readIdentity, s => pack .identity (Driver.readIdentity uart s)
  | setSetpoint value flowDecimals, s =>
      pack .command (Driver.setSetpoint uart value flowDecimals s)
  | setSetpointSource src, s => pack .command (Driver.setSetpointSource uart src s)
  | setCommWatchdogMs ms, s => pack .command (Driver.setCommWatchdogMs uart ms s)
  | setMaxSetpointRamp ramp, s => pack .command (Driver.setMaxSetpointRamp uart ramp s)
  | tare, s => pack .command (Driver.tare uart s)
  | setAutotareEnabled enabled, s => pack .command (Driver.setAutotareEnabled uart enabled s)
  | setGas g, s => pack .command (Driver.setGas uart g s)
  | resetTotalizer, s => pack .command (Driver.resetTotalizer uart s)
  | setTotalizerLimitMode mode, s => pack .command (Driver.setTotalizerLimitMode uart mode s)
  | setTotalizerBatch value, s => pack .command (Driver.setTotalizerBatch uart value s)
  | setFlowAveragingMs ms, s => pack .command (Driver.setFlowAveragingMs uart ms s)
  | setReferenceTemperatureC c, s => pack .command (Driver.setReferenceTemperatureC uart c s)
  | configureMeasurementTrigger bits, s =>
      pack .command (Driver.configureMeasurementTrigger uart bits s)
  | startMeasurementSamples n, s => pack .command (Driver.startMeasurementSamples uart n s)
  | readMeasurement, s => pack .measurement (Driver.readMeasurement uart s)
  | setModbusAddress addr, s => pack .command (Driver.setModbusAddress uart addr s)
  | setAsciiUnitId id, s => pack .command (Driver.setAsciiUnitId uart id s)
  | setBaudRate br, s => pack .command (Driver.setBaudRate uart br s)
  | factoryRestore, s => pack .command (Driver.factoryRestore uart s)
  | discoverPresentAddresses bitmap bytes timeoutMs first last, s =>
      pack (fun (rc, bitmap) => .discovery rc bitmap)
        (Driver.discoverPresentAddresses uart bitmap bytes timeoutMs first last s)
  | readHoldingRegisters regAddr out count, s =>
      pack (fun (rc, out) => .registers rc out)
        (Driver.readHoldingRegisters uart regAddr out count s)
  | writeSingleRegister regAddr value, s =>
      pack .command (Driver.writeSingleRegister uart regAddr value s)
  | writeMultipleRegisters regAddr regs count, s =>
      pack .command (Driver.writeMultipleRegisters uart regAddr regs count s)

end Call

end AlicatBasis2
