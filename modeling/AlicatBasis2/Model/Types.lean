import Mathlib.Data.Rat.Defs
import Mathlib.Algebra.Order.Ring.Unbundled.Rat

/-! # Types of the BASIS-2 driver

The result domain, the enumerations with a fixed byte representation, the decoded data frames and the
configuration constants of `alicat_basis2_types.hpp`. Machine integers are bit vectors of the width the
source declares; a signed integer is the bit vector of its two's complement and is read with
`BitVec.toInt` where its sign matters. -/

namespace AlicatBasis2

/-- `uint8_t`, also the `char` of the identity strings. -/
abbrev U8 := BitVec 8

/-- `uint16_t`, also the carrier of `int16_t`. -/
abbrev U16 := BitVec 16

/-- `uint32_t`, also the carrier of `int32_t`. -/
abbrev U32 := BitVec 32

/-! ## Driver results -/

/-- Driver-level error codes; `none` is the code of a completed operation. -/
inductive DriverError
  | none
  | notInitialized
  | invalidParameter
  | invalidAddress
  | bufferTooSmall
  | serialError
  | timeout
  | badCrc
  | invalidFrame
  | modbusException
  | unsupportedRequest
  | responseMismatch
  | asciiBadResponse
  deriving DecidableEq, Repr

/-- `DriverResult<T>`: a value beside an error code. `DriverResult<void>` is the instance at `Unit`. -/
structure DriverResult (T : Type) where
  /-- The payload; default-constructed when the operation failed. -/
  value : T
  /-- The error code. -/
  error : DriverError
  deriving DecidableEq, Repr

namespace DriverResult

variable {T : Type}

/-- `ok()`: the operation completed. -/
def ok (r : DriverResult T) : Bool := r.error == .none

/-- `success(v)`. -/
def success (v : T) : DriverResult T := ⟨v, .none⟩

/-- `failure(e)`: the value is `T{}`. -/
def failure [Inhabited T] (e : DriverError) : DriverResult T := ⟨default, e⟩

/-- A success has the code `None`. -/
@[simp] theorem success_error (v : T) : (success v).error = .none := rfl

/-- `success(v).value` is `v`. -/
@[simp] theorem success_value (v : T) : (success v).value = v := rfl

/-- `failure(e).error` is `e`. -/
@[simp] theorem failure_error [Inhabited T] (e : DriverError) :
    (failure e : DriverResult T).error = e := rfl

/-- `failure(e).value` is `T{}`. -/
@[simp] theorem failure_value [Inhabited T] (e : DriverError) :
    (failure e : DriverResult T).value = default := rfl

/-- `ok()` reads the error code alone. -/
@[simp] theorem ok_iff (r : DriverResult T) : r.ok = true ↔ r.error = .none := by
  simp [ok]

end DriverResult

/-! ## Enumerations

An `enum class E : uint8_t` holds every byte, named or not, so each is a wrapped byte with the named
values as constants. -/

/-- Index into the calibrated gas table. -/
structure Gas where
  /-- The byte the device uses on register 2100. -/
  code : U8
  deriving DecidableEq, Repr

/-- `Gas::Air`, the default of a decoded frame. -/
def Gas.air : Gas := ⟨0⟩

/-- Flow-unit identifier of register 49. -/
structure FlowUnits where
  /-- The byte of the datasheet table. -/
  code : U8
  deriving DecidableEq, Repr

/-- `FlowUnits::Unknown`, the default of an identity. -/
def FlowUnits.unknown : FlowUnits := ⟨0xFF⟩

/-- Baud-rate code of register 21. -/
structure BaudRate where
  /-- The byte the instrument expects. -/
  code : U8
  deriving DecidableEq, Repr

namespace BaudRate

/-- `BaudRate::Bps_4800`. -/
def bps4800 : BaudRate := ⟨0⟩

/-- `BaudRate::Bps_9600`. -/
def bps9600 : BaudRate := ⟨1⟩

/-- `BaudRate::Bps_19200`. -/
def bps19200 : BaudRate := ⟨2⟩

/-- `BaudRate::Bps_38400`, the factory default. -/
def bps38400 : BaudRate := ⟨3⟩

/-- `BaudRate::Bps_57600`. -/
def bps57600 : BaudRate := ⟨4⟩

/-- `BaudRate::Bps_115200`. -/
def bps115200 : BaudRate := ⟨5⟩

end BaudRate

/-- `BaudRateToBps(b)`: bits per second, those of the factory default for a code without a name. -/
def baudRateToBps (b : BaudRate) : U32 :=
  if b = .bps4800 then 4800
  else if b = .bps9600 then 9600
  else if b = .bps19200 then 19200
  else if b = .bps38400 then 38400
  else if b = .bps57600 then 57600
  else if b = .bps115200 then 115200
  else 38400

/-- Setpoint source of register 516. -/
structure SetpointSource where
  /-- The byte the instrument expects. -/
  code : U8
  deriving DecidableEq, Repr

/-- Totalizer overflow behaviour of register 54. -/
structure TotalizerLimitMode where
  /-- The byte the instrument expects. -/
  code : U8
  deriving DecidableEq, Repr

/-! ## Single-precision arithmetic

The driver multiplies, divides and compares `float`s and converts them to integers. Everything that does
not depend on the numbers holds for any arithmetic with these operations; the exact rational reading is
the instance at `ℚ`. -/

/-- The `float` operations the driver performs. -/
class FloatArith (F : Type) where
  /-- A literal of the source, given by its decimal value. -/
  literal : ℚ → F
  /-- `static_cast<float>` of an integer. -/
  ofInt : ℤ → F
  /-- `a * b`. -/
  mul : F → F → F
  /-- `a / b`. -/
  div : F → F → F
  /-- `a < b`. -/
  lt : F → F → Bool
  /-- `static_cast<int32_t>`; `none` when the truncated value is out of range, which is undefined. -/
  toInt32 : F → Option U32
  /-- `static_cast<uint16_t>`; `none` when the truncated value is out of range, which is undefined. -/
  toUInt16 : F → Option U16

/-- Truncation toward zero, as `static_cast` from a floating type to an integer type does it. -/
def truncate (x : ℚ) : ℤ := x.num.tdiv x.den

/-- Exact rational arithmetic. -/
instance : FloatArith ℚ where
  literal x := x
  ofInt n := n
  mul a b := a * b
  div a b := a / b
  lt a b := decide (a < b)
  toInt32 x :=
    if -2 ^ 31 ≤ truncate x ∧ truncate x < 2 ^ 31 then some (BitVec.ofInt 32 (truncate x)) else none
  toUInt16 x :=
    if 0 ≤ truncate x ∧ truncate x < 2 ^ 16 then some (BitVec.ofInt 16 (truncate x)) else none

/-! ## Decoded data frames -/

/-- Decoded snapshot of registers 2100..2109. -/
structure InstantaneousData (F : Type) where
  gas : Gas
  massFlowOverrange : Bool
  temperatureOverrange : Bool
  totalizerOverrange : Bool
  valveHeld : Bool
  valveThermalManagement : Bool
  temperatureC : F
  flow : F
  totalVolume : F
  setpoint : F
  valveDrivePct : F
  batchRemaining : F
  rawSetpoint2053To2054 : U32
  rawFlow2103 : U16
  rawTemp2102 : U16
  rawTotalVolume2104To2105 : U32
  rawBatchRemaining2108To2109 : U32
  deriving DecidableEq, Repr

instance {F : Type} [FloatArith F] : Inhabited (InstantaneousData F) where
  default :=
    { gas := .air
      massFlowOverrange := false
      temperatureOverrange := false
      totalizerOverrange := false
      valveHeld := false
      valveThermalManagement := false
      temperatureC := FloatArith.literal 0
      flow := FloatArith.literal 0
      totalVolume := FloatArith.literal 0
      setpoint := FloatArith.literal 0
      valveDrivePct := FloatArith.literal 0
      batchRemaining := FloatArith.literal 0
      rawSetpoint2053To2054 := 0
      rawFlow2103 := 0
      rawTemp2102 := 0
      rawTotalVolume2104To2105 := 0
      rawBatchRemaining2108To2109 := 0 }

/-- Decoded measurement-window result. -/
structure MeasurementData (F : Type) where
  numSamplesCollected : U16
  minTemperatureRaw : U16
  maxTemperatureRaw : U16
  minFlowRaw : U16
  maxFlowRaw : U16
  avgTemperatureRaw : U16
  avgFlowRaw : U16
  prevAvgFlowRaw : U32
  minTemperatureC : F
  maxTemperatureC : F
  avgTemperatureC : F
  avgFlow : F
  deriving DecidableEq, Repr

instance {F : Type} [FloatArith F] : Inhabited (MeasurementData F) where
  default :=
    { numSamplesCollected := 0
      minTemperatureRaw := 0
      maxTemperatureRaw := 0
      minFlowRaw := 0
      maxFlowRaw := 0
      avgTemperatureRaw := 0
      avgFlowRaw := 0
      prevAvgFlowRaw := 0
      minTemperatureC := FloatArith.literal 0
      maxTemperatureC := FloatArith.literal 0
      avgTemperatureC := FloatArith.literal 0
      avgFlow := FloatArith.literal 0 }

/-- Static identification of an instrument. -/
structure InstrumentIdentity where
  firmwareVersionRaw : U16
  fwMajor : U8
  fwMinor : U8
  fwPatch : U8
  /-- `char serial_number[13]`. -/
  serialNumber : List U8
  modbusAddress : U8
  asciiUnitId : U8
  flowUnits : FlowUnits
  fullScaleFlowRaw : U32
  deriving DecidableEq, Repr

instance : Inhabited InstrumentIdentity where
  default :=
    { firmwareVersionRaw := 0
      fwMajor := 0
      fwMinor := 0
      fwPatch := 0
      serialNumber := List.replicate 13 0
      modbusAddress := 0
      asciiUnitId := 0x41
      flowUnits := .unknown
      fullScaleFlowRaw := 0 }

/-! ## Configuration constants -/

/-- The address of unaddressed, response-less writes. -/
def kBroadcastAddress : U8 := 0

/-- The highest legal slave address. -/
def kMaxModbusAddress : U8 := 247

/-- Magic value of registers 39 and 53. -/
def kMagicTare : U16 := 0xAA55

/-- Magic value of register 80. -/
def kMagicFactoryRestore : U16 := 0x5214

/-- Response timeout of a driver constructed without one, in milliseconds. -/
def kDefaultTimeoutMs : U16 := 200

end AlicatBasis2
