import AlicatBasis2.Model.Types

/-! # Holding-register map

The register addresses and function codes of `alicat_basis2_registers.hpp` that the driver uses, under
the names of the `reg` namespace. -/

namespace AlicatBasis2.Reg

/-! ## Configuration and function registers -/

def baudRate : U16 := 21
def firmwareVersion : U16 := 25
def serialNumberStart : U16 := 26
def serialNumberCount : U16 := 6
def tareCommand : U16 := 39
def modbusAddress : U16 := 45
def asciiUnitId : U16 := 46
def referenceTemperature : U16 := 52
def totalizerResetCommand : U16 := 53
def totalizerLimitMode : U16 := 54
def flowAveragingMs : U16 := 55
def factoryRestoreCommand : U16 := 80

/-! ## Control registers -/

def commWatchdogMs : U16 := 514
def autotareEnable : U16 := 515
def setpointSource : U16 := 516
def totalizerBatchVolume : U16 := 521
def maxSetpointRamp : U16 := 524

/-! ## Instantaneous data registers -/

def setpointCommand : U16 := 2053
def selectedGas : U16 := 2100

/-! ## Measurement registers -/

def measurementTriggerMode : U16 := 4200
def measurementSampleCount : U16 := 4201
def measurementMinTemp : U16 := 4202
def measurementMaxTemp : U16 := 4203
def measurementMinFlow : U16 := 4204
def measurementMaxFlow : U16 := 4205
def measurementAvgTemp : U16 := 4207
def measurementAvgFlow : U16 := 4208
def measurementPrevAvgTemp : U16 := 4213
def measurementPrevAvgFlowLow : U16 := 4214

/-! ## Function codes -/

namespace Fn

def readHolding : U8 := 0x03
def writeSingle : U8 := 0x06
def writeMultiple : U8 := 0x10
def exceptionMask : U8 := 0x80

end Fn

end AlicatBasis2.Reg
