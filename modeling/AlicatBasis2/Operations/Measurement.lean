import AlicatBasis2.Operations.Burst
import AlicatBasis2.Operations.Scaling
import AlicatBasis2.Transactions.Acceptance

/-! # The decoding of `ReadMeasurement` and the register map

`ReadMeasurement` reads fourteen registers from 4201 on and decodes them by offset. All its quantities come
from the registers that the map assigns to them, but for the previous average flow: the map puts it into the
pair that starts at 4214, the burst ends at 4214, and the decoder joins 4213 and 4214, the previous average
temperature and half of the flow. -/

namespace AlicatBasis2

open Modbus Driver

/-- The 32-bit value of the pair of registers that starts at `regAddr`, high word first. -/
def Registers.pair (regs : Registers) (regAddr : U16) : U32 :=
  joinWords (regs regAddr) (regs (regAddr + 1))

/-- Two slaves whose registers agree where the map puts a quantity give the same value of it. -/
structure MeasurementData.RespectsMap {F : Type} (f g : Registers) (a b : MeasurementData F) :
    Prop where
  minTemperature : f Reg.measurementMinTemp = g Reg.measurementMinTemp →
    a.minTemperatureRaw = b.minTemperatureRaw ∧ a.minTemperatureC = b.minTemperatureC
  maxTemperature : f Reg.measurementMaxTemp = g Reg.measurementMaxTemp →
    a.maxTemperatureRaw = b.maxTemperatureRaw ∧ a.maxTemperatureC = b.maxTemperatureC
  minFlow : f Reg.measurementMinFlow = g Reg.measurementMinFlow → a.minFlowRaw = b.minFlowRaw
  maxFlow : f Reg.measurementMaxFlow = g Reg.measurementMaxFlow → a.maxFlowRaw = b.maxFlowRaw
  avgTemperature : f Reg.measurementAvgTemp = g Reg.measurementAvgTemp →
    a.avgTemperatureRaw = b.avgTemperatureRaw ∧ a.avgTemperatureC = b.avgTemperatureC
  avgFlow : f Reg.measurementAvgFlow = g Reg.measurementAvgFlow → a.avgFlowRaw = b.avgFlowRaw
  prevAvgFlow : f Reg.measurementPrevAvgFlowLow = g Reg.measurementPrevAvgFlowLow →
    f (Reg.measurementPrevAvgFlowLow + 1) = g (Reg.measurementPrevAvgFlowLow + 1) →
    a.prevAvgFlowRaw = b.prevAvgFlowRaw

/-- The decoding of the fourteen registers, as the code computes it. -/
def decodedMeasurement {F : Type} [FloatArith F] (regs : Registers) : MeasurementData F where
  numSamplesCollected := regs 4201
  minTemperatureRaw := regs 4202
  maxTemperatureRaw := regs 4203
  minFlowRaw := regs 4204
  maxFlowRaw := regs 4205
  avgTemperatureRaw := regs 4207
  avgFlowRaw := regs 4208
  prevAvgFlowRaw := joinWords (regs 4213) (regs 4214)
  minTemperatureC := hundredths (regs 4202)
  maxTemperatureC := hundredths (regs 4203)
  avgTemperatureC := hundredths (regs 4207)
  avgFlow := FloatArith.literal 0

/-- The sign of the high word is shifted out. -/
theorem signExtend_shiftLeft_or (high low : U16) :
    (high.signExtend 32 <<< 16) ||| low.setWidth 32 = joinWords high low := by
  rw [joinWords]
  apply BitVec.eq_of_getLsbD_eq
  intro i hi
  rw [BitVec.getLsbD_or, BitVec.getLsbD_or, BitVec.getLsbD_shiftLeft, BitVec.getLsbD_shiftLeft,
    BitVec.getLsbD_signExtend, BitVec.getLsbD_setWidth]
  by_cases h : i < 16
  · simp [h]
  · simp [h, show i - 16 < 32 by omega, show i - 16 < 16 by omega]

/-- The decoder computes it. -/
theorem decodeMeasurement_contents {F : Type} [FloatArith F] (regs : Registers) :
    decodeMeasurement (F := F) (some (regs.contents Reg.measurementSampleCount 14))
      = some (decodedMeasurement regs) := by
  rw [decodedMeasurement, ← signExtend_shiftLeft_or]
  rfl

/-- The decoder respects the map exactly when agreement on the pair at 4214 brings agreement at 4213. -/
theorem respectsMap_decodedMeasurement_iff {F : Type} [FloatArith F] (f g : Registers) :
    MeasurementData.RespectsMap f g (decodedMeasurement (F := F) f) (decodedMeasurement g)
      ↔ (f 4214 = g 4214 → f 4215 = g 4215 → f 4213 = g 4213) := by
  constructor
  · intro h hfirst hsecond
    exact (joinWords_inj.mp (h.prevAvgFlow hfirst hsecond)).1
  · intro h
    exact {
      minTemperature := fun e => ⟨e, congrArg hundredths e⟩
      maxTemperature := fun e => ⟨e, congrArg hundredths e⟩
      minFlow := fun e => e
      maxFlow := fun e => e
      avgTemperature := fun e => ⟨e, congrArg hundredths e⟩
      avgFlow := fun e => e
      prevAvgFlow := fun hfirst hsecond => joinWords_inj.mpr ⟨h hfirst hsecond, hfirst⟩ }

/-- `ReadMeasurement` is a burst and its decoding. -/
theorem readMeasurement_eq_readDecode {F σ : Type} [FloatArith F] (uart : Uart σ) (s : Session σ) :
    Driver.readMeasurement (F := F) uart s
      = readDecode uart Reg.measurementSampleCount 14 decodeMeasurement s := rfl

/-- A slave that answers with its registers has them decoded. -/
theorem readMeasurement_of_reply {F σ : Type} [FloatArith F] (uart : Uart σ) {s : Session σ}
    {regs : Registers}
    (hreply : (burst Reg.measurementSampleCount 14).delivered uart s
      = readReply s.driver.address (regs.contents Reg.measurementSampleCount 14)) :
    Driver.readMeasurement (F := F) uart s
      = some (.success (decodedMeasurement regs),
          (burst Reg.measurementSampleCount 14).finished uart s) := by
  rw [readMeasurement_eq_readDecode]
  exact readDecode_of_reply uart (by decide) (by decide) (Registers.length_contents _ _ _) hreply
    (decodeMeasurement_contents regs)

/-- **`ReadMeasurement` against the register map.** On all UARTs, for every two slaves whose registers the
two bursts bring, both calls succeed. Each quantity is determined by the registers that the map assigns to
it exactly when agreement on 4214 and 4215 brings agreement on 4213. The previous average flow is the 32-bit
value at 4214 exactly when 4213, 4214 and 4215 are equal, or 4213 and 4215 if the low word comes first. -/
theorem measurement_respectsMap_iff {F σ τ : Type} [FloatArith F] (uart : Uart σ) (uart' : Uart τ)
    (s : Session σ) (s' : Session τ) (f g : Registers)
    (hf : (burst Reg.measurementSampleCount 14).delivered uart s
      = readReply s.driver.address (f.contents Reg.measurementSampleCount 14))
    (hg : (burst Reg.measurementSampleCount 14).delivered uart' s'
      = readReply s'.driver.address (g.contents Reg.measurementSampleCount 14)) :
    ∃ (a b : MeasurementData F) (t : Session σ) (t' : Session τ),
      Driver.readMeasurement uart s = some (.success a, t)
      ∧ Driver.readMeasurement uart' s' = some (.success b, t')
      ∧ (MeasurementData.RespectsMap f g a b
          ↔ (f 4214 = g 4214 → f 4215 = g 4215 → f 4213 = g 4213))
      ∧ (a.prevAvgFlowRaw = f.pair Reg.measurementPrevAvgFlowLow
          ↔ f 4213 = f 4214 ∧ f 4214 = f 4215)
      ∧ (a.prevAvgFlowRaw = joinWords (f (Reg.measurementPrevAvgFlowLow + 1))
            (f Reg.measurementPrevAvgFlowLow)
          ↔ f 4213 = f 4215) := by
  refine ⟨decodedMeasurement f, decodedMeasurement g, _, _, readMeasurement_of_reply uart hf,
    readMeasurement_of_reply uart' hg, respectsMap_decodedMeasurement_iff f g, ?_, ?_⟩
  · exact joinWords_inj
  · exact joinWords_inj.trans (and_iff_left rfl)

/-- Two slaves with equal registers, all of them 7. -/
theorem measurement_respectsMap_iff_sevens :
    ∃ (a b : MeasurementData ℚ),
      MeasurementData.RespectsMap (fun _ => 7) (fun _ => 7) a b
      ∧ a.prevAvgFlowRaw = Registers.pair (fun _ => 7) Reg.measurementPrevAvgFlowLow := by
  obtain ⟨a, b, t, t', -, -, hmap, hpair, -⟩ := measurement_respectsMap_iff (F := ℚ)
    (Uart.constant (readReply 1 (List.replicate 14 7)))
    (Uart.constant (readReply 2 (List.replicate 14 7))) (constructDefault () 1) (constructDefault () 2)
    (fun _ => 7) (fun _ => 7) (by decide +kernel) (by decide +kernel)
  exact ⟨a, b, hmap.mpr fun _ _ => rfl, hpair.mpr ⟨rfl, rfl⟩⟩

/-- Two slaves whose registers differ at 4213 alone, which holds the previous average temperature: one
reports a previous average flow of 0, the other one of 65536. -/
theorem measurement_mixes_temperature :
    (Driver.readMeasurement (F := ℚ) (Uart.constant (readReply 1
        (Registers.contents (fun _ => 0) Reg.measurementSampleCount 14)))
        (constructDefault () 1)).map (fun r => (r.1.error, r.1.value.prevAvgFlowRaw))
      = some (.none, 0)
    ∧ (Driver.readMeasurement (F := ℚ) (Uart.constant (readReply 1
        (Registers.contents (fun a => if a = Reg.measurementPrevAvgTemp then 1 else 0)
          Reg.measurementSampleCount 14)))
        (constructDefault () 1)).map (fun r => (r.1.error, r.1.value.prevAvgFlowRaw))
      = some (.none, 65536)
    ∧ Registers.pair (fun a => if a = Reg.measurementPrevAvgTemp then 1 else 0)
        Reg.measurementPrevAvgFlowLow = 0 := by
  refine ⟨?_, ?_, ?_⟩ <;> decide +kernel

end AlicatBasis2
