import AlicatBasis2.Operations.Burst
import AlicatBasis2.Operations.Scaling
import AlicatBasis2.Transactions.Acceptance

/-! # The decoding of `ReadInstantaneous`

Ten registers become seventeen fields. In exact arithmetic every field is as documented, but for the two
totals: both are unsigned 32-bit values, and `ScaleFlow` takes a signed one, so from `2^31` on they are read
back as negative volumes. -/

namespace AlicatBasis2

open Modbus Driver

/-- A flag of the status word. -/
theorem decide_and_twoPow_ne_zero (w : U16) {i : ℕ} (hi : i < 16) :
    decide (w &&& BitVec.twoPow 16 i ≠ 0) = w.getLsbD i := by
  have hne : BitVec.twoPow 16 i ≠ 0 := by
    intro h
    have hget := congrArg (fun v : U16 => v.getLsbD i) h
    simp [hi] at hget
  rw [BitVec.and_twoPow]
  cases w.getLsbD i with
  | false => exact decide_eq_false (not_not.mpr rfl)
  | true => exact decide_eq_true hne

/-- A 32-bit total held in two registers, high word first. -/
def Registers.total (regs : Registers) (regAddr : U16) : ℕ :=
  65536 * (regs regAddr).toNat + (regs (regAddr + 1)).toNat

/-- The documented reading of registers 2100 to 2109 with `d` flow decimals: the gas, five flags, two
hundredths and four flow quantities, each of these also the quotient of its own raw field. -/
structure InstantaneousData.Documented (regs : Registers) (d : U8) (data : InstantaneousData ℚ) :
    Prop where
  gas : data.gas.code = lowByte (regs 2100)
  massFlowOverrange : data.massFlowOverrange = (regs 2101).getLsbD 0
  temperatureOverrange : data.temperatureOverrange = (regs 2101).getLsbD 1
  totalizerOverrange : data.totalizerOverrange = (regs 2101).getLsbD 2
  valveHeld : data.valveHeld = (regs 2101).getLsbD 3
  valveThermalManagement : data.valveThermalManagement = (regs 2101).getLsbD 4
  temperature : data.temperatureC = (regs 2102).toInt / 100
  flow : data.flow = (regs 2103).toInt / 10 ^ d.toNat
  totalVolume : data.totalVolume = (regs.total 2104 : ℚ) / 10 ^ d.toNat
  setpoint : data.setpoint = (regs 2106).toInt / 10 ^ d.toNat
  valveDrive : data.valveDrivePct = (regs 2107).toInt / 100
  batchRemaining : data.batchRemaining = (regs.total 2108 : ℚ) / 10 ^ d.toNat
  flowRaw : data.flow = data.rawFlow2103.toInt / 10 ^ d.toNat
  totalVolumeRaw : data.totalVolume = (data.rawTotalVolume2104To2105.toNat : ℚ) / 10 ^ d.toNat
  setpointRaw : data.setpoint = data.rawSetpoint2053To2054.toInt / 10 ^ d.toNat
  batchRemainingRaw :
    data.batchRemaining = (data.rawBatchRemaining2108To2109.toNat : ℚ) / 10 ^ d.toNat

/-- The decoding of the ten registers in exact arithmetic, as the code computes it. -/
def decodedInstantaneous (regs : Registers) (d : U8) : InstantaneousData ℚ where
  gas := ⟨lowByte (regs 2100)⟩
  massFlowOverrange := (regs 2101).getLsbD 0
  temperatureOverrange := (regs 2101).getLsbD 1
  totalizerOverrange := (regs 2101).getLsbD 2
  valveHeld := (regs 2101).getLsbD 3
  valveThermalManagement := (regs 2101).getLsbD 4
  temperatureC := hundredths (regs 2102)
  flow := scaleFlow ((regs 2103).signExtend 32) d
  totalVolume := scaleFlow (joinWords (regs 2104) (regs 2105)) d
  setpoint := scaleFlow ((regs 2106).signExtend 32) d
  valveDrivePct := hundredths (regs 2107)
  batchRemaining := scaleFlow (joinWords (regs 2108) (regs 2109)) d
  rawSetpoint2053To2054 := (regs 2106).signExtend 32
  rawFlow2103 := regs 2103
  rawTemp2102 := regs 2102
  rawTotalVolume2104To2105 := joinWords (regs 2104) (regs 2105)
  rawBatchRemaining2108To2109 := joinWords (regs 2108) (regs 2109)

/-- The ten registers of the burst, by address. -/
theorem contents_selectedGas (regs : Registers) :
    regs.contents Reg.selectedGas 10
      = [regs 2100, regs 2101, regs 2102, regs 2103, regs 2104, regs 2105, regs 2106, regs 2107,
          regs 2108, regs 2109] := rfl

/-- The decoder computes it. -/
theorem decodeInstantaneous_contents (regs : Registers) (d : U8) :
    decodeInstantaneous (some (regs.contents Reg.selectedGas 10)) d
      = some (decodedInstantaneous regs d) := by
  have hflag : ∀ i < 5, decide (regs 2101 &&& BitVec.twoPow 16 i ≠ 0) = (regs 2101).getLsbD i :=
    fun i hi => decide_and_twoPow_ne_zero _ (hi.trans (by decide))
  have h0 := hflag 0 (by decide)
  have h1 := hflag 1 (by decide)
  have h2 := hflag 2 (by decide)
  have h3 := hflag 3 (by decide)
  have h4 := hflag 4 (by decide)
  rw [contents_selectedGas, decodedInstantaneous, ← h0, ← h1, ← h2, ← h3, ← h4]
  rfl

/-- The decoded fields are the documented ones exactly when both totals are below `2^31`. -/
theorem documented_decodedInstantaneous_iff (regs : Registers) (d : U8) :
    (decodedInstantaneous regs d).Documented regs d
      ↔ regs.total 2104 < 2 ^ 31 ∧ regs.total 2108 < 2 ^ 31 := by
  have hvolume : regs.total 2104 = (joinWords (regs 2104) (regs 2105)).toNat :=
    (toNat_joinWords _ _).symm
  have hbatch : regs.total 2108 = (joinWords (regs 2108) (regs 2109)).toNat :=
    (toNat_joinWords _ _).symm
  have hsigned : ∀ w : U16, (scaleFlow (w.signExtend 32) d : ℚ) = w.toInt / 10 ^ d.toNat := by
    intro w
    rw [scaleFlow_eq, toInt_signExtend]
  constructor
  · intro h
    rw [hvolume, hbatch]
    exact ⟨(scaleFlow_eq_toNat_iff _ d).mp h.totalVolumeRaw,
      (scaleFlow_eq_toNat_iff _ d).mp h.batchRemainingRaw⟩
  · rintro ⟨hvolume', hbatch'⟩
    rw [hvolume] at hvolume'
    rw [hbatch] at hbatch'
    have htotal := (scaleFlow_eq_toNat_iff _ d).mpr hvolume'
    have hremaining := (scaleFlow_eq_toNat_iff _ d).mpr hbatch'
    exact {
      gas := rfl
      massFlowOverrange := rfl
      temperatureOverrange := rfl
      totalizerOverrange := rfl
      valveHeld := rfl
      valveThermalManagement := rfl
      temperature := hundredths_eq _
      flow := hsigned _
      totalVolume := hvolume ▸ htotal
      setpoint := hsigned _
      valveDrive := hundredths_eq _
      batchRemaining := hbatch ▸ hremaining
      flowRaw := hsigned _
      totalVolumeRaw := htotal
      setpointRaw := scaleFlow_eq _ d
      batchRemainingRaw := hremaining }

/-- `ReadInstantaneous` is a burst and its decoding. -/
theorem readInstantaneous_eq_readDecode {F σ : Type} [FloatArith F] (uart : Uart σ) (d : U8)
    (s : Session σ) :
    Driver.readInstantaneous (F := F) uart d s
      = readDecode uart Reg.selectedGas 10 (fun regs => decodeInstantaneous regs d) s := rfl

/-- **`ReadInstantaneous` against its documentation.** On every UART, for all contents of registers 2100 to
2109 and all flow decimals, a burst that brings the contents succeeds, and in exact arithmetic the record it
returns is the documented one exactly when the total volume and the remaining batch are below `2^31`. -/
theorem instantaneous_documented_iff {σ : Type} (uart : Uart σ) (s : Session σ) (regs : Registers)
    (d : U8)
    (hreply : (burst Reg.selectedGas 10).delivered uart s
      = readReply s.driver.address (regs.contents Reg.selectedGas 10)) :
    ∃ (data : InstantaneousData ℚ) (s' : Session σ),
      Driver.readInstantaneous uart d s = some (.success data, s')
      ∧ (data.Documented regs d ↔ regs.total 2104 < 2 ^ 31 ∧ regs.total 2108 < 2 ^ 31) := by
  refine ⟨decodedInstantaneous regs d, (burst Reg.selectedGas 10).finished uart s, ?_,
    documented_decodedInstantaneous_iff regs d⟩
  rw [readInstantaneous_eq_readDecode]
  exact readDecode_of_reply uart (by decide) (by decide) (Registers.length_contents _ _ _) hreply
    (decodeInstantaneous_contents regs d)

/-- A slave whose registers from 2100 on hold 0, 1, 2 and so on. -/
theorem instantaneous_documented_iff_small :
    ∃ (data : InstantaneousData ℚ) (s' : Session Unit),
      Driver.readInstantaneous (Uart.constant (readReply 1 (Registers.contents (· - 2100) 2100 10))) 3
        (constructDefault () 1) = some (.success data, s')
      ∧ data.Documented (· - 2100) 3 := by
  obtain ⟨data, s', hread, hiff⟩ := instantaneous_documented_iff
    (Uart.constant (readReply 1 (Registers.contents (· - 2100) 2100 10))) (constructDefault () 1)
    (· - 2100) 3 (by decide +kernel)
  exact ⟨data, s', hread, hiff.mpr (by decide)⟩

/-- A total volume of `2^31 - 1` reads back as 2147483.647, one of `2^31` as -2147483.648. -/
theorem instantaneous_negative_volume :
    (Driver.readInstantaneous (Uart.constant (readReply 1 [0, 0, 0, 0, 0x7FFF, 0xFFFF, 0, 0, 0, 0])) 3
        (constructDefault () 1)).map (fun r => (r.1.error, (r.1.value.totalVolume : ℚ),
          r.1.value.rawTotalVolume2104To2105.toNat))
      = some (.none, 2147483647 / 1000, 2147483647)
    ∧ (Driver.readInstantaneous (Uart.constant (readReply 1 [0, 0, 0, 0, 0x8000, 0, 0, 0, 0, 0])) 3
        (constructDefault () 1)).map (fun r => (r.1.error, (r.1.value.totalVolume : ℚ),
          r.1.value.rawTotalVolume2104To2105.toNat))
      = some (.none, -2147483648 / 1000, 2147483648) := by
  constructor <;> decide +kernel

end AlicatBasis2
