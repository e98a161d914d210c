import AlicatBasis2.Operations.Instantaneous
import AlicatBasis2.Operations.SinglePrecision

/-! # Readings in single precision

Both decoding operations do on the line what they do in exact arithmetic and report the same record, but for
the relative error of their numbers. Every number reported is finite, and numbers compare as their registers
do, exactly so where the registers together are fewer than `2 ^ 24`. -/

namespace AlicatBasis2

open FloatingPoint Driver Modbus

/-! ## Against exact arithmetic -/

/-- A record whose numbers are the exact ones up to a relative error, and which is otherwise the same. -/
structure InstantaneousData.Approximates (data : InstantaneousData Binary32)
    (exact : InstantaneousData ℚ) : Prop where
  gas : data.gas = exact.gas
  massFlowOverrange : data.massFlowOverrange = exact.massFlowOverrange
  temperatureOverrange : data.temperatureOverrange = exact.temperatureOverrange
  totalizerOverrange : data.totalizerOverrange = exact.totalizerOverrange
  valveHeld : data.valveHeld = exact.valveHeld
  valveThermalManagement : data.valveThermalManagement = exact.valveThermalManagement
  temperatureC : Reads data.temperatureC exact.temperatureC
  flow : Reads data.flow exact.flow
  totalVolume : Reads data.totalVolume exact.totalVolume
  setpoint : Reads data.setpoint exact.setpoint
  valveDrivePct : Reads data.valveDrivePct exact.valveDrivePct
  batchRemaining : Reads data.batchRemaining exact.batchRemaining
  rawSetpoint : data.rawSetpoint2053To2054 = exact.rawSetpoint2053To2054
  rawFlow : data.rawFlow2103 = exact.rawFlow2103
  rawTemp : data.rawTemp2102 = exact.rawTemp2102
  rawTotalVolume : data.rawTotalVolume2104To2105 = exact.rawTotalVolume2104To2105
  rawBatchRemaining : data.rawBatchRemaining2108To2109 = exact.rawBatchRemaining2108To2109

/-- The same for a measurement window. -/
structure MeasurementData.Approximates (data : MeasurementData Binary32) (exact : MeasurementData ℚ) :
    Prop where
  numSamplesCollected : data.numSamplesCollected = exact.numSamplesCollected
  minTemperatureRaw : data.minTemperatureRaw = exact.minTemperatureRaw
  maxTemperatureRaw : data.maxTemperatureRaw = exact.maxTemperatureRaw
  minFlowRaw : data.minFlowRaw = exact.minFlowRaw
  maxFlowRaw : data.maxFlowRaw = exact.maxFlowRaw
  avgTemperatureRaw : data.avgTemperatureRaw = exact.avgTemperatureRaw
  avgFlowRaw : data.avgFlowRaw = exact.avgFlowRaw
  prevAvgFlowRaw : data.prevAvgFlowRaw = exact.prevAvgFlowRaw
  minTemperatureC : Reads data.minTemperatureC exact.minTemperatureC
  maxTemperatureC : Reads data.maxTemperatureC exact.maxTemperatureC
  avgTemperatureC : Reads data.avgTemperatureC exact.avgTemperatureC
  avgFlow : Reads data.avgFlow exact.avgFlow

/-- The records of a failure agree: every number is zero. -/
theorem InstantaneousData.approximates_default : (default : InstantaneousData Binary32).Approximates default := by
  constructor <;> first | exact reads_zero | rfl

/-- The windows of a failure agree: every number is zero. -/
theorem MeasurementData.approximates_default : (default : MeasurementData Binary32).Approximates default := by
  constructor <;> first | exact reads_zero | rfl

namespace Driver

/-- Two decodings of one burst that agree on full arrays agree on what the operations do. -/
theorem readDecode_agree {σ T T' : Type} [Inhabited T] [Inhabited T'] (uart : Uart σ) {regAddr : U16}
    {count : U8} (hpos : 0 < count.toNat) (hle : count.toNat ≤ 32) {R : T → T' → Prop}
    (hdefault : R default default) {decode : Option (List U16) → Option T}
    {decode' : Option (List U16) → Option T'}
    (hdecode : ∀ regs : List U16, regs.length = count.toNat →
      ∃ v v', decode (some regs) = some v ∧ decode' (some regs) = some v' ∧ R v v') (s : Session σ) :
    ∃ r r' s', readDecode uart regAddr count decode s = some (r, s')
      ∧ readDecode uart regAddr count decode' s = some (r', s') ∧ r.error = r'.error
      ∧ R r.value r'.value := by
  obtain ⟨v, v', hv, hv', hrel⟩ := hdecode _ (length_burstWords uart s)
  refine ⟨_, _, _, readDecode_eq uart hpos hle hv, readDecode_eq uart hpos hle hv', ?_⟩
  by_cases hnone : burstOutcome uart regAddr count s = .none
  · rw [if_pos hnone, if_pos hnone]
    exact ⟨rfl, hrel⟩
  · rw [if_neg hnone, if_neg hnone]
    exact ⟨rfl, hdefault⟩

/-- Ten registers are decoded to approximately the exact record, with `d ≤ 10` decimals. -/
theorem decodeInstantaneous_approximates {d : U8} (hd : d.toNat ≤ 10) {regs : List U16}
    (h : regs.length = 10) :
    ∃ (data : InstantaneousData Binary32) (exact : InstantaneousData ℚ),
      decodeInstantaneous (some regs) d = some data ∧ decodeInstantaneous (some regs) d = some exact
      ∧ data.Approximates exact := by
  match regs, h with
  | [_, _, _, _, _, _, _, _, _, _], _ =>
    refine ⟨_, _, rfl, rfl, ?_⟩
    exact {
      gas := rfl
      massFlowOverrange := rfl
      temperatureOverrange := rfl
      totalizerOverrange := rfl
      valveHeld := rfl
      valveThermalManagement := rfl
      temperatureC := reads_hundredths _
      flow := reads_scaleFlow _ hd
      totalVolume := reads_scaleFlow _ hd
      setpoint := reads_scaleFlow _ hd
      valveDrivePct := reads_hundredths _
      batchRemaining := reads_scaleFlow _ hd
      rawSetpoint := rfl
      rawFlow := rfl
      rawTemp := rfl
      rawTotalVolume := rfl
      rawBatchRemaining := rfl }

/-- Fourteen registers are decoded to approximately the exact window. -/
theorem decodeMeasurement_approximates {regs : List U16} (h : regs.length = 14) :
    ∃ (data : MeasurementData Binary32) (exact : MeasurementData ℚ),
      decodeMeasurement (some regs) = some data ∧ decodeMeasurement (some regs) = some exact
      ∧ data.Approximates exact := by
  match regs, h with
  | [_, _, _, _, _, _, _, _, _, _, _, _, _, _], _ =>
    refine ⟨_, _, rfl, rfl, ?_⟩
    exact {
      numSamplesCollected := rfl
      minTemperatureRaw := rfl
      maxTemperatureRaw := rfl
      minFlowRaw := rfl
      maxFlowRaw := rfl
      avgTemperatureRaw := rfl
      avgFlowRaw := rfl
      prevAvgFlowRaw := rfl
      minTemperatureC := reads_hundredths _
      maxTemperatureC := reads_hundredths _
      avgTemperatureC := reads_hundredths _
      avgFlow := reads_zero }

/-- **The decoding operations in single precision.** On every UART, from every session and with ten decimals
at most, `ReadInstantaneous` and `ReadMeasurement` do on the line, and to the driver, exactly what they do in
exact arithmetic, report the same error, flags and raw registers, and report numbers within a relative error
of `2 ^ (-22)` of the exact ones. -/
theorem readings_approximate {σ : Type} (uart : Uart σ) {d : U8} (hd : d.toNat ≤ 10) (s : Session σ) :
    (∃ (r : DriverResult (InstantaneousData Binary32)) (r' : DriverResult (InstantaneousData ℚ))
      (s' : Session σ), readInstantaneous uart d s = some (r, s')
        ∧ readInstantaneous uart d s = some (r', s') ∧ r.error = r'.error
        ∧ r.value.Approximates r'.value)
    ∧ ∃ (r : DriverResult (MeasurementData Binary32)) (r' : DriverResult (MeasurementData ℚ))
      (s' : Session σ), readMeasurement uart s = some (r, s') ∧ readMeasurement uart s = some (r', s')
        ∧ r.error = r'.error ∧ r.value.Approximates r'.value := by
  constructor
  · simp only [readInstantaneous_eq_readDecode]
    exact readDecode_agree uart (by decide) (by decide) InstantaneousData.approximates_default
      (fun regs h => decodeInstantaneous_approximates hd h) s
  · simp only [readMeasurement_eq_readDecode]
    exact readDecode_agree uart (by decide : 0 < (14 : U8).toNat) (by decide)
      MeasurementData.approximates_default (fun regs h => decodeMeasurement_approximates h) s

/-- A slave that reports a flow of 251 thousandths. -/
theorem readings_approximate_flow :
    ∃ (r : DriverResult (InstantaneousData Binary32)) (r' : DriverResult (InstantaneousData ℚ)) (s' : Session Unit),
      readInstantaneous (Uart.constant (readReply 1 [0, 0, 0, 251, 0, 0, 0, 0, 0, 0])) 3
        (constructDefault () 1) = some (r, s')
      ∧ readInstantaneous (Uart.constant (readReply 1 [0, 0, 0, 251, 0, 0, 0, 0, 0, 0])) 3
        (constructDefault () 1) = some (r', s')
      ∧ r.value.Approximates r'.value := by
  obtain ⟨⟨r, r', s', h, h', -, happrox⟩, -⟩ := readings_approximate
    (Uart.constant (readReply 1 [0, 0, 0, 251, 0, 0, 0, 0, 0, 0])) (d := 3) (by decide)
    (constructDefault () 1)
  exact ⟨r, r', s', h, h', happrox⟩

/-! ## Order -/

/-- A scaled register is a number, whatever the decimals. -/
theorem isSome_scaleFlow (raw : U32) (d : U8) : (scaleFlow raw d : Binary32).toRat.isSome := by
  rcases scaleFlow_cases d with ⟨p, -, hscale⟩ | hzero
  · rw [hscale, Option.isSome_some]
  · rw [hzero, Option.isSome_some]

/-- A register in hundredths is a number. -/
theorem isSome_hundredths (raw : U16) : (hundredths raw : Binary32).toRat.isSome := by
  rw [toRat_hundredths, Option.isSome_some]

/-- Scaling does not turn the order of two registers round, whatever the decimals. -/
theorem scaleFlow_not_lt {raw raw' : U32} (d : U8) (h : raw.toInt ≤ raw'.toInt) :
    FloatArith.lt (scaleFlow raw' d : Binary32) (scaleFlow raw d) = false := by
  have hcast : (raw.toInt : ℚ) ≤ raw'.toInt := by exact_mod_cast h
  rcases scaleFlow_cases d with ⟨p, hone, hscale⟩ | hzero
  · have hdiv := div_le_div_of_nonneg_right (binary32.rnd_mono hcast) (by linarith : 0 ≤ p)
    exact (Binary.lt_eq (hscale raw') (hscale raw)).trans
      (decide_eq_false (not_lt.mpr (binary32.rnd_mono hdiv)))
  · exact (Binary.lt_eq (hzero raw') (hzero raw)).trans (decide_eq_false (lt_irrefl 0))

/-- With ten decimals at most, scaled registers that together are fewer than `2 ^ 24` compare as they are. -/
theorem scaleFlow_lt {raw raw' : U32} {d : U8} (hd : d.toNat ≤ 10)
    (hsum : |raw.toInt| + |raw'.toInt| < 2 ^ 24) :
    FloatArith.lt (scaleFlow raw d : Binary32) (scaleFlow raw' d) = decide (raw.toInt < raw'.toInt) := by
  by_cases hlt : raw.toInt < raw'.toInt
  · have hunit : (2 : ℚ) ^ (-126 : ℤ) ≤ 1 / 10 ^ d.toNat :=
      (le_div_iff₀ (by positivity)).mpr (twoPow_mul_tenPow_le_one hd)
    have hrnd := binary32.rnd_mul_lt_rnd_mul hunit hsum hlt
    rw [mul_one_div, mul_one_div] at hrnd
    have hscale : ∀ w : U32, |w.toInt| < 2 ^ 24 →
        (scaleFlow w d : Binary32).toRat = some (binary32.rnd (w.toInt / 10 ^ d.toNat)) := by
      intro w hw
      rw [toRat_scaleFlow w hd, rnd_intCast hw]
    rw [decide_eq_true hlt]
    exact (Binary.lt_eq (hscale raw (by linarith [abs_nonneg raw'.toInt]))
      (hscale raw' (by linarith [abs_nonneg raw.toInt]))).trans (decide_eq_true hrnd)
  · rw [decide_eq_false hlt]
    exact scaleFlow_not_lt d (not_lt.mp hlt)

-- a totalizer's `2 ^ 24` and the unit after it are one `float`
example : FloatArith.lt (scaleFlow 16777216 0 : Binary32) (scaleFlow 16777217 0) = false := by decide +kernel

/-- Registers in hundredths compare as they are. -/
theorem hundredths_lt (raw raw' : U16) :
    FloatArith.lt (hundredths raw : Binary32) (hundredths raw') = decide (raw.toInt < raw'.toInt) := by
  have hle := abs_toInt16_le raw
  have hle' := abs_toInt16_le raw'
  refine (Binary.lt_eq (toRat_hundredths raw) (toRat_hundredths raw')).trans ?_
  by_cases hlt : raw.toInt < raw'.toInt
  · have hunit : (2 : ℚ) ^ (-126 : ℤ) ≤ hundredth := le_trans (by norm_num) hundredth_ge
    rw [decide_eq_true hlt, decide_eq_true (binary32.rnd_mul_lt_rnd_mul hunit (by
      change |raw.toInt| + |raw'.toInt| < 2 ^ 24
      omega) hlt)]
  · have hmono : (raw'.toInt : ℚ) * hundredth ≤ raw.toInt * hundredth :=
      mul_le_mul_of_nonneg_right (by exact_mod_cast not_lt.mp hlt) (le_trans (by positivity) hundredth_ge)
    rw [decide_eq_false hlt, decide_eq_false (not_lt.mpr (binary32.rnd_mono hmono))]

end Driver

namespace InstantaneousData

/-- The numbers of a record. -/
def numbers {F : Type} (data : InstantaneousData F) : List F :=
  [data.temperatureC, data.flow, data.totalVolume, data.setpoint, data.valveDrivePct, data.batchRemaining]

/-- The numbers with their registers as signed integers. The record keeps the registers but for 2107, the valve
drive's. -/
def registers {F : Type} (valve : U16) (data : InstantaneousData F) : List (F × ℤ) :=
  [(data.temperatureC, data.rawTemp2102.toInt), (data.flow, data.rawFlow2103.toInt),
    (data.totalVolume, data.rawTotalVolume2104To2105.toInt),
    (data.setpoint, data.rawSetpoint2053To2054.toInt), (data.valveDrivePct, valve.toInt),
    (data.batchRemaining, data.rawBatchRemaining2108To2109.toInt)]

/-- A record that came from ten registers, the eighth of them `valve`. -/
structure Decoded {F : Type} [FloatArith F] (d : U8) (valve : U16) (data : InstantaneousData F) : Prop where
  temperatureC : data.temperatureC = hundredths data.rawTemp2102
  flow : data.flow = scaleFlow (data.rawFlow2103.signExtend 32) d
  totalVolume : data.totalVolume = scaleFlow data.rawTotalVolume2104To2105 d
  setpoint : data.setpoint = scaleFlow data.rawSetpoint2053To2054 d
  valveDrivePct : data.valveDrivePct = hundredths valve
  batchRemaining : data.batchRemaining = scaleFlow data.rawBatchRemaining2108To2109 d
  rawSetpoint : ∃ raw : U16, data.rawSetpoint2053To2054 = raw.signExtend 32

end InstantaneousData

namespace Driver

/-- A decoding that succeeds is of what the burst left. -/
theorem decode_of_readDecode {σ T : Type} [Inhabited T] (uart : Uart σ) {regAddr : U16} {count : U8}
    (hpos : 0 < count.toNat) (hle : count.toNat ≤ 32) {decode : Option (List U16) → Option T}
    (hdecode : ∀ regs : List U16, regs.length = count.toNat → ∃ v, decode (some regs) = some v)
    {s s' : Session σ} {r : DriverResult T} (h : readDecode uart regAddr count decode s = some (r, s'))
    (hok : r.error = .none) : decode (some (burstWords uart regAddr count s)) = some r.value := by
  obtain ⟨v, hv⟩ := hdecode _ (length_burstWords uart s)
  rw [readDecode_eq uart hpos hle hv] at h
  by_cases hnone : burstOutcome uart regAddr count s = .none
  · rw [if_pos hnone] at h
    cases h
    exact hv
  · rw [if_neg hnone] at h
    cases h
    exact absurd hok hnone

/-- Register 2107, the valve drive's, as the burst of a session brings it. -/
def valveRegister {σ : Type} (uart : Uart σ) (s : Session σ) : U16 :=
  (burstWords uart Reg.selectedGas 10 s).getD 7 0

/-- What `ReadInstantaneous` returns came from ten registers. -/
theorem decoded_of_readInstantaneous {F σ : Type} [FloatArith F] (uart : Uart σ) {d : U8}
    {s s' : Session σ} {data : InstantaneousData F}
    (h : readInstantaneous uart d s = some (.success data, s')) : data.Decoded d (valveRegister uart s) := by
  rw [readInstantaneous_eq_readDecode] at h
  have hdecode := decode_of_readDecode uart (by decide) (by decide)
    (fun regs h => exists_decodeInstantaneous d h) h rfl
  have hlength : (burstWords uart Reg.selectedGas 10 s).length = 10 := length_burstWords uart s
  rw [valveRegister]
  match burstWords uart Reg.selectedGas 10 s, hlength, hdecode with
  | [_, _, _, _, _, _, _, _, _, _], _, hdecode =>
    obtain rfl := Option.some.inj hdecode
    exact ⟨rfl, rfl, rfl, rfl, rfl, rfl, ⟨_, rfl⟩⟩

/-- **Readings compare as their registers.** For any two successful `ReadInstantaneous` with the same decimals
`d`, on any UARTs: every number they report is finite; comparing two numbers never turns the order of their
signed registers `r`, `r'` round; and with `d ≤ 10` and `|r| + |r'| < 2 ^ 24`, comparing the numbers is comparing
the registers, for all six of them. -/
theorem readings_ordered {σ τ : Type} (uart : Uart σ) (uart' : Uart τ) (d : U8) {s t : Session σ}
    {s' t' : Session τ} {a b : InstantaneousData Binary32}
    (ha : readInstantaneous uart d s = some (.success a, t))
    (hb : readInstantaneous uart' d s' = some (.success b, t')) :
    (∀ x ∈ a.numbers, x.toRat.isSome)
    ∧ ∀ p ∈ (a.registers (valveRegister uart s)).zip (b.registers (valveRegister uart' s')),
      (p.1.2 ≤ p.2.2 → FloatArith.lt p.2.1 p.1.1 = false)
      ∧ (d.toNat ≤ 10 → |p.1.2| + |p.2.2| < 2 ^ 24 →
        FloatArith.lt p.1.1 p.2.1 = decide (p.1.2 < p.2.2)) := by
  have ha := decoded_of_readInstantaneous uart ha
  have hb := decoded_of_readInstantaneous uart' hb
  constructor
  · simp only [InstantaneousData.numbers, List.forall_mem_cons, ha.temperatureC, ha.flow, ha.totalVolume,
      ha.setpoint, ha.valveDrivePct, ha.batchRemaining, isSome_scaleFlow, isSome_hundredths]
    simp
  · have hscale : ∀ raw raw' : U32,
        (raw.toInt ≤ raw'.toInt → FloatArith.lt (scaleFlow raw' d : Binary32) (scaleFlow raw d) = false)
        ∧ (d.toNat ≤ 10 → |raw.toInt| + |raw'.toInt| < 2 ^ 24 →
          FloatArith.lt (scaleFlow raw d : Binary32) (scaleFlow raw' d)
            = decide (raw.toInt < raw'.toInt)) :=
      fun raw raw' => ⟨scaleFlow_not_lt d, scaleFlow_lt⟩
    have hflow := hscale (a.rawFlow2103.signExtend 32) (b.rawFlow2103.signExtend 32)
    rw [toInt_signExtend, toInt_signExtend] at hflow
    have hhundredths : ∀ raw raw' : U16, raw.toInt ≤ raw'.toInt →
        FloatArith.lt (hundredths raw' : Binary32) (hundredths raw) = false :=
      fun _ _ hle => (hundredths_lt _ _).trans (decide_eq_false (not_lt.mpr hle))
    simp only [InstantaneousData.registers, List.zip_cons_cons, List.zip_nil_right, List.forall_mem_cons,
      ha.temperatureC, ha.flow, ha.totalVolume, ha.setpoint, ha.valveDrivePct, ha.batchRemaining, hb.temperatureC,
      hb.flow, hb.totalVolume, hb.setpoint, hb.valveDrivePct, hb.batchRemaining]
    exact ⟨⟨hhundredths _ _, fun _ _ => hundredths_lt _ _⟩, hflow, hscale _ _, hscale _ _,
      ⟨hhundredths _ _, fun _ _ => hundredths_lt _ _⟩, hscale _ _, fun _ h => absurd h List.not_mem_nil⟩

/-- Flows of 250 and 251 thousandths and valve drives of 12 and 13 hundredths, from two slaves. -/
theorem readings_ordered_flow :
    ∃ (a b : InstantaneousData Binary32) (t t' : Session Unit),
      readInstantaneous (Uart.constant (readReply 1 [0, 0, 0, 250, 0, 0, 0, 12, 0, 0])) 3
        (constructDefault () 1) = some (.success a, t)
      ∧ readInstantaneous (Uart.constant (readReply 2 [0, 0, 0, 251, 0, 0, 0, 13, 0, 0])) 3
        (constructDefault () 2) = some (.success b, t')
      ∧ FloatArith.lt a.flow b.flow = true ∧ FloatArith.lt a.valveDrivePct b.valveDrivePct = true := by
  have ha : readDecode (Uart.constant (readReply 1 [0, 0, 0, 250, 0, 0, 0, 12, 0, 0])) Reg.selectedGas 10
      (fun regs => decodeInstantaneous (F := Binary32) regs 3) (constructDefault () 1) = some (.success _, _) :=
    readDecode_of_reply _ (by decide) (by decide)
      (rfl : ([0, 0, 0, 250, 0, 0, 0, 12, 0, 0] : List U16).length = (10 : U8).toNat)
      (by decide +kernel) rfl
  have hb : readDecode (Uart.constant (readReply 2 [0, 0, 0, 251, 0, 0, 0, 13, 0, 0])) Reg.selectedGas 10
      (fun regs => decodeInstantaneous (F := Binary32) regs 3) (constructDefault () 2) = some (.success _, _) :=
    readDecode_of_reply _ (by decide) (by decide)
      (rfl : ([0, 0, 0, 251, 0, 0, 0, 13, 0, 0] : List U16).length = (10 : U8).toNat)
      (by decide +kernel) rfl
  have hvalve : valveRegister (Uart.constant (readReply 1 [0, 0, 0, 250, 0, 0, 0, 12, 0, 0])) (constructDefault () 1)
      = 12 := by decide +kernel
  have hvalve' : valveRegister (Uart.constant (readReply 2 [0, 0, 0, 251, 0, 0, 0, 13, 0, 0])) (constructDefault () 2)
      = 13 := by decide +kernel
  rw [← readInstantaneous_eq_readDecode] at ha hb
  obtain ⟨-, hpairs⟩ := readings_ordered _ _ 3 ha hb
  rw [hvalve, hvalve'] at hpairs
  simp only [InstantaneousData.registers, List.zip_cons_cons, List.forall_mem_cons] at hpairs
  obtain ⟨-, hflow, -, -, hdrive, -⟩ := hpairs
  exact ⟨_, _, _, _, ha, hb, hflow.2 (by decide) (by decide), hdrive.2 (by decide) (by decide)⟩

end Driver

end AlicatBasis2
