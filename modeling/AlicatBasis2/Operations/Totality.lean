import AlicatBasis2.Model.Call
import AlicatBasis2.Operations.Identity
import AlicatBasis2.Operations.Instantaneous
import AlicatBasis2.Operations.Measurement
import AlicatBasis2.Transactions.Bounds
import AlicatBasis2.Transactions.Sweep

/-! # Calls that return

A call has no result where the source has undefined behaviour. That depends on its arguments alone: a
caller's array has to hold what its count says, and a number has to fit the integer it is converted to.
Every other call returns, in every session and for every UART. -/

namespace AlicatBasis2

namespace Call

variable {F σ : Type}

/-- The arguments a call has a result for. -/
def Defined [FloatArith F] : Call F → Prop
  | setSetpoint value flowDecimals =>
      (FloatArith.toInt32 (FloatArith.mul value (Driver.pow10 (flowDecimals.toNat + 0)))).isSome
        ∧ (FloatArith.toInt32 (FloatArith.mul value (FloatArith.literal 1000))).isSome
  | setReferenceTemperatureC c =>
      (FloatArith.lt c (FloatArith.literal 0) || FloatArith.lt (FloatArith.literal 30) c) = true
        ∨ (FloatArith.toUInt16 (FloatArith.mul c (FloatArith.literal 100))).isSome
  | discoverPresentAddresses presentBitmap bitmapBytes _ _ _ =>
      ∀ bitmap, presentBitmap = some bitmap → bitmapBytes ≤ bitmap.length
  | readHoldingRegisters _ out count => Driver.Holds out count
  | writeMultipleRegisters _ regs count => Driver.Holds regs count
  | _ => True

/-- An operation that returns, as a call. -/
theorem exists_pack {α : Type} {r : Option (α × Session σ)} (h : ∃ a, r = some a)
    (reply : α → Reply F) : ∃ b, pack reply r = some b := by
  obtain ⟨a, rfl⟩ := h
  exact ⟨_, rfl⟩

end Call

namespace Driver

variable {F σ : Type} [FloatArith F] (uart : Uart σ) (s : Session σ)

/-- A guard that returns early still returns. -/
theorem exists_guard {α : Type} {c : Prop} [Decidable c] {a : α} {r : Option α}
    (h : ¬ c → ∃ b, r = some b) : ∃ b, (if c then some a else r) = some b := by
  by_cases hc : c
  · exact ⟨a, if_pos hc⟩
  · rw [if_neg hc]
    exact h hc

/-- Fourteen words have all the positions `ReadMeasurement` decodes. -/
theorem exists_decodeMeasurement {regs : List U16} (h : regs.length = 14) :
    ∃ v, decodeMeasurement (F := F) (some regs) = some v := by
  match regs, h with
  | [_, _, _, _, _, _, _, _, _, _, _, _, _, _], _ => exact ⟨_, rfl⟩

/-- Ten words have all the positions `ReadInstantaneous` decodes. -/
theorem exists_decodeInstantaneous (d : U8) {regs : List U16} (h : regs.length = 10) :
    ∃ v, decodeInstantaneous (F := F) (some regs) d = some v := by
  match regs, h with
  | [_, _, _, _, _, _, _, _, _, _], _ => exact ⟨_, rfl⟩

/-- The two words of a 32-bit value are two. -/
theorem holds_splitWords (v : U32) : Holds (some (splitWords v)) 2 :=
  (holds_some_iff _ _).mpr le_rfl

/-- `SetReferenceTemperatureC` converts only what its range test lets through. -/
theorem exists_setReferenceTemperatureC {c : F}
    (h : (FloatArith.lt c (FloatArith.literal 0) || FloatArith.lt (FloatArith.literal 30) c) = true
      ∨ (FloatArith.toUInt16 (FloatArith.mul c (FloatArith.literal 100))).isSome) :
    ∃ r, setReferenceTemperatureC uart c s = some r := by
  refine exists_guard fun hrange => ?_
  obtain ⟨raw, hraw⟩ := Option.isSome_iff_exists.mp (h.resolve_left hrange)
  rw [hraw]
  exact exists_writeSingleRegister uart _ s raw

/-- `SetSetpoint` returns when both its conversions do. -/
theorem exists_setSetpoint {value : F} {d : U8}
    (hscaled : (FloatArith.toInt32 (FloatArith.mul value (pow10 (d.toNat + 0)))).isSome)
    (hraw : (FloatArith.toInt32 (FloatArith.mul value (FloatArith.literal 1000))).isSome) :
    ∃ r, setSetpoint uart value d s = some r := by
  obtain ⟨scaled, hscaled⟩ := Option.isSome_iff_exists.mp hscaled
  obtain ⟨raw, hraw⟩ := Option.isSome_iff_exists.mp hraw
  rw [setSetpoint, hscaled, hraw, Option.bind_eq_bind, Option.bind_some, Option.bind_some]
  exact exists_writeMultipleRegisters uart _ s (holds_splitWords raw)

/-- `SetModbusAddress` returns. -/
theorem exists_setModbusAddress (newAddress : U8) :
    ∃ r, setModbusAddress uart newAddress s = some r := by
  refine exists_guard fun _ => ?_
  obtain ⟨⟨rc, s'⟩, hwrite⟩ :=
    exists_writeSingleRegister uart Reg.modbusAddress s (newAddress.setWidth 16)
  rw [hwrite]
  by_cases hok : rc.ok
  · exact ⟨_, if_pos hok⟩
  · exact ⟨_, if_neg hok⟩

/-- `DiscoverPresentAddresses` returns on a bitmap that is as long as it is said to be. -/
theorem exists_discoverPresentAddresses {bitmap : Option (List U8)} {bytes : ℕ}
    (hroom : ∀ buf, bitmap = some buf → bytes ≤ buf.length) (timeoutMs : U16) (first last : U8) :
    ∃ r, discoverPresentAddresses uart bitmap bytes timeoutMs first last s = some r := by
  by_cases hvalid : bitmap.isNone ∨ bytes < 32
  · exact ⟨_, if_pos hvalid⟩
  · obtain ⟨hsome, hbytes⟩ := not_or.mp hvalid
    cases bitmap with
    | none => exact absurd rfl hsome
    | some buf =>
      obtain ⟨_, _, -, h⟩ := discoverPresentAddresses_eq uart (Nat.not_lt.mp hbytes) (hroom buf rfl)
        timeoutMs first last s
      exact ⟨_, h⟩

end Driver

namespace Call

variable {F σ : Type} [FloatArith F]

/-- **Every defined call returns.** -/
theorem exists_exec (uart : Uart σ) {call : Call F} (h : call.Defined) (s : Session σ) :
    ∃ r, call.exec uart s = some r := by
  cases call with
  | setTimeoutMs | getTimeoutMs | setAddress | getAddress => exact ⟨_, rfl⟩
  | readInstantaneous flowDecimals =>
    refine exists_pack ?_ _
    rw [readInstantaneous_eq_readDecode]
    have hdecode : ∀ regs : List U16, regs.length = (10 : U8).toNat →
        ∃ v, Driver.decodeInstantaneous (F := F) (some regs) flowDecimals = some v :=
      fun _ h => Driver.exists_decodeInstantaneous flowDecimals h
    exact Driver.exists_readDecode uart (by decide) (by decide) hdecode s
  | readMeasurement =>
    refine exists_pack ?_ _
    rw [readMeasurement_eq_readDecode]
    have hdecode : ∀ regs : List U16, regs.length = (14 : U8).toNat →
        ∃ v, Driver.decodeMeasurement (F := F) (some regs) = some v :=
      fun _ h => Driver.exists_decodeMeasurement h
    exact Driver.exists_readDecode uart (by decide) (by decide) hdecode s
  | readIdentity => exact exists_pack ⟨_, readIdentity_eq uart s⟩ _
  | setSetpoint value flowDecimals =>
    exact exists_pack (Driver.exists_setSetpoint uart s h.1 h.2) _
  | setReferenceTemperatureC c =>
    exact exists_pack (Driver.exists_setReferenceTemperatureC uart s h) _
  | setCommWatchdogMs ms | setFlowAveragingMs ms | setAsciiUnitId ms =>
    exact exists_pack (Driver.exists_guard fun _ => Driver.exists_writeSingleRegister uart _ s _) _
  | setMaxSetpointRamp value | setTotalizerBatch value =>
    exact exists_pack
      (Driver.exists_writeMultipleRegisters uart _ s (Driver.holds_splitWords value)) _
  | setModbusAddress newAddress => exact exists_pack (Driver.exists_setModbusAddress uart s newAddress) _
  | discoverPresentAddresses bitmap bytes timeoutMs first last =>
    rw [exec]
    exact exists_pack (Driver.exists_discoverPresentAddresses uart s h timeoutMs first last) _
  | readHoldingRegisters regAddr out count =>
    rw [exec]
    exact exists_pack (Driver.exists_readHoldingRegisters uart regAddr s h) _
  | writeMultipleRegisters regAddr regs count =>
    exact exists_pack (Driver.exists_writeMultipleRegisters uart regAddr s h) _
  | _ => exact exists_pack (Driver.exists_writeSingleRegister uart _ s _) _

end Call

end AlicatBasis2
