import AlicatBasis2.Operations.Scaling
import AlicatBasis2.Transactions.Bounds

/-! # The two conversions of `SetSetpoint`

`SetSetpoint` sends the setpoint in thousandths, and before that converts it scaled by the power of ten of
`flow_decimals` as well, into a variable nothing reads. Either conversion is undefined for a value outside
the range of `int32_t`, so a setpoint that is representable on the wire is sent exactly when the other
scaling is representable too. -/

namespace AlicatBasis2

open Modbus

/-- A number whose truncation fits a signed 32-bit integer. -/
def FitsInt32 (x : ℚ) : Prop := -2 ^ 31 ≤ truncate x ∧ truncate x < 2 ^ 31

instance (x : ℚ) : Decidable (FitsInt32 x) := inferInstanceAs (Decidable (_ ∧ _))

namespace Driver

/-- A conversion to `int32_t` is defined exactly on the numbers that fit. -/
theorem toInt32_eq (x : ℚ) :
    (FloatArith.toInt32 x : Option U32)
      = if FitsInt32 x then some (BitVec.ofInt 32 (truncate x)) else none := rfl

/-- The two words of a 32-bit value, high word first. -/
theorem splitWords_eq (v : U32) : splitWords v = [v.extractLsb' 16 16, v.extractLsb' 0 16] := by
  have hmask : ∀ x : U32, (x &&& 0xFFFF).setWidth 16 = x.setWidth 16 := by
    intro x
    apply BitVec.eq_of_getLsbD_eq
    intro i hi
    have hbit : (0xFFFF : U32).getLsbD i = true := by
      have hall : ∀ j < 16, (0xFFFF : U32).getLsbD j = true := by decide
      exact hall i hi
    rw [BitVec.getLsbD_setWidth, BitVec.getLsbD_and, hbit, Bool.and_true, BitVec.getLsbD_setWidth]
  have hhigh : (v >>> 16).setWidth 16 = v.extractLsb' 16 16 := by
    apply BitVec.eq_of_getLsbD_eq
    intro i hi
    simp [hi]
  have hlow : v.setWidth 16 = v.extractLsb' 0 16 := by
    apply BitVec.eq_of_getLsbD_eq
    intro i hi
    simp [hi]
  rw [splitWords, hmask, hmask, hhigh, hlow]

variable {σ : Type} (uart : Uart σ)

/-- `SetSetpoint` has a result when both conversions have one. -/
theorem setSetpoint_eq (v : ℚ) (d : U8) (s : Session σ) :
    setSetpoint uart v d s
      = if FitsInt32 (v * 10 ^ d.toNat) then
          if FitsInt32 (v * 1000) then
            writeMultipleRegisters uart Reg.setpointCommand
              (some (splitWords (BitVec.ofInt 32 (truncate (v * 1000))))) 2 s
          else none
        else none := by
  have hscaled : (FloatArith.mul v (pow10 (d.toNat + 0)) : ℚ) = v * 10 ^ d.toNat :=
    congrArg (v * ·) (pow10_eq d.toNat)
  have hraw : (FloatArith.mul v (FloatArith.literal 1000) : ℚ) = v * 1000 := rfl
  rw [setSetpoint, hscaled, hraw, toInt32_eq, toInt32_eq]
  by_cases hfits : FitsInt32 (v * 10 ^ d.toNat)
  · rw [if_pos hfits, if_pos hfits, Option.bind_eq_bind, Option.bind_some]
    by_cases hwire : FitsInt32 (v * 1000)
    · rw [if_pos hwire, if_pos hwire, Option.bind_some]
    · rw [if_neg hwire, if_neg hwire, Option.bind_none]
  · rw [if_neg hfits, if_neg hfits, Option.bind_eq_bind, Option.bind_none]

/-- A write of two registers sends its request once and nothing else. -/
theorem writeMultipleRegisters_pair (regAddr hi lo : U16) (s : Session σ) :
    ∃ result s' after, writeMultipleRegisters uart regAddr (some [hi, lo]) 2 s = some (result, s')
      ∧ s'.trace = s.trace ++ .flushRx ::
        .write (writeMultipleRequest s.driver.address regAddr 2 [hi, lo]) :: after
      ∧ ∀ frame, .write frame ∉ after := by
  have hpos : 0 < (2 : U8).toNat := by decide
  by_cases haddr : s.driver.address = kBroadcastAddress
  · refine ⟨_, _, [], writeMultipleRegisters_of_broadcast uart regAddr hpos (by decide) le_rfl haddr,
      rfl, fun _ => List.not_mem_nil⟩
  · refine ⟨_, _, [_], writeMultipleRegisters_eq uart regAddr hpos (by decide) le_rfl haddr rfl, rfl,
      fun frame h => ?_⟩
    cases List.mem_singleton.mp h

/-- **`SetSetpoint` on a representable setpoint.** In exact arithmetic, for every setpoint whose thousandths
truncate into a signed 32-bit integer, all flow decimals and every UART: the call has no conversion out of
range and sends the function-16 request for registers 2053 and 2054 with the two's complement of the
thousandths, high word first, exactly when the setpoint scaled by the power of ten fits as well. -/
theorem setpoint_sent_iff (s : Session σ) (v : ℚ) (d : U8) (hv : FitsInt32 (1000 * v)) :
    (∃ result s' after, setSetpoint uart v d s = some (result, s')
        ∧ s'.trace = s.trace ++ .flushRx :: .write (withCrc ([s.driver.address, 0x10, 0x08, 0x05, 0, 2, 4]
          ++ payload [(BitVec.ofInt 32 (truncate (1000 * v))).extractLsb' 16 16,
            (BitVec.ofInt 32 (truncate (1000 * v))).extractLsb' 0 16])) :: after
        ∧ ∀ frame, .write frame ∉ after)
      ↔ FitsInt32 (v * 10 ^ d.toNat) := by
  rw [mul_comm] at hv ⊢
  rw [setSetpoint_eq]
  by_cases hscaled : FitsInt32 (v * 10 ^ d.toNat)
  · rw [if_pos hscaled, if_pos hv, splitWords_eq]
    exact iff_of_true (writeMultipleRegisters_pair uart _ _ _ s) hscaled
  · rw [if_neg hscaled]
    refine iff_of_false ?_ hscaled
    rintro ⟨_, _, _, h, -⟩
    cases h

/-- Minus twelve and a half with three decimals. -/
theorem setpoint_sent_iff_negative :
    ∃ result s' after, setSetpoint (Uart.constant []) (-25 / 2 : ℚ) 3 (constructDefault () 1)
        = some (result, s')
      ∧ s'.trace = .flushRx :: .write (withCrc [1, 0x10, 0x08, 0x05, 0, 2, 4, 0xFF, 0xFF, 0xCF, 0x2C])
        :: after := by
  obtain ⟨result, s', after, hcall, htrace, -⟩ :=
    (setpoint_sent_iff (Uart.constant []) (constructDefault () 1) (-25 / 2) 3 (by decide +kernel)).mpr
      (by decide +kernel)
  refine ⟨result, s', after, hcall, htrace.trans ?_⟩
  have hbytes : payload [(BitVec.ofInt 32 (truncate (1000 * (-25 / 2)))).extractLsb' 16 16,
      (BitVec.ofInt 32 (truncate (1000 * (-25 / 2)))).extractLsb' 0 16]
        = [0xFF, 0xFF, 0xCF, 0x2C] := by decide +kernel
  rw [hbytes]
  rfl

/-- A setpoint of one with ten decimals is 1000 on the wire, and is never sent: its unused scaling is ten
thousand million. -/
theorem setpoint_of_one_undefined :
    FitsInt32 (1000 * 1)
      ∧ setSetpoint (Uart.constant []) (1 : ℚ) 10 (constructDefault () 1) = none := by
  constructor <;> decide +kernel

end Driver

end AlicatBasis2
