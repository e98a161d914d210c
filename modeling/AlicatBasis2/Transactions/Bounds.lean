import AlicatBasis2.Transactions.Acceptance

/-! # Every access is inside its buffer

An access outside a buffer has no result, so a function that has one has accessed its buffers inside their
bounds. The raw primitives have a result for every address, every count and every UART, given only that the
caller's array holds as many words as the count says; the parsers that take a frame of any length have one
for every frame. -/

namespace AlicatBasis2

open Modbus

namespace Driver

/-- The array of the caller, where there is one, holds as many words as the count says. -/
def Holds (p : Option (List U16)) (count : U8) : Prop := ∀ buf, p = some buf → count.toNat ≤ buf.length

/-- An array that is there holds the count exactly when it is that long. -/
@[simp] theorem holds_some_iff (buf : List U16) (count : U8) :
    Holds (some buf) count ↔ count.toNat ≤ buf.length := by
  constructor
  · intro h
    exact h buf rfl
  · rintro h _ ⟨rfl⟩
    exact h

variable {σ : Type} (uart : Uart σ) (regAddr : U16) (s : Session σ)

/-- `ReadHoldingRegisters` stays inside its buffers. -/
theorem exists_readHoldingRegisters {out : Option (List U16)} {count : U8} (hout : Holds out count) :
    ∃ r, readHoldingRegisters uart regAddr out count s = some r := by
  by_cases hvalid : out.isNone ∨ count = 0 ∨ count > 125
  · exact ⟨_, readHoldingRegisters_of_invalid uart regAddr hvalid s⟩
  · obtain ⟨buf, rfl, hpos, hle⟩ := not_invalid_iff.mp hvalid
    rcases Nat.lt_or_ge 32 count.toNat with hgt | hbuf
    · exact ⟨_, readHoldingRegisters_of_oversize uart regAddr buf hgt hle s⟩
    · exact ⟨_, readHoldingRegisters_eq uart regAddr hpos hbuf (hout buf rfl) rfl⟩

/-- `WriteSingleRegister` stays inside its buffers. -/
theorem exists_writeSingleRegister (value : U16) :
    ∃ r, writeSingleRegister uart regAddr value s = some r := by
  by_cases haddr : s.driver.address = kBroadcastAddress
  · exact ⟨_, writeSingleRegister_of_broadcast uart regAddr value haddr⟩
  · exact ⟨_, writeSingleRegister_eq uart regAddr value haddr rfl⟩

/-- `WriteMultipleRegisters` stays inside its buffers. -/
theorem exists_writeMultipleRegisters {regs : Option (List U16)} {count : U8}
    (hregs : Holds regs count) : ∃ r, writeMultipleRegisters uart regAddr regs count s = some r := by
  by_cases hvalid : regs.isNone ∨ count = 0 ∨ count > 32
  · exact ⟨_, writeMultipleRegisters_of_invalid uart regAddr hvalid s⟩
  · obtain ⟨buf, rfl, hpos, hle⟩ := not_invalid_iff.mp hvalid
    by_cases haddr : s.driver.address = kBroadcastAddress
    · exact ⟨_, writeMultipleRegisters_of_broadcast uart regAddr hpos hle (hregs buf rfl) haddr⟩
    · exact ⟨_, writeMultipleRegisters_eq uart regAddr hpos hle (hregs buf rfl) haddr rfl⟩

end Driver

/-- **No access outside a buffer.** For every UART within its read contract, every driver state, register,
count and arrays that hold the count, the three raw primitives access their transmit, receive and caller's
buffers inside their bounds, through the builders, the CRC and the parsers; `ParseReadHolding` and
`ParseWriteMultipleEcho` on a frame of any length access it before its end. -/
theorem accesses_in_bounds {σ : Type} (uart : Uart σ) (s : Session σ) (regAddr value : U16)
    (count : U8) (out regs : Option (List U16)) (hout : Driver.Holds out count)
    (hregs : Driver.Holds regs count) :
    (∃ r, Driver.readHoldingRegisters uart regAddr out count s = some r)
      ∧ (∃ r, Driver.writeSingleRegister uart regAddr value s = some r)
      ∧ (∃ r, Driver.writeMultipleRegisters uart regAddr regs count s = some r)
      ∧ (∀ (frame : List U8) (addr expected : U8) (buf : List U16), expected.toNat ≤ buf.length →
          ∃ r, parseReadHolding frame frame.length addr expected buf = some r)
      ∧ (∀ (frame : List U8) (addr : U8) (expected : U16),
          ∃ r, parseWriteMultipleEcho frame frame.length addr regAddr expected = some r) := by
  refine ⟨?_, ?_, ?_, ?_, ?_⟩
  · exact Driver.exists_readHoldingRegisters uart regAddr s hout
  · exact Driver.exists_writeSingleRegister uart regAddr s value
  · exact Driver.exists_writeMultipleRegisters uart regAddr s hregs
  · intro frame addr expected buf hbuf
    exact ⟨_, parseReadHolding_eq addr expected le_rfl hbuf⟩
  · intro frame addr expected
    exact ⟨_, parseWriteMultipleEcho_eq addr regAddr expected le_rfl⟩

/-- A UART that answers with ones, a read and a write of two registers, and a parser that expects more
registers than a byte count can name. -/
theorem accesses_in_bounds_pair :
    (∃ r, Driver.readHoldingRegisters (Uart.constant (List.replicate 9 1)) 25 (some [0, 0]) 2
        (Driver.constructDefault () 1) = some r)
      ∧ (∃ r, Driver.writeMultipleRegisters (Uart.constant (List.replicate 9 1)) 25 (some [7, 8]) 2
        (Driver.constructDefault () 1) = some r)
      ∧ ∃ r, parseReadHolding [1, 3, 254] 3 1 255 (List.replicate 255 0) = some r := by
  obtain ⟨hread, -, hwrite, hparse, -⟩ := accesses_in_bounds (Uart.constant (List.replicate 9 1))
    (Driver.constructDefault () 1) 25 0 2 (some [0, 0]) (some [7, 8])
    ((Driver.holds_some_iff _ _).mpr (by decide)) ((Driver.holds_some_iff _ _).mpr (by decide))
  exact ⟨hread, hwrite, hparse [1, 3, 254] 1 255 (List.replicate 255 0)
    (List.length_replicate ▸ le_rfl)⟩

end AlicatBasis2
