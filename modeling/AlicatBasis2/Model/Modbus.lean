import AlicatBasis2.Model.Registers

/-! # Modbus-RTU framing

The CRC, the request builders and the response parsers of `alicat_basis2_modbus.hpp`. A pointer to a
buffer is the list of the buffer's elements, and every array access is checked: a function whose access
falls outside the buffer has no result (`none`), which is how the model renders undefined behaviour. A
buffer that a function writes is returned as it stands on exit. -/

namespace AlicatBasis2

/-! ## Checked buffers and bytes of a word -/

/-- `buf[i] = v`, with the bound checked. -/
def store {α : Type} (buf : List α) (i : ℕ) (v : α) : Option (List α) :=
  if i < buf.length then some (buf.set i v) else none

/-- `static_cast<uint8_t>((w >> 8) & 0xFFU)`. -/
def highByte (w : U16) : U8 := ((w >>> 8) &&& 0xFF).setWidth 8

/-- `static_cast<uint8_t>(w & 0xFFU)`. -/
def lowByte (w : U16) : U8 := (w &&& 0xFF).setWidth 8

/-- `(static_cast<uint16_t>(high) << 8) | low`. -/
def joinBytes (high low : U8) : U16 := (high.setWidth 16 <<< 8) ||| low.setWidth 16

/-- A store inside the buffer replaces the element. -/
theorem store_of_lt {α : Type} {buf : List α} {i : ℕ} (h : i < buf.length) (v : α) :
    store buf i v = some (buf.set i v) := if_pos h

/-- Widening a byte keeps its number. -/
theorem toNat_widen (b : U8) : (b.setWidth 16).toNat = b.toNat :=
  BitVec.toNat_setWidth_of_le (Nat.le_add_left 8 8)

/-- Masking before a narrowing cast changes nothing. -/
theorem setWidth_and_mask (w : U16) : (w &&& 0xFF).setWidth 8 = w.setWidth 8 := by
  apply BitVec.eq_of_getLsbD_eq
  intro i hi
  have hmask : (0xFF : U16).getLsbD i = decide (i < 8) := by
    rw [show (0xFF : U16) = BitVec.ofNat 16 (2 ^ 8 - 1) from rfl, BitVec.getLsbD_ofNat,
      Nat.testBit_two_pow_sub_one]
    simp only [Bool.and_eq_right_iff_imp, decide_eq_true_eq]
    omega
  simp only [BitVec.getLsbD_setWidth, BitVec.getLsbD_and, hmask, hi, decide_true, Bool.and_true]

/-- The low byte is a narrowing cast. -/
theorem lowByte_eq (w : U16) : lowByte w = w.setWidth 8 := setWidth_and_mask w

/-- The high byte is a shift and a narrowing cast. -/
theorem highByte_eq (w : U16) : highByte w = (w >>> 8).setWidth 8 := setWidth_and_mask _

/-- `lowByte (high << 8 | low) = low`. -/
@[simp] theorem lowByte_joinBytes (high low : U8) : lowByte (joinBytes high low) = low := by
  apply BitVec.eq_of_getLsbD_eq
  intro i hi
  simp [lowByte_eq, joinBytes, hi]

/-- `highByte (high << 8 | low) = high`. -/
@[simp] theorem highByte_joinBytes (high low : U8) : highByte (joinBytes high low) = high := by
  apply BitVec.eq_of_getLsbD_eq
  intro i hi
  simp [highByte_eq, joinBytes, hi, show 8 + i < 16 by omega, show i < 16 by omega]

/-- `highByte w << 8 | lowByte w = w`. -/
@[simp] theorem joinBytes_highByte_lowByte (w : U16) : joinBytes (highByte w) (lowByte w) = w := by
  apply BitVec.eq_of_getLsbD_eq
  intro i hi
  by_cases h : i < 8
  · simp [highByte_eq, lowByte_eq, joinBytes, hi, h]
  · simp [highByte_eq, lowByte_eq, joinBytes, hi, h, show i - 8 < 8 by omega,
      show 8 + (i - 8) = i by omega]

/-- A word is determined by its two bytes. -/
theorem joinBytes_eq_iff (high low : U8) (w : U16) :
    joinBytes high low = w ↔ high = highByte w ∧ low = lowByte w := by
  constructor
  · rintro rfl
    simp
  · rintro ⟨rfl, rfl⟩
    simp

namespace Modbus

/-! ## CRC-16 -/

/-- One pass of the inner loop of `Crc16`. -/
def crcBit (crc : U16) : U16 :=
  if crc &&& 0x0001 ≠ 0 then (crc >>> 1) ^^^ 0xA001 else crc >>> 1

/-- One pass of the outer loop of `Crc16`: fold a byte in, then eight passes of the inner loop. -/
def crcByte (crc : U16) (byte : U8) : U16 :=
  (List.range 8).foldl (fun crc _ => crcBit crc) (crc ^^^ byte.setWidth 16)

/-- `Crc16(data, length)`. -/
def crc16 (data : List U8) (length : ℕ) : Option U16 :=
  (List.range length).foldlM (fun crc i => do
    let byte ← data[i]?
    return crcByte crc byte) 0xFFFF

/-- `AppendCrc(frame, length)`: the new length and the frame with the CRC written behind the body. -/
def appendCrc (frame : List U8) (length : ℕ) : Option (ℕ × List U8) := do
  let crc ← crc16 frame length
  let frame ← store frame length (lowByte crc)
  let frame ← store frame (length + 1) (highByte crc)
  return (length + 2, frame)

/-- `CheckCrc(frame, length)`. -/
def checkCrc (frame : List U8) (length : ℕ) : Option Bool := do
  if length < 4 then return false
  let want ← crc16 frame (length - 2)
  let low ← frame[length - 2]?
  let high ← frame[length - 1]?
  return want == (low.setWidth 16 ||| (high.setWidth 16 <<< 8))

/-! ## Request builders

Each takes the output buffer, whose length is the capacity, and returns the frame length (`0` when the
buffer is too small) beside the buffer. -/

/-- The two builders with a fixed six-byte body: unit, function, register and one more word. -/
def buildFixed (unitAddr function : U8) (regAddr word : U16) (out : List U8) :
    Option (ℕ × List U8) := do
  if out.length < 8 then return (0, out)
  let out ← store out 0 unitAddr
  let out ← store out 1 function
  let out ← store out 2 (highByte regAddr)
  let out ← store out 3 (lowByte regAddr)
  let out ← store out 4 (highByte word)
  let out ← store out 5 (lowByte word)
  appendCrc out 6

/-- `BuildReadHolding`. -/
def buildReadHolding (unitAddr : U8) (regAddr regCount : U16) (out : List U8) :
    Option (ℕ × List U8) :=
  buildFixed unitAddr Reg.Fn.readHolding regAddr regCount out

/-- `BuildWriteSingle`. -/
def buildWriteSingle (unitAddr : U8) (regAddr value : U16) (out : List U8) :
    Option (ℕ × List U8) :=
  buildFixed unitAddr Reg.Fn.writeSingle regAddr value out

/-- One pass of the payload loop of `BuildWriteMultiple`. -/
def putWord (regs : List U16) (out : List U8) (i : ℕ) : Option (List U8) := do
  let word ← regs[i]?
  let out ← store out (7 + i * 2) (highByte word)
  store out (7 + i * 2 + 1) (lowByte word)

/-- `BuildWriteMultiple`. The byte-count field is the doubled count truncated to a byte. -/
def buildWriteMultiple (unitAddr : U8) (regAddr : U16) (regs : List U16) (count : U8)
    (out : List U8) : Option (ℕ × List U8) := do
  let needed := 9 + count.toNat * 2
  if count = 0 ∨ out.length < needed then return (0, out)
  let out ← store out 0 unitAddr
  let out ← store out 1 Reg.Fn.writeMultiple
  let out ← store out 2 (highByte regAddr)
  let out ← store out 3 (lowByte regAddr)
  let out ← store out 4 (highByte (count.setWidth 16))
  let out ← store out 5 (lowByte (count.setWidth 16))
  let out ← store out 6 (count * 2)
  let out ← (List.range count.toNat).foldlM (putWord regs) out
  appendCrc out (7 + count.toNat * 2)

/-! ## Response parsers

The frame is a buffer with a length of valid bytes, as in the source; the tests stand in the order of
the source. -/

/-- One pass of the payload loop of `ParseReadHolding`. -/
def getWord (frame : List U8) (regs : List U16) (i : ℕ) : Option (List U16) := do
  let high ← frame[3 + i * 2]?
  let low ← frame[3 + i * 2 + 1]?
  store regs i (joinBytes high low)

/-- `ParseReadHolding`: the verdict and the caller's `regs`. -/
def parseReadHolding (frame : List U8) (length : ℕ) (expectedAddr expectedCount : U8)
    (regs : List U16) : Option (DriverError × List U16) := do
  if length < 5 then return (.invalidFrame, regs)
  if !(← checkCrc frame length) then return (.badCrc, regs)
  if (← frame[0]?) ≠ expectedAddr then return (.responseMismatch, regs)
  if (← frame[1]?) &&& Reg.Fn.exceptionMask ≠ 0 then return (.modbusException, regs)
  if (← frame[1]?) ≠ Reg.Fn.readHolding then return (.responseMismatch, regs)
  let byteCount := (← frame[2]?).toNat
  if byteCount ≠ expectedCount.toNat * 2 then return (.invalidFrame, regs)
  if length < 3 + byteCount + 2 then return (.invalidFrame, regs)
  let regs ← (List.range expectedCount.toNat).foldlM (getWord frame) regs
  return (.none, regs)

/-- The comparison loop of `ParseWriteSingleEcho` from byte `i` on, over `remaining` bytes. -/
def compareEcho (frame request : List U8) : ℕ → ℕ → Option DriverError
  | _, 0 => return .none
  | i, remaining + 1 => do
      if (← frame[i]?) ≠ (← request[i]?) then return .responseMismatch
      compareEcho frame request (i + 1) remaining

/-- `ParseWriteSingleEcho`. -/
def parseWriteSingleEcho (frame : List U8) (length : ℕ) (request : List U8) (reqLen : ℕ) :
    Option DriverError := do
  if length < reqLen then return .invalidFrame
  if !(← checkCrc frame length) then return .badCrc
  if (← frame[0]?) ≠ (← request[0]?) then return .responseMismatch
  if (← frame[1]?) &&& Reg.Fn.exceptionMask ≠ 0 then return .modbusException
  compareEcho frame request 0 reqLen

/-- `ParseWriteMultipleEcho`. -/
def parseWriteMultipleEcho (frame : List U8) (length : ℕ) (expectedAddr : U8)
    (expectedRegAddr expectedCount : U16) : Option DriverError := do
  if length < 8 then return .invalidFrame
  if !(← checkCrc frame length) then return .badCrc
  if (← frame[0]?) ≠ expectedAddr then return .responseMismatch
  if (← frame[1]?) &&& Reg.Fn.exceptionMask ≠ 0 then return .modbusException
  if (← frame[1]?) ≠ Reg.Fn.writeMultiple then return .responseMismatch
  let gotAddr := joinBytes (← frame[2]?) (← frame[3]?)
  let gotCnt := joinBytes (← frame[4]?) (← frame[5]?)
  if gotAddr ≠ expectedRegAddr then return .responseMismatch
  if gotCnt ≠ expectedCount then return .responseMismatch
  return .none

end Modbus

end AlicatBasis2
