import AlicatBasis2.Frames.Grammar
import AlicatBasis2.Transactions.Exchange

/-! # The raw operations as one

A raw operation is determined by its request, the length of its standard reply and its verdict on the
received bytes. The verdict is `None` on exactly one kind of string, the standard reply to the request, and
`Timeout` on the empty string alone. -/

namespace AlicatBasis2

open Modbus

/-- A call of one of the three raw Modbus primitives with its arguments. -/
inductive RawOp
  | read (regAddr : U16) (out : List U16) (count : U8)
  | writeSingle (regAddr value : U16)
  | writeMultiple (regAddr : U16) (regs : List U16) (count : U8)
  deriving DecidableEq, Repr

namespace RawOp

/-- Counts the driver admits, on arrays of at least that length. -/
def InRange : RawOp → Prop
  | read _ out count => 0 < count.toNat ∧ count.toNat ≤ 32 ∧ count.toNat ≤ out.length
  | writeSingle _ _ => True
  | writeMultiple _ regs count => 0 < count.toNat ∧ count.toNat ≤ 32 ∧ count.toNat ≤ regs.length

instance : DecidablePred InRange
  | read _ _ _ => inferInstanceAs (Decidable (_ ∧ _ ∧ _))
  | writeSingle _ _ => inferInstanceAs (Decidable True)
  | writeMultiple _ _ _ => inferInstanceAs (Decidable (_ ∧ _ ∧ _))

/-- The array of the caller holds as many words as the count says. -/
def Backed : RawOp → Prop
  | read _ out count => count.toNat ≤ out.length
  | writeSingle _ _ => True
  | writeMultiple _ regs count => count.toNat ≤ regs.length

instance : DecidablePred Backed
  | read _ _ _ => inferInstanceAs (Decidable (_ ≤ _))
  | writeSingle _ _ => inferInstanceAs (Decidable True)
  | writeMultiple _ _ _ => inferInstanceAs (Decidable (_ ≤ _))

/-- Counts the parameter tests refuse. -/
def Refused : RawOp → Prop
  | read _ _ count => count = 0 ∨ count > 125
  | writeSingle _ _ => False
  | writeMultiple _ _ count => count = 0 ∨ count > 32

/-- Operations that send their request: a read passes its parameter test with up to 125 registers, of which
the receive buffer holds 32. -/
def Transmits : RawOp → Prop
  | read _ _ count => 0 < count.toNat ∧ count.toNat ≤ 125
  | writeSingle _ _ => True
  | writeMultiple _ regs count => 0 < count.toNat ∧ count.toNat ≤ 32 ∧ count.toNat ≤ regs.length

/-- What the buffers hold is sent. -/
theorem InRange.transmits {op : RawOp} (h : op.InRange) : op.Transmits := by
  cases op with
  | read regAddr out count => exact ⟨h.1, h.2.1.trans (Nat.le_add_left 32 93)⟩
  | writeSingle regAddr value => trivial
  | writeMultiple regAddr regs count => exact h

/-- A call is refused, or it sends its request. -/
theorem Backed.refused_or_transmits {op : RawOp} (h : op.Backed) : op.Refused ∨ op.Transmits := by
  have hpos : ∀ count : U8, count ≠ 0 → 0 < count.toNat := fun count hne =>
    Nat.pos_of_ne_zero fun hzero => hne (BitVec.eq_of_toNat_eq hzero)
  cases op with
  | read regAddr out count =>
    by_cases hrefused : (read regAddr out count).Refused
    · exact Or.inl hrefused
    · obtain ⟨hne, hle⟩ := not_or.mp hrefused
      exact Or.inr ⟨hpos count hne, not_lt.mp hle⟩
  | writeSingle regAddr value => exact Or.inr trivial
  | writeMultiple regAddr regs count =>
    by_cases hrefused : (writeMultiple regAddr regs count).Refused
    · exact Or.inl hrefused
    · obtain ⟨hne, hle⟩ := not_or.mp hrefused
      exact Or.inr ⟨hpos count hne, not_lt.mp hle, h⟩

/-- The caller's buffer; a write has none. -/
def buffer : RawOp → List U16
  | read _ out _ => out
  | writeSingle _ _ => []
  | writeMultiple _ _ _ => []

/-- The function code of the request. -/
def function : RawOp → U8
  | read _ _ _ => Reg.Fn.readHolding
  | writeSingle _ _ => Reg.Fn.writeSingle
  | writeMultiple _ _ _ => Reg.Fn.writeMultiple

/-- The call itself: the error code reported and the caller's buffer on return. -/
def exec {σ : Type} (uart : Uart σ) :
    RawOp → Session σ → Option ((DriverError × List U16) × Session σ)
  | read regAddr out count, s => do
      let ((rc, out), s) ← Driver.readHoldingRegisters uart regAddr (some out) count s
      return ((rc, ← out), s)
  | writeSingle regAddr value, s => do
      let (rc, s) ← Driver.writeSingleRegister uart regAddr value s
      return ((rc.error, []), s)
  | writeMultiple regAddr regs count, s => do
      let (rc, s) ← Driver.writeMultipleRegisters uart regAddr (some regs) count s
      return ((rc.error, []), s)

/-- The request a call sends to unit `addr`. -/
def request (addr : U8) : RawOp → List U8
  | read regAddr _ count => readRequest addr regAddr (count.setWidth 16)
  | writeSingle regAddr value => writeSingleRequest addr regAddr value
  | writeMultiple regAddr regs count =>
      writeMultipleRequest addr regAddr count (regs.take count.toNat)

/-- The number of bytes a call asks its UART for. -/
def replyLength : RawOp → ℕ
  | read _ _ count => 5 + 2 * count.toNat
  | writeSingle _ _ => 8
  | writeMultiple _ _ _ => 8

/-- The error code a call reports for the bytes it received. -/
def outcome (addr : U8) (b : List U8) : RawOp → DriverError
  | read _ _ count => Driver.readOutcome addr count b
  | writeSingle regAddr value => Driver.writeSingleOutcome addr regAddr value b
  | writeMultiple regAddr _ count =>
      Driver.writeMultipleOutcome addr regAddr (count.setWidth 16) b

/-- The caller's buffer on return. -/
def output (addr : U8) (b : List U8) : RawOp → List U16
  | read _ out count =>
      if Driver.readOutcome addr count b = .none
      then replyWords b count.toNat ++ out.drop count.toNat else out
  | writeSingle _ _ => []
  | writeMultiple _ _ _ => []

section Exchange

variable {σ : Type} (uart : Uart σ)

/-- The bytes the UART delivers for a call. -/
def delivered (op : RawOp) (s : Session σ) : List U8 :=
  s.reply uart (op.request s.driver.address) op.replyLength

/-- The session a call leaves. -/
def finished (op : RawOp) (s : Session σ) : Session σ :=
  s.exchange uart (op.request s.driver.address) op.replyLength

/-- No more bytes are delivered than the standard reply has. -/
theorem length_delivered_le (op : RawOp) (s : Session σ) :
    (op.delivered uart s).length ≤ op.replyLength := Session.length_reply_le uart _ _ _

/-- A call leaves the driver's fields. -/
@[simp] theorem finished_driver (op : RawOp) (s : Session σ) :
    (op.finished uart s).driver = s.driver := rfl

/-- A call flushes, writes its request and reads the delivered bytes, once each. -/
theorem finished_trace (op : RawOp) (s : Session σ) :
    (op.finished uart s).trace = s.trace ++ [.flushRx, .write (op.request s.driver.address),
      .read op.replyLength (s.driver.timeoutMs.setWidth 32) (op.delivered uart s)] := rfl

/-- **A raw operation is one exchange and its verdict.** -/
theorem exec_eq {op : RawOp} (hop : op.InRange) {s : Session σ}
    (haddr : s.driver.address ≠ kBroadcastAddress) :
    op.exec uart s
      = some ((op.outcome s.driver.address (op.delivered uart s),
          op.output s.driver.address (op.delivered uart s)), op.finished uart s) := by
  cases op with
  | read regAddr out count =>
    obtain ⟨hpos, hle, hout⟩ := hop
    rw [exec, Driver.readHoldingRegisters_eq uart regAddr hpos hle hout rfl]
    rfl
  | writeSingle regAddr value =>
    rw [exec, Driver.writeSingleRegister_eq uart regAddr value haddr rfl]
    rfl
  | writeMultiple regAddr regs count =>
    obtain ⟨hpos, hle, hregs⟩ := hop
    rw [exec, Driver.writeMultipleRegisters_eq uart regAddr hpos hle hregs haddr rfl]
    rfl

/-- A refused call leaves the UART alone. -/
theorem exec_of_refused {op : RawOp} (h : op.Refused) (s : Session σ) :
    op.exec uart s = some ((.invalidParameter, op.buffer), s) := by
  cases op with
  | read regAddr out count =>
    rw [exec, Driver.readHoldingRegisters_of_invalid uart regAddr (Or.inr h)]
    rfl
  | writeSingle regAddr value => exact absurd h id
  | writeMultiple regAddr regs count =>
    rw [exec, Driver.writeMultipleRegisters_of_invalid uart regAddr (Or.inr h)]
    rfl

/-- A read of more registers than the receive buffer holds ends after its request. -/
theorem exec_of_oversize {op : RawOp} (hsends : op.Transmits) (hback : op.Backed)
    (hsize : ¬ op.InRange) (s : Session σ) :
    op.exec uart s
      = some ((.bufferTooSmall, op.buffer), s.send uart (op.request s.driver.address)) := by
  cases op with
  | read regAddr out count =>
    obtain ⟨hpos, hle⟩ := hsends
    have hgt : 32 < count.toNat := not_le.mp fun h => hsize ⟨hpos, h, hback⟩
    rw [exec, Driver.readHoldingRegisters_of_oversize uart regAddr out hgt hle]
    rfl
  | writeSingle regAddr value => exact absurd trivial hsize
  | writeMultiple regAddr regs count => exact absurd hsends hsize

end Exchange

/-! ## Well-formed replies -/

/-- The one well-formed reply of unit `addr`: header, payload words and CRC for a read, the eight request
bytes for a single write, the request's header and CRC for a multiple write. -/
def IsReply (addr : U8) (b : List U8) : RawOp → Prop
  | read _ _ count =>
      ∃ words, words.length = count.toNat ∧ b = withCrc ([addr, 3, 2 * count] ++ payload words)
  | writeSingle regAddr value => b = writeSingleRequest addr regAddr value
  | writeMultiple regAddr _ count =>
      b = withCrc [addr, 0x10, highByte regAddr, lowByte regAddr, 0, count]

/-- The header of a function-3 reply in the count's own byte arithmetic. -/
theorem readReply_eq (addr : U8) {words : List U16} {count : U8} (h : words.length = count.toNat) :
    readReply addr words = withCrc ([addr, 3, 2 * count] ++ payload words) := by
  have hbytes : BitVec.ofNat 8 (2 * words.length) = 2 * count := by
    apply BitVec.eq_of_toNat_eq
    rw [BitVec.toNat_ofNat, BitVec.toNat_mul, h]
    rfl
  rw [readReply, hbytes]
  rfl

/-- The words of a function-3 reply. -/
theorem replyWords_readReply (addr : U8) (words : List U16) :
    replyWords (readReply addr words) words.length = words :=
  replyWords_readReplyBody addr words _

/-- A count below 256 has a clear high byte. -/
theorem highByte_setWidth (count : U8) : highByte (count.setWidth 16) = 0 := by
  rw [highByte_eq]
  apply BitVec.eq_of_getLsbD_eq
  intro i hi
  simp

/-- A count below 256 is its low byte. -/
theorem lowByte_setWidth (count : U8) : lowByte (count.setWidth 16) = count := by
  rw [lowByte_eq]
  apply BitVec.eq_of_getLsbD_eq
  intro i hi
  simp [hi]

/-- The function-16 reply to a count below 256. -/
theorem writeMultipleReply_eq (addr : U8) (regAddr : U16) (count : U8) :
    writeMultipleReply addr regAddr (count.setWidth 16)
      = withCrc [addr, 0x10, highByte regAddr, lowByte regAddr, 0, count] := by
  rw [writeMultipleReply, fixedBody, highByte_setWidth, lowByte_setWidth]
  rfl

/-- Within the length asked for, a call succeeds on exactly the well-formed reply. -/
theorem outcome_eq_none_iff {op : RawOp} (hop : op.InRange) {addr : U8} {b : List U8}
    (hb : b.length ≤ op.replyLength) : op.outcome addr b = .none ↔ op.IsReply addr b := by
  rcases eq_or_ne b [] with hempty | hempty
  · subst hempty
    cases op <;>
      simp [outcome, Driver.readOutcome, Driver.writeSingleOutcome, Driver.writeMultipleOutcome,
        IsReply, withCrc, writeSingleRequest, fixedBody]
  · cases op with
    | read regAddr out count =>
      have hcount : count.toNat ≤ 127 := by
        have := hop.2.1
        omega
      rw [outcome, Driver.readOutcome, if_neg hempty, readVerdict_eq_none_iff_of_le hcount hb]
      refine exists_congr fun words => and_congr_right fun hwords => ?_
      rw [readReply_eq addr hwords]
    | writeSingle regAddr value =>
      rw [outcome, Driver.writeSingleOutcome, if_neg hempty,
        echoVerdict_eq_none_iff_of_le addr regAddr value hb]
      rfl
    | writeMultiple regAddr regs count =>
      rw [outcome, Driver.writeMultipleOutcome, if_neg hempty,
        writeMultipleVerdict_eq_none_iff_of_le addr regAddr _ hb, writeMultipleReply_eq]
      rfl

/-- On success a read leaves the words of the reply at the front of its buffer. -/
theorem output_readReply (addr : U8) (regAddr : U16) (out : List U16) {count : U8}
    (hcount : count.toNat ≤ 127) {words : List U16} (hwords : words.length = count.toNat) :
    (read regAddr out count).output addr (readReply addr words) = words ++ out.drop count.toNat := by
  have hne : readReply addr words ≠ [] := by
    intro h
    have hlen := length_readReply addr words
    rw [h, List.length_nil] at hlen
    omega
  have hverdict : readVerdict (readReply addr words) addr count = .none :=
    (readVerdict_eq_none_iff_of_le hcount (by rw [length_readReply, hwords])).mpr
      ⟨words, hwords, rfl⟩
  rw [output, Driver.readOutcome, if_neg hne, hverdict, if_pos rfl, ← hwords, replyWords_readReply]

/-- A call that fails leaves its buffer as it was. -/
theorem output_of_ne_none {op : RawOp} {addr : U8} {b : List U8} (h : op.outcome addr b ≠ .none) :
    op.output addr b = op.buffer := by
  cases op with
  | read regAddr out count => exact if_neg h
  | writeSingle regAddr value => rfl
  | writeMultiple regAddr regs count => rfl

/-- What is reported for received bytes is a verdict. -/
theorem isVerdict_outcome (op : RawOp) (addr : U8) {b : List U8} (h : b ≠ []) :
    IsVerdict (op.outcome addr b) := by
  cases op with
  | read regAddr out count =>
    rw [outcome, Driver.readOutcome, if_neg h]
    exact isVerdict_readVerdict b addr count
  | writeSingle regAddr value =>
    rw [outcome, Driver.writeSingleOutcome, if_neg h]
    exact isVerdict_echoVerdict b _
  | writeMultiple regAddr regs count =>
    rw [outcome, Driver.writeMultipleOutcome, if_neg h]
    exact isVerdict_writeMultipleVerdict b addr regAddr _

/-- A call times out on exactly the empty string. -/
theorem outcome_eq_timeout_iff (op : RawOp) (addr : U8) (b : List U8) :
    op.outcome addr b = .timeout ↔ b = [] := by
  constructor
  · intro h
    by_contra hempty
    have hverdict := op.isVerdict_outcome addr hempty
    rw [h] at hverdict
    exact absurd hverdict (by decide)
  · rintro rfl
    cases op with
    | read regAddr out count => rfl
    | writeSingle regAddr value => rfl
    | writeMultiple regAddr regs count => rfl

end RawOp

end AlicatBasis2
