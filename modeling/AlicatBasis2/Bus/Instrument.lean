import AlicatBasis2.Bus.Line

/-! # A slave on the bus

The other party of a transaction. A slave takes a frame, checks its CRC, recovers the request by the field
layout of Modbus-RTU (big-endian words, for function 16 a byte count that agrees with both the register
count and the data present), and if the request is for it applies it to a plain store of 16-bit registers
and answers with the standard reply, or with an exception when the range runs past register 65535. The
decoder is written from the frame layout, without the driver's builders; that both agree is a theorem. -/

namespace AlicatBasis2

open Modbus

/-- The contents of a slave's holding registers. -/
abbrev Registers := U16 → U16

namespace Registers

/-- The words of `n` registers from `regAddr` on. -/
def contents (regs : Registers) (regAddr : U16) (n : ℕ) : List U16 :=
  (List.range n).map fun i => regs (regAddr + BitVec.ofNat 16 i)

/-- The registers after `words` were stored from `regAddr` on. -/
def write (regs : Registers) (regAddr : U16) (words : List U16) : Registers := fun a =>
  words.getD (a - regAddr).toNat (regs a)

/-- `n` registers are `n` words. -/
@[simp] theorem length_contents (regs : Registers) (regAddr : U16) (n : ℕ) :
    (regs.contents regAddr n).length = n := by
  simp [contents]

end Registers

/-- A request as a slave understands it. -/
inductive Request
  | read (regAddr count : U16)
  | writeSingle (regAddr value : U16)
  | writeMultiple (regAddr : U16) (words : List U16)
  deriving DecidableEq, Repr

namespace Request

/-- The range of registers lies inside the store. -/
def Fits : Request → Prop
  | read regAddr count => regAddr.toNat + count.toNat ≤ 65536
  | writeSingle _ _ => True
  | writeMultiple regAddr words => regAddr.toNat + words.length ≤ 65536

instance : DecidablePred Fits
  | read _ _ => inferInstanceAs (Decidable (_ ≤ _))
  | writeSingle _ _ => inferInstanceAs (Decidable True)
  | writeMultiple _ _ => inferInstanceAs (Decidable (_ ≤ _))

/-- The effect of a request on the store. -/
def apply : Request → Registers → Registers
  | read _ _, regs => regs
  | writeSingle regAddr value, regs => regs.write regAddr [value]
  | writeMultiple regAddr words, regs => regs.write regAddr words

/-- The standard reply of unit `own` to a request that fits. -/
def reply (own : U8) (regs : Registers) : Request → List U8
  | read regAddr count => readReply own (regs.contents regAddr count.toNat)
  | writeSingle regAddr value => writeSingleRequest own regAddr value
  | writeMultiple regAddr words => writeMultipleReply own regAddr (BitVec.ofNat 16 words.length)

/-- The function code of a request. -/
def function : Request → U8
  | read _ _ => Reg.Fn.readHolding
  | writeSingle _ _ => Reg.Fn.writeSingle
  | writeMultiple _ _ => Reg.Fn.writeMultiple

/-- What unit `own` answers: the standard reply, or an exception for a range outside the store. -/
def answer (own code : U8) (regs : Registers) (request : Request) : List U8 :=
  if request.Fits then request.reply own regs else exceptionReply own request.function code

/-- What a request leaves in the store; a refused one changes nothing. -/
def effect (request : Request) (regs : Registers) : Registers :=
  if request.Fits then request.apply regs else regs

end Request

/-! ## Decoding -/

/-- Data bytes as big-endian words. -/
def wordsOf : List U8 → List U16
  | high :: low :: rest => joinBytes high low :: wordsOf rest
  | _ => []

/-- The unit and the request of a frame body. -/
def decodeBody : List U8 → Option (U8 × Request)
  | unit :: function :: r1 :: r0 :: c1 :: c0 :: rest =>
      if function = 3 ∧ rest = [] then some (unit, .read (joinBytes r1 r0) (joinBytes c1 c0))
      else if function = 6 ∧ rest = [] then
        some (unit, .writeSingle (joinBytes r1 r0) (joinBytes c1 c0))
      else if function = 16 then
        match rest with
        | bytes :: data =>
            if bytes.toNat = 2 * (joinBytes c1 c0).toNat ∧ bytes.toNat = data.length then
              some (unit, .writeMultiple (joinBytes r1 r0) (wordsOf data))
            else none
        | [] => none
      else none
  | _ => none

/-- The unit and the request of a frame with a correct CRC. -/
def decode (frame : List U8) : Option (U8 × Request) :=
  if Sealed frame then decodeBody (frame.take (frame.length - 2)) else none

/-- A sealed body is decoded by its layout. -/
theorem decode_withCrc {m : List U8} (hm : 2 ≤ m.length) : decode (withCrc m) = decodeBody m := by
  have hbody : (withCrc m).take ((withCrc m).length - 2) = m := by
    rw [length_withCrc, Nat.add_sub_cancel]
    exact List.take_left
  rw [decode, if_pos (sealed_withCrc hm), hbody]

/-- The words of a payload are read back. -/
theorem wordsOf_payload (words : List U16) : wordsOf (payload words) = words := by
  induction words with
  | nil => rfl
  | cons w words ih => rw [payload_cons, wordsOf, ih, joinBytes_highByte_lowByte]

/-- A slave reads the function-3 request as it was meant. -/
theorem decode_readRequest (unit : U8) (regAddr count : U16) :
    decode (readRequest unit regAddr count) = some (unit, .read regAddr count) := by
  rw [readRequest, decode_withCrc (by rw [length_fixedBody]; omega), fixedBody, decodeBody,
    if_pos ⟨rfl, rfl⟩, joinBytes_highByte_lowByte, joinBytes_highByte_lowByte]

/-- A slave reads the function-6 request as it was meant. -/
theorem decode_writeSingleRequest (unit : U8) (regAddr value : U16) :
    decode (writeSingleRequest unit regAddr value) = some (unit, .writeSingle regAddr value) := by
  have hfn : ¬ (Reg.Fn.writeSingle = 3 ∧ ([] : List U8) = []) := by decide
  rw [writeSingleRequest, decode_withCrc (by rw [length_fixedBody]; omega), fixedBody, decodeBody,
    if_neg hfn, if_pos ⟨rfl, rfl⟩, joinBytes_highByte_lowByte, joinBytes_highByte_lowByte]

/-- A slave reads the function-16 request whose byte-count field has not wrapped, and no other one. -/
theorem decode_writeMultipleRequest_eq (unit : U8) (regAddr : U16) {count : U8} {words : List U16}
    (hwords : words.length = count.toNat) :
    decode (writeMultipleRequest unit regAddr count words)
      = if count.toNat ≤ 127 then some (unit, .writeMultiple regAddr words) else none := by
  have hbytes : (count * 2).toNat = 2 * count.toNat ↔ count.toNat ≤ 127 := by
    rw [BitVec.toNat_mul, show (2 : U8).toNat = 2 from rfl]
    omega
  have hread : ¬ (Reg.Fn.writeMultiple = 3 ∧ count * 2 :: payload words = []) := by simp
  have hsingle : ¬ (Reg.Fn.writeMultiple = 6 ∧ count * 2 :: payload words = []) := by simp
  have hlen : 2 ≤ (writeMultipleBody unit regAddr count words).length := by
    rw [writeMultipleBody, List.length_append, List.length_cons, List.length_cons]
    omega
  have hfn : Reg.Fn.writeMultiple = 16 := rfl
  -- the byte count agrees with the register count exactly when it agrees with the data
  rw [writeMultipleRequest, decode_withCrc hlen, writeMultipleBody]
  simp only [List.cons_append, List.nil_append, decodeBody]
  rw [if_neg hread, if_neg hsingle, if_pos hfn, joinBytes_highByte_lowByte,
    joinBytes_highByte_lowByte, toNat_widen, length_payload, hwords, wordsOf_payload]
  simp only [and_self, hbytes]

/-- A slave reads the function-16 request of up to 127 registers as it was meant. -/
theorem decode_writeMultipleRequest (unit : U8) (regAddr : U16) {count : U8} {words : List U16}
    (hcount : count.toNat ≤ 127) (hwords : words.length = count.toNat) :
    decode (writeMultipleRequest unit regAddr count words)
      = some (unit, .writeMultiple regAddr words) := by
  rw [decode_writeMultipleRequest_eq unit regAddr hwords, if_pos hcount]

/-! ## Slaves on one bus -/

/-- The request a slave at address `own` takes from a frame; frames for another unit or with a bad CRC it
ignores. -/
def received (own : U8) (frame : List U8) : Option Request :=
  match decode frame with
  | some (unit, request) => if unit = own then some request else none
  | none => none

/-- A slave takes the request addressed to it. -/
theorem received_of_eq {own : U8} {frame : List U8} {request : Request}
    (hdecode : decode frame = some (own, request)) : received own frame = some request := by
  simp only [received, hdecode, if_true]

/-- A slave ignores a frame for another unit. -/
theorem received_of_ne {own unit : U8} {frame : List U8} {request : Request}
    (hdecode : decode frame = some (unit, request)) (h : unit ≠ own) :
    received own frame = none := by
  simp only [received, hdecode, if_neg h]

/-- Slaves at distinct addresses, each with the exception code it uses. -/
structure Installation (n : ℕ) where
  /-- The address of a slave. -/
  address : Fin n → U8
  distinct : Function.Injective address
  /-- The exception code for a range outside the store. -/
  exceptionCode : Fin n → U8

/-- A single slave on the bus. -/
def Installation.single (addr exceptionCode : U8) : Installation 1 where
  address _ := addr
  distinct := Function.injective_of_subsingleton _
  exceptionCode _ := exceptionCode

/-- An answer: the slave, the request it answers, and its registers when it processed the request. -/
structure Answer (n : ℕ) where
  slave : Fin n
  request : Request
  registers : Registers

namespace Installation

variable {n : ℕ} (inst : Installation n)

/-- The frame of an answer. -/
def bytes (a : Answer n) : List U8 :=
  a.request.answer (inst.address a.slave) (inst.exceptionCode a.slave) a.registers

/-- What the slaves answer to a frame. -/
def answers (frame : List U8) (stores : Fin n → Registers) : List (Answer n) :=
  (List.finRange n).filterMap fun i =>
    (received (inst.address i) frame).map fun request => ⟨i, request, stores i⟩

/-- The registers of all slaves after a frame. -/
def settle (frame : List U8) (stores : Fin n → Registers) : Fin n → Registers := fun i =>
  match received (inst.address i) frame with
  | some request => request.effect (stores i)
  | none => stores i

/-- Only one element of a list without repetition contributes. -/
theorem filterMap_eq_singleton {α β : Type} {l : List α} (hnodup : l.Nodup) {a : α} (ha : a ∈ l)
    {f : α → Option β} {b : β} (hf : f a = some b) (hother : ∀ c ∈ l, c ≠ a → f c = none) :
    l.filterMap f = [b] := by
  induction l with
  | nil => exact absurd ha List.not_mem_nil
  | cons c l ih =>
    obtain ⟨hnot, hnodup⟩ := List.nodup_cons.mp hnodup
    rcases List.mem_cons.mp ha with rfl | hmem
    · have hrest : l.filterMap f = [] := by
        rw [List.filterMap_eq_nil_iff]
        intro d hd
        exact hother d (List.mem_cons_of_mem _ hd) fun h => hnot (h ▸ hd)
      rw [List.filterMap_cons_some hf, hrest]
    · have hc : f c = none := hother c List.mem_cons_self fun h => hnot (h ▸ hmem)
      rw [List.filterMap_cons_none hc]
      exact ih hnodup hmem fun d hd => hother d (List.mem_cons_of_mem _ hd)

/-- An answer to a frame is that of a slave at its unit, to its request. -/
theorem of_mem_answers {frame : List U8} {unit : U8} {request : Request}
    (hdecode : decode frame = some (unit, request)) {stores : Fin n → Registers} {a : Answer n}
    (ha : a ∈ inst.answers frame stores) :
    inst.address a.slave = unit ∧ a.request = request := by
  obtain ⟨i, -, hi⟩ := List.mem_filterMap.mp ha
  by_cases hunit : unit = inst.address i
  · rw [received_of_eq (hunit ▸ hdecode), Option.map_some, Option.some.injEq] at hi
    subst hi
    exact ⟨hunit.symm, rfl⟩
  · rw [received_of_ne hdecode hunit] at hi
    cases hi

/-- Only the addressed slave answers. -/
theorem answers_eq {frame : List U8} {i : Fin n} {request : Request}
    (hdecode : decode frame = some (inst.address i, request)) (stores : Fin n → Registers) :
    inst.answers frame stores = [⟨i, request, stores i⟩] := by
  refine filterMap_eq_singleton (List.nodup_finRange n) (List.mem_finRange i) ?_ ?_
  · rw [received_of_eq hdecode]
    rfl
  · rintro j - hj
    rw [received_of_ne hdecode fun h => hj (inst.distinct h.symm)]
    rfl

/-- The addressed slave takes the effect of the request. -/
theorem settle_of_eq {frame : List U8} {i : Fin n} {request : Request}
    (hdecode : decode frame = some (inst.address i, request)) (stores : Fin n → Registers) :
    inst.settle frame stores i = request.effect (stores i) := by
  rw [settle, received_of_eq hdecode]

/-- No other slave's registers change. -/
theorem settle_of_ne {frame : List U8} {i j : Fin n} {request : Request}
    (hdecode : decode frame = some (inst.address i, request)) (hj : j ≠ i)
    (stores : Fin n → Registers) : inst.settle frame stores j = stores j := by
  rw [settle, received_of_ne hdecode fun h => hj (inst.distinct h.symm)]

end Installation

/-! ## The driver's calls seen by a slave -/

namespace RawOp

/-- The request a raw operation makes of a slave. -/
def toRequest : RawOp → Request
  | read regAddr _ count => .read regAddr (count.setWidth 16)
  | writeSingle regAddr value => .writeSingle regAddr value
  | writeMultiple regAddr regs count => .writeMultiple regAddr (regs.take count.toNat)

/-- **Builders and decoder agree**: a slave recovers the request of a raw operation from its frame. -/
theorem decode_request {op : RawOp} (hop : op.Transmits) (addr : U8) :
    decode (op.request addr) = some (addr, op.toRequest) := by
  cases op with
  | read regAddr out count => exact decode_readRequest addr regAddr _
  | writeSingle regAddr value => exact decode_writeSingleRequest addr regAddr value
  | writeMultiple regAddr regs count =>
    obtain ⟨-, hle, hregs⟩ := hop
    have hwords : (regs.take count.toNat).length = count.toNat := by
      rw [List.length_take, min_eq_left hregs]
    exact decode_writeMultipleRequest addr regAddr (by omega) hwords

/-- **Encoder and parser agree**: the standard reply to a raw operation is the one the driver accepts. -/
theorem isReply_reply {op : RawOp} (hop : op.Transmits) (addr : U8) (regs : Registers) :
    op.IsReply addr (op.toRequest.reply addr regs) := by
  cases op with
  | read regAddr out count =>
    have hwords : (regs.contents regAddr (count.setWidth 16).toNat).length = count.toNat := by
      rw [Registers.length_contents, toNat_widen]
    exact ⟨_, hwords, readReply_eq addr hwords⟩
  | writeSingle regAddr value => rfl
  | writeMultiple regAddr regs count =>
    obtain ⟨-, -, hregs⟩ := hop
    have hwords : BitVec.ofNat 16 (regs.take count.toNat).length = count.setWidth 16 := by
      rw [List.length_take, min_eq_left hregs]
      exact BitVec.eq_of_toNat_eq (by simp)
    rw [IsReply, toRequest, Request.reply, hwords, writeMultipleReply_eq]

/-- A well-formed reply has the length the driver asks for. -/
theorem IsReply.length_eq {op : RawOp} {addr : U8} {b : List U8} (h : op.IsReply addr b) :
    b.length = op.replyLength := by
  cases op with
  | read regAddr out count =>
    obtain ⟨words, hwords, rfl⟩ := h
    rw [← readReply_eq addr hwords, length_readReply, hwords, replyLength]
  | writeSingle regAddr value =>
    rw [IsReply] at h
    rw [h, length_writeSingleRequest, replyLength]
  | writeMultiple regAddr regs count =>
    rw [IsReply] at h
    rw [h, length_withCrc, replyLength]
    rfl

/-- A well-formed reply is sealed. -/
theorem IsReply.isSealed {op : RawOp} {addr : U8} {b : List U8} (h : op.IsReply addr b) :
    Sealed b := by
  cases op with
  | read regAddr out count =>
    obtain ⟨words, -, rfl⟩ := h
    exact sealed_withCrc (by rw [List.length_append, List.length_cons, List.length_cons]; omega)
  | writeSingle regAddr value =>
    rw [IsReply] at h
    exact h ▸ sealed_withCrc (by rw [length_fixedBody]; omega)
  | writeMultiple regAddr regs count =>
    rw [IsReply] at h
    exact h ▸ sealed_withCrc (by simp)

/-- Every standard reply has at least seven bytes, more than an exception reply. -/
theorem seven_le_replyLength {op : RawOp} (hop : op.Transmits) : 7 ≤ op.replyLength := by
  cases op with
  | read regAddr out count =>
    have hpos := hop.1
    rw [replyLength]
    omega
  | writeSingle regAddr value => exact Nat.le_succ 7
  | writeMultiple regAddr regs count => exact Nat.le_succ 7

/-- The words a successful read returns are those the slave put into its reply. -/
theorem output_reply (addr : U8) (regs : Registers) (regAddr : U16) (out : List U16) {count : U8}
    (hle : count.toNat ≤ 32) :
    (read regAddr out count).output addr ((read regAddr out count).toRequest.reply addr regs)
      = regs.contents regAddr count.toNat ++ out.drop count.toNat := by
  have hlen : (regs.contents regAddr count.toNat).length = count.toNat :=
    Registers.length_contents _ _ _
  rw [toRequest, Request.reply, toNat_widen]
  exact output_readReply addr regAddr out (by omega) hlen

end RawOp

end AlicatBasis2
