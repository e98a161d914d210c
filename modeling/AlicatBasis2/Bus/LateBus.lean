import AlicatBasis2.Bus.Instrument
import AlicatBasis2.Data.Pool

/-! # A bus with late replies

Whole frames travel between the driver and the slaves, and a reply takes as long as it likes: it stays
outstanding until some transaction, its own or a later one, receives it, or for ever. A transaction flushes
what has come in before it, so an outstanding reply is received only between its flush and the end of its
read. Which replies a transaction receives, and in which order, is chosen freely. -/

namespace AlicatBasis2

open Modbus

/-! ## The bus -/

/-- The course of one transaction: whether its request gets through, and the positions of the outstanding
replies it receives, its own being the last one outstanding. -/
structure Timing where
  requestArrives : Bool
  arrivals : List ℕ
  deriving DecidableEq, Repr

/-- Slaves, outstanding replies, and the course of the transactions to come. -/
structure LateBus (n : ℕ) where
  stores : Fin n → Registers
  outstanding : List (Answer n)
  script : List Timing

namespace LateBus

variable {n : ℕ} (inst : Installation n) (frame : List U8) (bus : LateBus n)

/-- The course of the next transaction; without one, nothing gets through. -/
def timing : Timing := bus.script.headD ⟨false, []⟩

/-- The replies that can be received after a request: those outstanding, and the answers to it. -/
def pending : List (Answer n) :=
  bus.outstanding ++ if bus.timing.requestArrives then inst.answers frame bus.stores else []

/-- The bus after a request. -/
def request : LateBus n where
  stores := if bus.timing.requestArrives then inst.settle frame bus.stores else bus.stores
  outstanding := (Pool.takeAt bus.timing.arrivals (bus.pending inst frame)).2
  script := bus.script.tail

/-- The bytes received after a request, whole frames in the order of their arrival. -/
def received : List U8 :=
  (Pool.takeAt bus.timing.arrivals (bus.pending inst frame)).1.flatMap inst.bytes

end LateBus

/-- The UART of the drivers. -/
def Installation.lateUart {n : ℕ} (inst : Installation n) : Uart (Line (LateBus n)) :=
  .line fun frame bus => (bus.request inst frame, bus.received inst frame)

/-! ## The first frame decides -/

/-- Requests whose standard replies have the same header: a function-3 reply carries its count and no
register, a function-16 reply its register and count and no data. -/
def Request.Confusable : Request → Request → Prop
  | .read _ count, .read _ count' => count = count'
  | .writeSingle regAddr value, .writeSingle regAddr' value' => regAddr = regAddr' ∧ value = value'
  | .writeMultiple regAddr words, .writeMultiple regAddr' words' =>
      regAddr = regAddr' ∧ words.length = words'.length
  | _, _ => False

/-- An answer starts with its unit and its function code, marked when it is an exception. -/
theorem Request.answer_head (request : Request) (own code : U8) (regs : Registers) :
    ∃ rest, request.answer own code regs = own
      :: (if request.Fits then request.function else request.function ||| Reg.Fn.exceptionMask)
      :: rest := by
  rw [answer]
  by_cases hfits : request.Fits
  · rw [if_pos hfits, if_pos hfits]
    cases request with
    | read regAddr count => exact ⟨_, rfl⟩
    | writeSingle regAddr value => exact ⟨_, rfl⟩
    | writeMultiple regAddr words => exact ⟨_, rfl⟩
  · rw [if_neg hfits, if_neg hfits]
    exact ⟨_, rfl⟩

/-- A checksum determines its body. -/
theorem withCrc_injective : Function.Injective withCrc := by
  intro m m' h
  exact List.append_inj_left' h rfl

namespace RawOp

/-- A well-formed reply starts with the driver's unit and the function code. -/
theorem IsReply.head {op : RawOp} {addr : U8} {b : List U8} (h : op.IsReply addr b) :
    ∃ rest, b = addr :: op.function :: rest := by
  cases op with
  | read regAddr out count =>
    obtain ⟨words, -, rfl⟩ := h
    exact ⟨_, rfl⟩
  | writeSingle regAddr value => exact ⟨_, h⟩
  | writeMultiple regAddr regs count => exact ⟨_, h⟩

/-- The function codes the driver uses. -/
theorem function_mem (op : RawOp) : op.function ∈ [(3 : U8), 6, 16] := by
  cases op with
  | read regAddr out count => exact List.mem_cons_self
  | writeSingle regAddr value => exact List.mem_cons_of_mem _ List.mem_cons_self
  | writeMultiple regAddr regs count =>
    exact List.mem_cons_of_mem _ (List.mem_cons_of_mem _ List.mem_cons_self)

/-- No function code is another one with the exception bit. -/
theorem function_ne_exception (op op' : RawOp) :
    op'.function ||| Reg.Fn.exceptionMask ≠ op.function := by
  have hcodes : ∀ f ∈ [(3 : U8), 6, 16], ∀ g ∈ [(3 : U8), 6, 16],
      g ||| Reg.Fn.exceptionMask ≠ f := by decide
  exact hcodes _ op.function_mem _ op'.function_mem

/-- A reply to another request of the same function passes for a reply to this one only when the header
cannot tell the two apart, and then it is read whole. -/
theorem confusable_of_isReply {op op' : RawOp} (hop : op.InRange) (hop' : op'.Transmits)
    {addr : U8} {regs : Registers} {rest : List U8} (hcode : op'.function = op.function)
    (h : op.IsReply addr ((op'.toRequest.reply addr regs ++ rest).take op.replyLength)) :
    op.toRequest.Confusable op'.toRequest
      ∧ (op'.toRequest.reply addr regs).length = op.replyLength := by
  have hlength := (isReply_reply hop' addr regs).length_eq
  cases op with
  | read regAddr out count =>
    cases op' with
    | read regAddr' out' count' =>
      obtain ⟨words, hwords, hb⟩ := h
      have hlen : (regs.contents regAddr' count'.toNat).length = count'.toNat :=
        Registers.length_contents _ _ _
      -- the third byte is the byte count of both
      rw [toRequest, Request.reply, toNat_widen, readReply_eq addr hlen, replyLength,
        show 5 + 2 * count.toNat = 2 + 2 * count.toNat + 1 + 1 + 1 by ring] at hb
      simp only [withCrc, List.cons_append, List.nil_append, List.take_succ_cons,
        List.cons.injEq] at hb
      have hbytes : (2 * count').toNat = (2 * count).toNat := congrArg BitVec.toNat hb.2.2.1
      have hle := hop.2.1
      have hle' := hop'.2
      have htwo : (2 : U8).toNat = 2 := rfl
      rw [BitVec.toNat_mul, BitVec.toNat_mul, htwo, Nat.mod_eq_of_lt (by omega),
        Nat.mod_eq_of_lt (by omega)] at hbytes
      have hcount : count = count' := BitVec.eq_of_toNat_eq (by omega)
      subst hcount
      exact ⟨rfl, hlength⟩
    | writeSingle regAddr' value' => exact absurd hcode (fun h => by cases h)
    | writeMultiple regAddr' regs' count' => exact absurd hcode (fun h => by cases h)
  | writeSingle regAddr value =>
    cases op' with
    | read regAddr' out' count' => exact absurd hcode (fun h => by cases h)
    | writeSingle regAddr' value' =>
      -- the reply repeats the request, and a request is determined by its frame
      replace hlength : _ = (writeSingle regAddr value).replyLength := hlength
      rw [List.take_left' hlength] at h
      have hframes : writeSingleRequest addr regAddr' value'
        = writeSingleRequest addr regAddr value := h
      have hdecode := decode_writeSingleRequest addr regAddr value
      rw [← hframes, decode_writeSingleRequest] at hdecode
      cases hdecode
      exact ⟨⟨rfl, rfl⟩, hlength⟩
    | writeMultiple regAddr' regs' count' => exact absurd hcode (fun h => by cases h)
  | writeMultiple regAddr words count =>
    cases op' with
    | read regAddr' out' count' => exact absurd hcode (fun h => by cases h)
    | writeSingle regAddr' value' => exact absurd hcode (fun h => by cases h)
    | writeMultiple regAddr' words' count' =>
      -- the reply names the register and the count, and nothing of the data
      obtain ⟨-, -, hwords⟩ := hop
      have hreply := isReply_reply hop' addr regs
      obtain ⟨-, -, hwords'⟩ := hop'
      replace hlength : _ = (writeMultiple regAddr words count).replyLength := hlength
      rw [List.take_left' hlength] at h
      have hbody := withCrc_injective (hreply.symm.trans h)
      simp only [List.cons.injEq, and_true, true_and] at hbody
      obtain ⟨hhigh, hlow, hcount⟩ := hbody
      have hregAddr : regAddr' = regAddr := by
        rw [← joinBytes_highByte_lowByte regAddr', hhigh, hlow, joinBytes_highByte_lowByte]
      refine ⟨⟨hregAddr.symm, ?_⟩, hlength⟩
      rw [List.length_take, List.length_take, min_eq_left hwords, min_eq_left hwords', hcount]

/-- **The first frame decides.** When the bytes of an answer, followed by anything, are accepted, the answer
comes from the driver's own slave, is no exception, answers a request this one can be confused with, and is
exactly what the driver has read. -/
theorem first_frame_decides {op op' : RawOp} (hop : op.InRange) (hop' : op'.Transmits)
    {addr own code : U8} {regs : Registers} {rest : List U8}
    (h : op.IsReply addr ((op'.toRequest.answer own code regs ++ rest).take op.replyLength)) :
    own = addr ∧ op'.toRequest.Fits ∧ op.toRequest.Confusable op'.toRequest
      ∧ (op'.toRequest.answer own code regs ++ rest).take op.replyLength
        = op'.toRequest.reply own regs := by
  have hfunction : op'.toRequest.function = op'.function := by
    cases op' with
    | read regAddr out count => rfl
    | writeSingle regAddr value => rfl
    | writeMultiple regAddr words count => rfl
  -- the first two bytes settle the unit and the function code
  obtain ⟨k, hk⟩ : ∃ k, op.replyLength = k + 1 + 1 := by
    have hseven := seven_le_replyLength hop.transmits
    exact ⟨op.replyLength - 2, by omega⟩
  have hhead : own = addr
      ∧ (if op'.toRequest.Fits then op'.function else op'.function ||| Reg.Fn.exceptionMask)
        = op.function := by
    obtain ⟨answerRest, hanswer⟩ := op'.toRequest.answer_head own code regs
    obtain ⟨replyRest, hreply⟩ := h.head
    rw [hanswer, hk, hfunction] at hreply
    simp only [List.cons_append, List.take_succ_cons, List.cons.injEq] at hreply
    exact ⟨hreply.1, hreply.2.1⟩
  obtain ⟨rfl, hcode⟩ := hhead
  have hfits : op'.toRequest.Fits := by
    by_contra hfits
    rw [if_neg hfits] at hcode
    exact op.function_ne_exception op' hcode
  rw [if_pos hfits] at hcode
  rw [Request.answer, if_pos hfits] at h ⊢
  obtain ⟨hconfusable, hlength⟩ := confusable_of_isReply hop hop' hcode h
  exact ⟨rfl, hfits, hconfusable, List.take_left' hlength⟩

end RawOp

/-- Requests the drivers make. -/
def Request.Made (request : Request) : Prop := ∃ op : RawOp, op.Transmits ∧ request = op.toRequest

/-- **What an accepted string is**: the reply of the driver's own slave among the answers that could arrive,
to a request the driver's own can be confused with. -/
theorem Installation.exists_answer_of_isReply {n : ℕ} (inst : Installation n) {op : RawOp}
    (hop : op.InRange) {addr : U8} {answers : List (Answer n)}
    (hmade : ∀ a ∈ answers, a.request.Made) {ks : List ℕ} {b : List U8}
    (hb : b = ((Pool.takeAt ks answers).1.flatMap inst.bytes).take op.replyLength)
    (h : op.IsReply addr b) :
    ∃ a ∈ answers, inst.address a.slave = addr ∧ a.request.Fits
      ∧ op.toRequest.Confusable a.request ∧ b = a.request.reply addr a.registers := by
  rcases harrived : (Pool.takeAt ks answers).1 with _ | ⟨a, later⟩
  · -- nothing arrived, but a reply has bytes
    have hlen := h.length_eq
    have hseven := RawOp.seven_le_replyLength hop.transmits
    rw [hb, harrived, List.flatMap_nil, List.take_nil, List.length_nil] at hlen
    omega
  · have ha : a ∈ answers := Pool.mem_of_mem_takeAt (harrived ▸ List.mem_cons_self)
    obtain ⟨op', hop', hrequest⟩ := hmade a ha
    rw [harrived, List.flatMap_cons, bytes, hrequest] at hb
    rw [hb] at h ⊢
    obtain ⟨hslave, hfits, hconfusable, htake⟩ := RawOp.first_frame_decides hop hop' h
    subst hslave
    exact ⟨a, ha, rfl, hrequest ▸ hfits, hrequest ▸ hconfusable, hrequest ▸ htake⟩

end AlicatBasis2
