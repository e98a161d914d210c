import AlicatBasis2.Frames.Replies
import AlicatBasis2.Machine.Outcome
import AlicatBasis2.Model.Call

/-! # One transaction

The three raw primitives share one shape: flush, send the request, read as many bytes as the standard reply
has, judge what came. The judgement is a function of the received bytes alone, so each primitive has an
equation that names its request, the bytes it waits for and its verdict; later modules use these equations
and never unfold the primitives. -/

namespace AlicatBasis2

/-- A driver with a legal slave address does not broadcast. -/
theorem ne_broadcast_of_legal {addr : U8} (h : 1 ≤ addr.toNat ∧ addr.toNat ≤ 247) :
    addr ≠ kBroadcastAddress := by
  rintro rfl
  exact absurd h.1 (by decide)

/-! ## Sending and receiving -/

namespace Session

variable {σ : Type} (uart : Uart σ)

/-- Flush, then write a request. -/
def send (request : List U8) (s : Session σ) : Session σ :=
  { s with
    bus := uart.write request (uart.flushRx s.bus)
    trace := s.trace ++ [.flushRx, .write request] }

/-- The bytes a read of `need` bytes brings after a request. -/
def reply (request : List U8) (need : ℕ) (s : Session σ) : List U8 :=
  (uart.read need (s.driver.timeoutMs.setWidth 32) (s.send uart request).bus).1

/-- Flush, write a request, read `need` bytes. -/
def exchange (request : List U8) (need : ℕ) (s : Session σ) : Session σ :=
  { s.send uart request with
    bus := (uart.read need (s.driver.timeoutMs.setWidth 32) (s.send uart request).bus).2
    trace := s.trace ++ [.flushRx, .write request,
      .read need (s.driver.timeoutMs.setWidth 32) (s.reply uart request need)] }

/-- Sending leaves the driver's fields. -/
@[simp] theorem send_driver (request : List U8) (s : Session σ) :
    (s.send uart request).driver = s.driver := rfl

/-- Sending is a flush and a write. -/
@[simp] theorem send_trace (request : List U8) (s : Session σ) :
    (s.send uart request).trace = s.trace ++ [.flushRx, .write request] := rfl

/-- An exchange leaves the driver's fields. -/
@[simp] theorem exchange_driver (request : List U8) (need : ℕ) (s : Session σ) :
    (s.exchange uart request need).driver = s.driver := rfl

/-- An exchange is a flush, a write and a read. -/
@[simp] theorem exchange_trace (request : List U8) (need : ℕ) (s : Session σ) :
    (s.exchange uart request need).trace = s.trace ++ [.flushRx, .write request,
      .read need (s.driver.timeoutMs.setWidth 32) (s.reply uart request need)] := rfl

/-- The read contract: no more bytes come than were asked for. -/
theorem length_reply_le (request : List U8) (need : ℕ) (s : Session σ) :
    (s.reply uart request need).length ≤ need := uart.length_read_le _ _ _

/-- Flushing and writing the front of a buffer sends that front. -/
theorem write_flushRx (request pad : List U8) {length : ℕ} (h : length = request.length)
    (s : Session σ) :
    (s.flushRx uart).write uart (request ++ pad) length = some (s.send uart request) := by
  subst h
  have hlen : request.length ≤ (request ++ pad).length := by simp
  rw [write, if_pos hlen, List.take_left]
  simp only [flushRx, send, List.append_assoc, List.cons_append, List.nil_append]

/-- A read after a request, into a buffer with room, puts the reply at its front. -/
theorem read_send (request buf : List U8) {need : ℕ} (h : need ≤ buf.length) (s : Session σ) :
    (s.send uart request).read uart buf need s.driver.timeoutMs
      = some ((s.reply uart request need).length,
          s.reply uart request need ++ buf.drop (s.reply uart request need).length,
          s.exchange uart request need) := by
  rw [read, if_pos h]
  simp only [exchange, reply, send, List.append_assoc, List.cons_append, List.nil_append]

end Session

/-! ## The requests in the transmit buffers -/

namespace Modbus

/-- The eight-byte transmit buffer holds the function-3 request. -/
theorem buildReadHolding_tx (addr : U8) (regAddr count : U16) :
    buildReadHolding addr regAddr count (List.replicate 8 0)
      = some (8, readRequest addr regAddr count ++ []) :=
  buildFixed_eq addr Reg.Fn.readHolding regAddr count (List.length_replicate ▸ le_rfl)

/-- The eight-byte transmit buffer holds the function-6 request. -/
theorem buildWriteSingle_tx (addr : U8) (regAddr value : U16) :
    buildWriteSingle addr regAddr value (List.replicate 8 0)
      = some (8, writeSingleRequest addr regAddr value ++ []) :=
  buildFixed_eq addr Reg.Fn.writeSingle regAddr value (List.length_replicate ▸ le_rfl)

/-- The function-16 transmit buffer has room for 32 registers. -/
theorem buildWriteMultiple_tx (addr : U8) (regAddr : U16) {regs : List U16} {count : U8}
    (hpos : 0 < count.toNat) (hle : count.toNat ≤ 32) (hregs : count.toNat ≤ regs.length) :
    buildWriteMultiple addr regAddr regs count (List.replicate (9 + 32 * 2) 0)
      = some (9 + count.toNat * 2,
          writeMultipleRequest addr regAddr count (regs.take count.toNat)
            ++ (List.replicate (9 + 32 * 2) 0).drop (9 + count.toNat * 2)) := by
  have hcount : count ≠ 0 := by
    rintro rfl
    exact absurd hpos (by decide)
  have hroom : 9 + count.toNat * 2 ≤ (List.replicate (9 + 32 * 2) (0 : U8)).length := by
    rw [List.length_replicate]
    omega
  exact buildWriteMultiple_eq addr regAddr hcount hregs hroom

end Modbus

/-! ## The primitives -/

namespace Driver

open Modbus

variable {σ : Type} (uart : Uart σ)

/-- The parameter test of the two primitives with an array: the pointer, and a count between one and the
limit. -/
theorem not_invalid_iff {p : Option (List U16)} {count limit : U8} :
    ¬ (p.isNone ∨ count = 0 ∨ count > limit)
      ↔ ∃ buf, p = some buf ∧ 0 < count.toNat ∧ count.toNat ≤ limit.toNat := by
  constructor
  · intro h
    rw [not_or, not_or] at h
    obtain ⟨hnull, hzero, hlimit⟩ := h
    obtain ⟨buf, rfl⟩ : ∃ buf, p = some buf := by
      rwa [Option.isNone_iff_eq_none, Option.eq_none_iff_forall_ne_some, not_forall_not] at hnull
    refine ⟨buf, rfl, ?_, ?_⟩
    · rw [Nat.pos_iff_ne_zero]
      exact fun hz => hzero (BitVec.eq_of_toNat_eq hz)
    · rwa [gt_iff_lt, BitVec.lt_def, not_lt] at hlimit
  · rintro ⟨buf, rfl, hpos, hle⟩ (h | rfl | h)
    · cases h
    · exact absurd hpos (by decide)
    · rw [gt_iff_lt, BitVec.lt_def] at h
      exact absurd h (not_lt.mpr hle)

/-- The parameters `ReadHoldingRegisters` refuses before it touches the UART. -/
theorem readHoldingRegisters_of_invalid (regAddr : U16) {out : Option (List U16)} {count : U8}
    (h : out.isNone ∨ count = 0 ∨ count > 125) (s : Session σ) :
    readHoldingRegisters uart regAddr out count s = some ((.invalidParameter, out), s) := by
  rw [readHoldingRegisters, if_pos h]
  rfl

/-- A legal count beyond the receive buffer fails with the request already sent. -/
theorem readHoldingRegisters_of_oversize (regAddr : U16) (out : List U16) {count : U8}
    (hgt : 32 < count.toNat) (hle : count.toNat ≤ 125) (s : Session σ) :
    readHoldingRegisters uart regAddr (some out) count s
      = some ((.bufferTooSmall, some out),
          s.send uart (readRequest s.driver.address regAddr (count.setWidth 16))) := by
  have hvalid : ¬ ((some out).isNone ∨ count = 0 ∨ count > 125) :=
    not_invalid_iff.mpr ⟨out, rfl, by omega, hle⟩
  rw [readHoldingRegisters, if_neg hvalid]
  simp only [buildReadHolding_tx, Option.bind_eq_bind, Option.bind_some, Option.pure_def]
  have hsend : (s.flushRx uart).write uart
      (readRequest s.driver.address regAddr (count.setWidth 16) ++ []) 8
        = some (s.send uart (readRequest s.driver.address regAddr (count.setWidth 16))) :=
    Session.write_flushRx uart _ [] rfl s
  rw [if_neg (by decide), hsend, Option.bind_some, if_pos (by rw [List.length_replicate]; omega)]

/-- What `ReadHoldingRegisters` reports for the bytes it received. -/
def readOutcome (addr count : U8) (b : List U8) : DriverError :=
  if b = [] then .timeout else readVerdict b addr count

/-- What `WriteSingleRegister` reports for the bytes it received. -/
def writeSingleOutcome (addr : U8) (regAddr value : U16) (b : List U8) : DriverError :=
  if b = [] then .timeout else echoVerdict b (writeSingleRequest addr regAddr value)

/-- What `WriteMultipleRegisters` reports for the bytes it received. -/
def writeMultipleOutcome (addr : U8) (regAddr count : U16) (b : List U8) : DriverError :=
  if b = [] then .timeout else writeMultipleVerdict b addr regAddr count

/-- `ReadHoldingRegisters` for one to 32 registers, up to the payload loop of its parser. -/
theorem readHoldingRegisters_eq_loop (regAddr : U16) (out : List U16) {count : U8}
    (hpos : 0 < count.toNat) (hle : count.toNat ≤ 32) {s : Session σ} {b : List U8}
    (hb : s.reply uart (readRequest s.driver.address regAddr (count.setWidth 16))
      (5 + 2 * count.toNat) = b) :
    readHoldingRegisters uart regAddr (some out) count s
      = (if readOutcome s.driver.address count b = .none
          then (List.range count.toNat).foldlM
            (getWord (b ++ (List.replicate (5 + 2 * 32) 0).drop b.length)) out
          else some out).map fun out =>
        ((readOutcome s.driver.address count b, some out),
          s.exchange uart (readRequest s.driver.address regAddr (count.setWidth 16))
            (5 + 2 * count.toNat)) := by
  have hlimit : count.toNat ≤ (125 : U8).toNat := hle.trans (by decide)
  have hvalid : ¬ ((some out).isNone ∨ count = 0 ∨ count > 125) :=
    not_invalid_iff.mpr ⟨out, rfl, hpos, hlimit⟩
  have hroom : 5 + 2 * count.toNat ≤ (List.replicate (5 + 2 * 32) (0 : U8)).length := by
    rw [List.length_replicate]
    omega
  have hsend : (s.flushRx uart).write uart
      (readRequest s.driver.address regAddr (count.setWidth 16) ++ []) 8
        = some (s.send uart (readRequest s.driver.address regAddr (count.setWidth 16))) :=
    Session.write_flushRx uart _ [] rfl s
  have hread := Session.read_send uart
    (readRequest s.driver.address regAddr (count.setWidth 16)) _ hroom s
  -- the receive buffer holds the delivered bytes in front of its zeros
  rw [hb] at hread
  rw [readHoldingRegisters, if_neg hvalid]
  simp only [buildReadHolding_tx, Option.bind_eq_bind, Option.bind_some, Option.pure_def]
  rw [if_neg (by decide), hsend, Option.bind_some, if_neg (not_lt.mpr hroom),
    Session.send_driver, hread]
  simp only [Option.bind_some, Session.exchange_driver]
  rcases eq_or_ne b [] with hempty | hempty
  · -- nothing received: a timeout, whatever the parser would say
    simp [hempty, readOutcome]
  · have hlen : b.length ≠ 0 := fun h => hempty (List.length_eq_zero_iff.mp h)
    rw [if_neg hlen, readOutcome, if_neg hempty,
      parseReadHolding_eq_loop _ _ _ (by rw [List.length_append]; omega), List.take_left]
    by_cases hshort : b.length < 5
    · have hverdict : readVerdict b s.driver.address count = .invalidFrame := if_pos hshort
      simp [hshort, hverdict]
    · rw [if_neg hshort]
      by_cases hnone : readVerdict b s.driver.address count = .none
      · simp only [hnone, if_true, Option.bind_eq_bind, Option.pure_def, Option.bind_assoc,
          Option.bind_some, Option.map_eq_bind, Function.comp_def]
      · simp [hnone]

/-- **`ReadHoldingRegisters`** for one to 32 registers into an array that holds them. -/
theorem readHoldingRegisters_eq (regAddr : U16) {out : List U16} {count : U8}
    (hpos : 0 < count.toNat) (hle : count.toNat ≤ 32) (hout : count.toNat ≤ out.length)
    {s : Session σ} {b : List U8}
    (hb : s.reply uart (readRequest s.driver.address regAddr (count.setWidth 16))
      (5 + 2 * count.toNat) = b) :
    readHoldingRegisters uart regAddr (some out) count s
      = some ((readOutcome s.driver.address count b,
          some (if readOutcome s.driver.address count b = .none
            then replyWords b count.toNat ++ out.drop count.toNat else out)),
          s.exchange uart (readRequest s.driver.address regAddr (count.setWidth 16))
            (5 + 2 * count.toNat)) := by
  rw [readHoldingRegisters_eq_loop uart regAddr out hpos hle hb]
  by_cases hnone : readOutcome s.driver.address count b = .none
  · have hverdict : readVerdict b s.driver.address count = .none := by
      unfold readOutcome at hnone
      split_ifs at hnone
      exact hnone
    have hlen := le_length_of_readVerdict hverdict
    rw [if_pos hnone, if_pos hnone,
      foldlM_getWord_eq (by rw [List.length_append]; omega) out count.toNat
        (by omega : 3 + count.toNat * 2 ≤ b.length) hout, List.take_left]
    rfl
  · rw [if_neg hnone, if_neg hnone]
    rfl

/-- A broadcast write is sent and reported done. -/
theorem writeSingleRegister_of_broadcast (regAddr value : U16) {s : Session σ}
    (haddr : s.driver.address = kBroadcastAddress) :
    writeSingleRegister uart regAddr value s
      = some (.success (), s.send uart (writeSingleRequest s.driver.address regAddr value)) := by
  have hsend : (s.flushRx uart).write uart (writeSingleRequest s.driver.address regAddr value ++ [])
      8 = some (s.send uart (writeSingleRequest s.driver.address regAddr value)) :=
    Session.write_flushRx uart _ [] rfl s
  rw [writeSingleRegister]
  simp only [buildWriteSingle_tx, Option.bind_eq_bind, Option.bind_some, Option.pure_def]
  rw [if_neg (by decide), hsend, Option.bind_some, Session.send_driver, if_pos haddr]

/-- **`WriteSingleRegister`** to a slave. -/
theorem writeSingleRegister_eq (regAddr value : U16) {s : Session σ} {b : List U8}
    (haddr : s.driver.address ≠ kBroadcastAddress)
    (hb : s.reply uart (writeSingleRequest s.driver.address regAddr value) 8 = b) :
    writeSingleRegister uart regAddr value s
      = some (⟨(), writeSingleOutcome s.driver.address regAddr value b⟩,
          s.exchange uart (writeSingleRequest s.driver.address regAddr value) 8) := by
  have hsend : (s.flushRx uart).write uart (writeSingleRequest s.driver.address regAddr value ++ [])
      8 = some (s.send uart (writeSingleRequest s.driver.address regAddr value)) :=
    Session.write_flushRx uart _ [] rfl s
  have hread := Session.read_send uart (writeSingleRequest s.driver.address regAddr value)
    (List.replicate 8 0) (List.length_replicate ▸ le_rfl : 8 ≤ (List.replicate 8 (0 : U8)).length) s
  rw [hb] at hread
  rw [writeSingleRegister]
  simp only [buildWriteSingle_tx, Option.bind_eq_bind, Option.bind_some, Option.pure_def]
  rw [if_neg (by decide), hsend, Option.bind_some, Session.send_driver, if_neg haddr, hread]
  simp only [Option.bind_some]
  rcases eq_or_ne b [] with hempty | hempty
  · simp [hempty, writeSingleOutcome, DriverResult.failure]
  · have hlen : b.length ≠ 0 := fun h => hempty (List.length_eq_zero_iff.mp h)
    have hrequest : 8 ≤ (writeSingleRequest s.driver.address regAddr value).length := by
      rw [length_writeSingleRequest]
    rw [if_neg hlen, writeSingleOutcome, if_neg hempty, List.append_nil,
      parseWriteSingleEcho_eq (by rw [List.length_append]; omega) hrequest (by decide),
      List.take_left]
    rfl

/-- The parameters `WriteMultipleRegisters` refuses before it touches the UART. -/
theorem writeMultipleRegisters_of_invalid (regAddr : U16) {regs : Option (List U16)} {count : U8}
    (h : regs.isNone ∨ count = 0 ∨ count > 32) (s : Session σ) :
    writeMultipleRegisters uart regAddr regs count s = some (.failure .invalidParameter, s) := by
  rw [writeMultipleRegisters, if_pos h]
  rfl

/-- An array shorter than the count is read out of bounds. -/
theorem writeMultipleRegisters_of_short (regAddr : U16) {regs : List U16} {count : U8}
    (hpos : 0 < count.toNat) (hle : count.toNat ≤ 32) (hregs : regs.length < count.toNat)
    (s : Session σ) : writeMultipleRegisters uart regAddr (some regs) count s = none := by
  have hbuild := buildWriteMultiple_of_short s.driver.address regAddr hpos hregs
    (List.replicate (9 + 32 * 2) 0)
    (by rw [List.length_replicate]; omega)
  have hvalid : ¬ ((some regs).isNone ∨ count = 0 ∨ count > 32) :=
    not_invalid_iff.mpr ⟨regs, rfl, hpos, hle⟩
  rw [writeMultipleRegisters, if_neg hvalid]
  simp only [hbuild, Option.bind_eq_bind, Option.bind_some, Option.bind_none]

/-- `WriteMultipleRegisters` up to the transmission of its request. -/
theorem writeMultipleRegisters_eq_send (regAddr : U16) {regs : List U16} {count : U8}
    (hpos : 0 < count.toNat) (hle : count.toNat ≤ 32) (hregs : count.toNat ≤ regs.length)
    (s : Session σ) :
    writeMultipleRegisters uart regAddr (some regs) count s = (do
      let s := s.send uart
        (writeMultipleRequest s.driver.address regAddr count (regs.take count.toNat))
      if s.driver.address = kBroadcastAddress then return (.success (), s)
      let (got, rx, s) ← s.read uart (List.replicate 8 0) 8 s.driver.timeoutMs
      if got = 0 then return (.failure .timeout, s)
      let rc ← parseWriteMultipleEcho rx got s.driver.address regAddr (count.setWidth 16)
      return (⟨(), rc⟩, s)) := by
  have hlen : 9 + count.toNat * 2
      = (writeMultipleRequest s.driver.address regAddr count (regs.take count.toNat)).length := by
    rw [length_writeMultipleRequest, List.length_take, min_eq_left hregs]
    omega
  have hvalid : ¬ ((some regs).isNone ∨ count = 0 ∨ count > 32) :=
    not_invalid_iff.mpr ⟨regs, rfl, hpos, hle⟩
  rw [writeMultipleRegisters, if_neg hvalid]
  simp only [buildWriteMultiple_tx _ _ hpos hle hregs, Option.bind_eq_bind, Option.bind_some,
    Option.pure_def]
  -- the builder reports the length of the frame, which is not zero
  rw [if_neg (by omega), Session.write_flushRx uart _ _ hlen]
  rfl

/-- A broadcast write is sent and reported done. -/
theorem writeMultipleRegisters_of_broadcast (regAddr : U16) {regs : List U16} {count : U8}
    (hpos : 0 < count.toNat) (hle : count.toNat ≤ 32) (hregs : count.toNat ≤ regs.length)
    {s : Session σ} (haddr : s.driver.address = kBroadcastAddress) :
    writeMultipleRegisters uart regAddr (some regs) count s
      = some (.success (), s.send uart
          (writeMultipleRequest s.driver.address regAddr count (regs.take count.toNat))) := by
  rw [writeMultipleRegisters_eq_send uart regAddr hpos hle hregs]
  exact if_pos haddr

/-- **`WriteMultipleRegisters`** of one to 32 registers to a slave. -/
theorem writeMultipleRegisters_eq (regAddr : U16) {regs : List U16} {count : U8}
    (hpos : 0 < count.toNat) (hle : count.toNat ≤ 32) (hregs : count.toNat ≤ regs.length)
    {s : Session σ} {b : List U8} (haddr : s.driver.address ≠ kBroadcastAddress)
    (hb : s.reply uart
      (writeMultipleRequest s.driver.address regAddr count (regs.take count.toNat)) 8 = b) :
    writeMultipleRegisters uart regAddr (some regs) count s
      = some (⟨(), writeMultipleOutcome s.driver.address regAddr (count.setWidth 16) b⟩,
          s.exchange uart
            (writeMultipleRequest s.driver.address regAddr count (regs.take count.toNat)) 8) := by
  have hread := Session.read_send uart
    (writeMultipleRequest s.driver.address regAddr count (regs.take count.toNat))
    (List.replicate 8 0) (List.length_replicate ▸ le_rfl : 8 ≤ (List.replicate 8 (0 : U8)).length) s
  rw [hb] at hread
  rw [writeMultipleRegisters_eq_send uart regAddr hpos hle hregs]
  simp only [Option.bind_eq_bind, Option.pure_def]
  rw [Session.send_driver, if_neg haddr, hread, Option.bind_some, Session.exchange_driver]
  rcases eq_or_ne b [] with hempty | hempty
  · simp [hempty, writeMultipleOutcome, DriverResult.failure]
  · have hlen : b.length ≠ 0 := fun h => hempty (List.length_eq_zero_iff.mp h)
    rw [if_neg hlen, writeMultipleOutcome, if_neg hempty,
      parseWriteMultipleEcho_eq _ _ _ (by rw [List.length_append]; omega), List.take_left]
    rfl

/-! ## Rules for the primitives

Whatever holds at each exit of a primitive holds of its result. -/

/-- `ReadHoldingRegisters` refuses its parameters, or finds its buffer too small after the request, or makes
an exchange. -/
theorem ensures_readHoldingRegisters (regAddr : U16) {out : Option (List U16)} {count : U8}
    {s : Session σ} {Q : DriverError × Option (List U16) → Session σ → Prop}
    (hinvalid : out.isNone ∨ count = 0 ∨ count > 125 → Q (.invalidParameter, out) s)
    (hoversize : out.isSome → 32 < count.toNat → count.toNat ≤ 125 → Q (.bufferTooSmall, out)
      (s.send uart (readRequest s.driver.address regAddr (count.setWidth 16))))
    (hexchange : ∀ b out', 0 < count.toNat → count.toNat ≤ 32 →
      Q (readOutcome s.driver.address count b, out')
        (s.exchange uart (readRequest s.driver.address regAddr (count.setWidth 16))
          (5 + 2 * count.toNat))) :
    Machine.Ensures Q (readHoldingRegisters uart regAddr out count s) := by
  by_cases hvalid : out.isNone ∨ count = 0 ∨ count > 125
  · rw [readHoldingRegisters_of_invalid uart regAddr hvalid]
    exact Machine.ensures_some (hinvalid hvalid)
  · obtain ⟨buf, rfl, hpos, hle⟩ := not_invalid_iff.mp hvalid
    rcases Nat.lt_or_ge 32 count.toNat with hgt | hbuf
    · rw [readHoldingRegisters_of_oversize uart regAddr buf hgt hle]
      exact Machine.ensures_some (hoversize rfl hgt hle)
    · rw [readHoldingRegisters_eq_loop uart regAddr buf hpos hbuf rfl]
      intro r s' h
      obtain ⟨regs, -, heq⟩ := Option.map_eq_some_iff.mp h
      cases heq
      exact hexchange _ _ hpos hbuf

/-- `WriteSingleRegister` sends a broadcast, or makes an exchange. -/
theorem ensures_writeSingleRegister (regAddr value : U16) {s : Session σ}
    {Q : DriverResult Unit → Session σ → Prop}
    (hbroadcast : Q (.success ())
      (s.send uart (writeSingleRequest s.driver.address regAddr value)))
    (hexchange : ∀ b, Q ⟨(), writeSingleOutcome s.driver.address regAddr value b⟩
      (s.exchange uart (writeSingleRequest s.driver.address regAddr value) 8)) :
    Machine.Ensures Q (writeSingleRegister uart regAddr value s) := by
  by_cases haddr : s.driver.address = kBroadcastAddress
  · rw [writeSingleRegister_of_broadcast uart regAddr value haddr]
    exact Machine.ensures_some hbroadcast
  · rw [writeSingleRegister_eq uart regAddr value haddr rfl]
    exact Machine.ensures_some (hexchange _)

/-- `WriteMultipleRegisters` refuses its parameters, or sends a broadcast, or makes an exchange. -/
theorem ensures_writeMultipleRegisters (regAddr : U16) {regs : Option (List U16)} {count : U8}
    {s : Session σ} {Q : DriverResult Unit → Session σ → Prop}
    (hinvalid : Q (.failure .invalidParameter) s)
    (hbroadcast : ∀ words, Q (.success ())
      (s.send uart (writeMultipleRequest s.driver.address regAddr count words)))
    (hexchange : ∀ b words,
      Q ⟨(), writeMultipleOutcome s.driver.address regAddr (count.setWidth 16) b⟩
        (s.exchange uart (writeMultipleRequest s.driver.address regAddr count words) 8)) :
    Machine.Ensures Q (writeMultipleRegisters uart regAddr regs count s) := by
  by_cases hvalid : regs.isNone ∨ count = 0 ∨ count > 32
  · rw [writeMultipleRegisters_of_invalid uart regAddr hvalid]
    exact Machine.ensures_some hinvalid
  · obtain ⟨buf, rfl, hpos, hle⟩ := not_invalid_iff.mp hvalid
    rcases Nat.lt_or_ge buf.length count.toNat with hshort | hbuf
    · rw [writeMultipleRegisters_of_short uart regAddr hpos hle hshort]
      exact Machine.ensures_none
    · by_cases haddr : s.driver.address = kBroadcastAddress
      · rw [writeMultipleRegisters_of_broadcast uart regAddr hpos hle hbuf haddr]
        exact Machine.ensures_some (hbroadcast _)
      · rw [writeMultipleRegisters_eq uart regAddr hpos hle hbuf haddr rfl]
        exact Machine.ensures_some (hexchange _ _)

end Driver

end AlicatBasis2
