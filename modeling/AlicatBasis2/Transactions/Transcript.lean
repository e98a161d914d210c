import AlicatBasis2.Bus.Instrument

/-! # Transcripts

The UART calls of a session as transactions. A transaction carries a message: a flush, one frame that a slave
decodes to the message's unit and request, and one read of the standard reply's length with the message's
timeout, which is left out where no reply can be taken. -/

namespace AlicatBasis2

open Modbus

/-! ## Transactions -/

/-- A request with the unit it is for and the time its reply is waited for. -/
structure Message where
  unit : U8
  request : Request
  timeoutMs : U16
  deriving DecidableEq, Repr

/-- A transaction as the UART sees it: the frame sent, and the read behind it, with the number of bytes asked
for, the timeout and the bytes that came. -/
structure Transaction where
  frame : List U8
  reading : Option (ℕ × U32 × List U8)
  deriving DecidableEq, Repr

/-- The UART calls of a transaction. -/
def Transaction.events (t : Transaction) : List UartEvent :=
  .flushRx :: .write t.frame :: (t.reading.map fun (max, ms, got) => UartEvent.read max ms got).toList

namespace Message

/-- The number of bytes of the standard reply. -/
def replyLength (m : Message) : ℕ :=
  match m.request with
  | .read _ count => 5 + 2 * count.toNat
  | .writeSingle _ _ | .writeMultiple _ _ => 8

/-- A reply is waited for, unless the message is a broadcast write or a read of more registers than the
receive buffer holds. -/
def Awaited (m : Message) : Prop :=
  match m.request with
  | .read _ count => count.toNat ≤ 32
  | .writeSingle _ _ | .writeMultiple _ _ => m.unit ≠ kBroadcastAddress

/-- The transaction of a message: its frame, no longer than the largest transmit buffer, decodes to the unit
and the request, and its reply is read once where one is waited for. -/
structure CarriedBy (m : Message) (t : Transaction) : Prop where
  decoded : decode t.frame = some (m.unit, m.request)
  size : t.frame.length ≤ 9 + 32 * 2
  read : m.Awaited → ∃ got, t.reading = some (m.replyLength, m.timeoutMs.setWidth 32, got)
    ∧ got.length ≤ m.replyLength
  unread : ¬ m.Awaited → t.reading = none

end Message

namespace Session

variable {σ : Type}

/-- From `s` to `s'` the UART carried the messages in order, one transaction each, and nothing else. -/
def Carried (messages : List Message) (s s' : Session σ) : Prop :=
  ∃ ts : List Transaction, s'.trace = s.trace ++ ts.flatMap Transaction.events
    ∧ List.Forall₂ Message.CarriedBy messages ts

/-- Nothing done carries nothing. -/
theorem Carried.refl (s : Session σ) : Carried [] s s := ⟨[], (List.append_nil _).symm, .nil⟩

/-- What two sessions in a row carried, in a row. -/
theorem Carried.trans {before after : List Message} {s t u : Session σ}
    (hst : Carried before s t) (htu : Carried after t u) : Carried (before ++ after) s u := by
  obtain ⟨ts, htrace, hts⟩ := hst
  obtain ⟨us, htrace', hus⟩ := htu
  refine ⟨ts ++ us, ?_, List.rel_append hts hus⟩
  rw [htrace', htrace, List.flatMap_append, List.append_assoc]

/-- What happens to the driver's fields between two transactions is not on the wire. -/
theorem Carried.of_trace {messages : List Message} {s s' t t' : Session σ}
    (h : Carried messages s t) (hs : s'.trace = s.trace) (ht : t'.trace = t.trace) :
    Carried messages s' t' := by
  rwa [Carried, hs, ht]

/-- A request that is sent and not waited for. -/
theorem carried_send (uart : Uart σ) {m : Message} {frame : List U8} (s : Session σ)
    (hdecode : decode frame = some (m.unit, m.request)) (hsize : frame.length ≤ 9 + 32 * 2)
    (hunread : ¬ m.Awaited) : Carried [m] s (s.send uart frame) := by
  refine ⟨[⟨frame, none⟩], rfl, .cons ?_ .nil⟩
  exact ⟨hdecode, hsize, fun h => absurd h hunread, fun _ => rfl⟩

/-- A request whose reply is read. -/
theorem carried_exchange (uart : Uart σ) {m : Message} {frame : List U8} {need : ℕ} (s : Session σ)
    (hdecode : decode frame = some (m.unit, m.request)) (hsize : frame.length ≤ 9 + 32 * 2)
    (hneed : m.replyLength = need) (hms : m.timeoutMs = s.driver.timeoutMs) (hread : m.Awaited) :
    Carried [m] s (s.exchange uart frame need) := by
  refine ⟨[⟨frame, some (need, s.driver.timeoutMs.setWidth 32, s.reply uart frame need)⟩], rfl,
    .cons ?_ .nil⟩
  refine ⟨hdecode, hsize, fun _ => ⟨s.reply uart frame need, ?_, ?_⟩, fun h => absurd hread h⟩
  · rw [hneed, hms]
  · exact hneed ▸ length_reply_le uart frame need s

end Session

/-! ## Waiting -/

/-- The longest time a UART call waits, in milliseconds. -/
def UartEvent.waitMs : UartEvent → ℕ
  | .read _ timeoutMs _ => timeoutMs.toNat
  | .flushRx | .write _ => 0

/-- The longest time the UART calls so far have waited. -/
def Session.waitMs {σ : Type} (s : Session σ) : ℕ := (s.trace.map UartEvent.waitMs).sum

/-- The timeouts of messages, added up. -/
def timeoutSum (messages : List Message) : ℕ := (messages.map fun m => m.timeoutMs.toNat).sum

/-- A transaction waits for its message's timeout at most. -/
theorem Message.CarriedBy.waitMs_le {m : Message} {t : Transaction} (h : m.CarriedBy t) :
    (t.events.map UartEvent.waitMs).sum ≤ m.timeoutMs.toNat := by
  by_cases hread : m.Awaited
  · obtain ⟨got, hreading, -⟩ := h.read hread
    have hms : (m.timeoutMs.setWidth 32).toNat = m.timeoutMs.toNat :=
      BitVec.toNat_setWidth_of_le (Nat.le_add_left 16 16)
    rw [Transaction.events, hreading]
    simp [UartEvent.waitMs, hms]
  · rw [Transaction.events, h.unread hread]
    simp [UartEvent.waitMs]

/-- Carrying messages takes no longer than their timeouts. -/
theorem Session.Carried.waitMs_le {σ : Type} {messages : List Message} {s s' : Session σ}
    (h : Carried messages s s') : s'.waitMs ≤ s.waitMs + timeoutSum messages := by
  obtain ⟨ts, htrace, hts⟩ := h
  have hsum : ((ts.flatMap Transaction.events).map UartEvent.waitMs).sum ≤ timeoutSum messages := by
    clear htrace
    induction hts with
    | nil => rfl
    | cons hcarried _ ih =>
      rw [List.flatMap_cons, List.map_append, List.sum_append, timeoutSum, List.map_cons,
        List.sum_cons]
      exact Nat.add_le_add hcarried.waitMs_le ih
  rw [waitMs, waitMs, htrace, List.map_append, List.sum_append]
  exact Nat.add_le_add_left hsum _

end AlicatBasis2
