import AlicatBasis2.Transactions.RawOp

/-! # A line with a receive buffer

The common part of every bus: what the other parties answer to a frame goes to the end of the driver's
receive buffer, a read takes from its front, and a flush empties it. A transaction flushes first, so it
receives what its own request brings and nothing that came before. -/

namespace AlicatBasis2

/-- The other parties, and the bytes waiting in the driver's receive buffer. -/
structure Line (σ : Type) where
  parties : σ
  rx : List U8
  deriving DecidableEq, Repr

/-- The UART of a line whose parties turn a frame into their next state and the bytes they send back. -/
def Uart.line {σ : Type} (respond : List U8 → σ → σ × List U8) : Uart (Line σ) where
  write frame bus := ⟨(respond frame bus.parties).1, bus.rx ++ (respond frame bus.parties).2⟩
  read max _ bus := (bus.rx.take max, { bus with rx := bus.rx.drop max })
  flushRx bus := { bus with rx := [] }
  length_read_le max _ bus := by rw [List.length_take]; exact min_le_left _ _

/-- A request sent leaves the parties as they respond to it. -/
theorem Session.send_line_parties {σ : Type} (respond : List U8 → σ → σ × List U8)
    (request : List U8) (s : Session (Line σ)) :
    (s.send (Uart.line respond) request).bus.parties = (respond request s.bus.parties).1 := rfl

namespace RawOp

variable {σ : Type} (respond : List U8 → σ → σ × List U8) (op : RawOp) (s : Session (Line σ))

/-- A call receives the front of what its request brings. -/
theorem delivered_line :
    op.delivered (Uart.line respond) s
      = (respond (op.request s.driver.address) s.bus.parties).2.take op.replyLength := rfl

/-- A call leaves the parties as its request does. -/
theorem finished_line_parties :
    (op.finished (Uart.line respond) s).bus.parties
      = (respond (op.request s.driver.address) s.bus.parties).1 := rfl

end RawOp

end AlicatBasis2
