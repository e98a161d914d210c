import AlicatBasis2.Transactions.RawOp

/-! # What a raw operation accepts and reports

Two contracts of the raw operations against every UART: which byte strings are accepted as the reply, and
what is reported for the exception reply of a slave. -/

namespace AlicatBasis2

open Modbus

/-- A UART that brings the same bytes at each read, as many of them as were asked for. -/
def Uart.constant (b : List U8) : Uart Unit where
  write _ bus := bus
  read max _ bus := (b.take max, bus)
  flushRx bus := bus
  length_read_le max _ _ := by rw [List.length_take]; exact min_le_left _ _

namespace RawOp

/-! ## Exact acceptance -/

/-- **Exact acceptance.** A raw operation of a driver with a legal address sends its request, waits for the
bytes of the standard reply, and succeeds exactly on the well-formed reply, whose words are then at the
front of `out`; it times out exactly on the empty string, and every error leaves `out` alone. -/
theorem exact_acceptance {σ : Type} (uart : Uart σ) (s : Session σ)
    (haddr : 1 ≤ s.driver.address.toNat ∧ s.driver.address.toNat ≤ 247)
    (op : RawOp) (hop : op.InRange) :
    ∃ b rc out s', op.exec uart s = some ((rc, out), s')
      ∧ s'.trace = s.trace ++ [.flushRx, .write (op.request s.driver.address),
          .read op.replyLength (s.driver.timeoutMs.setWidth 32) b]
      ∧ (rc = .none ↔ op.IsReply s.driver.address b)
      ∧ (∀ regAddr buf count words, op = .read regAddr buf count →
          words.length = count.toNat →
          b = withCrc ([s.driver.address, 3, 2 * count] ++ payload words) →
          out = words ++ buf.drop count.toNat)
      ∧ (rc = .timeout ↔ b = [])
      ∧ (rc ≠ .none → out = op.buffer) := by
  refine ⟨op.delivered uart s, _, _, _, exec_eq uart hop (ne_broadcast_of_legal haddr),
    op.finished_trace uart s, outcome_eq_none_iff hop (op.length_delivered_le uart s), ?_,
    outcome_eq_timeout_iff op _ _, output_of_ne_none⟩
  rintro regAddr buf count words rfl hwords hb
  have hcount : count.toNat ≤ 127 := by
    have := hop.2.1
    omega
  rw [hb, ← readReply_eq _ hwords]
  exact output_readReply _ regAddr buf hcount hwords

/-- A read of one register on a UART that brings the reply `07`. -/
theorem exact_acceptance_reply :
    ∃ b rc out s', (RawOp.read 25 [0] 1).exec (Uart.constant [1, 3, 2, 0, 7, 0xF9, 0x86])
        (Driver.constructDefault () 1) = some ((rc, out), s')
      ∧ s'.trace = [.flushRx, .write (readRequest 1 25 1), .read 7 200 b]
      ∧ (rc = .none ↔ (RawOp.read 25 [0] 1).IsReply 1 b)
      ∧ (rc = .timeout ↔ b = []) ∧ (rc ≠ .none → out = [0]) := by
  obtain ⟨b, rc, out, s', hexec, htrace, hnone, -, htimeout, hout⟩ :=
    exact_acceptance (Uart.constant [1, 3, 2, 0, 7, 0xF9, 0x86]) (Driver.constructDefault () 1)
      (by decide) (.read 25 [0] 1) (by decide)
  exact ⟨b, rc, out, s', hexec, htrace, hnone, htimeout, hout⟩

/-! ## Exception replies -/

/-- The exception reply passes every test of `ParseReadHolding` before the exception bit. -/
theorem readVerdict_exceptionReply (addr count code : U8) :
    readVerdict (exceptionReply addr Reg.Fn.readHolding code) addr count = .modbusException := by
  have hsealed : Sealed (exceptionReply addr Reg.Fn.readHolding code) :=
    sealed_withCrc (by simp)
  have haddr : byteAt (exceptionReply addr Reg.Fn.readHolding code) 0 = addr := rfl
  have hfn : byteAt (exceptionReply addr Reg.Fn.readHolding code) 1 = 0x83 := rfl
  rw [readVerdict, length_exceptionReply, haddr, hfn, if_neg (by decide),
    if_neg (not_not.mpr hsealed), if_neg (not_not.mpr rfl), if_pos (by decide)]

/-- A read reports the exception; the length test of both write echoes refuses its five bytes before the
exception bit is looked at. -/
theorem outcome_exceptionReply (op : RawOp) (addr code : U8) :
    op.outcome addr (exceptionReply addr op.function code)
      = if op.function = Reg.Fn.readHolding then .modbusException else .invalidFrame := by
  cases op with
  | read regAddr out count =>
    have hne : exceptionReply addr Reg.Fn.readHolding code ≠ [] := by
      simp [exceptionReply, withCrc]
    rw [function, if_pos rfl, outcome, Driver.readOutcome, if_neg hne, readVerdict_exceptionReply]
  | writeSingle regAddr value => rfl
  | writeMultiple regAddr regs count => rfl

/-- **Exception replies.** When the bytes delivered for a raw operation are the exception reply of its
slave, `ModbusException` is reported exactly by reads: the writes ask for eight bytes and take five for a
broken frame. -/
theorem exception_reported_iff {σ : Type} (uart : Uart σ) (s : Session σ)
    (haddr : 1 ≤ s.driver.address.toNat ∧ s.driver.address.toNat ≤ 247)
    (op : RawOp) (hop : op.InRange) (code : U8)
    (hdeliver : op.delivered uart s = exceptionReply s.driver.address op.function code) :
    ∃ rc out s', op.exec uart s = some ((rc, out), s')
      ∧ (rc = .modbusException ↔ op.function = Reg.Fn.readHolding) := by
  refine ⟨_, _, _, exec_eq uart hop (ne_broadcast_of_legal haddr), ?_⟩
  rw [hdeliver, outcome_exceptionReply]
  by_cases hread : op.function = Reg.Fn.readHolding
  · rw [if_pos hread]
    exact iff_of_true rfl hread
  · rw [if_neg hread]
    exact iff_of_false DriverError.noConfusion hread

/-- The exception reply `02` to a read of one register. -/
theorem exception_reported_iff_read :
    ∃ rc out s', (RawOp.read 25 [0] 1).exec (Uart.constant (exceptionReply 1 3 2))
        (Driver.constructDefault () 1) = some ((rc, out), s')
      ∧ (rc = .modbusException ↔ (RawOp.read 25 [0] 1).function = Reg.Fn.readHolding) :=
  exception_reported_iff (Uart.constant (exceptionReply 1 3 2)) (Driver.constructDefault () 1)
    (by decide) (.read 25 [0] 1) (by decide) 2 (by decide +kernel)

/-- The setpoint of a meter: the exception reply to the function-16 request, and the one to a function-6
request, are reported as `InvalidFrame`. -/
theorem exception_of_write_invalidFrame :
    ((Driver.setSetpoint (Uart.constant (exceptionReply 1 0x10 2)) (25 / 2 : ℚ) 3
        (Driver.constructDefault () 1)).map (·.1.error) = some .invalidFrame)
      ∧ ((Driver.tare (Uart.constant (exceptionReply 1 6 2))
        (Driver.constructDefault () 1)).map (·.1.error) = some .invalidFrame) := by
  decide +kernel

end RawOp

end AlicatBasis2
