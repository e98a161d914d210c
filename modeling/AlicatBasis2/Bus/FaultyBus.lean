import AlicatBasis2.Bus.Instrument
import AlicatBasis2.Frames.ErrorDetection
import AlicatBasis2.Machine.Run

/-! # Drivers and slaves on a faulty bus

Any number of drivers share one UART with one slave each. Every transaction may lose its request, and may
lose its reply, cut it short or disturb up to sixteen consecutive bits of it; the receive buffer may hold
anything before the call. What the drivers report is then a run of the abstract machine in which each slave
is a store of registers, a read that succeeds returns the contents, a write that succeeds is applied, and a
write that fails is applied wholly or not at all. -/

namespace AlicatBasis2

open Modbus CyclicCode

/-! ## Faults -/

/-- What the line makes of a reply: the reply, nothing, a proper part of its front, or the reply with a
nonzero error pattern inside sixteen consecutive bits. -/
inductive Disturbed (reply : List U8) : List U8 → Prop
  | intact : Disturbed reply reply
  | lost : Disturbed reply []
  | cut (k : ℕ) (h : k < reply.length) : Disturbed reply (reply.take k)
  | burst (mask : List U8) (i : ℕ) (hlen : mask.length = reply.length)
      (hconf : ConfinedTo (frameBits mask) i 16) (hset : true ∈ frameBits mask) :
      Disturbed reply (corrupt reply mask)

/-- The faults of one transaction. -/
structure Channel where
  /-- Whether the request gets through to the slaves. -/
  requestArrives : Bool
  /-- What becomes of a reply. -/
  deliver : List U8 → List U8
  disturbed : ∀ reply, Disturbed reply (deliver reply)

/-- A transaction without a fault. -/
def Channel.Clean (channel : Channel) : Prop :=
  channel.requestArrives = true ∧ ∀ reply, channel.deliver reply = reply

/-- The faultless channel. -/
def Channel.clean : Channel := ⟨true, id, fun _ => .intact⟩

/-- The UART of the drivers during one transaction. -/
def Installation.uart {n : ℕ} (inst : Installation n) (channel : Channel) :
    Uart (Line (Fin n → Registers)) :=
  .line fun frame stores =>
    if channel.requestArrives then
      (inst.settle frame stores,
        channel.deliver ((inst.answers frame stores).flatMap inst.bytes))
    else (stores, [])

/-! ## Runs of calls -/

/-- A call of one of the drivers and what happens to its transaction. -/
structure BusCall (n : ℕ) where
  driver : Fin n
  op : RawOp
  /-- What the receive buffer holds before the call. -/
  garbage : List U8
  channel : Channel

/-- The state of all parties between two calls. -/
structure System (n : ℕ) where
  drivers : Fin n → Driver
  stores : Fin n → Registers

/-- One call: the driver's code against the bus of this transaction. -/
def Installation.step {n : ℕ} (inst : Installation n) :
    Machine.Step (System n) (BusCall n) (DriverError × List U16) := fun call sys => do
  let (reported, session) ← call.op.exec (inst.uart call.channel)
    ⟨sys.drivers call.driver, ⟨sys.stores, call.garbage⟩, []⟩
  return (reported,
    ⟨Function.update sys.drivers call.driver session.driver, session.bus.parties⟩)

/-- **The abstract machine**: what a call may report and do to the register stores. -/
structure StoreSpec {n : ℕ} (call : BusCall n) (stores : Fin n → Registers)
    (reported : DriverError × List U16) (stores' : Fin n → Registers) : Prop where
  /-- Only the addressed slave is touched. -/
  frame : ∀ j, j ≠ call.driver → stores' j = stores j
  /-- The request is applied wholly or not at all. -/
  atomic : stores' call.driver = stores call.driver
    ∨ (call.op.toRequest.Fits ∧ stores' call.driver = call.op.toRequest.apply (stores call.driver))
  /-- A call that succeeds has been applied. -/
  applied : reported.1 = .none →
    call.op.toRequest.Fits ∧ stores' call.driver = call.op.toRequest.apply (stores call.driver)
  /-- A read that succeeds returns the contents of its registers, in order. -/
  contents : reported.1 = .none → ∀ regAddr out count, call.op = .read regAddr out count →
    reported.2 = (stores call.driver).contents regAddr count.toNat ++ out.drop count.toNat
  /-- A call that fails returns the caller's buffer as it was. -/
  failed : reported.1 ≠ .none → reported.2 = call.op.buffer
  /-- A call inside the store succeeds on a faultless transaction. -/
  live : call.channel.Clean → call.op.toRequest.Fits → reported.1 = .none

/-! ## Accepted replies are intact -/

/-- No disturbance of a sealed frame, short enough to be read whole, passes for a well-formed reply. -/
theorem RawOp.IsReply.eq_of_disturbed {op : RawOp} {addr : U8} {reply got : List U8}
    (hsealed : Sealed reply) (hlen : reply.length ≤ op.replyLength) (hd : Disturbed reply got)
    (h : op.IsReply addr (got.take op.replyLength)) : got.take op.replyLength = reply := by
  have hfull := h.length_eq
  cases hd with
  | intact => exact List.take_of_length_le hlen
  | lost =>
    -- an empty string has not the length of a reply
    have hfour := hsealed.1
    rw [List.take_nil, List.length_nil] at hfull
    omega
  | cut k hk =>
    rw [List.length_take, List.length_take] at hfull
    omega
  | burst mask i hmask hconf hset =>
    -- a burst breaks the seal
    have htake : (corrupt reply mask).take op.replyLength = corrupt reply mask :=
      List.take_of_length_le (by rw [length_corrupt hmask]; exact hlen)
    rw [htake] at h
    exact absurd h.isSealed (not_sealed_of_burst hmask hsealed hconf hset)

/-! ## One transaction -/

section Transaction

variable {n : ℕ} (inst : Installation n) (call : BusCall n) (sys : System n)

/-- The session a call starts in. -/
def Installation.session : Session (Line (Fin n → Registers)) :=
  ⟨sys.drivers call.driver, ⟨sys.stores, call.garbage⟩, []⟩

/-- A lost request brings nothing back and changes no slave. -/
theorem Installation.delivered_of_lost (h : call.channel.requestArrives = false) :
    call.op.delivered (inst.uart call.channel) (Installation.session call sys) = []
      ∧ (call.op.finished (inst.uart call.channel)
          (Installation.session call sys)).bus.parties = sys.stores := by
  rw [Installation.uart, RawOp.delivered_line, RawOp.finished_line_parties, h]
  exact ⟨List.take_nil, rfl⟩

/-- A request that arrives brings back what the line makes of the slaves' answers. -/
theorem Installation.delivered_of_arrived (h : call.channel.requestArrives = true) :
    call.op.delivered (inst.uart call.channel) (Installation.session call sys)
        = (call.channel.deliver ((inst.answers
            (call.op.request (sys.drivers call.driver).address) sys.stores).flatMap
              inst.bytes)).take call.op.replyLength
      ∧ (call.op.finished (inst.uart call.channel) (Installation.session call sys)).bus.parties
        = inst.settle (call.op.request (sys.drivers call.driver).address) sys.stores := by
  rw [Installation.uart, RawOp.delivered_line, RawOp.finished_line_parties, h]
  exact ⟨rfl, rfl⟩

end Transaction

/-- A call runs its raw operation and leaves every driver as it was. -/
theorem Installation.step_eq {n : ℕ} (inst : Installation n) (call : BusCall n) (sys : System n)
    (hop : call.op.InRange) (hlegal : ∀ i, 1 ≤ (inst.address i).toNat ∧ (inst.address i).toNat ≤ 247)
    (hsys : ∀ i, (sys.drivers i).address = inst.address i) :
    inst.step call sys
      = some ((call.op.outcome (inst.address call.driver)
            (call.op.delivered (inst.uart call.channel) (Installation.session call sys)),
          call.op.output (inst.address call.driver)
            (call.op.delivered (inst.uart call.channel) (Installation.session call sys))),
        ⟨sys.drivers, (call.op.finished (inst.uart call.channel)
          (Installation.session call sys)).bus.parties⟩) := by
  have haddr : (sys.drivers call.driver).address ≠ kBroadcastAddress := by
    rw [hsys]
    exact ne_broadcast_of_legal (hlegal call.driver)
  have hexec := RawOp.exec_eq (inst.uart call.channel) hop
    (show (Installation.session call sys).driver.address ≠ kBroadcastAddress from haddr)
  have hdriver : Function.update sys.drivers call.driver (sys.drivers call.driver)
      = sys.drivers := Function.update_eq_self _ _
  rw [Installation.step]
  simp only [Installation.session] at hexec ⊢
  rw [hexec]
  simp only [Option.bind_eq_bind, Option.bind_some, Option.pure_def, RawOp.finished_driver,
    hdriver, hsys]

/-- A call whose delivered bytes are not a reply reports an error and returns its buffer. -/
theorem storeSpec_of_failed {n : ℕ} {call : BusCall n} {stores stores' : Fin n → Registers}
    {addr : U8} {b : List U8} (hfail : call.op.outcome addr b ≠ .none)
    (hframe : ∀ j, j ≠ call.driver → stores' j = stores j)
    (hatomic : stores' call.driver = stores call.driver
      ∨ (call.op.toRequest.Fits
        ∧ stores' call.driver = call.op.toRequest.apply (stores call.driver)))
    (hlive : call.channel.Clean → ¬ call.op.toRequest.Fits) :
    StoreSpec call stores (call.op.outcome addr b, call.op.output addr b) stores' where
  frame := hframe
  atomic := hatomic
  applied h := absurd h hfail
  contents h := absurd h hfail
  failed _ := RawOp.output_of_ne_none hfail
  live hclean hfits := absurd hfits (hlive hclean)

/-- **One call refines the abstract machine.** -/
theorem Installation.step_refines {n : ℕ} (inst : Installation n) (call : BusCall n)
    (sys : System n) (hop : call.op.InRange)
    (hlegal : ∀ i, 1 ≤ (inst.address i).toNat ∧ (inst.address i).toNat ≤ 247)
    (hsys : ∀ i, (sys.drivers i).address = inst.address i) :
    ∃ reported sys', inst.step call sys = some (reported, sys') ∧ sys'.drivers = sys.drivers
      ∧ StoreSpec call sys.stores reported sys'.stores := by
  refine ⟨_, _, inst.step_eq call sys hop hlegal hsys, rfl, ?_⟩
  have hdecode := RawOp.decode_request hop.transmits (inst.address call.driver)
  cases harrive : call.channel.requestArrives with
  | false =>
    obtain ⟨hempty, hstores⟩ := inst.delivered_of_lost call sys harrive
    rw [hempty, hstores]
    -- a lost request is a timeout
    refine storeSpec_of_failed ?_ (fun _ _ => rfl) (Or.inl rfl) fun hclean => ?_
    · rw [(RawOp.outcome_eq_timeout_iff call.op _ []).mpr rfl]
      exact DriverError.noConfusion
    · exact absurd (harrive.symm.trans hclean.1) Bool.false_ne_true
  | true =>
    obtain ⟨hbytes, hstores⟩ := inst.delivered_of_arrived call sys harrive
    rw [hsys, inst.answers_eq hdecode, List.flatMap_singleton] at hbytes
    rw [hsys] at hstores
    have hsettle := inst.settle_of_eq hdecode sys.stores
    rw [hstores]
    have hframe : ∀ j, j ≠ call.driver →
        inst.settle (call.op.request (inst.address call.driver)) sys.stores j = sys.stores j :=
      fun j hj => inst.settle_of_ne hdecode hj sys.stores
    -- whatever is accepted is the slave's own answer, undisturbed
    have haccept : ∀ {answer : List U8}, Sealed answer → answer.length ≤ call.op.replyLength →
        call.op.delivered (inst.uart call.channel) (Installation.session call sys)
          = (call.channel.deliver answer).take call.op.replyLength →
        call.op.outcome (inst.address call.driver)
          (call.op.delivered (inst.uart call.channel) (Installation.session call sys)) = .none →
        call.op.delivered (inst.uart call.channel) (Installation.session call sys) = answer
          ∧ call.op.IsReply (inst.address call.driver) answer := by
      intro answer hsealed hlen hb hnone
      have hreply := (RawOp.outcome_eq_none_iff hop (RawOp.length_delivered_le _ _ _)).mp hnone
      have heq := hb.trans (RawOp.IsReply.eq_of_disturbed hsealed hlen
        (call.channel.disturbed answer) (hb ▸ hreply))
      exact ⟨heq, heq ▸ hreply⟩
    by_cases hfits : call.op.toRequest.Fits
    · have hreply := RawOp.isReply_reply hop.transmits (inst.address call.driver) (sys.stores call.driver)
      rw [Installation.bytes, Request.answer, if_pos hfits] at hbytes
      rw [Request.effect, if_pos hfits] at hsettle
      have hown := haccept hreply.isSealed hreply.length_eq.le hbytes
      exact {
        frame := hframe
        atomic := Or.inr ⟨hfits, hsettle⟩
        applied := fun _ => ⟨hfits, hsettle⟩
        contents := by
          intro hnone regAddr out count hread
          rw [(hown hnone).1]
          obtain ⟨i, op, garbage, channel⟩ := call
          subst hread
          dsimp only
          exact RawOp.output_reply _ _ regAddr out hop.2.1
        failed := RawOp.output_of_ne_none
        live := by
          intro hclean _
          rw [hbytes, hclean.2, List.take_of_length_le hreply.length_eq.le]
          exact (RawOp.outcome_eq_none_iff hop hreply.length_eq.le).mpr hreply }
    · rw [Installation.bytes, Request.answer, if_neg hfits] at hbytes
      rw [Request.effect, if_neg hfits] at hsettle
      refine storeSpec_of_failed ?_ hframe (Or.inl hsettle) fun _ => hfits
      -- the exception reply is shorter than every standard reply
      intro hnone
      have hseven := RawOp.seven_le_replyLength hop.transmits
      have hsealed : Sealed (exceptionReply (inst.address call.driver)
          call.op.toRequest.function (inst.exceptionCode call.driver)) := sealed_withCrc (by simp)
      obtain ⟨-, hreply⟩ := haccept hsealed
        (by rw [length_exceptionReply]; omega) hbytes hnone
      have hfull := hreply.length_eq
      rw [length_exceptionReply] at hfull
      omega

/-- **Refinement of the register stores.** For every sequence of calls across the drivers, whatever the
faults of their transactions, the calls return and what they report and leave in the slaves is an execution
of the abstract machine. -/
theorem store_refinement {n : ℕ} (inst : Installation n)
    (hlegal : ∀ i, 1 ≤ (inst.address i).toNat ∧ (inst.address i).toNat ≤ 247)
    (calls : List (BusCall n)) (hcalls : ∀ call ∈ calls, call.op.InRange) (sys : System n)
    (hsys : ∀ i, (sys.drivers i).address = inst.address i) :
    ∃ reports sys', Machine.run inst.step calls sys = some (reports, sys')
      ∧ sys'.drivers = sys.drivers
      ∧ Machine.Execution StoreSpec calls sys.stores reports sys'.stores := by
  refine Machine.exists_run_execution System.stores (fun t => t.drivers = sys.drivers) ?_ hcalls rfl
  intro call t hop ht
  obtain ⟨reported, t', hstep, hdrivers, hspec⟩ :=
    inst.step_refines call t hop hlegal (ht ▸ hsys)
  exact ⟨reported, t', hstep, hdrivers.trans ht, hspec⟩

/-- Two slaves: a write to the first with garbage in the buffer, then a read of the second. -/
theorem store_refinement_pair :
    ∃ reports sys', Machine.run (Installation.step ⟨![1, 2], by decide, fun _ => 2⟩)
        [⟨0, .writeSingle 45 9, [0xFF], .clean⟩, ⟨1, .read 25 [0] 1, [], .clean⟩]
        ⟨![⟨1, 200⟩, ⟨2, 200⟩], fun _ _ => 7⟩ = some (reports, sys')
      ∧ sys'.drivers = ![⟨1, 200⟩, ⟨2, 200⟩]
      ∧ Machine.Execution StoreSpec
        [⟨0, .writeSingle 45 9, [0xFF], .clean⟩, ⟨1, .read 25 [0] 1, [], .clean⟩]
        (fun _ _ => 7) reports sys'.stores :=
  store_refinement ⟨![1, 2], by decide, fun _ => 2⟩ (by decide)
    [⟨0, .writeSingle 45 9, [0xFF], .clean⟩, ⟨1, .read 25 [0] 1, [], .clean⟩] (by decide)
    ⟨![⟨1, 200⟩, ⟨2, 200⟩], fun _ _ => 7⟩ (by decide)

end AlicatBasis2
