import AlicatBasis2.Bus.LateBus
import AlicatBasis2.Machine.Run

/-! # Which reply a call is credited with

Runs of raw operations on a bus with late replies. A call that succeeds has received the answer of its own
slave to some call of the run, this one or an earlier one whose answer was still outstanding, and its header
agrees with the request of this call. A function-6 reply repeats the whole request; a function-3 reply
carries no register and a function-16 reply no data, so for these two the answer can be that to another
request. Where no such answer is outstanding, the call gets its own. -/

namespace AlicatBasis2

open Modbus

/-- A call of one of the drivers and the course of its transaction. -/
structure LateCall (n : ℕ) where
  driver : Fin n
  op : RawOp
  /-- What the receive buffer holds before the call. -/
  garbage : List U8
  timing : Timing

/-- The state of all parties between two calls. -/
structure LateSystem (n : ℕ) where
  drivers : Fin n → Driver
  bus : LateBus n

/-- A driver, its slave and no traffic yet. -/
def LateSystem.fresh (driver : Driver) (regs : Registers) : LateSystem 1 where
  drivers _ := driver
  bus := { stores := fun _ => regs, outstanding := [], script := [] }

namespace Installation

variable {n : ℕ} (inst : Installation n)

/-- One call: the driver's code against the bus. -/
def lateStep : Machine.Step (LateSystem n) (LateCall n) (DriverError × List U16) :=
  fun call sys => do
    let (reported, session) ← call.op.exec inst.lateUart
      ⟨sys.drivers call.driver, ⟨{ sys.bus with script := [call.timing] }, call.garbage⟩, []⟩
    return (reported,
      ⟨Function.update sys.drivers call.driver session.driver, session.bus.parties⟩)

/-- The answer a call asks for in a given state. -/
def ownAnswer (call : LateCall n) (sys : LateSystem n) : Answer n :=
  ⟨call.driver, call.op.toRequest, sys.bus.stores call.driver⟩

/-- The request of a call was sent and got through, its slave answered `a`, and took the effect of the
request. -/
structure Processed (call : LateCall n) (sys sys' : LateSystem n) (a : Answer n) : Prop where
  sends : call.op.Transmits
  arrives : call.timing.requestArrives = true
  answer : a = ownAnswer call sys
  effect : sys'.bus.stores call.driver = a.request.effect a.registers

/-- Some call of the run processed so. -/
def ProcessedIn (calls : List (LateCall n)) (init : LateSystem n) (a : Answer n) : Prop :=
  ∃ before call after reports sys reported sys', calls = before ++ call :: after
    ∧ Machine.run inst.lateStep before init = some (reports, sys)
    ∧ inst.lateStep call sys = some (reported, sys') ∧ Processed call sys sys' a

/-! ## One call -/

section Step

variable (call : LateCall n) (sys : LateSystem n)

/-- The session a call starts in. -/
def lateSession : Session (Line (LateBus n)) :=
  ⟨sys.drivers call.driver, ⟨{ sys.bus with script := [call.timing] }, call.garbage⟩, []⟩

/-- The answers a call can receive: those outstanding, and its own if its request gets through. -/
def lateAnswers : List (Answer n) :=
  sys.bus.outstanding ++ if call.timing.requestArrives then [ownAnswer call sys] else []

/-- An answer that a call can receive was outstanding, or is its own. -/
theorem mem_lateAnswers {a : Answer n} (h : a ∈ lateAnswers call sys) :
    a ∈ sys.bus.outstanding ∨ call.timing.requestArrives = true ∧ a = ownAnswer call sys := by
  rcases List.mem_append.mp h with h | h
  · exact Or.inl h
  · split_ifs at h with harrives
    · exact Or.inr ⟨harrives, List.mem_singleton.mp h⟩
    · exact absurd h List.not_mem_nil

/-- The bytes a call receives. -/
def lateBytes : List U8 :=
  ((Pool.takeAt call.timing.arrivals (lateAnswers call sys)).1.flatMap inst.bytes).take
    call.op.replyLength

/-- The bus after the request of a call. -/
def lateBus : LateBus n :=
  (lateSession call sys).bus.parties.request inst (call.op.request (inst.address call.driver))

/-- Only the addressed slave answers the request of a call. -/
theorem pending_lateSession (hop : call.op.Transmits) :
    (lateSession call sys).bus.parties.pending inst (call.op.request (inst.address call.driver))
      = lateAnswers call sys := by
  rw [LateBus.pending, inst.answers_eq (RawOp.decode_request hop (inst.address call.driver))]
  rfl

/-- What did not arrive stays outstanding. -/
theorem outstanding_lateBus (hop : call.op.Transmits) :
    (inst.lateBus call sys).outstanding
      = (Pool.takeAt call.timing.arrivals (lateAnswers call sys)).2 := by
  rw [lateBus, LateBus.request, inst.pending_lateSession call sys hop]
  rfl

/-- The addressed slave takes the effect of a request that gets through. -/
theorem stores_lateBus (hop : call.op.Transmits) (harrives : call.timing.requestArrives = true) :
    (inst.lateBus call sys).stores call.driver
      = call.op.toRequest.effect (sys.bus.stores call.driver) := by
  have htiming : (lateSession call sys).bus.parties.timing = call.timing := rfl
  rw [lateBus, LateBus.request, htiming, if_pos harrives]
  exact inst.settle_of_eq (RawOp.decode_request hop (inst.address call.driver)) sys.bus.stores

/-- A request that gets through is processed. -/
theorem processed_lateBus (hop : call.op.Transmits) (harrives : call.timing.requestArrives = true) :
    Processed call sys ⟨sys.drivers, inst.lateBus call sys⟩ (ownAnswer call sys) :=
  ⟨hop, harrives, rfl, inst.stores_lateBus call sys hop harrives⟩

/-- After a request there is outstanding what was before, and the answer to the request. -/
theorem mem_outstanding_lateBus (hop : call.op.Transmits) {a : Answer n}
    (ha : a ∈ (inst.lateBus call sys).outstanding) :
    a ∈ sys.bus.outstanding ∨ Processed call sys ⟨sys.drivers, inst.lateBus call sys⟩ a := by
  rw [inst.outstanding_lateBus call sys hop] at ha
  rcases mem_lateAnswers call sys (Pool.mem_of_mem_left ha) with hold | ⟨harrives, rfl⟩
  · exact Or.inl hold
  · exact Or.inr (inst.processed_lateBus call sys hop harrives)

/-- A refused call changes nothing. -/
theorem lateStep_of_refused (hop : call.op.Refused) :
    inst.lateStep call sys = some ((.invalidParameter, call.op.buffer),
      ⟨sys.drivers, { sys.bus with script := [call.timing] }⟩) := by
  have hdriver : Function.update sys.drivers call.driver (sys.drivers call.driver)
      = sys.drivers := Function.update_eq_self _ _
  rw [lateStep, RawOp.exec_of_refused inst.lateUart hop]
  simp only [Option.bind_eq_bind, Option.bind_some, Option.pure_def, hdriver]

section Legal

variable (hlegal : ∀ i, 1 ≤ (inst.address i).toNat ∧ (inst.address i).toNat ≤ 247)
  (hsys : ∀ i, (sys.drivers i).address = inst.address i)

include hsys

/-- A read that does not fit the receive buffer sends its request and reports `BufferTooSmall`. -/
theorem lateStep_of_oversize (hop : call.op.Transmits) (hback : call.op.Backed)
    (hsize : ¬ call.op.InRange) :
    inst.lateStep call sys = some ((.bufferTooSmall, call.op.buffer),
      ⟨sys.drivers, inst.lateBus call sys⟩) := by
  have hdriver : Function.update sys.drivers call.driver (sys.drivers call.driver)
      = sys.drivers := Function.update_eq_self _ _
  rw [lateStep, RawOp.exec_of_oversize inst.lateUart hop hback hsize]
  simp only [Option.bind_eq_bind, Option.bind_some, Option.pure_def, Session.send_driver, hdriver,
    lateUart, Session.send_line_parties, hsys]
  rfl

include hlegal

/-- A call within the receive buffer reports its verdict on what it received. -/
theorem lateStep_eq (hop : call.op.InRange) :
    inst.lateStep call sys = some ((call.op.outcome (inst.address call.driver)
          (inst.lateBytes call sys),
        call.op.output (inst.address call.driver) (inst.lateBytes call sys)),
      ⟨sys.drivers, inst.lateBus call sys⟩) := by
  have haddr : (lateSession call sys).driver.address = inst.address call.driver :=
    hsys call.driver
  have hexec := RawOp.exec_eq inst.lateUart hop (s := lateSession call sys)
    (haddr ▸ ne_broadcast_of_legal (hlegal call.driver))
  have hbytes : call.op.delivered inst.lateUart (lateSession call sys)
      = inst.lateBytes call sys := by
    rw [lateUart, RawOp.delivered_line, haddr, LateBus.received,
      inst.pending_lateSession call sys hop.transmits]
    rfl
  have hparties : (call.op.finished inst.lateUart (lateSession call sys)).bus.parties
      = inst.lateBus call sys := by
    rw [lateUart, RawOp.finished_line_parties, haddr]
    rfl
  have hdriver : Function.update sys.drivers call.driver (sys.drivers call.driver)
      = sys.drivers := Function.update_eq_self _ _
  rw [haddr, hbytes] at hexec
  rw [lateStep]
  simp only [lateSession] at hexec hparties ⊢
  rw [hexec]
  simp only [Option.bind_eq_bind, Option.bind_some, Option.pure_def, RawOp.finished_driver, hdriver,
    hparties]

/-- **One call.** It returns and leaves the drivers as they were; what is outstanding after it was so before
or is the answer to its request; and when it succeeds, it has judged what it received. -/
theorem lateStep_spec (hback : call.op.Backed) :
    ∃ reported sys', inst.lateStep call sys = some (reported, sys') ∧ sys'.drivers = sys.drivers
      ∧ (∀ a ∈ sys'.bus.outstanding, a ∈ sys.bus.outstanding ∨ Processed call sys sys' a)
      ∧ (reported.1 = .none → call.op.InRange ∧ sys' = ⟨sys.drivers, inst.lateBus call sys⟩
        ∧ reported = (call.op.outcome (inst.address call.driver) (inst.lateBytes call sys),
          call.op.output (inst.address call.driver) (inst.lateBytes call sys))) := by
  rcases hback.refused_or_transmits with hrefused | hsends
  · exact ⟨_, _, inst.lateStep_of_refused call sys hrefused, rfl, fun a ha => Or.inl ha,
      fun h => DriverError.noConfusion h⟩
  · have hleft := fun a => inst.mem_outstanding_lateBus call sys hsends (a := a)
    by_cases hsize : call.op.InRange
    · exact ⟨_, _, inst.lateStep_eq call sys hlegal hsys hsize, rfl, hleft,
        fun _ => ⟨hsize, rfl, rfl⟩⟩
    · exact ⟨_, _, inst.lateStep_of_oversize call sys hsys hsends hback hsize, rfl, hleft,
        fun h => DriverError.noConfusion h⟩

end Legal

/-- **What a successful call has received**: one of the answers it could receive, of its own slave, to a
request its own can be confused with; a read returns the words of that answer. -/
theorem exists_answer_of_success (hop : call.op.InRange)
    (hmade : ∀ a ∈ lateAnswers call sys, a.request.Made)
    (hnone : call.op.outcome (inst.address call.driver) (inst.lateBytes call sys) = .none) :
    ∃ a ∈ lateAnswers call sys, a.slave = call.driver ∧ a.request.Fits
      ∧ call.op.toRequest.Confusable a.request
      ∧ inst.lateBytes call sys = a.request.reply (inst.address call.driver) a.registers := by
  have hle : (inst.lateBytes call sys).length ≤ call.op.replyLength := by
    rw [lateBytes, List.length_take]
    exact min_le_left _ _
  obtain ⟨a, ha, hslave, hfits, hconfusable, hbytes⟩ := inst.exists_answer_of_isReply hop hmade
    rfl ((RawOp.outcome_eq_none_iff hop hle).mp hnone)
  exact ⟨a, ha, inst.distinct hslave, hfits, hconfusable, hbytes⟩

end Step

/-! ## Runs of calls -/

/-- What a run has processed it has processed in every longer run. -/
theorem ProcessedIn.append {inst : Installation n} {calls : List (LateCall n)}
    {init : LateSystem n} {a : Answer n} (h : inst.ProcessedIn calls init a)
    (more : List (LateCall n)) : inst.ProcessedIn (calls ++ more) init a := by
  obtain ⟨before, call, after, reports, sys, reported, sys', rfl, hrun, hstep, hprocessed⟩ := h
  exact ⟨before, call, after ++ more, reports, sys, reported, sys',
    by rw [List.append_assoc, List.cons_append], hrun, hstep, hprocessed⟩

/-- A processed request was made by a driver. -/
theorem ProcessedIn.made {inst : Installation n} {calls : List (LateCall n)}
    {init : LateSystem n} {a : Answer n} (h : inst.ProcessedIn calls init a) :
    a.request.Made := by
  obtain ⟨_, call, _, _, _, _, _, -, -, -, hprocessed⟩ := h
  exact ⟨call.op, hprocessed.sends, by rw [hprocessed.answer]; rfl⟩

section Run

variable {inst : Installation n}
  (hlegal : ∀ i, 1 ≤ (inst.address i).toNat ∧ (inst.address i).toNat ≤ 247)
  {init : LateSystem n} (hinit : ∀ i, (init.drivers i).address = inst.address i)
  {calls : List (LateCall n)} (hcalls : ∀ call ∈ calls, call.op.Backed)

include hlegal hinit hcalls

/-- Every sequence of calls has a run. -/
theorem exists_lateRun :
    ∃ reports sys, Machine.run inst.lateStep calls init = some (reports, sys)
      ∧ sys.drivers = init.drivers := by
  refine Machine.exists_run (fun sys : LateSystem n => sys.drivers = init.drivers) ?_ hcalls rfl
  intro call sys hback hsys
  obtain ⟨reported, sys', hstep, hdrivers, -, -⟩ :=
    inst.lateStep_spec call sys hlegal (hsys ▸ hinit) hback
  exact ⟨reported, sys', hstep, hdrivers.trans hsys⟩

/-- **The invariant of a run**: the drivers are those of the start, and every outstanding answer was given
to a call of the run. -/
theorem run_invariant (hempty : init.bus.outstanding = [])
    {reports : List (DriverError × List U16)} {sys : LateSystem n}
    (hrun : Machine.run inst.lateStep calls init = some (reports, sys)) :
    sys.drivers = init.drivers ∧ ∀ a ∈ sys.bus.outstanding, inst.ProcessedIn calls init a := by
  revert hcalls
  refine Machine.run_induction (P := fun calls _ sys => (∀ call ∈ calls, call.op.Backed) →
    sys.drivers = init.drivers ∧ ∀ a ∈ sys.bus.outstanding, inst.ProcessedIn calls init a)
    ?start ?next hrun
  case start =>
    intro _
    rw [hempty]
    exact ⟨rfl, fun a ha => absurd ha List.not_mem_nil⟩
  case next =>
    intro calls reports sys call reported sys' hrun ih hstep hcalls
    obtain ⟨hdrivers, houtstanding⟩ := ih fun c hc => hcalls c (List.mem_append_left _ hc)
    have hback := hcalls call (List.mem_append_right _ List.mem_cons_self)
    obtain ⟨reported₁, sys₁, hstep₁, hkept, hleft, -⟩ :=
      inst.lateStep_spec call sys hlegal (hdrivers ▸ hinit) hback
    cases hstep.symm.trans hstep₁
    refine ⟨hkept.trans hdrivers, fun a ha => ?_⟩
    -- what is left was outstanding before, or is the answer to this call
    rcases hleft a ha with hold | hown
    · exact (houtstanding a hold).append [call]
    · exact ⟨calls, call, [], reports, sys, reported, sys', rfl, hrun, hstep, hown⟩

end Run

/-! ## Credit -/

/-- An answer that accounts for the success of a call: from the driver's own slave, to a request inside the
store that the header cannot tell from this one, with the words a read returns. -/
structure Accounts (call : LateCall n) (reported : DriverError × List U16) (a : Answer n) : Prop where
  slave : a.slave = call.driver
  fits : a.request.Fits
  confusable : call.op.toRequest.Confusable a.request
  contents : ∀ regAddr out count, call.op = .read regAddr out count →
    ∃ regAddr', a.request = .read regAddr' (count.setWidth 16)
      ∧ reported.2 = a.registers.contents regAddr' count.toNat ++ out.drop count.toNat

/-- The answer a successful call has received accounts for its success. -/
theorem accounts_of_bytes {inst : Installation n} {call : LateCall n} {sys : LateSystem n}
    {a : Answer n} (hop : call.op.InRange) (hslave : a.slave = call.driver)
    (hfits : a.request.Fits) (hconfusable : call.op.toRequest.Confusable a.request)
    (hbytes : inst.lateBytes call sys
      = a.request.reply (inst.address call.driver) a.registers) :
    Accounts call (call.op.outcome (inst.address call.driver) (inst.lateBytes call sys),
      call.op.output (inst.address call.driver) (inst.lateBytes call sys)) a where
  slave := hslave
  fits := hfits
  confusable := hconfusable
  contents := by
    intro regAddr out count hread
    rw [hread] at hop hconfusable ⊢
    obtain ⟨slave, request, registers⟩ := a
    cases request with
    | read regAddr' count' =>
      -- the caller's buffer depends on the received bytes alone, not on the register asked for
      obtain rfl : count.setWidth 16 = count' := hconfusable
      refine ⟨regAddr', rfl, ?_⟩
      rw [hbytes]
      dsimp only
      exact RawOp.output_reply _ _ regAddr' out hop.2.1
    | writeSingle regAddr' value => exact absurd hconfusable id
    | writeMultiple regAddr' words => exact absurd hconfusable id

end Installation

open Installation in
/-- **Credit under late replies.** In every run of raw operations, whatever is lost and whenever the
replies arrive, a call that succeeds is accounted for by an answer of its own slave to this call or to an
earlier one whose answer was outstanding. If no outstanding answer of its slave can be confused with its
own, the call itself was processed: a read returns the present contents of the registers it asked for, and
a write has been applied. -/
theorem late_reply_credit {n : ℕ} (inst : Installation n)
    (hlegal : ∀ i, 1 ≤ (inst.address i).toNat ∧ (inst.address i).toNat ≤ 247)
    (calls : List (LateCall n)) (hcalls : ∀ call ∈ calls, call.op.Backed)
    (call : LateCall n) (hback : call.op.Backed) (init : LateSystem n)
    (hinit : ∀ i, (init.drivers i).address = inst.address i)
    (hempty : init.bus.outstanding = []) :
    ∃ reports sys reported sys', Machine.run inst.lateStep calls init = some (reports, sys)
      ∧ inst.lateStep call sys = some (reported, sys')
      ∧ (reported.1 = .none →
        (∃ a, (a ∈ sys.bus.outstanding ∧ inst.ProcessedIn calls init a ∨ Processed call sys sys' a)
          ∧ Accounts call reported a)
        ∧ ((∀ a ∈ sys.bus.outstanding, a.slave = call.driver →
              ¬ call.op.toRequest.Confusable a.request) →
            Processed call sys sys' (ownAnswer call sys)
            ∧ sys'.bus.stores call.driver = call.op.toRequest.apply (sys.bus.stores call.driver)
            ∧ ∀ regAddr out count, call.op = .read regAddr out count →
              reported.2 = (sys.bus.stores call.driver).contents regAddr count.toNat
                ++ out.drop count.toNat)) := by
  obtain ⟨reports, sys, hrun, -⟩ := exists_lateRun hlegal hinit hcalls
  obtain ⟨hdrivers, houtstanding⟩ := run_invariant hlegal hinit hcalls hempty hrun
  obtain ⟨reported, sys', hstep, -, -, hsuccess⟩ :=
    inst.lateStep_spec call sys hlegal (hdrivers ▸ hinit) hback
  refine ⟨reports, sys, reported, sys', hrun, hstep, fun hnone => ?_⟩
  obtain ⟨hop, rfl, rfl⟩ := hsuccess hnone
  have hmade : ∀ a ∈ lateAnswers call sys, a.request.Made := by
    intro a ha
    rcases mem_lateAnswers call sys ha with hold | ⟨-, rfl⟩
    · exact (houtstanding a hold).made
    · exact ⟨call.op, hop.transmits, rfl⟩
  obtain ⟨a, ha, hslave, hfits, hconfusable, hbytes⟩ :=
    inst.exists_answer_of_success call sys hop hmade hnone
  have haccounts := accounts_of_bytes hop hslave hfits hconfusable hbytes
  constructor
  · refine ⟨a, ?_, haccounts⟩
    rcases mem_lateAnswers call sys ha with hold | ⟨harrives, rfl⟩
    · exact Or.inl ⟨hold, houtstanding a hold⟩
    · exact Or.inr (inst.processed_lateBus call sys hop.transmits harrives)
  · intro hnothing
    rcases mem_lateAnswers call sys ha with hold | ⟨harrives, rfl⟩
    · exact absurd hconfusable (hnothing a hold hslave)
    · have hprocessed := inst.processed_lateBus call sys hop.transmits harrives
      refine ⟨hprocessed, ?_, ?_⟩
      · rw [hprocessed.effect, Request.effect, if_pos hfits]
        rfl
      · intro regAddr out count hread
        obtain ⟨regAddr', hrequest, hwords⟩ := haccounts.contents regAddr out count hread
        obtain rfl : regAddr = regAddr' := by
          rw [ownAnswer, hread] at hrequest
          cases hrequest
          rfl
        exact hwords

/-- A read whose reply was late, then a read of another register that receives it. -/
theorem late_reply_credit_read :
    ∃ reports sys reported sys',
      Machine.run (Installation.single 1 2).lateStep [⟨0, .read 0 [0] 1, [], ⟨true, []⟩⟩]
          (.fresh ⟨1, 200⟩ fun a => a + 100) = some (reports, sys)
      ∧ (Installation.single 1 2).lateStep ⟨0, .read 1 [0] 1, [], ⟨true, [0]⟩⟩ sys
        = some (reported, sys')
      ∧ (reported.1 = .none →
        ∃ a : Answer 1, Installation.Accounts ⟨0, .read 1 [0] 1, [], ⟨true, [0]⟩⟩ reported a) := by
  obtain ⟨reports, sys, reported, sys', hrun, hstep, hcredit⟩ :=
    late_reply_credit (Installation.single 1 2) (by decide) [⟨0, .read 0 [0] 1, [], ⟨true, []⟩⟩]
      (by decide) ⟨0, .read 1 [0] 1, [], ⟨true, [0]⟩⟩ (by decide)
      (.fresh ⟨1, 200⟩ fun a => a + 100) (fun _ => rfl) rfl
  refine ⟨reports, sys, reported, sys', hrun, hstep, fun hnone => ?_⟩
  obtain ⟨⟨a, -, haccounts⟩, -⟩ := hcredit hnone
  exact ⟨a, haccounts⟩

/-- Replies credited to the wrong call. The read of register 1, which holds 101, returns the 100 of register
0 from the reply to the read before; the write of 2 to the batch volume is lost and reported done on the
reply to the write of 1 before, which stays in the registers. -/
theorem late_reply_credit_mistaken :
    (Machine.run (Installation.single 1 2).lateStep
        [⟨0, .read 0 [0] 1, [], ⟨true, []⟩⟩, ⟨0, .read 1 [0] 1, [], ⟨true, [0]⟩⟩]
        (.fresh ⟨1, 200⟩ fun a => a + 100)).map
        (fun r => (r.1, (r.2.bus.stores 0).contents 1 1))
      = some ([(.timeout, [0]), (.none, [100])], [101])
    ∧ (Machine.run (Installation.single 1 2).lateStep
        [⟨0, .writeMultiple Reg.totalizerBatchVolume [0, 1] 2, [], ⟨true, []⟩⟩,
          ⟨0, .writeMultiple Reg.totalizerBatchVolume [0, 2] 2, [], ⟨false, [0]⟩⟩]
        (.fresh ⟨1, 200⟩ fun _ => 0)).map
        (fun r => (r.1, (r.2.bus.stores 0).contents Reg.totalizerBatchVolume 2))
      = some ([(.timeout, []), (.none, [])], [0, 1]) := by
  constructor <;> decide +kernel

end AlicatBasis2
