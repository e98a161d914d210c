import AlicatBasis2.Bus.Instrument
import AlicatBasis2.Machine.Run

/-! # Changing the slave address

`SetModbusAddress` keeps a second copy of the slave's address in the driver and follows the slave when the
write of the new address is echoed. A driver at the broadcast address gets no echo and follows at once,
whether or not the slave has heard of it; at every other address, and for every new address outside 1..247,
the driver moves on an echo alone, and after every success both copies agree. -/

namespace AlicatBasis2

open Modbus

namespace Driver

/-- The write a change of address makes. -/
def retargetOp (newAddress : U8) : RawOp :=
  .writeSingle Reg.modbusAddress (newAddress.setWidth 16)

/-- The write of an address fits the buffers. -/
theorem retargetOp_inRange (newAddress : U8) : (retargetOp newAddress).InRange := trivial

/-- The new addresses `SetModbusAddress` refuses. -/
abbrev Illegal (newAddress : U8) : Prop := newAddress < 1 ∨ newAddress > kMaxModbusAddress

/-- A call that moves the driver on an acknowledgement alone: the slave answers unicast writes, and a
refused address sends nothing. -/
def Acknowledged (address newAddress : U8) : Prop :=
  address ≠ kBroadcastAddress ∨ Illegal newAddress

instance (address newAddress : U8) : Decidable (Acknowledged address newAddress) :=
  inferInstanceAs (Decidable (_ ∨ _))

section Call

variable {σ : Type} (uart : Uart σ) (newAddress : U8) (s : Session σ)

/-- A refused address leaves everything as it was. -/
theorem setModbusAddress_of_illegal (h : Illegal newAddress) :
    setModbusAddress uart newAddress s = some (.failure .invalidAddress, s) := by
  rw [setModbusAddress, if_pos h]
  rfl

/-- A broadcast moves the driver without a reply. -/
theorem setModbusAddress_of_broadcast (h : ¬ Illegal newAddress)
    (haddr : s.driver.address = kBroadcastAddress) :
    setModbusAddress uart newAddress s
      = some (.success (), (s.send uart
          ((retargetOp newAddress).request s.driver.address)).setAddress newAddress) := by
  rw [setModbusAddress, if_neg h, writeSingleRegister_of_broadcast uart _ _ haddr]
  rfl

/-- A unicast moves the driver when its reply is accepted. -/
theorem setModbusAddress_eq (h : ¬ Illegal newAddress)
    (haddr : s.driver.address ≠ kBroadcastAddress) {b : List U8}
    (hb : (retargetOp newAddress).delivered uart s = b) :
    setModbusAddress uart newAddress s
      = some (⟨(), (retargetOp newAddress).outcome s.driver.address b⟩,
          if (retargetOp newAddress).outcome s.driver.address b = .none
          then ((retargetOp newAddress).finished uart s).setAddress newAddress
          else (retargetOp newAddress).finished uart s) := by
  rw [setModbusAddress, if_neg h, writeSingleRegister_eq uart _ _ haddr hb]
  simp only [Option.bind_eq_bind, Option.bind_some, Option.pure_def, DriverResult.ok_iff]
  by_cases hnone : (retargetOp newAddress).outcome s.driver.address b = .none
  · rw [if_pos hnone]
    exact if_pos hnone
  · rw [if_neg hnone]
    exact if_neg hnone

/-- The driver's address changes only when the echo of the call's own write is delivered in the call. -/
def OnlyOnEcho : Prop :=
  ∀ result s', setModbusAddress uart newAddress s = some (result, s') →
    s'.driver.address ≠ s.driver.address →
    s'.trace = s.trace ++ [.flushRx, .write ((retargetOp newAddress).request s.driver.address),
      .read 8 (s.driver.timeoutMs.setWidth 32) ((retargetOp newAddress).request s.driver.address)]

/-- The driver moves on an echo alone exactly in the calls that are acknowledged. -/
theorem onlyOnEcho_iff :
    OnlyOnEcho uart newAddress s ↔ Acknowledged s.driver.address newAddress := by
  constructor
  · intro honly
    by_contra hack
    obtain ⟨haddr, hlegal⟩ := not_or.mp hack
    rw [not_not] at haddr
    have hcall := setModbusAddress_of_broadcast uart newAddress s hlegal haddr
    have hmoved : newAddress ≠ s.driver.address := by
      rw [haddr]
      rintro rfl
      exact hlegal (by decide)
    -- the broadcast reads nothing
    have htrace := congrArg List.length (honly _ _ hcall hmoved)
    rw [Session.setAddress_trace, Session.send_trace, List.length_append,
      List.length_append] at htrace
    exact absurd htrace (by simp)
  · rintro (haddr | hillegal) result s' hcall hmoved
    · by_cases hlegal : Illegal newAddress
      · rw [setModbusAddress_of_illegal uart newAddress s hlegal] at hcall
        cases hcall
        exact absurd rfl hmoved
      · rw [setModbusAddress_eq uart newAddress s hlegal haddr rfl] at hcall
        cases hcall
        split_ifs at hmoved ⊢ with hnone
        · have hreply := (RawOp.outcome_eq_none_iff (retargetOp_inRange newAddress)
            (RawOp.length_delivered_le uart _ s)).mp hnone
          rw [Session.setAddress_trace, RawOp.finished_trace,
            show (retargetOp newAddress).delivered uart s
              = (retargetOp newAddress).request s.driver.address from hreply]
          rfl
        · exact absurd rfl hmoved
    · rw [setModbusAddress_of_illegal uart newAddress s hillegal] at hcall
      cases hcall
      exact absurd rfl hmoved

end Call

end Driver

/-! ## A slave that moves -/

/-- How much of the request gets through, and how much of the reply. -/
structure Loss where
  request : ℕ
  reply : ℕ
  deriving DecidableEq, Repr

/-- What a slave at address `own` makes of a frame: a write of a legal address to its address register moves
it, addressed to it with an echo, broadcast without one. -/
def movedBy (own : U8) (frame : List U8) : U8 × List U8 :=
  match decode frame with
  | some (unit, .writeSingle regAddr value) =>
      if regAddr = Reg.modbusAddress ∧ 1 ≤ value.toNat ∧ value.toNat ≤ 247 then
        if unit = kBroadcastAddress then (value.setWidth 8, [])
        else if unit = own then (value.setWidth 8, frame) else (own, [])
      else (own, [])
  | _ => (own, [])

/-- The UART of a driver and a slave at an address that changes. -/
def Loss.uart (loss : Loss) : Uart (Line U8) :=
  .line fun frame slave =>
    ((movedBy slave (frame.take loss.request)).1,
      (movedBy slave (frame.take loss.request)).2.take loss.reply)

/-- A slave that answers echoes the frame and has moved to the address it carries. -/
theorem movedBy_echo (own : U8) (frame : List U8) :
    (movedBy own frame).2 = [] ∨ ∃ unit regAddr value,
      decode frame = some (unit, .writeSingle regAddr value)
        ∧ movedBy own frame = (value.setWidth 8, frame) := by
  unfold movedBy
  split
  · next unit regAddr value hdecode =>
    split_ifs
    · exact Or.inl rfl
    · exact Or.inr ⟨unit, regAddr, value, hdecode, rfl⟩
    · exact Or.inl rfl
    · exact Or.inl rfl
  · exact Or.inl rfl

/-! ## Runs of calls -/

/-- A call of `SetModbusAddress` and the losses of its transaction. -/
structure RetargetCall where
  newAddress : U8
  /-- What the receive buffer holds before the call. -/
  garbage : List U8
  loss : Loss

/-- The driver, and the address of the slave, between two calls. -/
structure RetargetSystem where
  driver : Driver
  slave : U8
  deriving DecidableEq, Repr

/-- One call of `SetModbusAddress`. -/
def retargetStep : Machine.Step RetargetSystem RetargetCall (DriverResult Unit) :=
  fun call sys => do
    let (result, session) ← Driver.setModbusAddress call.loss.uart call.newAddress
      ⟨sys.driver, ⟨sys.slave, call.garbage⟩, []⟩
    return (result, ⟨session.driver, session.bus.parties⟩)

/-- After a success driver and slave agree; a failure leaves the driver's address as it was. -/
structure RetargetSpec (call : RetargetCall) (sys : RetargetSystem) (result : DriverResult Unit)
    (sys' : RetargetSystem) : Prop where
  agree : result.ok = true → sys'.driver.address = sys'.slave
  unchanged : result.ok = false → sys'.driver.address = sys.driver.address

/-- A call that is echoed in full has moved the slave to the new address. -/
theorem slave_of_delivered {newAddress : U8} {loss : Loss} {s : Session (Line U8)}
    (h : (Driver.retargetOp newAddress).delivered loss.uart s
      = (Driver.retargetOp newAddress).request s.driver.address) :
    ((Driver.retargetOp newAddress).finished loss.uart s).bus.parties = newAddress := by
  have hlen : ((Driver.retargetOp newAddress).request s.driver.address).length = 8 :=
    length_writeSingleRequest _ _ _
  rw [Loss.uart, RawOp.finished_line_parties]
  rw [Loss.uart, RawOp.delivered_line] at h
  rcases movedBy_echo s.bus.parties (((Driver.retargetOp newAddress).request
      s.driver.address).take loss.request) with hsilent | ⟨unit, regAddr, value, hdecode, hmoved⟩
  · -- a silent slave delivers nothing
    rw [hsilent, List.take_nil, List.take_nil] at h
    rw [← h] at hlen
    exact absurd hlen (by decide)
  · -- eight bytes come back only when the whole request got through
    rw [hmoved] at h ⊢
    have hwhole : 8 ≤ loss.request := by
      have hle := congrArg List.length h
      rw [hlen, List.length_take, List.length_take, List.length_take] at hle
      omega
    rw [List.take_of_length_le (by rw [hlen]; exact hwhole),
      RawOp.decode_request (Driver.retargetOp_inRange newAddress).transmits] at hdecode
    cases hdecode
    exact BitVec.setWidth_setWidth_of_le newAddress (show 8 ≤ 16 by decide)

/-- **One acknowledged call** keeps the two copies in step. -/
theorem retargetStep_spec {call : RetargetCall} {sys sys' : RetargetSystem}
    {result : DriverResult Unit} (hstep : retargetStep call sys = some (result, sys'))
    (hack : Driver.Acknowledged sys.driver.address call.newAddress) :
    RetargetSpec call sys result sys' := by
  -- a refused address changes nothing; a legal one is a unicast write
  by_cases hlegal : Driver.Illegal call.newAddress
  · rw [retargetStep, Driver.setModbusAddress_of_illegal _ _ _ hlegal] at hstep
    cases hstep
    exact ⟨fun hok => absurd hok (by decide), fun _ => rfl⟩
  · have haddr := hack.resolve_right hlegal
    rw [retargetStep, Driver.setModbusAddress_eq _ _ _ hlegal haddr rfl] at hstep
    simp only [Option.bind_eq_bind, Option.bind_some, Option.pure_def, Option.some.injEq,
      Prod.mk.injEq] at hstep
    obtain ⟨rfl, rfl⟩ := hstep
    constructor
    · intro hok
      rw [DriverResult.ok_iff] at hok
      rw [if_pos hok]
      have hreply := (RawOp.outcome_eq_none_iff (Driver.retargetOp_inRange call.newAddress)
        (RawOp.length_delivered_le call.loss.uart _ _)).mp hok
      exact (slave_of_delivered hreply).symm
    · intro hfail
      rw [← Bool.not_eq_true, DriverResult.ok_iff] at hfail
      rw [if_neg hfail]
      rfl

/-- A driver that is not at the broadcast address does not get there. -/
theorem retargetStep_unicast (call : RetargetCall) {sys : RetargetSystem}
    (haddr : sys.driver.address ≠ kBroadcastAddress) :
    ∃ result sys', retargetStep call sys = some (result, sys')
      ∧ sys'.driver.address ≠ kBroadcastAddress := by
  by_cases hlegal : Driver.Illegal call.newAddress
  · refine ⟨.failure .invalidAddress, sys, ?_, haddr⟩
    rw [retargetStep, Driver.setModbusAddress_of_illegal _ _ _ hlegal]
    rfl
  · refine ⟨_, _, by rw [retargetStep, Driver.setModbusAddress_eq _ _ _ hlegal haddr rfl]; rfl, ?_⟩
    split_ifs
    · rintro (hzero : call.newAddress = kBroadcastAddress)
      rw [hzero] at hlegal
      exact hlegal (by decide)
    · exact haddr

/-- Calls of a driver that starts at a unicast address are all acknowledged. -/
theorem exists_retarget_execution (calls : List RetargetCall) {init : RetargetSystem}
    (hinit : init.driver.address ≠ kBroadcastAddress) :
    ∃ results final, Machine.Execution (fun call sys result sys' =>
        retargetStep call sys = some (result, sys')
          ∧ Driver.Acknowledged sys.driver.address call.newAddress) calls init results final := by
  obtain ⟨results, final, hrun, -⟩ := Machine.exists_run
    (fun sys : RetargetSystem => sys.driver.address ≠ kBroadcastAddress)
    (fun call sys (_ : True) haddr => retargetStep_unicast call haddr)
    (fun call (_ : call ∈ calls) => trivial) hinit
  refine ⟨results, final, ((Machine.run_eq_some_iff_execution.mp hrun).mono
    (fun sys => sys.driver.address ≠ kBroadcastAddress) ?_ hinit).1⟩
  intro call sys result sys' haddr hstep
  obtain ⟨result₁, sys₁, hstep₁, hkeep⟩ := retargetStep_unicast call haddr
  cases hstep.symm.trans hstep₁
  exact ⟨⟨hstep, Or.inl haddr⟩, hkeep⟩

/-- **Retargeting on acknowledgement.** For every state, new address and UART, the driver's address changes
on the echo alone exactly when the call is acknowledged: the driver is not at the broadcast address, or the
new address is refused. In every run whose calls are all acknowledged, whatever is lost or cut short, driver
and slave agree after each success and a failure changes nothing in the driver. -/
theorem retarget_on_acknowledgement {σ : Type} (uart : Uart σ) (newAddress : U8)
    (s : Session σ) :
    (Driver.OnlyOnEcho uart newAddress s ↔ Driver.Acknowledged s.driver.address newAddress)
    ∧ ∀ (calls : List RetargetCall) (init : RetargetSystem) (results : List (DriverResult Unit))
        (final : RetargetSystem),
      Machine.Execution (fun call sys result sys' => retargetStep call sys = some (result, sys')
        ∧ Driver.Acknowledged sys.driver.address call.newAddress) calls init results final →
      Machine.Execution RetargetSpec calls init results final := by
  constructor
  · exact Driver.onlyOnEcho_iff uart newAddress s
  · intro calls init results final hexec
    refine (hexec.mono (fun _ => True) ?_ trivial).1
    rintro call sys result sys' - ⟨hstep, hack⟩
    exact ⟨retargetStep_spec hstep hack, trivial⟩

/-- A driver and its slave at address 1: a change to 9 whose echo comes back, then one to 5 whose echo is
cut short. -/
theorem retarget_on_acknowledgement_pair :
    (Driver.OnlyOnEcho (Loss.uart ⟨8, 8⟩) 9 ⟨⟨1, 200⟩, ⟨1, []⟩, []⟩ ↔ Driver.Acknowledged 1 9)
    ∧ ∃ results final, Machine.Execution RetargetSpec [⟨9, [], ⟨8, 8⟩⟩, ⟨5, [], ⟨8, 3⟩⟩]
      ⟨⟨1, 200⟩, 1⟩ results final := by
  have hunicast : (⟨⟨1, 200⟩, 1⟩ : RetargetSystem).driver.address ≠ kBroadcastAddress := by
    decide
  obtain ⟨results, final, hexec⟩ :=
    exists_retarget_execution [⟨9, [], ⟨8, 8⟩⟩, ⟨5, [], ⟨8, 3⟩⟩] hunicast
  obtain ⟨honly, hruns⟩ :=
    retarget_on_acknowledgement (Loss.uart ⟨8, 8⟩) 9 ⟨⟨1, 200⟩, ⟨1, []⟩, []⟩
  exact ⟨honly, results, final, hruns _ _ _ _ hexec⟩

/-- At the broadcast address the driver follows a change of address that its slave, at address 5, never
hears of: nothing is read, success is reported, and the two addresses differ. -/
theorem retarget_on_acknowledgement_broadcast :
    retargetStep ⟨9, [], ⟨0, 0⟩⟩ ⟨⟨0, 200⟩, 5⟩ = some (.success (), ⟨⟨9, 200⟩, 5⟩)
    ∧ (Driver.setModbusAddress (Loss.uart ⟨0, 0⟩) 9 ⟨⟨0, 200⟩, ⟨5, []⟩, []⟩).map
        (fun r => (r.1, r.2.driver.address, r.2.trace))
      = some (.success (), 9, [.flushRx, .write (writeSingleRequest 0 45 9)]) := by
  constructor <;> decide +kernel

end AlicatBasis2
