import AlicatBasis2.Bus.FaultyBus
import AlicatBasis2.Operations.Script

/-! # A fleet of instruments on one line

Any number of drivers share one UART with any number of instruments. An instrument is a store of registers
that takes its address from register 45 and its line rate from register 21, so that both change under the
operations of the drivers; between two calls its registers may change on their own. It hears what is sent at its
own rate to its own address, or to every address, it carries out the requests it accepts, and it answers what is
sent to its own address alone. A request reaches the instruments or not, one by one; a single reply may be lost,
cut, or disturbed in at most sixteen consecutive bits; and where several instruments answer at once anything may
come back. -/

namespace AlicatBasis2

open Modbus

/-! ## Instruments -/

namespace Registers

/-- The line rate of an instrument, by the code in register 21, where the table has the code. -/
def lineRate (regs : Registers) : Option U32 :=
  if (regs 21).toNat ≤ 5 then some (baudRateToBps ⟨lowByte (regs 21)⟩) else none

/-- An instrument hears a unit: it runs at the rate of the line, and the unit is its address or broadcast. -/
def Hears (regs : Registers) (rate : U32) (unit : U8) : Prop :=
  regs.lineRate = some rate ∧ (unit = kBroadcastAddress ∨ regs 45 = unit.setWidth 16)

/-- An instrument answers a unit: it hears it, and the unit is its address. -/
def Answers (regs : Registers) (rate : U32) (unit : U8) : Prop :=
  regs.lineRate = some rate ∧ unit ≠ kBroadcastAddress ∧ regs 45 = unit.setWidth 16

instance (regs : Registers) (rate : U32) (unit : U8) : Decidable (regs.Hears rate unit) :=
  inferInstanceAs (Decidable (_ ∧ _))

instance (regs : Registers) (rate : U32) (unit : U8) : Decidable (regs.Answers rate unit) :=
  inferInstanceAs (Decidable (_ ∧ _))

/-- Who answers a unit hears it. -/
theorem Answers.hears {regs : Registers} {rate : U32} {unit : U8} (h : regs.Answers rate unit) :
    regs.Hears rate unit := ⟨h.1, Or.inr h.2.2⟩

/-- Different units are different in a register. -/
theorem widen_injective : Function.Injective fun unit : U8 => unit.setWidth 16 := by
  intro unit unit' h
  have hwide := congrArg BitVec.toNat h
  simp only [toNat_widen] at hwide
  exact BitVec.eq_of_toNat_eq hwide

end Registers

/-- What the instruments of a fleet are told apart by: the requests each carries out, and the code of the
exception it answers to the others. -/
structure Fleet (n : ℕ) where
  accepts : Fin n → Request → Bool
  exceptionCode : Fin n → U8

/-- Instruments that carry out every request inside their store. -/
def Fleet.standard (n : ℕ) : Fleet n := ⟨fun _ request => request.Fits, fun _ => 2⟩

/-- The faults of one transaction. A single reply is kept, lost, cut, or disturbed in at most sixteen consecutive
bits; several at once may come to anything. -/
structure Fault (n : ℕ) where
  /-- The instruments the request gets through to. -/
  reaches : Fin n → Bool
  /-- What becomes of a single reply. -/
  deliver : List U8 → List U8
  disturbed : ∀ reply, Disturbed reply (deliver reply)
  /-- What becomes of several replies at once. -/
  collide : List (List U8) → List U8

/-- A transaction without a fault. -/
def Fault.clean {n : ℕ} : Fault n := ⟨fun _ => true, id, fun _ => .intact, List.flatten⟩

/-- A fault that loses every reply to a request that gets through. -/
def Fault.unanswered {n : ℕ} : Fault n := ⟨fun _ => true, fun _ => [], fun _ => .lost, fun _ => []⟩

/-- What comes back of the replies to a request. -/
def Fault.onLine {n : ℕ} (fault : Fault n) : List (List U8) → List U8
  | [] => []
  | [reply] => fault.deliver reply
  | replies => fault.collide replies

/-- The instruments, the rate of the host's UART, and the faults of the transactions to come; without one a
transaction is clean. -/
structure FleetBus (n : ℕ) where
  stores : Fin n → Registers
  rate : U32
  faults : List (Fault n)

namespace FleetBus

variable {n : ℕ} (bus : FleetBus n)

/-- The fault of the next transaction. -/
def fault : Fault n := bus.faults.headD .clean

/-- An instrument at an address, at the rate of the line. -/
def At (unit : U8) (i : Fin n) : Prop := (bus.stores i).Answers bus.rate unit

/-- No two instruments answer a unit at once. -/
def Alone (unit : U8) : Prop := ∀ i j, bus.At unit i → bus.At unit j → i = j

instance (unit : U8) (i : Fin n) : Decidable (bus.At unit i) :=
  inferInstanceAs (Decidable (Registers.Answers _ _ _))

instance (unit : U8) : Decidable (bus.Alone unit) :=
  inferInstanceAs (Decidable (∀ _ _, _ → _ → _ = _))

end FleetBus

/-! ## The bus -/

namespace Fleet

variable {n : ℕ} (fleet : Fleet n)

/-- The answer of an instrument to a request for its address. -/
def answer (bus : FleetBus n) (unit : U8) (request : Request) (i : Fin n) : List U8 :=
  if fleet.accepts i request then request.reply unit (bus.stores i)
  else exceptionReply unit request.function (fleet.exceptionCode i)

/-- The instruments that answer a request, in no particular order. -/
def answering (bus : FleetBus n) (unit : U8) : List (Fin n) :=
  (List.finRange n).filter fun i => bus.fault.reaches i && decide (bus.At unit i)

/-- The registers of an instrument after a request. -/
def settle (bus : FleetBus n) (unit : U8) (request : Request) (i : Fin n) : Registers :=
  if bus.fault.reaches i = true ∧ (bus.stores i).Hears bus.rate unit
    ∧ fleet.accepts i request = true
  then request.apply (bus.stores i) else bus.stores i

/-- What the fleet makes of a frame, and what comes back. -/
def respond (frame : List U8) (bus : FleetBus n) : FleetBus n × List U8 :=
  match decode frame with
  | some (unit, request) =>
      (⟨fleet.settle bus unit request, bus.rate, bus.faults.tail⟩,
        bus.fault.onLine ((answering bus unit).map (fleet.answer bus unit request)))
  | none => (⟨bus.stores, bus.rate, bus.faults.tail⟩, [])

/-- The UART of the drivers. -/
def uart : Uart (Line (FleetBus n)) := .line fleet.respond

end Fleet

/-! ## Drivers, instruments and the host -/

/-- A call of one of the drivers: what the receive buffer holds before it, and the faults of its
transactions. -/
structure FleetCall (F : Type) (m n : ℕ) where
  driver : Fin m
  call : Call F
  garbage : List U8
  faults : List (Fault n)

/-- What happens next: a call; a change of the rate of the host's UART; or something an instrument does on its
own, as when it measures or restarts with its factory settings. -/
inductive FleetInput (F : Type) (m n : ℕ)
  | call (c : FleetCall F m n)
  | tune (bps : U32)
  | own (i : Fin n) (regs : Registers)

/-- All parties between two inputs. -/
structure FleetSystem (m n : ℕ) where
  drivers : Fin m → Driver
  stores : Fin n → Registers
  rate : U32

/-- Instruments fresh from the factory but for their addresses, each with a driver of its own. -/
def FleetSystem.fresh {n : ℕ} (addresses : Fin n → U8) : FleetSystem n n where
  drivers i := ⟨addresses i, kDefaultTimeoutMs⟩
  stores i := fun a => if a = 45 then (addresses i).setWidth 16 else if a = 21 then 3 else 0
  rate := 38400

/-- The bus a call finds. -/
def FleetSystem.bus {m n : ℕ} (sys : FleetSystem m n) (faults : List (Fault n)) : FleetBus n :=
  ⟨sys.stores, sys.rate, faults⟩

/-- One input: the driver's code against the fleet, the new rate, or the new registers. -/
def Fleet.step {F : Type} [FloatArith F] {m n : ℕ} (fleet : Fleet n) :
    Machine.Step (FleetSystem m n) (FleetInput F m n) (Reply F)
  | .call c, sys => do
      let (reply, session) ← c.call.exec fleet.uart
        ⟨sys.drivers c.driver, ⟨sys.bus c.faults, c.garbage⟩, []⟩
      return (reply, ⟨Function.update sys.drivers c.driver session.driver,
        session.bus.parties.stores, session.bus.parties.rate⟩)
  | .tune bps, sys => some (.unit, { sys with rate := bps })
  | .own i regs, sys => some (.unit, { sys with stores := Function.update sys.stores i regs })

namespace Fleet

variable {F : Type} [FloatArith F] {m n : ℕ} (fleet : Fleet n) (sys : FleetSystem m n)

/-- A change of the host's rate: `rate := bps` and nothing else. -/
@[simp] theorem step_tune (bps : U32) :
    fleet.step (F := F) (.tune bps) sys = some (.unit, { sys with rate := bps }) := rfl

/-- `SetAddress` is no matter of the fleet: the driver's address becomes `a`, and nothing else changes. -/
@[simp] theorem step_setAddress (d : Fin m) (a : U8) (garbage : List U8) (faults : List (Fault n)) :
    fleet.step (F := F) (.call ⟨d, .setAddress a, garbage, faults⟩) sys
      = some (.unit, { sys with
          drivers := Function.update sys.drivers d ⟨a, (sys.drivers d).timeoutMs⟩ }) := rfl

end Fleet

/-! ## The abstract machine -/

/-- What a successful call tells of the registers it has read. -/
def Call.Told {F : Type} [FloatArith F] (call : Call F) (reply : Reply F) (regs : Registers) : Prop :=
  match call, reply with
  | .readInstantaneous d, .instantaneous rc =>
      Driver.decodeInstantaneous (some (regs.contents 2100 10)) d = some rc.value
  | .readMeasurement, .measurement rc =>
      Driver.decodeMeasurement (some (regs.contents 4201 14)) = some rc.value
  | .readIdentity, .identity rc => rc.value.Identifies regs
  | .readHoldingRegisters regAddr (some buf) count, .registers _ out =>
      out = some (regs.contents regAddr count.toNat ++ buf.drop count.toNat)
  | _, _ => True

/-- **The abstract machine**: what a call of a driver may report and do to the instruments. -/
structure Fleet.Served {F : Type} [FloatArith F] {n : ℕ} (fleet : Fleet n) (call : Call F)
    (driver : Driver) (bus : FleetBus n) (reply : Reply F) (bus' : FleetBus n) : Prop where
  rate : bus'.rate = bus.rate
  /-- An instrument keeps its registers, or has carried out a message of the script that it hears. -/
  only : ∀ i, bus'.stores i = bus.stores i
    ∨ ∃ m ∈ call.script driver, (bus.stores i).Hears bus.rate m.unit
      ∧ fleet.accepts i m.request = true ∧ bus'.stores i = m.request.apply (bus.stores i)
  /-- The one message of a call is carried out by every instrument it gets through to that hears it and accepts
  it, whatever becomes of the replies. -/
  reached : ∀ m, call.script driver = [m] → ∀ i, bus.fault.reaches i = true →
    (bus.stores i).Hears bus.rate m.unit → fleet.accepts i m.request = true →
    bus'.stores i = m.request.apply (bus.stores i)
  /-- A call that succeeds was carried out whole by the one instrument at the driver's address, and tells of
  its registers. -/
  done : reply.error = .none → ¬ call.IsDiscovery → call.script driver ≠ [] →
    driver.address ≠ kBroadcastAddress → bus.Alone driver.address →
    ∃ i, bus.At driver.address i ∧ call.Told reply (bus.stores i)
      ∧ ∀ m ∈ call.script driver, fleet.accepts i m.request = true
        ∧ bus'.stores i = m.request.apply (bus.stores i)
  /-- A call whose messages the one instrument at the driver's address accepts succeeds on a faultless
  line. -/
  live : bus.faults = [] → ¬ call.IsDiscovery → call.script driver ≠ [] →
    bus.Alone driver.address → ∀ i, bus.At driver.address i →
    (∀ m ∈ call.script driver, m.Awaited ∧ fleet.accepts i m.request = true) → reply.error = .none
  /-- A sweep on a bitmap of at least 32 bytes succeeds; it marks addresses of its window with an instrument, and
  on a faultless line every address with one instrument that answers probes. -/
  found : ∀ buf bytes ms first last,
    call = .discoverPresentAddresses (some buf) bytes ms first last → 32 ≤ bytes →
    ∃ rc buf', reply = .discovery rc (some buf') ∧ rc.error = .none
      ∧ (∀ k < 8 * bytes, Bitmap.mem buf' k = true →
        ∃ a ∈ Driver.window first last, a.toNat = k ∧ ∃ i, bus.At a i)
      ∧ (bus.faults = [] → ∀ a ∈ Driver.window first last, bus.Alone a → ∀ i, bus.At a i →
        fleet.accepts i (.read 25 1) = true → Bitmap.mem buf' a.toNat = true)

/-- What an input may do to all parties. -/
def Fleet.Allows {F : Type} [FloatArith F] {m n : ℕ} (fleet : Fleet n) :
    Machine.Spec (FleetSystem m n) (FleetInput F m n) (Reply F)
  | .call c, sys, reply, sys' =>
      sys'.drivers = Function.update sys.drivers c.driver
          (c.call.driverAfter reply (sys.drivers c.driver))
        ∧ fleet.Served c.call (sys.drivers c.driver) (sys.bus c.faults) reply (sys'.bus [])
  | .tune bps, sys, reply, sys' => reply = .unit ∧ sys' = { sys with rate := bps }
  | .own i regs, sys, reply, sys' =>
      reply = .unit ∧ sys' = { sys with stores := Function.update sys.stores i regs }

end AlicatBasis2
