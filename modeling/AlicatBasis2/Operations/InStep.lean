import AlicatBasis2.Machine.Simulation
import AlicatBasis2.Operations.Script

/-! # Sessions in step

Two drivers with the same fields on two UARTs that bring the same bytes for the frames to one unit. Whatever
the UARTs are, every call of a public operation that speaks to that unit alone is undefined on both or returns
the same on both, and leaves the drivers with the same fields and the UARTs in step. -/

namespace AlicatBasis2

open Machine Modbus

/-- Two UARTs are in step on a unit, along a relation of their states: a request to the unit keeps the states
related, and a read of related states brings the same bytes. -/
structure Uart.InStep {σ τ : Type} (uart : Uart σ) (uart' : Uart τ) (unit : U8) (R : σ → τ → Prop) :
    Prop where
  send : ∀ {frame request bus bus'}, decode frame = some (unit, request) → R bus bus' →
    R (uart.write frame (uart.flushRx bus)) (uart'.write frame (uart'.flushRx bus'))
  bytes : ∀ max timeoutMs {bus bus'}, R bus bus' →
    (uart.read max timeoutMs bus).1 = (uart'.read max timeoutMs bus').1
  read : ∀ max timeoutMs {bus bus'}, R bus bus' →
    R (uart.read max timeoutMs bus).2 (uart'.read max timeoutMs bus').2

/-- Two sessions are in step: their drivers have the same fields, and their UARTs are in related states. -/
structure Session.InStep {σ τ : Type} (R : σ → τ → Prop) (s : Session σ) (s' : Session τ) : Prop where
  driver : s'.driver = s.driver
  bus : R s.bus s'.bus

variable {σ τ : Type} {uart : Uart σ} {uart' : Uart τ} {R : σ → τ → Prop} {s : Session σ} {s' : Session τ}

/-! ## One transaction -/

namespace Session.InStep

variable {frame : List U8} {request : Request}

/-- A new address, if any, is the same on both. -/
theorem setAddress (h : s.InStep R s') (addr : U8) : (s.setAddress addr).InStep R (s'.setAddress addr) :=
  ⟨by simp only [Session.setAddress, h.driver], h.bus⟩

/-- A new timeout is the same on both. -/
theorem setTimeoutMs (h : s.InStep R s') (ms : U16) : (s.setTimeoutMs ms).InStep R (s'.setTimeoutMs ms) :=
  ⟨by simp only [Session.setTimeoutMs, h.driver], h.bus⟩

/-- A request to the unit keeps the sessions in step. -/
theorem send (h : s.InStep R s') (hu : uart.InStep uart' s.driver.address R)
    (hdecode : decode frame = some (s.driver.address, request)) :
    (s.send uart frame).InStep R (s'.send uart' frame) := ⟨h.driver, hu.send hdecode h.bus⟩

/-- It brings the same bytes. -/
theorem reply_eq (h : s.InStep R s') (hu : uart.InStep uart' s.driver.address R)
    (hdecode : decode frame = some (s.driver.address, request)) (need : ℕ) :
    s'.reply uart' frame need = s.reply uart frame need := by
  rw [Session.reply, Session.reply, h.driver]
  exact (hu.bytes _ _ (h.send hu hdecode).bus).symm

/-- A whole exchange keeps the sessions in step. -/
theorem exchange (h : s.InStep R s') (hu : uart.InStep uart' s.driver.address R)
    (hdecode : decode frame = some (s.driver.address, request)) (need : ℕ) :
    (s.exchange uart frame need).InStep R (s'.exchange uart' frame need) := by
  refine ⟨h.driver, ?_⟩
  change R _ (uart'.read need (s'.driver.timeoutMs.setWidth 32) (s'.send uart' frame).bus).2
  rw [h.driver]
  exact hu.read _ _ (h.send hu hdecode).bus

end Session.InStep

/-! ## The primitives -/

namespace Driver

/-- `ReadHoldingRegisters`; parameters it refuses do not reach the UARTs. -/
theorem alike_readHoldingRegisters (h : s.InStep R s') (regAddr : U16) (out : Option (List U16)) (count : U8)
    (hu : ¬ (out.isNone ∨ count = 0 ∨ count > 125) → uart.InStep uart' s.driver.address R) :
    Alike (Session.InStep R) (readHoldingRegisters uart regAddr out count s)
      (readHoldingRegisters uart' regAddr out count s') := by
  by_cases hvalid : out.isNone ∨ count = 0 ∨ count > 125
  · rw [readHoldingRegisters_of_invalid uart regAddr hvalid, readHoldingRegisters_of_invalid uart' regAddr hvalid]
    exact .some h
  · have hsend := hu hvalid
    obtain ⟨buf, rfl, hpos, hle⟩ := not_invalid_iff.mp hvalid
    have hdecode := decode_readRequest s.driver.address regAddr (count.setWidth 16)
    rcases Nat.lt_or_ge 32 count.toNat with hgt | hbuf
    · rw [readHoldingRegisters_of_oversize uart regAddr buf hgt hle,
        readHoldingRegisters_of_oversize uart' regAddr buf hgt hle, h.driver]
      exact .some (h.send hsend hdecode)
    · have hreply := h.reply_eq hsend hdecode (5 + 2 * count.toNat)
      rw [← h.driver] at hreply
      rw [readHoldingRegisters_eq_loop uart regAddr buf hpos hbuf rfl,
        readHoldingRegisters_eq_loop uart' regAddr buf hpos hbuf hreply, h.driver]
      -- the verdict and the words depend on the bytes alone
      simp only [Option.map_eq_bind]
      exact alike_bind_value fun _ _ => .some (h.exchange hsend hdecode _)

/-- `WriteSingleRegister` to a unit. -/
theorem alike_writeSingleRegister (h : s.InStep R s') (hu : uart.InStep uart' s.driver.address R)
    (haddr : s.driver.address ≠ kBroadcastAddress) (regAddr value : U16) :
    Alike (Session.InStep R) (writeSingleRegister uart regAddr value s)
      (writeSingleRegister uart' regAddr value s') := by
  have hdecode := decode_writeSingleRequest s.driver.address regAddr value
  have hreply := h.reply_eq hu hdecode 8
  rw [← h.driver] at hreply
  rw [writeSingleRegister_eq uart regAddr value haddr rfl,
    writeSingleRegister_eq uart' regAddr value (h.driver ▸ haddr) hreply, h.driver]
  exact .some (h.exchange hu hdecode 8)

/-- `WriteMultipleRegisters` to a unit; parameters it refuses do not reach the UARTs. -/
theorem alike_writeMultipleRegisters (h : s.InStep R s') (regAddr : U16) (regs : Option (List U16))
    (count : U8) (hu : ¬ (regs.isNone ∨ count = 0 ∨ count > 32) →
      uart.InStep uart' s.driver.address R ∧ s.driver.address ≠ kBroadcastAddress) :
    Alike (Session.InStep R) (writeMultipleRegisters uart regAddr regs count s)
      (writeMultipleRegisters uart' regAddr regs count s') := by
  by_cases hvalid : regs.isNone ∨ count = 0 ∨ count > 32
  · rw [writeMultipleRegisters_of_invalid uart regAddr hvalid,
      writeMultipleRegisters_of_invalid uart' regAddr hvalid]
    exact .some h
  · obtain ⟨hsend, haddr⟩ := hu hvalid
    obtain ⟨buf, rfl, hpos, hle⟩ := not_invalid_iff.mp hvalid
    rcases Nat.lt_or_ge buf.length count.toNat with hshort | hbuf
    · -- an array read out of bounds on both
      rw [writeMultipleRegisters_of_short uart regAddr hpos hle hshort,
        writeMultipleRegisters_of_short uart' regAddr hpos hle hshort]
      exact .none
    · have hwords : (buf.take count.toNat).length = count.toNat := by rw [List.length_take, min_eq_left hbuf]
      have hdecode := decode_writeMultipleRequest s.driver.address regAddr
        (hle.trans (by decide) : count.toNat ≤ 127) hwords
      have hreply := h.reply_eq hsend hdecode 8
      rw [← h.driver] at hreply
      rw [writeMultipleRegisters_eq uart regAddr hpos hle hbuf haddr rfl,
        writeMultipleRegisters_eq uart' regAddr hpos hle hbuf (h.driver ▸ haddr) hreply, h.driver]
      exact .some (h.exchange hsend hdecode 8)

/-! ## The decoding operations -/

/-- A burst and its decoding. -/
theorem alike_readDecode {T : Type} [Inhabited T] (h : s.InStep R s')
    (hu : uart.InStep uart' s.driver.address R) (regAddr : U16) (count : U8)
    (decode : Option (List U16) → Option T) :
    Alike (Session.InStep R) (readDecode uart regAddr count decode s)
      (readDecode uart' regAddr count decode s') := by
  unfold readDecode
  refine alike_bind (alike_readHoldingRegisters h _ _ _ fun _ => hu) fun (rc, regs) t t' _ ht => ?_
  exact alike_guard (fun _ => ht) fun _ => alike_bind_value fun _ _ => .some ht

/-- `ReadIdentity`: three bursts to one unit. -/
theorem alike_readIdentity (h : s.InStep R s') (hu : uart.InStep uart' s.driver.address R) :
    Alike (Session.InStep R) (readIdentity uart s) (readIdentity uart' s') := by
  unfold readIdentity
  refine alike_bind (alike_readHoldingRegisters h _ _ _ fun _ => hu) fun (rc, fw) t t' hr ht => ?_
  -- the driver still speaks to the unit
  obtain ⟨-, hkept⟩ := keeping_readHoldingRegisters uart _ _ _ s _ t hr
  rw [← hkept.driver] at hu
  refine alike_guard (fun _ => ht) fun _ => alike_bind_value fun fw0 _ => ?_
  refine alike_bind (alike_readHoldingRegisters ht _ _ _ fun _ => hu) fun (rc, sn) v v' hr hv => ?_
  obtain ⟨-, hkept'⟩ := keeping_readHoldingRegisters uart _ _ _ t _ v hr
  rw [← hkept'.driver] at hu
  refine alike_guard (fun _ => hv) fun _ => alike_bind_value fun _ _ => alike_bind_value fun _ _ => ?_
  refine alike_bind (alike_readHoldingRegisters hv _ _ _ fun _ => hu) fun (rc, tail) w w' _ hw => ?_
  refine alike_guard (fun _ => hw) fun _ => alike_bind_value fun _ _ => alike_bind_value fun _ _ => ?_
  refine alike_bind_value fun _ _ => alike_bind_value fun _ _ => alike_bind_value fun _ _ => ?_
  exact .some hw

/-- `SetModbusAddress`: both drivers move, or none. -/
theorem alike_setModbusAddress (h : s.InStep R s') (newAddress : U8)
    (hu : 1 ≤ newAddress ∧ newAddress ≤ 247 →
      uart.InStep uart' s.driver.address R ∧ s.driver.address ≠ kBroadcastAddress) :
    Alike (Session.InStep R) (setModbusAddress uart newAddress s) (setModbusAddress uart' newAddress s') := by
  unfold setModbusAddress
  refine alike_guard (fun _ => h) fun hlegal => ?_
  obtain ⟨hpos, hle⟩ := not_or.mp hlegal
  obtain ⟨hsend, haddr⟩ := hu ⟨BitVec.not_lt.mp hpos, BitVec.not_lt.mp hle⟩
  refine alike_bind (alike_writeSingleRegister h hsend haddr _ _) fun rc t t' _ ht => ?_
  exact alike_guard (fun _ => ht.setAddress newAddress) fun _ => .some ht

end Driver

/-! ## Every call -/

namespace Call

variable {F : Type}

/-- Alike results are handed on alike. -/
theorem alike_pack {α : Type} {reply : α → Reply F} {r : Option (α × Session σ)} {r' : Option (α × Session τ)}
    (h : Alike (Session.InStep R) r r') : Alike (Session.InStep R) (pack reply r) (pack reply r') :=
  alike_map h

variable [FloatArith F]

/-- **Calls in step.** On UARTs that are in step on the unit a call speaks to, if it speaks to any, a call other
than a sweep is alike. -/
theorem alike_exec {call : Call F} (hsweep : ¬ call.IsDiscovery) (h : s.InStep R s')
    (hu : call.script s.driver ≠ [] →
      uart.InStep uart' s.driver.address R ∧ s.driver.address ≠ kBroadcastAddress) :
    Alike (Session.InStep R) (call.exec uart s) (call.exec uart' s') := by
  cases call with
  | setTimeoutMs ms => exact .some (h.setTimeoutMs ms)
  | setAddress addr => exact .some (h.setAddress addr)
  | getTimeoutMs =>
    simp only [exec, Driver.getTimeoutMs, h.driver]
    exact .some h
  | getAddress =>
    simp only [exec, Driver.getAddress, h.driver]
    exact .some h
  | readInstantaneous flowDecimals =>
    obtain ⟨hsend, -⟩ := hu (List.cons_ne_nil _ _)
    rw [exec, exec, readInstantaneous_eq_readDecode, readInstantaneous_eq_readDecode]
    exact alike_pack (Driver.alike_readDecode h hsend _ _ _)
  | readMeasurement =>
    obtain ⟨hsend, -⟩ := hu (List.cons_ne_nil _ _)
    rw [exec, exec, readMeasurement_eq_readDecode, readMeasurement_eq_readDecode]
    exact alike_pack (Driver.alike_readDecode h hsend _ _ _)
  | readIdentity =>
    obtain ⟨hsend, -⟩ := hu (List.cons_ne_nil _ _)
    exact alike_pack (Driver.alike_readIdentity h hsend)
  | setCommWatchdogMs ms | setFlowAveragingMs ms =>
    refine alike_pack (alike_guard (fun _ => h) fun hlegal => ?_)
    rw [script, if_pos (BitVec.not_lt.mp hlegal)] at hu
    obtain ⟨hsend, haddr⟩ := hu (List.cons_ne_nil _ _)
    exact Driver.alike_writeSingleRegister h hsend haddr _ _
  | setAsciiUnitId id =>
    refine alike_pack (alike_guard (fun _ => h) fun hlegal => ?_)
    obtain ⟨hge, hle⟩ := not_or.mp hlegal
    rw [script, if_pos ⟨BitVec.not_lt.mp hge, BitVec.not_lt.mp hle⟩] at hu
    obtain ⟨hsend, haddr⟩ := hu (List.cons_ne_nil _ _)
    exact Driver.alike_writeSingleRegister h hsend haddr _ _
  | setReferenceTemperatureC c =>
    refine alike_pack (alike_guard (fun _ => h) fun hlegal => alike_bind_value fun raw hraw => ?_)
    rw [script, if_neg hlegal, hraw] at hu
    obtain ⟨hsend, haddr⟩ := hu (List.cons_ne_nil _ _)
    exact Driver.alike_writeSingleRegister h hsend haddr _ _
  | setSetpoint value flowDecimals =>
    refine alike_pack (alike_bind_value fun _ _ => alike_bind_value fun raw hraw => ?_)
    simp only [script, hraw] at hu
    exact Driver.alike_writeMultipleRegisters h _ _ _ fun _ => hu (List.cons_ne_nil _ _)
  | setMaxSetpointRamp value | setTotalizerBatch value =>
    exact alike_pack (Driver.alike_writeMultipleRegisters h _ _ _ fun _ => hu (List.cons_ne_nil _ _))
  | setModbusAddress newAddress =>
    refine alike_pack (Driver.alike_setModbusAddress h newAddress fun hlegal => ?_)
    rw [script, if_pos hlegal] at hu
    exact hu (List.cons_ne_nil _ _)
  | discoverPresentAddresses => exact absurd trivial hsweep
  | readHoldingRegisters regAddr out count =>
    rw [exec, exec]
    refine alike_pack (Driver.alike_readHoldingRegisters h regAddr out count fun hvalid => ?_)
    obtain ⟨buf, rfl, hpos, hle⟩ := Driver.not_invalid_iff.mp hvalid
    rw [script, if_pos ⟨rfl, BitVec.le_def.mpr hpos, BitVec.le_def.mpr hle⟩] at hu
    exact (hu (List.cons_ne_nil _ _)).1
  | writeMultipleRegisters regAddr regs count =>
    refine alike_pack (Driver.alike_writeMultipleRegisters h regAddr regs count fun hvalid => ?_)
    obtain ⟨buf, rfl, hpos, hle⟩ := Driver.not_invalid_iff.mp hvalid
    simp only [script] at hu
    rw [if_pos ⟨BitVec.le_def.mpr hpos, BitVec.le_def.mpr hle⟩] at hu
    exact hu (List.cons_ne_nil _ _)
  | _ =>
    obtain ⟨hsend, haddr⟩ := hu (List.cons_ne_nil _ _)
    exact alike_pack (Driver.alike_writeSingleRegister h hsend haddr _ _)

end Call

end AlicatBasis2
