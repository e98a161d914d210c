import AlicatBasis2.Transactions.Acceptance

/-! # Locally rejected calls

A call that reports `InvalidParameter`, `InvalidAddress` or `BufferTooSmall` found something wrong with its
own arguments. Every such call leaves the UART alone, but for a `ReadHoldingRegisters` of 33 to 125
registers: its count passes the parameter test, and the test of the receive buffer comes after the
request. -/

namespace AlicatBasis2

open Machine Modbus

/-- The errors a call reports about its own arguments. -/
def DriverError.IsLocal (e : DriverError) : Prop :=
  e = .invalidParameter ∨ e = .invalidAddress ∨ e = .bufferTooSmall

instance : DecidablePred DriverError.IsLocal := fun _ => inferInstanceAs (Decidable (_ ∨ _ ∨ _))

/-- Success is not a local error. -/
theorem DriverError.not_isLocal_none : ¬ DriverError.IsLocal .none := by decide

/-! ## Verdicts are never local -/

/-- A verdict about received bytes is not about the arguments. -/
theorem not_isLocal_of_isVerdict {e : DriverError} (h : IsVerdict e) : ¬ e.IsLocal := by
  rcases h with rfl | rfl | rfl | rfl | rfl <;> decide

/-- What is reported for received bytes is not about the arguments. -/
theorem RawOp.not_isLocal_outcome (op : RawOp) (addr : U8) (b : List U8) :
    ¬ (op.outcome addr b).IsLocal := by
  by_cases hempty : b = []
  · rw [(op.outcome_eq_timeout_iff addr b).mpr hempty]
    decide
  · exact not_isLocal_of_isVerdict (op.isVerdict_outcome addr hempty)

section Silent

variable {σ : Type} {α β : Type}

/-- Results that report a local error only with the UART untouched since `s`. -/
def Silent (error : α → DriverError) (s : Session σ) (r : Option (α × Session σ)) : Prop :=
  ∀ a s', r = some (a, s') → (error a).IsLocal → s'.trace = s.trace

/-- Results that report no local error at all. -/
def NeverLocal (error : α → DriverError) (r : Option (α × Session σ)) : Prop :=
  Ensures (fun a _ => ¬ (error a).IsLocal) r

/-- Silence is a condition on the result. -/
theorem silent_iff_ensures {error : α → DriverError} {s : Session σ} {r : Option (α × Session σ)} :
    Silent error s r ↔ Ensures (fun a s' => (error a).IsLocal → s'.trace = s.trace) r := Iff.rfl

/-- A result that reports no local error is silent. -/
theorem NeverLocal.silent {error : α → DriverError} {r : Option (α × Session σ)}
    (h : NeverLocal error r) (s : Session σ) : Silent error s r :=
  h.mono fun _ _ hnot hlocal => absurd hlocal hnot

/-- A result in an untouched session is silent. -/
theorem silent_here (error : α → DriverError) (s : Session σ) (a : α) :
    Silent error s (some (a, s)) := silent_iff_ensures.mpr (ensures_some fun _ => rfl)

/-- A guard that rejects without touching the UART keeps silence. -/
theorem silent_guard {error : α → DriverError} {s : Session σ} {c : Prop} [Decidable c] {a : α}
    {r : Option (α × Session σ)} (h : Silent error s r) :
    Silent error s (if c then some (a, s) else r) :=
  silent_iff_ensures.mpr (ensures_guard (fun _ _ => rfl) fun _ => h)

/-- A value computed without the UART may come first. -/
theorem silent_bind_value {error : α → DriverError} {s : Session σ} {x : Option β}
    {f : β → Option (α × Session σ)} (h : ∀ b, Silent error s (f b)) :
    Silent error s (x.bind f) := silent_iff_ensures.mpr (ensures_bind_value h)

end Silent

namespace Driver

variable {σ : Type} (uart : Uart σ)

/-! ## The primitives -/

/-- A read within the receive buffer never reports a local error. -/
theorem neverLocal_readHoldingRegisters (regAddr : U16) (out : List U16) {count : U8}
    (hpos : 0 < count.toNat) (hle : count.toNat ≤ 32) (s : Session σ) :
    NeverLocal Prod.fst (readHoldingRegisters uart regAddr (some out) count s) := by
  have hlimit : count.toNat ≤ (125 : U8).toNat := hle.trans (by decide)
  refine ensures_readHoldingRegisters uart regAddr (fun hinvalid => ?_) (fun _ hgt _ => ?_) ?_
  · exact absurd hinvalid (not_invalid_iff.mpr ⟨out, rfl, hpos, hlimit⟩)
  · omega
  · exact fun b _ _ _ => RawOp.not_isLocal_outcome (.read regAddr out count) _ b

/-- A single write never reports a local error. -/
theorem neverLocal_writeSingleRegister (regAddr value : U16) (s : Session σ) :
    NeverLocal DriverResult.error (writeSingleRegister uart regAddr value s) :=
  ensures_writeSingleRegister uart regAddr value DriverError.not_isLocal_none fun b =>
    RawOp.not_isLocal_outcome (.writeSingle regAddr value) _ b

/-- A single write is silent. -/
theorem silent_writeSingleRegister (regAddr value : U16) (s : Session σ) :
    Silent DriverResult.error s (writeSingleRegister uart regAddr value s) :=
  (neverLocal_writeSingleRegister uart regAddr value s).silent s

/-- A multiple write checks its parameters before it touches the UART. -/
theorem silent_writeMultipleRegisters (regAddr : U16) (regs : Option (List U16)) (count : U8)
    (s : Session σ) :
    Silent DriverResult.error s (writeMultipleRegisters uart regAddr regs count s) := by
  refine silent_iff_ensures.mpr (ensures_writeMultipleRegisters uart regAddr (fun _ => rfl) ?_ ?_)
  · exact fun _ hlocal => absurd hlocal DriverError.not_isLocal_none
  · exact fun b _ hlocal =>
      absurd hlocal (RawOp.not_isLocal_outcome (.writeMultiple regAddr [] count) _ b)

/-- A count the receive buffer has no room for. -/
def Oversize (out : Option (List U16)) (count : U8) : Prop :=
  out.isSome ∧ 33 ≤ count.toNat ∧ count.toNat ≤ 125

/-- A read is silent unless its count passes the parameter test and not the test of the buffer. -/
theorem silent_readHoldingRegisters (regAddr : U16) {out : Option (List U16)} {count : U8}
    (hsize : ¬ Oversize out count) (s : Session σ) :
    Silent (fun r : DriverError × Option (List U16) => r.1) s
      (readHoldingRegisters uart regAddr out count s) := by
  refine silent_iff_ensures.mpr (ensures_readHoldingRegisters uart regAddr (fun _ _ => rfl) ?_ ?_)
  · -- only the sizes in between reach the late buffer test
    exact fun hout hgt hle => absurd ⟨hout, hgt, hle⟩ hsize
  · exact fun b _ _ _ hlocal =>
      absurd hlocal (RawOp.not_isLocal_outcome (.read regAddr [] count) _ b)

/-! ## The operations built on them -/

/-- `ReadInstantaneous` and `ReadMeasurement`: a read of a fixed count, then a decoding. -/
theorem silent_read_decode {T : Type} [Inhabited T] {regAddr : U16} {count : U8} {out : List U16}
    (hpos : 0 < count.toNat) (hle : count.toNat ≤ 32) (s : Session σ)
    (decode : Option (List U16) → Option T) :
    Silent DriverResult.error s (do
      let ((rc, regs), s) ← readHoldingRegisters uart regAddr (some out) count s
      if rc ≠ .none then return (.failure rc, s)
      let out ← decode regs
      return (.success out, s)) := by
  apply NeverLocal.silent
  refine ensures_bind (neverLocal_readHoldingRegisters uart regAddr out hpos hle s) ?_
  rintro ⟨rc, regs⟩ t hrc
  refine ensures_guard (fun _ => hrc) fun _ => ensures_bind_value fun v => ?_
  exact ensures_some DriverError.not_isLocal_none

/-- `ReadIdentity` reads three times and reports the first error. -/
theorem silent_readIdentity (s : Session σ) :
    Silent DriverResult.error s (readIdentity uart s) := by
  apply NeverLocal.silent
  rw [readIdentity]
  -- each of the three reads is of a count that the receive buffer holds
  refine ensures_bind (neverLocal_readHoldingRegisters uart _ _ (by decide) (by decide) s) ?_
  rintro ⟨rc, fw⟩ t hrc
  refine ensures_guard (fun _ => hrc) fun _ => ensures_bind_value fun fw0 => ?_
  refine ensures_bind (neverLocal_readHoldingRegisters uart _ _ (by decide) (by decide) t) ?_
  rintro ⟨rc, sn⟩ t hrc
  refine ensures_guard (fun _ => hrc) fun _ => ?_
  refine ensures_bind_value fun serial => ensures_bind_value fun serial' => ?_
  refine ensures_bind (neverLocal_readHoldingRegisters uart _ _ (by decide) (by decide) t) ?_
  rintro ⟨rc, tail⟩ t hrc
  refine ensures_guard (fun _ => hrc) fun _ => ?_
  refine ensures_bind_value fun _ => ensures_bind_value fun _ => ensures_bind_value fun _ => ?_
  refine ensures_bind_value fun _ => ensures_bind_value fun _ => ?_
  exact ensures_some DriverError.not_isLocal_none

/-- `SetModbusAddress` changes the driver, not the trace, after its write. -/
theorem silent_setModbusAddress (newAddress : U8) (s : Session σ) :
    Silent DriverResult.error s (setModbusAddress uart newAddress s) := by
  rw [setModbusAddress]
  refine silent_guard (NeverLocal.silent ?_ s)
  refine ensures_bind (neverLocal_writeSingleRegister uart _ _ s) ?_
  intro rc t hrc
  exact ensures_guard (fun _ => hrc) fun _ => ensures_some hrc

/-- `DiscoverPresentAddresses` rejects before the sweep and succeeds after it. -/
theorem silent_discoverPresentAddresses (bitmap : Option (List U8)) (bytes : ℕ) (timeoutMs : U16)
    (first last : U8) (s : Session σ) :
    Silent (fun r : DriverResult U8 × Option (List U8) => r.1.error) s
      (discoverPresentAddresses uart bitmap bytes timeoutMs first last s) := by
  rw [discoverPresentAddresses]
  refine silent_guard (NeverLocal.silent ?_ s)
  refine ensures_bind_value fun _ => ensures_bind_value fun _ => ensures_bind_value fun _ => ?_
  exact ensures_some DriverError.not_isLocal_none

end Driver

namespace Call

variable {F σ : Type} [FloatArith F]

/-- A call whose count the parameter test admits and the receive buffer does not. -/
def Oversize : Call F → Prop
  | readHoldingRegisters _ out count => Driver.Oversize out count
  | _ => False

omit [FloatArith F] in
/-- A packed reply is as silent as the operation. -/
theorem silent_pack {α : Type} {error : α → DriverError} {s : Session σ}
    {r : Option (α × Session σ)} (h : Silent error s r) {reply : α → Reply F}
    (herror : ∀ a, (reply a).error = error a) : Silent Reply.error s (pack reply r) := by
  refine silent_iff_ensures.mpr (ensures_map (silent_iff_ensures.mp h |>.mono ?_))
  intro a s' hsilent hlocal
  exact hsilent (herror a ▸ hlocal)

/-- Every call but an oversize read is silent. -/
theorem silent_exec (uart : Uart σ) (call : Call F) (h : ¬ call.Oversize) (s : Session σ) :
    Silent Reply.error s (call.exec uart s) := by
  have hsingle : ∀ regAddr value, Silent Reply.error s
      (pack (F := F) .command (Driver.writeSingleRegister uart regAddr value s)) := fun _ _ =>
    silent_pack (Driver.silent_writeSingleRegister uart _ _ s) fun _ => rfl
  have hmultiple : ∀ regAddr regs count, Silent Reply.error s
      (pack (F := F) .command (Driver.writeMultipleRegisters uart regAddr regs count s)) :=
    fun _ _ _ => silent_pack (Driver.silent_writeMultipleRegisters uart _ _ _ s) fun _ => rfl
  cases call with
  | setTimeoutMs ms | setAddress addr =>
    rintro reply s' heq -
    cases heq
    rfl
  | getTimeoutMs | getAddress => exact silent_here _ s _
  | readInstantaneous flowDecimals =>
    exact silent_pack (Driver.silent_read_decode uart (by decide) (by decide) s fun regs =>
      Driver.decodeInstantaneous regs flowDecimals) fun _ => rfl
  | readMeasurement =>
    exact silent_pack (Driver.silent_read_decode uart (by decide) (by decide) s
      Driver.decodeMeasurement) fun _ => rfl
  | readIdentity => exact silent_pack (Driver.silent_readIdentity uart s) fun _ => rfl
  | setCommWatchdogMs ms | setFlowAveragingMs ms | setAsciiUnitId ms =>
    refine silent_pack (silent_guard ?_) fun _ => rfl
    exact Driver.silent_writeSingleRegister uart _ _ s
  | setReferenceTemperatureC c =>
    refine silent_pack (silent_guard (silent_bind_value fun raw => ?_)) fun _ => rfl
    exact Driver.silent_writeSingleRegister uart _ _ s
  | setSetpoint value flowDecimals =>
    refine silent_pack (silent_bind_value fun _ => silent_bind_value fun raw => ?_) fun _ => rfl
    exact Driver.silent_writeMultipleRegisters uart _ _ _ s
  | setMaxSetpointRamp ramp => exact hmultiple _ _ _
  | setTotalizerBatch value => exact hmultiple _ _ _
  | setModbusAddress addr =>
    exact silent_pack (Driver.silent_setModbusAddress uart addr s) fun _ => rfl
  | discoverPresentAddresses bitmap bytes timeoutMs first last =>
    rw [exec]
    refine silent_pack (Driver.silent_discoverPresentAddresses uart bitmap bytes timeoutMs first
      last s) ?_
    rintro ⟨rc, present⟩
    rfl
  | readHoldingRegisters regAddr out count =>
    rw [exec]
    apply silent_pack (Driver.silent_readHoldingRegisters uart regAddr h s)
    rintro ⟨rc, out⟩
    rfl
  | writeMultipleRegisters regAddr regs count => exact hmultiple _ _ _
  | _ => exact hsingle _ _

/-- **Locally rejected calls are silent, but for one kind.** A call that reports a local error has made no
UART call, exactly when it is not a `ReadHoldingRegisters` of 33 to 125 registers into an array. -/
theorem silent_iff (uart : Uart σ) (call : Call F) (s s' : Session σ) (reply : Reply F)
    (h : call.exec uart s = some (reply, s')) :
    (reply.error.IsLocal → s'.trace = s.trace) ↔ ¬ call.Oversize := by
  constructor
  · rintro hsilent hsize
    -- the oversize read reports `BufferTooSmall` with its request on the wire
    cases call with
    | readHoldingRegisters regAddr out count =>
      obtain ⟨hout, hge, hle⟩ := hsize
      obtain ⟨buf, rfl⟩ := Option.isSome_iff_exists.mp hout
      rw [exec, Driver.readHoldingRegisters_of_oversize uart regAddr buf (by omega) hle] at h
      cases h
      have htrace := hsilent (Or.inr (Or.inr rfl))
      rw [Session.send_trace] at htrace
      exact absurd htrace (by simp)
    | _ => exact hsize
  · intro hsize
    exact silent_exec uart call hsize s reply s' h

/-- A watchdog beyond its limit is refused in silence. -/
theorem silent_iff_watchdog :
    ((Reply.command (F := ℚ) (.failure .invalidParameter)).error.IsLocal →
        (Driver.constructDefault () 1).trace = (Driver.constructDefault () 1).trace)
      ↔ ¬ (Call.setCommWatchdogMs (F := ℚ) 5001).Oversize :=
  silent_iff (Uart.constant []) (.setCommWatchdogMs 5001) (Driver.constructDefault () 1)
    (Driver.constructDefault () 1) (.command (.failure .invalidParameter)) rfl

/-- A read of 33 registers reports `BufferTooSmall` after a flush and a request. -/
theorem oversize_read_not_silent :
    ∃ s', (Call.readHoldingRegisters (F := ℚ) 0 (some (List.replicate 33 0)) 33).exec
        (Uart.constant []) (Driver.constructDefault () 1)
          = some (.registers .bufferTooSmall (some (List.replicate 33 0)), s')
      ∧ (Reply.registers (F := ℚ) .bufferTooSmall (some (List.replicate 33 0))).error.IsLocal
      ∧ s'.trace = [.flushRx, .write (readRequest 1 0 33)] := by
  have h := Driver.readHoldingRegisters_of_oversize (Uart.constant []) 0 (List.replicate 33 0)
    (show 32 < (33 : U8).toNat by decide) (by decide) (Driver.constructDefault () 1)
  refine ⟨(Driver.constructDefault () 1).send (Uart.constant []) (readRequest 1 0 33), ?_, ?_, rfl⟩
  · rw [exec, h]
    rfl
  · exact Or.inr (Or.inr rfl)

end Call

end AlicatBasis2
