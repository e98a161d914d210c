import AlicatBasis2.Machine.Run
import AlicatBasis2.Operations.Totality

/-! # The driver's state over whole runs

A driver has two fields. Over a run of public operations the address is the one last given, by the
constructor, by `SetAddress` or by a `SetModbusAddress` that reported success, and the timeout is the one
last given, by the constructor or by `SetTimeoutMs`; a sweep changes both and puts them back. Every request
outside a sweep is addressed with the address held when its operation was called, and an operation that
reports an error returns a default-constructed value. -/

namespace AlicatBasis2

open Machine Modbus

/-- A failed operation returns a default-constructed value. -/
def DriverResult.Defaulted {T : Type} [Inhabited T] (r : DriverResult T) : Prop :=
  r.error ≠ .none → r.value = default

/-- `failure(e)` returns `T{}`. -/
theorem DriverResult.defaulted_failure {T : Type} [Inhabited T] (e : DriverError) :
    (failure e : DriverResult T).Defaulted := fun _ => rfl

/-- A success is no failed operation. -/
theorem DriverResult.defaulted_success {T : Type} [Inhabited T] (v : T) :
    (success v).Defaulted := fun h => absurd rfl h

/-! ## Sessions that keep the driver -/

namespace Session

variable {σ : Type}

/-- From `s` to `s'` only requests to `addr` were written. -/
def Addressed (addr : U8) (s s' : Session σ) : Prop :=
  ∃ events, s'.trace = s.trace ++ events
    ∧ ∀ frame, .write frame ∈ events → frame.head? = some addr

/-- From `s` to `s'` the driver's fields stayed and its requests went to its own address. -/
structure Kept (s s' : Session σ) : Prop where
  driver : s'.driver = s.driver
  addressed : Addressed s.driver.address s s'

/-- Nothing done keeps the driver. -/
theorem Kept.refl (s : Session σ) : Kept s s :=
  ⟨rfl, [], (List.append_nil _).symm, fun _ h => absurd h List.not_mem_nil⟩

/-- Two sessions in a row that keep the driver keep it. -/
theorem Kept.trans {s t u : Session σ} (hst : Kept s t) (htu : Kept t u) : Kept s u := by
  obtain ⟨hdriver, before, hbefore, hwrites⟩ := hst
  obtain ⟨hdriver', after, hafter, hwrites'⟩ := htu
  refine ⟨hdriver'.trans hdriver, before ++ after, ?_, ?_⟩
  · rw [hafter, hbefore, List.append_assoc]
  · intro frame hframe
    rcases List.mem_append.mp hframe with h | h
    · exact hwrites frame h
    · rw [← hdriver]
      exact hwrites' frame h

/-- A request that starts with the driver's address keeps the driver. -/
theorem kept_send (uart : Uart σ) {request : List U8} {s : Session σ}
    (hhead : request.head? = some s.driver.address) : Kept s (s.send uart request) := by
  refine ⟨rfl, [.flushRx, .write request], rfl, fun frame hframe => ?_⟩
  simp only [List.mem_cons, List.not_mem_nil, or_false, reduceCtorEq, false_or,
    UartEvent.write.injEq] at hframe
  rw [hframe, hhead]

/-- So does an exchange. -/
theorem kept_exchange (uart : Uart σ) {request : List U8} {need : ℕ} {s : Session σ}
    (hhead : request.head? = some s.driver.address) : Kept s (s.exchange uart request need) := by
  refine ⟨rfl, _, exchange_trace uart request need s, fun frame hframe => ?_⟩
  simp only [List.mem_cons, List.not_mem_nil, or_false, reduceCtorEq, false_or,
    UartEvent.write.injEq] at hframe
  rw [hframe, hhead]

end Session

open Session

/-! ## Results that keep the driver -/

section Keeping

variable {σ : Type} {α β : Type}

/-- Results that satisfy `P` in a session that keeps the driver of `s`. -/
def Keeping (P : α → Prop) (s : Session σ) (r : Option (α × Session σ)) : Prop :=
  Ensures (fun a s' => P a ∧ Kept s s') r

/-- A result in the session itself. -/
theorem keeping_here {P : α → Prop} (s : Session σ) {a : α} (ha : P a) :
    Keeping P s (some (a, s)) := ensures_some ⟨ha, Kept.refl s⟩

/-- A guard that returns early. -/
theorem keeping_guard {P : α → Prop} {s : Session σ} {c : Prop} [Decidable c] {a : α}
    {r : Option (α × Session σ)} (ha : c → P a) (hr : ¬ c → Keeping P s r) :
    Keeping P s (if c then some (a, s) else r) :=
  ensures_guard (fun hc => ⟨ha hc, Kept.refl s⟩) hr

/-- A value computed without the UART. -/
theorem keeping_bind_value {P : α → Prop} {s : Session σ} {x : Option β}
    {f : β → Option (α × Session σ)} (hf : ∀ b, Keeping P s (f b)) : Keeping P s (x.bind f) :=
  ensures_bind_value hf

/-- One operation after another. -/
theorem keeping_bind {Q : β → Prop} {P : α → Prop} {s : Session σ} {r : Option (β × Session σ)}
    {f : β × Session σ → Option (α × Session σ)} (hr : Keeping Q s r)
    (hf : ∀ b t, Q b → Keeping P t (f (b, t))) : Keeping P s (r.bind f) := by
  refine ensures_bind hr ?_
  rintro b t ⟨hQ, hst⟩
  refine (hf b t hQ).mono ?_
  rintro a s' ⟨hP, hts⟩
  exact ⟨hP, hst.trans hts⟩

end Keeping

namespace Driver

variable {σ : Type} (uart : Uart σ)

/-! ## The primitives keep the driver -/

/-- `ReadHoldingRegisters` keeps the driver. -/
theorem keeping_readHoldingRegisters (regAddr : U16) (out : Option (List U16)) (count : U8)
    (s : Session σ) :
    Keeping (fun _ => True) s (readHoldingRegisters uart regAddr out count s) :=
  ensures_readHoldingRegisters uart regAddr (fun _ => ⟨trivial, Kept.refl s⟩)
    (fun _ _ _ => ⟨trivial, kept_send uart rfl⟩) fun _ _ _ _ => ⟨trivial, kept_exchange uart rfl⟩

/-- `WriteSingleRegister` keeps the driver. -/
theorem keeping_writeSingleRegister (regAddr value : U16) (s : Session σ) :
    Keeping (fun _ => True) s (writeSingleRegister uart regAddr value s) :=
  ensures_writeSingleRegister uart regAddr value ⟨trivial, kept_send uart rfl⟩ fun _ =>
    ⟨trivial, kept_exchange uart rfl⟩

/-- `WriteMultipleRegisters` keeps the driver. -/
theorem keeping_writeMultipleRegisters (regAddr : U16) (regs : Option (List U16)) (count : U8)
    (s : Session σ) :
    Keeping (fun _ => True) s (writeMultipleRegisters uart regAddr regs count s) :=
  ensures_writeMultipleRegisters uart regAddr ⟨trivial, Kept.refl s⟩
    (fun _ => ⟨trivial, kept_send uart rfl⟩) fun _ _ => ⟨trivial, kept_exchange uart rfl⟩

/-! ## The readers -/

/-- `ReadInstantaneous` and `ReadMeasurement`: a read and a decoding. -/
theorem keeping_read_decode {T : Type} [Inhabited T] (regAddr : U16) (count : U8)
    (out : Option (List U16)) (s : Session σ) (decode : Option (List U16) → Option T) :
    Keeping DriverResult.Defaulted s (do
      let ((rc, regs), s) ← readHoldingRegisters uart regAddr out count s
      if rc ≠ .none then return (.failure rc, s)
      let out ← decode regs
      return (.success out, s)) := by
  apply keeping_bind (keeping_readHoldingRegisters uart regAddr out count s)
  rintro ⟨rc, regs⟩ t -
  apply keeping_guard
  · exact fun _ => DriverResult.defaulted_failure rc
  · exact fun _ => keeping_bind_value fun v => keeping_here t (DriverResult.defaulted_success v)

/-- `ReadIdentity`: three reads, and a record on success. -/
theorem keeping_readIdentity (s : Session σ) :
    Keeping DriverResult.Defaulted s (readIdentity uart s) := by
  rw [readIdentity]
  -- each of the three reads ends the call when it fails
  apply keeping_bind (keeping_readHoldingRegisters uart _ _ _ s)
  rintro ⟨rc, fw⟩ t -
  apply keeping_guard (fun _ => DriverResult.defaulted_failure rc)
  refine fun _ => keeping_bind_value fun fw0 => ?_
  apply keeping_bind (keeping_readHoldingRegisters uart _ _ _ t)
  rintro ⟨rc, sn⟩ t -
  apply keeping_guard (fun _ => DriverResult.defaulted_failure rc)
  refine fun _ => keeping_bind_value fun serial => keeping_bind_value fun serial' => ?_
  apply keeping_bind (keeping_readHoldingRegisters uart _ _ _ t)
  rintro ⟨rc, tail⟩ t -
  apply keeping_guard (fun _ => DriverResult.defaulted_failure rc)
  refine fun _ => keeping_bind_value fun _ => keeping_bind_value fun _ => ?_
  refine keeping_bind_value fun _ => keeping_bind_value fun _ => keeping_bind_value fun _ => ?_
  exact keeping_here t (DriverResult.defaulted_success _)

end Driver

/-! ## What one call does -/

/-- A failed operation of the public interface returns a default-constructed value, where it returns one. -/
def Reply.Defaulted {F : Type} [FloatArith F] (reply : Reply F) : Prop :=
  reply.error ≠ .none →
    match reply with
    | .instantaneous rc => rc.value = default
    | .identity rc => rc.value = default
    | .measurement rc => rc.value = default
    | .discovery rc _ => rc.value = 0
    | _ => True

namespace Call

variable {F σ : Type}

/-- The address in force after a call: `SetAddress` gives one, and `SetModbusAddress` when it succeeds. -/
def addressAfter (call : Call F) (reply : Reply F) (addr : U8) : U8 :=
  match call with
  | setAddress new => new
  | setModbusAddress new => if reply.error = .none then new else addr
  | _ => addr

/-- The timeout in force after a call: `SetTimeoutMs` gives one. -/
def timeoutAfter (call : Call F) (timeoutMs : U16) : U16 :=
  match call with
  | setTimeoutMs ms => ms
  | _ => timeoutMs

/-- The address last given in a run that started at `addr`. -/
def lastAddress (addr : U8) (calls : List (Call F × Reply F)) : U8 :=
  calls.foldl (fun addr p => p.1.addressAfter p.2 addr) addr

/-- The timeout last given in a run that started with `timeoutMs`. -/
def lastTimeout (timeoutMs : U16) (calls : List (Call F)) : U16 :=
  calls.foldl (fun ms call => call.timeoutAfter ms) timeoutMs

/-- The calls of `DiscoverPresentAddresses`. -/
def IsDiscovery : Call F → Prop
  | discoverPresentAddresses _ _ _ _ _ => True
  | _ => False

/-- What a call may do to the driver and to the bus, and what it returns when it fails. -/
structure Framed [FloatArith F] (call : Call F) (s : Session σ) (reply : Reply F)
    (s' : Session σ) : Prop where
  address : s'.driver.address = call.addressAfter reply s.driver.address
  timeoutMs : s'.driver.timeoutMs = call.timeoutAfter s.driver.timeoutMs
  addressed : ¬ call.IsDiscovery → Addressed s.driver.address s s'
  defaulted : reply.Defaulted

variable [FloatArith F]

/-- An operation that keeps the driver, as a call. -/
theorem framed_pack {α : Type} {P : α → Prop} {call : Call F} {s : Session σ}
    {r : Option (α × Session σ)} (hr : Keeping P s r) {reply : α → Reply F}
    (hdefault : ∀ a, P a → (reply a).Defaulted)
    (haddr : ∀ reply, call.addressAfter reply s.driver.address = s.driver.address)
    (htimeout : call.timeoutAfter s.driver.timeoutMs = s.driver.timeoutMs) :
    Ensures (call.Framed s) (pack reply r) := by
  refine ensures_map (hr.mono ?_)
  rintro a s' ⟨hP, hkept⟩
  refine ⟨?_, ?_, fun _ => hkept.addressed, hdefault a hP⟩
  · rw [hkept.driver, haddr]
  · rw [hkept.driver, htimeout]

/-- `SetModbusAddress` moves the driver after its write, and only on success. -/
theorem framed_setModbusAddress (uart : Uart σ) (newAddress : U8) (s : Session σ) :
    Ensures ((setModbusAddress newAddress).Framed s)
      (pack (F := F) .command (Driver.setModbusAddress uart newAddress s)) := by
  refine ensures_map ?_
  rw [Driver.setModbusAddress]
  refine ensures_guard (fun _ => ?_) fun _ => ?_
  · exact ⟨rfl, rfl, fun _ => (Kept.refl s).addressed, fun _ => trivial⟩
  · refine ensures_bind (Driver.keeping_writeSingleRegister uart _ _ s) ?_
    rintro rc t ⟨-, hkept⟩
    refine ensures_guard (fun hok => ?_) fun hok => ensures_some ?_
    · refine ⟨(if_pos ((DriverResult.ok_iff rc).mp hok)).symm, ?_, fun _ => hkept.addressed,
        fun _ => trivial⟩
      rw [setAddress_timeoutMs, hkept.driver]
      rfl
    · refine ⟨?_, congrArg Driver.timeoutMs hkept.driver, fun _ => hkept.addressed, fun _ => trivial⟩
      rw [hkept.driver]
      exact (if_neg fun h => hok ((DriverResult.ok_iff rc).mpr h)).symm

/-- A sweep puts the driver's fields back. -/
theorem framed_discoverPresentAddresses (uart : Uart σ) (bitmap : Option (List U8)) (bytes : ℕ)
    (timeoutMs : U16) (first last : U8) (s : Session σ) :
    Ensures ((discoverPresentAddresses bitmap bytes timeoutMs first last).Framed s)
      (pack (F := F) (fun (rc, bitmap) => .discovery rc bitmap)
        (Driver.discoverPresentAddresses uart bitmap bytes timeoutMs first last s)) := by
  refine ensures_map (g := fun (rc, bitmap) => Reply.discovery rc bitmap) ?_
  rw [Driver.discoverPresentAddresses]
  refine ensures_guard (fun _ => ?_) fun _ => ?_
  · exact ⟨rfl, rfl, fun hnot => absurd trivial hnot, fun _ => rfl⟩
  · refine ensures_bind_value fun _ => ensures_bind_value fun _ => ensures_bind_value fun _ => ?_
    exact ensures_some ⟨rfl, rfl, fun hnot => absurd trivial hnot, fun h => absurd rfl h⟩

/-- **Every call is framed.** -/
theorem framed_exec (uart : Uart σ) (call : Call F) (s : Session σ) :
    Ensures (call.Framed s) (call.exec uart s) := by
  have hcommand : ∀ (rc : DriverResult Unit), True → (Reply.command (F := F) rc).Defaulted :=
    fun _ _ _ => trivial
  cases call with
  | setTimeoutMs ms | setAddress ms =>
    have hnone : Addressed s.driver.address s s := (Kept.refl s).addressed
    exact ensures_some ⟨rfl, rfl, fun _ => hnone, fun h => absurd rfl h⟩
  | getTimeoutMs | getAddress =>
    exact ensures_some ⟨rfl, rfl, fun _ => (Kept.refl s).addressed, fun h => absurd rfl h⟩
  | readInstantaneous flowDecimals =>
    exact framed_pack (Driver.keeping_read_decode uart _ _ _ s fun regs =>
      Driver.decodeInstantaneous regs flowDecimals) (fun _ h => h) (fun _ => rfl) rfl
  | readMeasurement =>
    exact framed_pack (Driver.keeping_read_decode uart _ _ _ s Driver.decodeMeasurement)
      (fun _ h => h) (fun _ => rfl) rfl
  | readIdentity =>
    exact framed_pack (Driver.keeping_readIdentity uart s) (fun _ h => h) (fun _ => rfl) rfl
  | setCommWatchdogMs ms | setFlowAveragingMs ms | setAsciiUnitId ms =>
    refine framed_pack (keeping_guard (fun _ => trivial) fun _ => ?_) hcommand (fun _ => rfl) rfl
    exact Driver.keeping_writeSingleRegister uart _ _ s
  | setReferenceTemperatureC c =>
    refine framed_pack (keeping_guard (fun _ => trivial) fun _ => keeping_bind_value fun raw => ?_)
      hcommand (fun _ => rfl) rfl
    exact Driver.keeping_writeSingleRegister uart _ _ s
  | setSetpoint value flowDecimals =>
    refine framed_pack (keeping_bind_value fun _ => keeping_bind_value fun raw => ?_) hcommand
      (fun _ => rfl) rfl
    exact Driver.keeping_writeMultipleRegisters uart _ _ _ s
  | setMaxSetpointRamp value | setTotalizerBatch value | writeMultipleRegisters regAddr regs count =>
    exact framed_pack (Driver.keeping_writeMultipleRegisters uart _ _ _ s) hcommand
      (fun _ => rfl) rfl
  | setModbusAddress newAddress => exact framed_setModbusAddress uart newAddress s
  | discoverPresentAddresses bitmap bytes timeoutMs first last =>
    exact framed_discoverPresentAddresses uart bitmap bytes timeoutMs first last s
  | readHoldingRegisters regAddr out count =>
    rw [exec]
    exact framed_pack (Driver.keeping_readHoldingRegisters uart regAddr out count s)
      (fun _ _ _ => trivial) (fun _ => rfl) rfl
  | _ =>
    exact framed_pack (Driver.keeping_writeSingleRegister uart _ _ s) hcommand (fun _ => rfl) rfl

/-! ## Whole runs -/

omit [FloatArith F] in
/-- One more call and its reply give their address last. -/
theorem lastAddress_snoc (addr : U8) {calls : List (Call F)} {replies : List (Reply F)}
    (hlen : replies.length = calls.length) (call : Call F) (reply : Reply F) :
    lastAddress addr ((calls ++ [call]).zip (replies ++ [reply]))
      = call.addressAfter reply (lastAddress addr (calls.zip replies)) := by
  rw [List.zip_append hlen.symm, lastAddress, List.foldl_append]
  rfl

omit [FloatArith F] in
/-- One more call gives its timeout last. -/
theorem lastTimeout_snoc (timeoutMs : U16) (calls : List (Call F)) (call : Call F) :
    lastTimeout timeoutMs (calls ++ [call]) = call.timeoutAfter (lastTimeout timeoutMs calls) := by
  rw [lastTimeout, List.foldl_append]
  rfl

/-- A run answers every call, and leaves the address and the timeout that were last given. -/
theorem run_fields (uart : Uart σ) {bus : σ} {address : U8} {timeoutMs : U16}
    {calls : List (Call F)} {replies : List (Reply F)} {s : Session σ}
    (h : Machine.run (exec uart) calls (Driver.construct bus address timeoutMs)
      = some (replies, s)) :
    replies.length = calls.length
      ∧ s.driver.address = lastAddress address (calls.zip replies)
      ∧ s.driver.timeoutMs = lastTimeout timeoutMs calls := by
  refine Machine.run_induction (P := fun calls replies s => replies.length = calls.length
    ∧ s.driver.address = lastAddress address (calls.zip replies)
    ∧ s.driver.timeoutMs = lastTimeout timeoutMs calls) ⟨rfl, rfl, rfl⟩ ?_ h
  rintro calls replies s call reply s' - ⟨hlen, haddress, htimeout⟩ hstep
  have hframed := framed_exec uart call s reply s' hstep
  refine ⟨?_, ?_, ?_⟩
  · rw [List.length_append, List.length_append, hlen]
    rfl
  · rw [lastAddress_snoc address hlen, ← haddress, hframed.address]
  · rw [lastTimeout_snoc, ← htimeout, hframed.timeoutMs]

/-- Defined calls run to their end, from every session. -/
theorem exists_run (uart : Uart σ) {calls : List (Call F)} (h : ∀ call ∈ calls, call.Defined)
    (s : Session σ) : ∃ replies s', Machine.run (exec uart) calls s = some (replies, s') := by
  have hstep : ∀ (call : Call F) (s : Session σ), call.Defined → True →
      ∃ reply s', call.exec uart s = some (reply, s') ∧ True := by
    intro call s hdefined _
    obtain ⟨⟨reply, s'⟩, hexec⟩ := exists_exec uart hdefined s
    exact ⟨reply, s', hexec, trivial⟩
  obtain ⟨replies, s', hrun, -⟩ := Machine.exists_run (fun _ => True) hstep h trivial
  exact ⟨replies, s', hrun⟩

end Call

/-- **The driver's state over whole runs.** For every driver, UART and finite sequence of public operations:
the sequence runs to its end when its calls are defined. Wherever it has run to, the address is the one last
given by the constructor, `SetAddress` or a `SetModbusAddress` that succeeded, and the timeout the one last
given by the constructor or `SetTimeoutMs`; the requests of the next operation, other than a sweep, go to
that address, and when it reports an error the value it returns is a default-constructed one. -/
theorem driver_state_frame {F σ : Type} [FloatArith F] (uart : Uart σ) (bus : σ) (address : U8)
    (timeoutMs : U16) (calls : List (Call F)) :
    ((∀ call ∈ calls, call.Defined) → ∃ replies s, Machine.run (Call.exec uart) calls
        (Driver.construct bus address timeoutMs) = some (replies, s))
      ∧ ∀ replies s, Machine.run (Call.exec uart) calls (Driver.construct bus address timeoutMs)
          = some (replies, s) →
        replies.length = calls.length
        ∧ s.driver.address = Call.lastAddress address (calls.zip replies)
        ∧ s.driver.timeoutMs = Call.lastTimeout timeoutMs calls
        ∧ ∀ (call : Call F) reply s', call.exec uart s = some (reply, s') →
          (¬ call.IsDiscovery → Session.Addressed s.driver.address s s') ∧ reply.Defaulted := by
  refine ⟨fun h => Call.exists_run uart h _, fun replies s hrun => ?_⟩
  obtain ⟨hlen, haddress, htimeout⟩ := Call.run_fields uart hrun
  refine ⟨hlen, haddress, htimeout, fun call reply s' hexec => ?_⟩
  have hframed := Call.framed_exec uart call s reply s' hexec
  exact ⟨hframed.addressed, hframed.defaulted⟩

/-- A change of address, a change of timeout and a read, on a line where nobody answers. -/
theorem driver_state_frame_silent :
    ∃ replies s, Machine.run (Call.exec (Uart.constant []))
        [.setAddress 9, .setTimeoutMs 50, (.readMeasurement : Call ℚ)] (Driver.construct () 1 200)
          = some (replies, s)
      ∧ s.driver.address = 9 ∧ s.driver.timeoutMs = 50 := by
  have hcalls : ∀ call ∈ [.setAddress 9, .setTimeoutMs 50, (.readMeasurement : Call ℚ)],
      call.Defined := by
    intro call hcall
    simp only [List.mem_cons, List.not_mem_nil, or_false] at hcall
    rcases hcall with rfl | rfl | rfl <;> exact True.intro
  obtain ⟨hdefined, hframe⟩ := driver_state_frame (Uart.constant []) () 1 200
    [.setAddress 9, .setTimeoutMs 50, (.readMeasurement : Call ℚ)]
  obtain ⟨replies, s, hrun⟩ := hdefined hcalls
  obtain ⟨hlen, haddress, htimeout, -⟩ := hframe replies s hrun
  obtain ⟨_, _, _, hreplies⟩ := List.length_eq_three.mp hlen
  rw [hreplies] at haddress
  exact ⟨replies, s, hrun, haddress, htimeout⟩

end AlicatBasis2
