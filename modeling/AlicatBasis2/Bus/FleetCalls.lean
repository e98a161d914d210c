import AlicatBasis2.Bus.FleetTransactions

/-! # Operations on a fleet

Whatever an operation of the driver does is made of transactions with the fleet, so the fleet handles its
messages: an instrument changes by a message it hears and accepts, and in no other way; a success comes from
the one instrument at the driver's address; and on a faultless line an operation that the instrument accepts
succeeds. -/

namespace AlicatBasis2

open Machine Modbus Driver

namespace Fleet

variable {n : ℕ} (fleet : Fleet n)

/-! ## Handling messages -/

/-- What a fleet may make of the messages of an operation that reports `error`, and what a success tells of
the registers of the instrument at `unit`. -/
structure Handled (messages : List Message) (unit : U8) (bus : FleetBus n) (error : DriverError)
    (told : Registers → Prop) (bus' : FleetBus n) : Prop where
  rate : bus'.rate = bus.rate
  only : ∀ i, bus'.stores i = bus.stores i
    ∨ ∃ m ∈ messages, (bus.stores i).Hears bus.rate m.unit
      ∧ fleet.accepts i m.request = true ∧ bus'.stores i = m.request.apply (bus.stores i)
  reached : ∀ m, messages = [m] → ∀ i, bus.fault.reaches i = true →
    (bus.stores i).Hears bus.rate m.unit → fleet.accepts i m.request = true →
    bus'.stores i = m.request.apply (bus.stores i)
  done : error = .none → messages ≠ [] → unit ≠ kBroadcastAddress → bus.Alone unit →
    ∃ i, bus.At unit i ∧ told (bus.stores i)
      ∧ ∀ m ∈ messages, fleet.accepts i m.request = true
        ∧ bus'.stores i = m.request.apply (bus.stores i)
  live : bus.faults = [] → messages ≠ [] → bus.Alone unit → ∀ i, bus.At unit i →
    (∀ m ∈ messages, m.Awaited ∧ fleet.accepts i m.request = true) → error = .none

/-- Results of an operation whose messages the fleet handles. -/
def Handles {α : Type} (messages : List Message) (s : Session (Line (FleetBus n)))
    (error : α → DriverError) (told : α → Registers → Prop)
    (r : Option (α × Session (Line (FleetBus n)))) : Prop :=
  Ensures (fun a s' => fleet.Handled messages s.driver.address s.bus.parties (error a) (told a)
    s'.bus.parties) r

/-- An instrument keeps its registers, or hears the request, accepts it and carries it out. -/
theorem settle_cases (bus : FleetBus n) (unit : U8) (request : Request) (i : Fin n) :
    fleet.settle bus unit request i = bus.stores i
      ∨ (bus.stores i).Hears bus.rate unit ∧ fleet.accepts i request = true
        ∧ fleet.settle bus unit request i = request.apply (bus.stores i) := by
  unfold settle
  split_ifs with h
  · exact Or.inr ⟨h.2.1, h.2.2, rfl⟩
  · exact Or.inl rfl

/-- A request that is sent and not waited for reports success only where it is a broadcast. -/
theorem handled_send {m : Message} {frame : List U8} {unit : U8} {error : DriverError}
    (s : Session (Line (FleetBus n))) (told : Registers → Prop)
    (hdecode : decode frame = some (m.unit, m.request)) (hunread : ¬ m.Awaited)
    (hsent : error = .none → unit = kBroadcastAddress) :
    fleet.Handled [m] unit s.bus.parties error told (s.send fleet.uart frame).bus.parties := by
  have hparties := Session.send_line_parties fleet.respond frame s
  rw [fleet.respond_of_decode hdecode] at hparties
  rw [uart, hparties]
  refine ⟨rfl, fun i => ?_, ?_, ?_, ?_⟩
  · exact (fleet.settle_cases s.bus.parties m.unit m.request i).imp_right fun h =>
      ⟨m, List.mem_singleton_self m, h⟩
  · rintro _ ⟨⟩ i hreaches hhears haccepts
    exact if_pos ⟨hreaches, hhears, haccepts⟩
  · exact fun hnone _ haddr => absurd (hsent hnone) haddr
  · exact fun _ _ _ _ _ hm => absurd (hm m (List.mem_singleton_self m)).1 hunread

/-- A raw operation whose reply is read. -/
theorem handled_finished {op : RawOp} (hop : op.InRange) (s : Session (Line (FleetBus n)))
    {told : Registers → Prop}
    (htold : op.outcome s.driver.address (op.delivered fleet.uart s) = .none → ∀ regs,
      op.delivered fleet.uart s = op.toRequest.reply s.driver.address regs → told regs) :
    fleet.Handled [s.driver.asks op.toRequest] s.driver.address s.bus.parties
      (op.outcome s.driver.address (op.delivered fleet.uart s)) told
      (op.finished fleet.uart s).bus.parties where
  rate := by rw [fleet.finished_parties hop s]
  only i := by
    rw [fleet.finished_parties hop s]
    exact (fleet.settle_cases s.bus.parties s.driver.address op.toRequest i).imp_right fun h =>
      ⟨_, List.mem_singleton_self _, h⟩
  reached := by
    rintro _ ⟨⟩ i hreaches hhears haccepts
    rw [fleet.finished_parties hop s]
    exact if_pos ⟨hreaches, hhears, haccepts⟩
  done := by
    intro hnone _ _ halone
    obtain ⟨i, hat, haccepts, happlied, hreply⟩ := fleet.exists_at_of_outcome hop s halone hnone
    refine ⟨i, hat, htold hnone _ hreply, fun m hm => ?_⟩
    rw [List.mem_singleton.mp hm]
    exact ⟨haccepts, happlied⟩
  live hclean _ halone i hat hm :=
    fleet.outcome_of_clean hop s hclean halone hat (hm _ (List.mem_singleton_self _)).2

/-! ## The writers -/

/-- `WriteSingleRegister`. -/
theorem handles_writeSingleRegister (regAddr value : U16) (s : Session (Line (FleetBus n))) :
    fleet.Handles [s.driver.asks (.writeSingle regAddr value)] s DriverResult.error
      (fun _ _ => True) (writeSingleRegister fleet.uart regAddr value s) := by
  by_cases haddr : s.driver.address = kBroadcastAddress
  · rw [writeSingleRegister_of_broadcast _ regAddr value haddr]
    exact ensures_some (fleet.handled_send s _ (decode_writeSingleRequest _ _ _)
      (not_not.mpr haddr) fun _ => haddr)
  · rw [writeSingleRegister_eq _ regAddr value haddr rfl]
    have hop : (RawOp.writeSingle regAddr value).InRange := trivial
    exact ensures_some (fleet.handled_finished hop s fun _ _ _ => trivial)

/-- `WriteMultipleRegisters` of one to 32 registers. -/
theorem handles_writeMultipleRegisters (regAddr : U16) (regs : List U16) {count : U8}
    (hpos : 0 < count.toNat) (hle : count.toNat ≤ 32) (s : Session (Line (FleetBus n))) :
    fleet.Handles [s.driver.asks (.writeMultiple regAddr (regs.take count.toNat))] s
      DriverResult.error (fun _ _ => True)
      (writeMultipleRegisters fleet.uart regAddr (some regs) count s) := by
  rcases Nat.lt_or_ge regs.length count.toNat with hshort | hregs
  · rw [writeMultipleRegisters_of_short _ regAddr hpos hle hshort]
    exact ensures_none
  · have hwords : (regs.take count.toNat).length = count.toNat := by simp [hregs]
    by_cases haddr : s.driver.address = kBroadcastAddress
    · rw [writeMultipleRegisters_of_broadcast _ regAddr hpos hle hregs haddr]
      exact ensures_some (fleet.handled_send s _
        (decode_writeMultipleRequest _ regAddr (by omega) hwords) (not_not.mpr haddr) fun _ => haddr)
    · rw [writeMultipleRegisters_eq _ regAddr hpos hle hregs haddr rfl]
      have hop : (RawOp.writeMultiple regAddr regs count).InRange := ⟨hpos, hle, hregs⟩
      exact ensures_some (fleet.handled_finished hop s fun _ _ _ => trivial)

/-! ## The readers -/

/-- Between two sessions the fleet was read and not written. -/
structure ReadOnly (s t : Session (Line (FleetBus n))) : Prop where
  stores : t.bus.parties.stores = s.bus.parties.stores
  rate : t.bus.parties.rate = s.bus.parties.rate
  faults : s.bus.parties.faults = [] → t.bus.parties.faults = []

/-- Nobody moves while the fleet is read. -/
theorem ReadOnly.at_iff {s t : Session (Line (FleetBus n))} (h : ReadOnly s t) (unit : U8)
    (i : Fin n) : t.bus.parties.At unit i ↔ s.bus.parties.At unit i := by
  rw [FleetBus.At, FleetBus.At, h.stores, h.rate]

/-- Nor does anybody join or leave a unit. -/
theorem ReadOnly.alone_iff {s t : Session (Line (FleetBus n))} (h : ReadOnly s t) (unit : U8) :
    t.bus.parties.Alone unit ↔ s.bus.parties.Alone unit := by
  simp only [FleetBus.Alone, h.at_iff]

/-- Two reads in a row. -/
theorem ReadOnly.trans {s t u : Session (Line (FleetBus n))} (hst : ReadOnly s t)
    (htu : ReadOnly t u) : ReadOnly s u :=
  ⟨htu.stores.trans hst.stores, htu.rate.trans hst.rate, htu.faults ∘ hst.faults⟩

/-- A read changes no register. -/
theorem readOnly_finished {regAddr : U16} {out : List U16} {count : U8}
    (hop : (RawOp.read regAddr out count).InRange) (s : Session (Line (FleetBus n))) :
    ReadOnly s ((RawOp.read regAddr out count).finished fleet.uart s) := by
  refine ⟨?_, ?_, fun hclean => ?_⟩
  · rw [fleet.finished_parties hop s]
    funext i
    rcases fleet.settle_cases s.bus.parties s.driver.address
      (RawOp.read regAddr out count).toRequest i with hkept | ⟨-, -, happlied⟩
    · exact hkept
    · exact happlied
  · rw [fleet.finished_parties hop s]
  · rw [fleet.finished_parties hop s, hclean]
    rfl

section Burst

variable {regAddr : U16} {count : U8} (hpos : 0 < count.toNat) (hle : count.toNat ≤ 32)
  (s : Session (Line (FleetBus n)))

include hpos hle

/-- A burst is a read. -/
theorem readOnly_burst : ReadOnly s ((burst regAddr count).finished fleet.uart s) :=
  fleet.readOnly_finished (burst_inRange regAddr hpos hle) s

/-- The words of a burst are the contents of the registers that were sent. -/
theorem burstWords_of_contents {regs : Registers}
    (h : (burst regAddr count).delivered fleet.uart s
      = (burst regAddr count).toRequest.reply s.driver.address regs) :
    burstWords fleet.uart regAddr count s = regs.contents regAddr count.toNat := by
  rw [burst, RawOp.toRequest, Request.reply, toNat_widen] at h
  exact burstWords_of_reply _ hpos hle (Registers.length_contents _ _ _) h

/-- A burst that succeeds has the contents of the one instrument at the driver's address. -/
theorem exists_at_of_burst (halone : s.bus.parties.Alone s.driver.address)
    (hnone : burstOutcome fleet.uart regAddr count s = .none) :
    ∃ i, s.bus.parties.At s.driver.address i
      ∧ fleet.accepts i (.read regAddr (count.setWidth 16)) = true
      ∧ burstWords fleet.uart regAddr count s
        = (s.bus.parties.stores i).contents regAddr count.toNat := by
  obtain ⟨i, hat, haccepts, -, hreply⟩ :=
    fleet.exists_at_of_outcome (burst_inRange regAddr hpos hle) s halone hnone
  exact ⟨i, hat, haccepts, fleet.burstWords_of_contents hpos hle s hreply⟩

/-- A burst and its decoding tell the decoded contents. -/
theorem handles_readDecode {T : Type} [Inhabited T] (decode : Option (List U16) → Option T) :
    fleet.Handles [s.driver.asks (.read regAddr (count.setWidth 16))] s DriverResult.error
      (fun rc regs => decode (some (regs.contents regAddr count.toNat)) = some rc.value)
      (readDecode fleet.uart regAddr count decode s) := by
  have hop := burst_inRange regAddr hpos hle
  rw [readDecode, readHoldingRegisters_burst fleet.uart hpos hle]
  refine ensures_guard (fun hfailed => ?_) fun hnone => ?_
  · exact fleet.handled_finished hop s fun hnone => absurd hnone hfailed
  · cases hv : decode (some (burstWords fleet.uart regAddr count s)) with
    | none => simp [ensures_none]
    | some v =>
      have htold : ∀ regs, (burst regAddr count).delivered fleet.uart s
          = (burst regAddr count).toRequest.reply s.driver.address regs →
          decode (some (regs.contents regAddr count.toNat)) = some v := by
        intro regs hreply
        rw [← fleet.burstWords_of_contents hpos hle s hreply, hv]
      have hhandled := fleet.handled_finished hop s fun _ => htold
      have hsuccess : (burst regAddr count).outcome s.driver.address
          ((burst regAddr count).delivered fleet.uart s) = .none := not_not.mp hnone
      rw [hsuccess] at hhandled
      simp only [Option.bind_eq_bind, Option.bind_some, Option.pure_def]
      exact ensures_some hhandled

end Burst

/-- A burst that the instrument at the driver's address accepts succeeds on a faultless line, also after
other reads. -/
theorem burstOutcome_of_clean {regAddr : U16} {count : U8} (hpos : 0 < count.toNat)
    (hle : count.toNat ≤ 32) {s t : Session (Line (FleetBus n))} (hread : ReadOnly s t)
    (haddr : t.driver.address = s.driver.address) (hclean : s.bus.parties.faults = [])
    (halone : s.bus.parties.Alone s.driver.address) {i : Fin n}
    (hat : s.bus.parties.At s.driver.address i)
    (haccepts : fleet.accepts i (.read regAddr (count.setWidth 16)) = true) :
    burstOutcome fleet.uart regAddr count t = .none := by
  rw [← haddr] at halone hat
  exact fleet.outcome_of_clean (burst_inRange regAddr hpos hle) t (hread.faults hclean)
    ((hread.alone_iff _).mpr halone) ((hread.at_iff _ _).mpr hat) haccepts

/-- An operation that only reads is handled where its success tells something. -/
theorem handled_of_readOnly {messages : List Message} {s t : Session (Line (FleetBus n))}
    {error : DriverError} {told : Registers → Prop} (hread : ReadOnly s t)
    (happly : ∀ m ∈ messages, ∀ regs, m.request.apply regs = regs)
    (hdone : error = .none → s.bus.parties.Alone s.driver.address →
      ∃ i, s.bus.parties.At s.driver.address i ∧ told (s.bus.parties.stores i)
        ∧ ∀ m ∈ messages, fleet.accepts i m.request = true)
    (hlive : s.bus.parties.faults = [] → s.bus.parties.Alone s.driver.address → ∀ i,
      s.bus.parties.At s.driver.address i → (∀ m ∈ messages, fleet.accepts i m.request = true) →
      error = .none) :
    fleet.Handled messages s.driver.address s.bus.parties error told t.bus.parties where
  rate := hread.rate
  only i := Or.inl (congrFun hread.stores i)
  reached := by
    rintro m rfl i - - -
    rw [happly m (List.mem_singleton_self m), hread.stores]
  done := by
    intro hnone _ _ halone
    obtain ⟨i, hat, htold, haccepts⟩ := hdone hnone halone
    refine ⟨i, hat, htold, fun m hm => ⟨haccepts m hm, ?_⟩⟩
    rw [happly m hm, hread.stores]
  live hclean _ halone i hat hm := hlive hclean halone i hat fun m h => (hm m h).2

/-- `ReadIdentity` tells the identity of the one instrument at the driver's address. -/
theorem handles_readIdentity (s : Session (Line (FleetBus n))) :
    fleet.Handles [s.driver.asks (.read 25 1), s.driver.asks (.read 26 6), s.driver.asks (.read 45 5)]
      s DriverResult.error (fun rc regs => rc.value.Identifies regs)
      (readIdentity fleet.uart s) := by
  have hversion : ReadOnly s (afterVersion fleet.uart s) :=
    fleet.readOnly_burst (by decide) (by decide) s
  have hserial : ReadOnly s (afterSerial fleet.uart s) :=
    hversion.trans (fleet.readOnly_burst (by decide) (by decide) _)
  have htail : ReadOnly s (afterTail fleet.uart s) :=
    hserial.trans (fleet.readOnly_burst (by decide) (by decide) _)
  have happly : ∀ m ∈ [s.driver.asks (.read 25 1), s.driver.asks (.read 26 6),
      s.driver.asks (.read 45 5)], ∀ regs, m.request.apply regs = regs := by simp [asks, Request.apply]
  have hmessages : ∀ i, (∀ m ∈ [s.driver.asks (.read 25 1), s.driver.asks (.read 26 6),
      s.driver.asks (.read 45 5)], fleet.accepts i m.request = true)
      ↔ fleet.accepts i (.read 25 1) = true ∧ fleet.accepts i (.read 26 6) = true
        ∧ fleet.accepts i (.read 45 5) = true := by simp [asks]
  rw [readIdentity_eq]
  -- a burst that fails is one the instrument did not accept, or the line was faulty
  split_ifs with hv hs ht
  · refine ensures_some (fleet.handled_of_readOnly hversion happly (fun h => absurd h hv) ?_)
    intro hclean halone i hat haccepts
    exact absurd (fleet.burstOutcome_of_clean (by decide) (by decide) ⟨rfl, rfl, id⟩ rfl hclean
      halone hat ((hmessages i).mp haccepts).1) hv
  · refine ensures_some (fleet.handled_of_readOnly hserial happly (fun h => absurd h hs) ?_)
    intro hclean halone i hat haccepts
    exact absurd (fleet.burstOutcome_of_clean (by decide) (by decide) hversion rfl hclean
      halone hat ((hmessages i).mp haccepts).2.1) hs
  · refine ensures_some (fleet.handled_of_readOnly htail happly (fun h => absurd h ht) ?_)
    intro hclean halone i hat haccepts
    exact absurd (fleet.burstOutcome_of_clean (by decide) (by decide) hserial rfl hclean
      halone hat ((hmessages i).mp haccepts).2.2) ht
  · refine ensures_some (fleet.handled_of_readOnly htail happly (fun _ halone => ?_)
      fun _ _ _ _ _ => rfl)
    obtain ⟨i, hat, haccepts, hfw⟩ := fleet.exists_at_of_burst (by decide) (by decide) s halone
      (not_not.mp hv)
    obtain ⟨j, hatj, hacceptsj, hsn⟩ := fleet.exists_at_of_burst (by decide) (by decide) _
      ((hversion.alone_iff _).mpr halone) (not_not.mp hs)
    obtain ⟨k, hatk, hacceptsk, htl⟩ := fleet.exists_at_of_burst (by decide) (by decide) _
      ((hserial.alone_iff _).mpr halone) (not_not.mp ht)
    -- all three came from the one instrument, and nothing was written in between
    obtain rfl := halone i j hat ((hversion.at_iff _ _).mp hatj)
    obtain rfl := halone i k hat ((hserial.at_iff _ _).mp hatk)
    refine ⟨i, hat, ?_, (hmessages i).mpr ⟨haccepts, hacceptsj, hacceptsk⟩⟩
    have hid := identifies_identityOf (s.bus.parties.stores i)
    simp only [DriverResult.success_value, hfw, hsn, htl, hversion.stores, hserial.stores]
    exact hid

/-- `ReadHoldingRegisters` of one to 125 registers into an array that holds them. -/
theorem handles_readHoldingRegisters (regAddr : U16) {buf : List U16} {count : U8}
    (hpos : 0 < count.toNat) (hle : count.toNat ≤ 125) (hbuf : count.toNat ≤ buf.length)
    (s : Session (Line (FleetBus n))) :
    fleet.Handles [s.driver.asks (.read regAddr (count.setWidth 16))] s Prod.fst
      (fun r regs => r.2 = some (regs.contents regAddr count.toNat ++ buf.drop count.toNat))
      (readHoldingRegisters fleet.uart regAddr (some buf) count s) := by
  rcases Nat.lt_or_ge 32 count.toNat with hgt | hsmall
  · rw [readHoldingRegisters_of_oversize _ regAddr buf hgt hle]
    refine ensures_some (fleet.handled_send s _ (decode_readRequest _ _ _) ?_ DriverError.noConfusion)
    rintro (hread : (count.setWidth 16).toNat ≤ 32)
    rw [toNat_widen] at hread
    omega
  · have hop : (RawOp.read regAddr buf count).InRange := ⟨hpos, hsmall, hbuf⟩
    rw [readHoldingRegisters_eq _ regAddr hpos hsmall hbuf rfl]
    refine ensures_some (fleet.handled_finished hop s fun _ regs hreply => ?_)
    have houtput := RawOp.output_reply s.driver.address regs regAddr buf hsmall
    rw [← hreply] at houtput
    exact congrArg some houtput

/-! ## The sweep -/

/-- What the probes of a sweep find. -/
theorem probes_found {as : List U8} {gots : List (List U8)} {s s' : Session (Line (FleetBus n))}
    (h : Machine.run (probeStep fleet.uart) as s = some (gots, s')) :
    ReadOnly s s'
      ∧ (∀ a ∈ present (as.zip gots), ∃ i, s.bus.parties.At a i)
      ∧ (s.bus.parties.faults = [] → ∀ a ∈ as, s.bus.parties.Alone a →
        ∀ i, s.bus.parties.At a i → fleet.accepts i (.read 25 1) = true → a ∈ present (as.zip gots)) := by
  induction as generalizing gots s with
  | nil =>
    cases h
    exact ⟨⟨rfl, rfl, id⟩, fun a ha => absurd ha List.not_mem_nil,
      fun _ a ha => absurd ha List.not_mem_nil⟩
  | cons addr as ih =>
    obtain ⟨b, t, gots, hstep, hrun, rfl⟩ := Machine.run_cons_eq_some_iff.mp h
    cases hstep
    have hprobe := fleet.readOnly_finished probeOp_inRange (s.setAddress addr)
    have hread : ReadOnly s (probeOp.finished fleet.uart (s.setAddress addr)) :=
      ⟨hprobe.stores, hprobe.rate, hprobe.faults⟩
    obtain ⟨hrest, hfound, hall⟩ := ih hrun
    refine ⟨hread.trans hrest, fun a ha => ?_, fun hclean a ha halone i hat haccepts => ?_⟩
    · rw [List.zip_cons_cons, present_cons] at ha
      split_ifs at ha with hnone
      · rcases List.mem_cons.mp ha with rfl | ha
        · -- a probe that times out is not counted
          refine fleet.exists_at_of_delivered probeOp_inRange (s.setAddress a) fun hempty => ?_
          rw [hempty] at hnone
          exact absurd hnone DriverError.noConfusion
        · exact (hfound a ha).imp fun i => (hread.at_iff a i).mp
      · exact (hfound a ha).imp fun i => (hread.at_iff a i).mp
    · have hlater : a ∈ as → a ∈ present (as.zip gots) := fun ha =>
        hall (hread.faults hclean) a ha ((hread.alone_iff a).mpr halone) i
          ((hread.at_iff a i).mpr hat) haccepts
      rw [List.zip_cons_cons, present_cons]
      rcases List.mem_cons.mp ha with rfl | ha
      · have hnone : probeOp.outcome a (probeOp.delivered fleet.uart (s.setAddress a)) = .none :=
          fleet.outcome_of_clean probeOp_inRange (s.setAddress a) hclean halone hat haccepts
        rw [if_pos hnone]
        exact List.mem_cons_self
      · split_ifs
        · exact List.mem_cons_of_mem _ (hlater ha)
        · exact hlater ha

end Fleet

end AlicatBasis2
