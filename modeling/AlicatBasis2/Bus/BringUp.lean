import AlicatBasis2.Bus.Separation

/-! # Discovery at all rates and a common rate

The two procedures a host runs over the driver to bring up a bus whose instruments have different line
rates: a sweep at each rate the instruments can use, and for every responder at another rate than the wanted
one a change of its rate, after which the host moves on and asks it who it is. An instrument changes its rate
at once, so the reply to the change may not come back. -/

namespace AlicatBasis2

open Modbus

/-- The rates an instrument can use. -/
def baudRates : List U32 := [4800, 9600, 19200, 38400, 57600, 115200]

/-- An instrument with a rate has one of these. -/
theorem mem_baudRates {regs : Registers} {bps : U32} (h : regs.lineRate = some bps) :
    bps ∈ baudRates := by
  unfold Registers.lineRate at h
  split_ifs at h with hcode
  have hall : ∀ code : ℕ, code ≤ 5 → baudRateToBps ⟨BitVec.ofNat 8 code⟩ ∈ baudRates := by decide
  have hlow : lowByte (regs 21) = BitVec.ofNat 8 (regs 21).toNat := by
    rw [lowByte_eq]
    rfl
  rw [hlow] at h
  exact Option.some.inj h ▸ hall _ hcode

/-- The rate of an instrument whose register 21 holds a code of the table. -/
theorem lineRate_of_code {regs : Registers} {br : BaudRate} (hcode : br.code.toNat ≤ 5)
    (h : regs 21 = br.code.setWidth 16) : regs.lineRate = some (baudRateToBps br) := by
  have hlow : lowByte (regs 21) = br.code := by rw [h, RawOp.lowByte_setWidth]
  rw [Registers.lineRate, hlow, h, toNat_widen, if_pos hcode]

/-! ## The procedures -/

/-- What a call meets on the line: the bytes in the receive buffer and the faults of its transactions. -/
structure Noise (n : ℕ) where
  garbage : List U8
  faults : List (Fault n)

/-- The first request of the call gets through to an instrument. -/
def Noise.Reaches {n : ℕ} (noise : Noise n) (i : Fin n) : Prop :=
  (noise.faults.headD .clean).reaches i = true

/-- The addresses of a sweep that responded, each with the rate of the sweep. -/
def Reply.responders {F : Type} (bps : U32) : Reply F → List (U8 × U32)
  | .discovery rc (some bitmap) =>
      if rc.error = .none then
        ((Driver.window 1 kMaxModbusAddress).filter fun a => Bitmap.mem bitmap a.toNat).map (·, bps)
      else []
  | _ => []

namespace Fleet

section Procedures

variable (F : Type) [FloatArith F] {m n : ℕ} (fleet : Fleet n) (d : Fin m)

/-- A sweep at each of the rates, and the responders. -/
def discoverAcrossBauds (timeoutMs : U16) (noise : U32 → Noise n) :
    List U32 → FleetSystem m n → Option (List (U8 × U32) × FleetSystem m n)
  | [], sys => some ([], sys)
  | bps :: rates, sys => do
      let (_, sys) ← fleet.step (F := F) (.tune bps) sys
      let (reply, sys) ← fleet.step (F := F) (.call ⟨d, .discoverPresentAddresses
        (some (List.replicate 32 0)) 32 timeoutMs 1 kMaxModbusAddress, (noise bps).garbage,
        (noise bps).faults⟩) sys
      let (devices, sys) ← discoverAcrossBauds timeoutMs noise rates sys
      return (reply.responders bps ++ devices, sys)

/-- The change of one device to the wanted rate, and whether it then says who it is. -/
def normaliseDevice (target : BaudRate) (change verify : Noise n) (device : U8 × U32)
    (sys : FleetSystem m n) : Option (Bool × FleetSystem m n) := do
  let (_, sys) ← fleet.step (F := F) (.tune device.2) sys
  let (_, sys) ← fleet.step (F := F) (.call ⟨d, .setAddress device.1, [], []⟩) sys
  let (_, sys) ← fleet.step (F := F)
    (.call ⟨d, .setBaudRate target, change.garbage, change.faults⟩) sys
  let (_, sys) ← fleet.step (F := F) (.tune (baudRateToBps target)) sys
  let (reply, sys) ← fleet.step (F := F)
    (.call ⟨d, .readIdentity, verify.garbage, verify.faults⟩) sys
  return (reply.error = .none, sys)

/-- The change of every device that has another rate, and the addresses with the outcomes. -/
def normaliseBusBaud (target : BaudRate) (change verify : U8 × U32 → Noise n) :
    List (U8 × U32) → FleetSystem m n → Option (List (U8 × Bool) × FleetSystem m n)
  | [], sys => some ([], sys)
  | device :: devices, sys =>
      if device.2 = baudRateToBps target then normaliseBusBaud target change verify devices sys
      else do
        let (ok, sys) ← normaliseDevice F fleet d target (change device) (verify device) device sys
        let (rest, sys) ← normaliseBusBaud target change verify devices sys
        return ((device.1, ok) :: rest, sys)

end Procedures

/-! ## Discovery -/

section Discovery

variable {F : Type} [FloatArith F] {m n : ℕ} (fleet : Fleet n)

/-- A call whose messages change nothing leaves all registers. -/
theorem Served.stores_eq {fleet : Fleet n} {call : Call F} {driver : Driver} {bus bus' : FleetBus n}
    {reply : Reply F} (h : fleet.Served call driver bus reply bus')
    (hreads : ∀ message ∈ call.script driver, ∀ regs, message.request.apply regs = regs) :
    bus'.stores = bus.stores := by
  funext i
  rcases h.only i with hkept | ⟨message, hmessage, -, -, happlied⟩
  · exact hkept
  · exact happlied.trans (hreads message hmessage _)

omit [FloatArith F] in
/-- The responders of a sweep are the addresses it marked. -/
theorem mem_responders_iff {rc : DriverResult U8} {bitmap : List U8} (hrc : rc.error = .none)
    {bps : U32} {p : U8 × U32} :
    p ∈ (Reply.discovery (F := F) rc (some bitmap)).responders bps
      ↔ p.2 = bps ∧ p.1 ∈ Driver.window 1 kMaxModbusAddress ∧ Bitmap.mem bitmap p.1.toNat = true := by
  obtain ⟨a, rate⟩ := p
  simp only [Reply.responders, hrc, if_true, List.mem_map, List.mem_filter, Prod.mk.injEq]
  constructor
  · rintro ⟨b, ⟨hb, hmem⟩, rfl, rfl⟩
    exact ⟨rfl, hb, hmem⟩
  · rintro ⟨rfl, ha, hmem⟩
    exact ⟨a, ⟨ha, hmem⟩, rfl, rfl⟩

/-- **Discovery at all rates** changes no register, finds only instruments, and finds every one that answers
probes alone at its rate and address where the line is clean. -/
theorem discoverAcrossBauds_spec (d : Fin m) (timeoutMs : U16) (noise : U32 → Noise n)
    (rates : List U32) (sys : FleetSystem m n) :
    ∃ devices sys', discoverAcrossBauds F fleet d timeoutMs noise rates sys = some (devices, sys')
      ∧ sys'.stores = sys.stores
      ∧ (∀ p ∈ devices, p.1 ∈ Driver.window 1 kMaxModbusAddress
        ∧ ∃ i, (sys.stores i).Answers p.2 p.1)
      ∧ ∀ bps ∈ rates, (noise bps).faults = [] → ∀ a ∈ Driver.window 1 kMaxModbusAddress,
        (∀ i j, (sys.stores i).Answers bps a → (sys.stores j).Answers bps a → i = j) →
        ∀ i, (sys.stores i).Answers bps a → fleet.accepts i (.read 25 1) = true →
        (a, bps) ∈ devices := by
  induction rates generalizing sys with
  | nil => exact ⟨[], sys, rfl, rfl, by simp, by simp⟩
  | cons bps rates ih =>
    have hroom : ∀ buf, some (List.replicate 32 (0 : U8)) = some buf → 32 ≤ buf.length := by
      rintro buf ⟨⟩
      exact List.length_replicate.ge
    obtain ⟨reply, t, hstep, -, hserved⟩ := fleet.step_refines (F := F)
      (.call ⟨d, .discoverPresentAddresses (some (List.replicate 32 0)) 32 timeoutMs 1
        kMaxModbusAddress, (noise bps).garbage, (noise bps).faults⟩) { sys with rate := bps } hroom
    have hstores : t.stores = sys.stores :=
      hserved.stores_eq fun _ hmessage _ => Call.script_of_isDiscovery (by trivial) hmessage
    obtain ⟨rc, bitmap, rfl, hrc, hghosts, hall⟩ := hserved.found _ _ _ _ _ rfl le_rfl
    obtain ⟨devices, t', hrest, hkept, hfound, hcomplete⟩ := ih t
    rw [hstores] at hkept hfound hcomplete
    refine ⟨(Reply.discovery (F := F) rc (some bitmap)).responders bps ++ devices, t', ?_, hkept,
      fun p hp => ?_, ?_⟩
    · simp only [discoverAcrossBauds, step_tune, Option.bind_eq_bind, Option.bind_some, hstep, hrest,
        Option.pure_def]
    · rcases List.mem_append.mp hp with hnew | hold
      · obtain ⟨rfl, hwindow, hmem⟩ := (mem_responders_iff hrc).mp hnew
        have hsmall := p.1.isLt
        obtain ⟨a, -, ha, i, hat⟩ := hghosts p.1.toNat (by omega) hmem
        obtain rfl := BitVec.eq_of_toNat_eq ha
        exact ⟨hwindow, i, hat⟩
      · exact hfound p hold
    · intro rate hrate hclean a ha halone i hat haccepts
      rcases List.mem_cons.mp hrate with rfl | hrate
      · refine List.mem_append_left _ ((mem_responders_iff hrc).mpr ⟨rfl, ha, ?_⟩)
        exact hall hclean a ha halone i hat haccepts
      · exact List.mem_append_right _ (hcomplete rate hrate hclean a ha halone i hat haccepts)

end Discovery

/-! ## A common rate -/

section Rate

variable {m n : ℕ} (target : BaudRate)

/-- What a change of rates may do to the instruments: register 21 becomes that of the wanted rate or stays, and
nothing else changes. -/
structure Retuned (stores stores' : Fin n → Registers) : Prop where
  others : ∀ i a, a ≠ 21 → stores' i a = stores i a
  rates : ∀ i, stores' i 21 = stores i 21 ∨ stores' i 21 = target.code.setWidth 16

variable {target}

/-- Nothing done is a tuning. -/
theorem Retuned.refl (stores : Fin n → Registers) : Retuned target stores stores :=
  ⟨fun _ _ _ => rfl, fun _ => Or.inl rfl⟩

/-- Two tunings to one rate in a row are one. -/
theorem Retuned.trans {stores stores' stores'' : Fin n → Registers}
    (h : Retuned target stores stores') (h' : Retuned target stores' stores'') :
    Retuned target stores stores'' := by
  refine ⟨fun i a ha => (h'.others i a ha).trans (h.others i a ha), fun i => ?_⟩
  rcases h'.rates i with hkept | hset
  · rw [hkept]
    exact h.rates i
  · exact Or.inr hset

/-- An instrument at the wanted rate stays there. -/
theorem Retuned.lineRate {stores stores' : Fin n → Registers} (h : Retuned target stores stores')
    (hcode : target.code.toNat ≤ 5) {i : Fin n}
    (hi : (stores i).lineRate = some (baudRateToBps target)) :
    (stores' i).lineRate = some (baudRateToBps target) := by
  rcases h.rates i with hkept | hset
  · rwa [Registers.lineRate, hkept, ← Registers.lineRate]
  · exact lineRate_of_code hcode hset

/-- A device is where it was, or at the wanted rate. -/
theorem Retuned.answers {stores stores' : Fin n → Registers} (h : Retuned target stores stores')
    (hcode : target.code.toNat ≤ 5) {i : Fin n} {bps : U32} {a : U8}
    (hi : (stores i).Answers bps a ∨ (stores i).Answers (baudRateToBps target) a) :
    (stores' i).Answers bps a ∨ (stores' i).Answers (baudRateToBps target) a := by
  have haddress : stores' i 45 = stores i 45 := h.others i 45 (by decide)
  rcases h.rates i with hkept | hset
  · have hrate : (stores' i).lineRate = (stores i).lineRate := by
      rw [Registers.lineRate, hkept, ← Registers.lineRate]
    simpa only [Registers.Answers, haddress, hrate] using hi
  · refine Or.inr ⟨lineRate_of_code hcode hset, ?_⟩
    rw [haddress]
    exact hi.elim (·.2) (·.2)

/-- Separate addresses stay separate. -/
theorem Retuned.separate {sys sys' : FleetSystem m n} (h : Retuned target sys.stores sys'.stores)
    (hsep : sys.Separate) : sys'.Separate := by
  intro i j hij
  rw [h.others i 45 (by decide), h.others j 45 (by decide)] at hij
  exact hsep i j hij

end Rate

section Device

variable {F : Type} [FloatArith F] {m n : ℕ} (fleet : Fleet n) (d : Fin m) {target : BaudRate}

/-- A change of rate stores the wanted rate or nothing. -/
theorem Served.retuned {call : Call F} {driver : Driver} {bus bus' : FleetBus n} {reply : Reply F}
    {fleet : Fleet n} (h : fleet.Served call driver bus reply bus')
    (hscript : ∀ message ∈ call.script driver,
      message.request = .writeSingle 21 (target.code.setWidth 16)) :
    Retuned target bus.stores bus'.stores := by
  have hcases : ∀ i, bus'.stores i = bus.stores i
      ∨ bus'.stores i = (Request.writeSingle 21 (target.code.setWidth 16)).apply (bus.stores i) := by
    intro i
    refine (h.only i).imp_right ?_
    rintro ⟨message, hmessage, -, -, happlied⟩
    rwa [hscript message hmessage] at happlied
  refine ⟨fun i a ha => ?_, fun i => ?_⟩
  · rcases hcases i with hkept | happlied
    · rw [hkept]
    · rw [happlied, Request.apply_eq, Request.sets_writeSingle, if_neg ha]
      rfl
  · rcases hcases i with hkept | happlied
    · exact Or.inl (congrFun hkept 21)
    · refine Or.inr ?_
      rw [happlied, Request.apply_eq]
      simp

/-- **One device**: only its rate can change, and only to the wanted one; a device that says who it is has it;
a device that the request reaches has it whatever becomes of the reply, and says so on a clean line. -/
theorem normaliseDevice_spec (hcode : target.code.toNat ≤ 5) (change verify : Noise n)
    (device : U8 × U32) (hunicast : device.1 ≠ kBroadcastAddress) (sys : FleetSystem m n)
    (hsep : sys.Separate) :
    ∃ ok sys', normaliseDevice F fleet d target change verify device sys = some (ok, sys')
      ∧ Retuned target sys.stores sys'.stores
      ∧ (ok = true → ∃ i, sys'.stores i 45 = device.1.setWidth 16
        ∧ (sys'.stores i).lineRate = some (baudRateToBps target))
      ∧ ∀ i, (sys.stores i).Answers device.2 device.1
          ∨ (sys.stores i).Answers (baudRateToBps target) device.1 →
        change.Reaches i → fleet.accepts i (.writeSingle 21 (target.code.setWidth 16)) = true →
        (sys'.stores i).lineRate = some (baudRateToBps target)
        ∧ (verify.faults = [] → fleet.accepts i (.read 25 1) = true →
          fleet.accepts i (.read 26 6) = true → fleet.accepts i (.read 45 5) = true → ok = true) := by
  have hdriver : Function.update sys.drivers d ⟨device.1, (sys.drivers d).timeoutMs⟩ d
      = ⟨device.1, (sys.drivers d).timeoutMs⟩ := Function.update_self _ _ _
  obtain ⟨rc, t, hchange, hdrivers, hserved⟩ := fleet.step_refines (F := F)
    (.call ⟨d, .setBaudRate target, change.garbage, change.faults⟩)
    ⟨Function.update sys.drivers d ⟨device.1, (sys.drivers d).timeoutMs⟩, sys.stores, device.2⟩ trivial
  obtain ⟨reply, sys', hverify, -, hidentity⟩ := fleet.step_refines (F := F)
    (.call ⟨d, .readIdentity, verify.garbage, verify.faults⟩)
    ⟨t.drivers, t.stores, baudRateToBps target⟩ trivial
  simp only [hdriver] at hserved
  have hdriver' : t.drivers d = ⟨device.1, (sys.drivers d).timeoutMs⟩ := by
    rw [hdrivers]
    simp [Call.driverAfter, Call.addressAfter, Call.timeoutAfter]
  simp only [hdriver'] at hidentity
  have hretuned : Retuned target sys.stores t.stores :=
    hserved.retuned (by simp [Call.script, Driver.asks])
  have hsame : sys'.stores = t.stores := hidentity.stores_eq (by
    simp [Call.script, Driver.asks, Request.apply])
  have hseparate : FleetSystem.Separate ⟨t.drivers, t.stores, baudRateToBps target⟩ :=
    hretuned.separate hsep
  refine ⟨decide (reply.error = .none), sys', ?_, ?_, fun hok => ?_, ?_⟩
  · simp only [normaliseDevice, step_tune, step_setAddress, Option.bind_eq_bind, Option.bind_some,
      hchange, hverify, Option.pure_def]
  · exact hsame ▸ hretuned
  · obtain ⟨i, hat, -, -⟩ := hidentity.done (of_decide_eq_true hok) id (List.cons_ne_nil _ _)
      hunicast (hseparate.alone verify.faults device.1)
    exact ⟨i, hsame ▸ hat.2.2, hsame ▸ hat.1⟩
  · intro i hanswers hreaches haccepts
    have hrate : (t.stores i).lineRate = some (baudRateToBps target) := by
      rcases hanswers with hold | hnew
      · -- the request gets through to the device, at its old rate
        have happlied := hserved.reached _ rfl i hreaches hold.hears haccepts
        refine lineRate_of_code hcode ?_
        rw [show t.stores i = _ from happlied, Driver.asks, Request.apply_eq, Request.sets_writeSingle,
          if_pos rfl]
        rfl
      · exact hretuned.lineRate hcode hnew.1
    refine ⟨hsame ▸ hrate, fun hclean hfirst hsecond hthird => decide_eq_true ?_⟩
    have haddress : t.stores i 45 = device.1.setWidth 16 := by
      rw [hretuned.others i 45 (by decide)]
      exact hanswers.elim (·.2.2) (·.2.2)
    refine hidentity.live hclean id (List.cons_ne_nil _ _)
      (hseparate.alone verify.faults device.1) i ⟨hrate, hunicast, haddress⟩ ?_
    simp only [Call.script, Driver.asks, List.mem_cons, List.not_mem_nil, or_false]
    rintro message (rfl | rfl | rfl)
    · exact ⟨(by decide : (1 : U16).toNat ≤ 32), hfirst⟩
    · exact ⟨(by decide : (6 : U16).toNat ≤ 32), hsecond⟩
    · exact ⟨(by decide : (5 : U16).toNat ≤ 32), hthird⟩

/-- **All devices**: what holds of one device holds of each of them at the end. -/
theorem normaliseBusBaud_spec (hcode : target.code.toNat ≤ 5) (change verify : U8 × U32 → Noise n)
    {devices : List (U8 × U32)} (hunicast : ∀ p ∈ devices, p.1 ≠ kBroadcastAddress)
    (sys : FleetSystem m n) (hsep : sys.Separate) :
    ∃ verified sys', normaliseBusBaud F fleet d target change verify devices sys
        = some (verified, sys')
      ∧ Retuned target sys.stores sys'.stores
      ∧ (∀ a, (a, true) ∈ verified → ∃ i, sys'.stores i 45 = a.setWidth 16
        ∧ (sys'.stores i).lineRate = some (baudRateToBps target))
      ∧ ∀ p ∈ devices, ∀ i, (sys.stores i).Answers p.2 p.1
          ∨ (sys.stores i).Answers (baudRateToBps target) p.1 →
        (change p).Reaches i → fleet.accepts i (.writeSingle 21 (target.code.setWidth 16)) = true →
        (sys'.stores i).lineRate = some (baudRateToBps target)
        ∧ (p.2 ≠ baudRateToBps target → (verify p).faults = [] →
          fleet.accepts i (.read 25 1) = true → fleet.accepts i (.read 26 6) = true →
          fleet.accepts i (.read 45 5) = true → (p.1, true) ∈ verified) := by
  induction devices generalizing sys with
  | nil => exact ⟨[], sys, rfl, .refl _, by simp, by simp⟩
  | cons device devices ih =>
    obtain ⟨hdevice, hrest⟩ := List.forall_mem_cons.mp hunicast
    by_cases htarget : device.2 = baudRateToBps target
    · -- a device at the wanted rate is left alone
      obtain ⟨verified, sys', hrun, hretuned, hverified, hdone⟩ := ih hrest sys hsep
      refine ⟨verified, sys', by rw [normaliseBusBaud, if_pos htarget, hrun], hretuned, hverified,
        fun p hp i hanswers hreaches haccepts => ?_⟩
      rcases List.mem_cons.mp hp with rfl | hp
      · refine ⟨hretuned.lineRate hcode ?_, fun hne => absurd htarget hne⟩
        rcases hanswers with hold | hnew
        · exact htarget ▸ hold.1
        · exact hnew.1
      · exact hdone p hp i hanswers hreaches haccepts
    · obtain ⟨ok, t, hchange, hfirst, hok, hreached⟩ := normaliseDevice_spec (F := F) fleet d hcode
        (change device) (verify device) device hdevice sys hsep
      obtain ⟨verified, sys', hrun, hretuned, hverified, hdone⟩ := ih hrest t (hfirst.separate hsep)
      refine ⟨(device.1, ok) :: verified, sys', ?_, hfirst.trans hretuned, fun a ha => ?_,
        fun p hp i hanswers hreaches haccepts => ?_⟩
      · simp only [normaliseBusBaud, if_neg htarget, hchange, Option.bind_eq_bind, Option.bind_some,
          hrun, Option.pure_def]
      · rcases List.mem_cons.mp ha with hhead | hmem
        · obtain ⟨rfl, rfl⟩ := Prod.mk.inj hhead
          obtain ⟨i, haddress, hrate⟩ := hok rfl
          exact ⟨i, (hretuned.others i 45 (by decide)).trans haddress, hretuned.lineRate hcode hrate⟩
        · exact hverified a hmem
      · rcases List.mem_cons.mp hp with rfl | hp
        · obtain ⟨hrate, hanswer⟩ := hreached i hanswers hreaches haccepts
          refine ⟨hretuned.lineRate hcode hrate, fun _ hclean h25 h26 h45 => ?_⟩
          rw [hanswer hclean h25 h26 h45]
          exact List.mem_cons_self
        · obtain ⟨hrate, hanswer⟩ := hdone p hp i (hfirst.answers hcode hanswers) hreaches haccepts
          exact ⟨hrate, fun hne hclean h25 h26 h45 =>
            List.mem_cons_of_mem _ (hanswer hne hclean h25 h26 h45)⟩

end Device

end Fleet

/-- **A bus is brought to one rate.** On separate addresses, under all faults of the line, the two procedures
return; every device found is an instrument at that address and rate; only rates change, and only to the
wanted one; and every address that verified is that of an instrument at the wanted rate. An instrument at a
legal address that answers probes and accepts the change ends at the wanted rate if the line is clean at the
sweep of its old rate and the one request of the change gets through, whatever becomes of the reply to it;
and it verifies if it had another rate, is asked on a clean line and accepts the three reads of an
identification. -/
theorem bus_normalised {F : Type} [FloatArith F] {m n : ℕ} (fleet : Fleet n) (d : Fin m)
    {target : BaudRate} (hcode : target.code.toNat ≤ 5) (timeoutMs : U16) (sweeps : U32 → Noise n)
    (change verify : U8 × U32 → Noise n) (sys : FleetSystem m n) (hsep : sys.Separate) :
    ∃ devices verified sys' sys'',
      fleet.discoverAcrossBauds F d timeoutMs sweeps baudRates sys = some (devices, sys')
      ∧ fleet.normaliseBusBaud F d target change verify devices sys' = some (verified, sys'')
      ∧ (∀ p ∈ devices, ∃ i, (sys.stores i).Answers p.2 p.1)
      ∧ Fleet.Retuned target sys.stores sys''.stores
      ∧ (∀ a, (a, true) ∈ verified → ∃ i, sys''.stores i 45 = a.setWidth 16
        ∧ (sys''.stores i).lineRate = some (baudRateToBps target))
      ∧ ∀ i a bps, a ∈ Driver.window 1 kMaxModbusAddress → (sys.stores i).Answers bps a →
        fleet.accepts i (.read 25 1) = true →
        fleet.accepts i (.writeSingle 21 (target.code.setWidth 16)) = true →
        (sweeps bps).faults = [] → (change (a, bps)).Reaches i →
        (sys''.stores i).lineRate = some (baudRateToBps target)
        ∧ (bps ≠ baudRateToBps target → (verify (a, bps)).faults = [] →
          fleet.accepts i (.read 26 6) = true → fleet.accepts i (.read 45 5) = true →
          (a, true) ∈ verified) := by
  obtain ⟨devices, sys', hdiscover, hkept, hfound, hcomplete⟩ :=
    fleet.discoverAcrossBauds_spec (F := F) d timeoutMs sweeps baudRates sys
  have hunicast : ∀ p ∈ devices, p.1 ≠ kBroadcastAddress := by
    intro p hp hbroadcast
    obtain ⟨i, hanswers⟩ := (hfound p hp).2
    exact hanswers.2.1 hbroadcast
  have hsep' : sys'.Separate := by
    intro i j hij
    rw [hkept] at hij
    exact hsep i j hij
  obtain ⟨verified, sys'', hnormalise, hretuned, hverified, hdone⟩ :=
    fleet.normaliseBusBaud_spec (F := F) d hcode change verify hunicast sys' hsep'
  rw [hkept] at hretuned hdone
  refine ⟨devices, verified, sys', sys'', hdiscover, hnormalise, fun p hp => (hfound p hp).2,
    hretuned, hverified, fun i a bps ha hanswers h25 haccepts hclean hreaches => ?_⟩
  have halone : ∀ j k, (sys.stores j).Answers bps a → (sys.stores k).Answers bps a → j = k :=
    fun j k hj hk => hsep j k (hj.2.2.trans hk.2.2.symm)
  have hmem := hcomplete bps (mem_baudRates hanswers.1) hclean a ha halone i hanswers h25
  obtain ⟨hrate, hanswer⟩ := hdone (a, bps) hmem i (Or.inl hanswers) hreaches haccepts
  exact ⟨hrate, fun hne hquiet h26 h45 => hanswer hne hquiet h25 h26 h45⟩

/-- Two instruments at 38400 bits per second are brought to 115200; the replies to both changes are lost. -/
theorem bus_normalised_pair :
    ∃ devices verified sys' sys'',
      (Fleet.standard 2).discoverAcrossBauds ℚ 0 40 (fun _ => ⟨[], []⟩) baudRates (.fresh ![1, 2])
        = some (devices, sys')
      ∧ (Fleet.standard 2).normaliseBusBaud ℚ 0 .bps115200 (fun _ => ⟨[], [.unanswered]⟩)
        (fun _ => ⟨[0xFF], []⟩) devices sys' = some (verified, sys'')
      ∧ (∀ i, (sys''.stores i).lineRate = some 115200)
      ∧ (1, true) ∈ verified ∧ (2, true) ∈ verified := by
  obtain ⟨devices, verified, sys', sys'', hdiscover, hnormalise, -, -, -, hdone⟩ :=
    bus_normalised (F := ℚ) (Fleet.standard 2) 0 (by decide : BaudRate.bps115200.code.toNat ≤ 5) 40
      (fun _ => ⟨[], []⟩) (fun _ => ⟨[], [.unanswered]⟩) (fun _ => ⟨[0xFF], []⟩) (.fresh ![1, 2])
      (FleetSystem.separate_fresh (by decide))
  obtain ⟨hrate, hanswer⟩ := hdone 0 1 38400 (by decide) (by decide) (by decide) (by decide) rfl rfl
  obtain ⟨hrate', hanswer'⟩ := hdone 1 2 38400 (by decide) (by decide) (by decide) (by decide) rfl rfl
  refine ⟨devices, verified, sys', sys'', hdiscover, hnormalise, fun i => ?_, ?_, ?_⟩
  · match i with
    | 0 => exact hrate
    | 1 => exact hrate'
  · exact hanswer (by decide) rfl (by decide) (by decide)
  · exact hanswer' (by decide) rfl (by decide) (by decide)

end AlicatBasis2
