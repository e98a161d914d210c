import AlicatBasis2.Bus.BringUp
import AlicatBasis2.Bus.NonInterference
import AlicatBasis2.Bus.Retarget

/-! # First power-up

Every instrument leaves the factory at address 1. To put several of them on one line, they are connected one
after another, and each is given its address before the next one is connected. What comes out of it is worked
out for all addresses: an instrument that was given address 1 is moved again together with the next one, so
the addresses come out apart exactly when they are different and no one but the last is 1. -/

namespace AlicatBasis2

open Machine Modbus

/-! ## The procedure -/

/-- A line to which the instruments up to the `k`-th are connected, and on which a single reply arrives. -/
structure Fault.Connects {n : ℕ} (fault : Fault n) (k : Fin n) : Prop where
  reaches : ∀ i, fault.reaches i = true ↔ i ≤ k
  deliver : ∀ reply, fault.deliver reply = reply

/-- The line with the instruments up to the `k`-th. -/
def Fault.connecting {n : ℕ} (k : Fin n) : Fault n := ⟨fun i => decide (i ≤ k), id, fun _ => .intact, List.flatten⟩

/-- It connects the instruments `i ≤ k` and keeps their replies. -/
theorem Fault.connects_connecting {n : ℕ} (k : Fin n) : (connecting k).Connects k :=
  ⟨fun _ => decide_eq_true_iff, fun _ => rfl⟩

/-- The first power-up: with each instrument that is connected, a driver at the factory address gives an
address. -/
def assignAddresses (F : Type) {n : ℕ} (addresses : Fin n → U8) (garbage : Fin n → List U8)
    (faults : Fin n → Fault n) : List (FleetInput F n n) :=
  List.ofFn fun k => .call ⟨k, .setModbusAddress (addresses k), garbage k, [faults k]⟩

/-- The request that gives an address. -/
abbrev assignment (addr : U8) : Request := (Driver.retargetOp addr).toRequest

/-! ## What becomes of the addresses -/

section Staged

variable {n : ℕ}

/-- The addresses after a new one is given to the instruments that are connected and at address 1. -/
def moved (k : Fin n) (new : U8) (current : Fin n → U8) : Fin n → U8 := fun i =>
  if i ≤ k ∧ current i = 1 then new else current i

variable (addresses : Fin n → U8)

/-- The addresses after the first `k` were given. -/
def staged : ℕ → Fin n → U8
  | 0 => fun _ => 1
  | k + 1 => if h : k < n then moved ⟨k, h⟩ (addresses ⟨k, h⟩) (staged k) else staged k

/-- The next address is given. -/
theorem staged_succ {k : ℕ} (h : k < n) :
    staged addresses (k + 1) = moved ⟨k, h⟩ (addresses ⟨k, h⟩) (staged addresses k) := by
  rw [staged, dif_pos h]

/-- An instrument that was not connected yet is at the factory address. -/
theorem staged_of_le {k : ℕ} {i : Fin n} (hi : k ≤ i) : staged addresses k i = 1 := by
  induction k with
  | zero => rfl
  | succ k ih =>
    have hk : k < n := Nat.lt_of_succ_le (hi.trans i.isLt.le)
    have hlater : ¬ i ≤ (⟨k, hk⟩ : Fin n) := not_le.mpr hi
    -- the step before this one moves only instruments that are connected
    rw [staged_succ addresses hk, moved, if_neg fun h => hlater h.1]
    exact ih (Nat.le_of_succ_le hi)

/-- An instrument is given its address when it is connected. -/
theorem staged_self (i : Fin n) : staged addresses (i + 1) i = addresses i := by
  rw [staged_succ addresses i.isLt, moved, if_pos ⟨le_rfl, staged_of_le addresses le_rfl⟩]

/-- No instrument but the last is given the factory address. -/
def LeavesFactory : Prop := ∀ i j : Fin n, i < j → addresses i ≠ 1

instance : Decidable (LeavesFactory addresses) :=
  inferInstanceAs (Decidable (∀ i j : Fin n, i < j → addresses i ≠ 1))

variable {addresses}

/-- Then each keeps the address it was given. -/
theorem LeavesFactory.staged_of_lt (h : LeavesFactory addresses) {k : ℕ} (hk : k ≤ n) {i : Fin n}
    (hi : i.val < k) : staged addresses k i = addresses i := by
  induction k with
  | zero => exact absurd hi (Nat.not_lt_zero _)
  | succ k ih =>
    have hkn : k < n := hk
    rcases Nat.lt_succ_iff_lt_or_eq.mp hi with hbefore | rfl
    · have hold := ih hkn.le hbefore
      have hleft : staged addresses k i ≠ 1 := hold ▸ h i ⟨k, hkn⟩ hbefore
      rw [staged_succ addresses hkn, moved, if_neg fun hmoved => hleft hmoved.2, hold]
    · exact staged_self addresses i

/-- An instrument that was given the factory address goes with the next one from then on. -/
theorem staged_twins {i j : Fin n} (hij : j.val = i + 1) (hi : addresses i = 1) {k : ℕ} (hjk : j.val < k)
    (hk : k ≤ n) : staged addresses k i = staged addresses k j := by
  induction k with
  | zero => exact absurd hjk (Nat.not_lt_zero _)
  | succ k ih =>
    have hkn : k < n := hk
    have hlei : i ≤ (⟨k, hkn⟩ : Fin n) := Fin.le_def.mpr (by omega : i.val ≤ k)
    have hlej : j ≤ (⟨k, hkn⟩ : Fin n) := Fin.le_def.mpr (Nat.lt_succ_iff.mp hjk)
    have hsame : staged addresses k i = staged addresses k j := by
      rcases Nat.lt_succ_iff_lt_or_eq.mp hjk with hbefore | rfl
      · exact ih hbefore hkn.le
      · -- the next one is being connected, and this one is where that one is
        rw [staged_of_le addresses le_rfl, hij, staged_self addresses i, hi]
    rw [staged_succ addresses hkn, moved, moved, hsame]
    simp only [hlei, hlej, true_and]

/-- The addresses come out different exactly when they are, and only the last may be the factory address. -/
theorem injective_staged_iff :
    Function.Injective (staged addresses n) ↔ Function.Injective addresses ∧ LeavesFactory addresses := by
  constructor
  · intro hinj
    have hleaves : LeavesFactory addresses := by
      -- an instrument left at the factory address would share the address of the next one
      intro i j hij hfactory
      have hnext : i.val + 1 < n := (Nat.succ_le_of_lt hij).trans_lt j.isLt
      have htwins := staged_twins (j := ⟨i + 1, hnext⟩) rfl hfactory hnext le_rfl
      exact absurd (congrArg Fin.val (hinj htwins)) (Nat.ne_of_lt (Nat.lt_succ_self _))
    refine ⟨fun i j hij => hinj ?_, hleaves⟩
    rw [hleaves.staged_of_lt le_rfl i.isLt, hleaves.staged_of_lt le_rfl j.isLt, hij]
  · rintro ⟨hinj, hleaves⟩ i j hij
    rw [hleaves.staged_of_lt le_rfl i.isLt, hleaves.staged_of_lt le_rfl j.isLt] at hij
    exact hinj hij

end Staged

/-! ## One instrument more -/

section Stage

variable {F : Type} [FloatArith F] {n : ℕ} (fleet : Fleet n)

/-- A fresh instrument runs at the factory rate. -/
theorem FleetSystem.lineRate_fresh (current : Fin n → U8) (i : Fin n) :
    ((FleetSystem.fresh current).stores i).lineRate = some 38400 :=
  lineRate_of_code (show (⟨3⟩ : BaudRate).code.toNat ≤ 5 by decide) rfl

/-- Of fresh instruments those at the factory address hear a driver at it. -/
theorem FleetSystem.hears_fresh_iff (current : Fin n → U8) (i : Fin n) :
    ((FleetSystem.fresh current).stores i).Hears 38400 1 ↔ current i = 1 := by
  constructor
  · rintro ⟨-, hunit⟩
    exact Registers.widen_injective (hunit.resolve_left (by decide))
  · intro h
    exact ⟨lineRate_fresh current i, Or.inr (congrArg (BitVec.setWidth 16) h)⟩

/-- A fresh instrument differs by its address alone. -/
theorem FleetSystem.stores_fresh_congr {current next : Fin n → U8} {i : Fin n} (h : next i = current i) :
    (FleetSystem.fresh next).stores i = (FleetSystem.fresh current).stores i := by
  simp only [fresh, h]

/-- A new address in the register of a fresh instrument. -/
theorem FleetSystem.apply_stores_fresh {current next : Fin n → U8} {i : Fin n} {new : U8} (h : next i = new) :
    (Request.writeSingle 45 (new.setWidth 16)).apply ((fresh current).stores i) = (fresh next).stores i := by
  funext a
  rw [Request.apply_eq, Request.sets_writeSingle]
  simp only [fresh, h]
  split_ifs <;> rfl

/-- Fresh instruments are separate at different addresses only. -/
theorem FleetSystem.separate_fresh_iff {current : Fin n → U8} :
    (FleetSystem.fresh current).Separate ↔ Function.Injective current :=
  ⟨fun h i j hij => h i j (congrArg (BitVec.setWidth 16) hij), separate_fresh⟩

/-- A driver at the factory address on a line of fresh instruments. -/
def assigning (current : Fin n → U8) (fault : Fault n) (garbage : List U8) : Session (Line (FleetBus n)) :=
  ⟨⟨1, kDefaultTimeoutMs⟩, ⟨⟨(FleetSystem.fresh current).stores, 38400, [fault]⟩, garbage⟩, []⟩

variable {current : Fin n → U8} {k : Fin n} {fault : Fault n} {new : U8}

/-- Every instrument that is connected and at the factory address carries the change out. -/
theorem settle_assigning (haccepts : ∀ i addr, ¬ Driver.Illegal addr → fleet.accepts i (assignment addr) = true)
    (hlegal : ¬ Driver.Illegal new) (hfault : fault.Connects k) (garbage : List U8) :
    fleet.settle (assigning current fault garbage).bus.parties 1 (assignment new)
      = (FleetSystem.fresh (moved k new current)).stores := by
  funext i
  rw [Fleet.settle]
  by_cases hi : i ≤ k ∧ current i = 1
  · rw [if_pos ⟨(hfault.reaches i).mpr hi.1, (FleetSystem.hears_fresh_iff current i).mpr hi.2, haccepts i new hlegal⟩]
    exact FleetSystem.apply_stores_fresh (if_pos hi)
  · -- not connected, or past the factory address: the request is not heard
    rw [if_neg fun hheard => hi ⟨(hfault.reaches i).mp hheard.1,
      (FleetSystem.hears_fresh_iff current i).mp hheard.2.1⟩]
    exact (FleetSystem.stores_fresh_congr (if_neg hi)).symm

/-- Where the instrument connected last is the only one at the factory address, its reply is accepted. -/
theorem outcome_assigning (haccepts : ∀ i addr, ¬ Driver.Illegal addr → fleet.accepts i (assignment addr) = true)
    (hlegal : ¬ Driver.Illegal new) (hfault : fault.Connects k) (garbage : List U8) (hk : current k = 1)
    (honly : ∀ i, i ≤ k → current i = 1 → i = k) :
    (Driver.retargetOp new).outcome 1 ((Driver.retargetOp new).delivered fleet.uart (assigning current fault garbage))
      = .none := by
  have hat : (assigning current fault garbage).bus.parties.At 1 k :=
    ⟨FleetSystem.lineRate_fresh current k, by decide, congrArg (BitVec.setWidth 16) hk⟩
  have hmem : ∀ j ∈ Fleet.answering (assigning current fault garbage).bus.parties 1, j = k := by
    intro j hj
    obtain ⟨hreaches, hj⟩ := (Fleet.mem_answering _ _).mp hj
    exact honly j ((hfault.reaches j).mp hreaches) ((FleetSystem.hears_fresh_iff current j).mp hj.hears)
  refine fleet.outcome_of_intact (i := k) (Driver.retargetOp_inRange new) _ ?_ hfault.deliver (haccepts k new hlegal)
  exact (Fleet.answering_eq _ _ hmem).trans (if_pos ⟨(hfault.reaches k).mpr le_rfl, hat⟩)

/-- **One stage**: every instrument that is connected and at the factory address gets the new one; where the
instrument connected last is the only one there, the call succeeds and its driver follows. -/
theorem step_assign (haccepts : ∀ i addr, ¬ Driver.Illegal addr → fleet.accepts i (assignment addr) = true)
    (hlegal : ¬ Driver.Illegal new) (hfault : fault.Connects k) (garbage : List U8) {sys : FleetSystem n n}
    (hstores : sys.stores = (FleetSystem.fresh current).stores) (hrate : sys.rate = 38400)
    (hdriver : sys.drivers k = ⟨1, kDefaultTimeoutMs⟩) :
    ∃ (reply : Reply F) (driver : Driver),
      fleet.step (.call ⟨k, .setModbusAddress new, garbage, [fault]⟩) sys
        = some (reply, ⟨Function.update sys.drivers k driver, (FleetSystem.fresh (moved k new current)).stores, 38400⟩)
      ∧ (current k = 1 → (∀ i, i ≤ k → current i = 1 → i = k) →
        reply.error = .none ∧ driver = ⟨new, kDefaultTimeoutMs⟩) := by
  let op := Driver.retargetOp new
  let s := assigning current fault garbage
  have hsession : (⟨sys.drivers k, ⟨sys.bus [fault], garbage⟩, []⟩ : Session _) = s := by
    rw [hdriver, FleetSystem.bus, hstores, hrate]
    rfl
  have hunicast : (1 : U8) ≠ kBroadcastAddress := by decide
  have hcall := Driver.setModbusAddress_eq fleet.uart new s hlegal hunicast rfl
  let t := if op.outcome 1 (op.delivered fleet.uart s) = .none then (op.finished fleet.uart s).setAddress new
    else op.finished fleet.uart s
  -- whether the driver follows makes no difference to the instruments
  have hparties : t.bus.parties = ⟨(FleetSystem.fresh (moved k new current)).stores, 38400, []⟩ := by
    have hbus : t.bus = (op.finished fleet.uart s).bus := by
      rw [apply_ite Session.bus]
      exact ite_self _
    rw [hbus, fleet.finished_parties (Driver.retargetOp_inRange new),
      ← settle_assigning fleet haccepts hlegal hfault garbage]
    rfl
  refine ⟨.command ⟨(), op.outcome 1 (op.delivered fleet.uart s)⟩, t.driver, ?_, fun hk honly => ?_⟩
  · rw [Fleet.step, hsession, Call.exec, hcall]
    change some (_, (⟨Function.update sys.drivers k t.driver, t.bus.parties.stores, t.bus.parties.rate⟩ :
      FleetSystem n n)) = _
    rw [hparties]
    rfl
  · have hnone := outcome_assigning fleet haccepts hlegal hfault garbage hk honly
    exact ⟨hnone, congrArg Session.driver (if_pos hnone)⟩

end Stage

/-! ## The whole procedure -/

section FirstPowerUp

variable {F : Type} [FloatArith F] {n : ℕ}

/-- What stands when the first `k` instruments were given their addresses. -/
structure FleetSystem.Assigned (addresses : Fin n → U8) (k : ℕ) (sys : FleetSystem n n) : Prop where
  stores : sys.stores = (FleetSystem.fresh (staged addresses k)).stores
  rate : sys.rate = 38400
  waiting : ∀ i : Fin n, k ≤ i → sys.drivers i = ⟨1, kDefaultTimeoutMs⟩
  follows : LeavesFactory addresses → ∀ i : Fin n, i.val < k → sys.drivers i = ⟨addresses i, kDefaultTimeoutMs⟩

/-- The next one is given its address. -/
theorem FleetSystem.Assigned.succ {addresses : Fin n → U8} {k : ℕ} {sys : FleetSystem n n}
    (h : sys.Assigned addresses k) (hk : k < n) {driver : Driver}
    (hdriver : LeavesFactory addresses → driver = ⟨addresses ⟨k, hk⟩, kDefaultTimeoutMs⟩) :
    FleetSystem.Assigned addresses (k + 1) ⟨Function.update sys.drivers ⟨k, hk⟩ driver,
      (fresh (moved ⟨k, hk⟩ (addresses ⟨k, hk⟩) (staged addresses k))).stores, 38400⟩ where
  stores := by rw [staged_succ addresses hk]
  rate := rfl
  waiting i hi := by
    have hother : i ≠ ⟨k, hk⟩ := fun heq => (Nat.lt_of_succ_le hi).ne' (congrArg Fin.val heq)
    exact (Function.update_of_ne hother _ _).trans (h.waiting i (Nat.le_of_succ_le hi))
  follows hleaves i hi := by
    rcases Nat.lt_succ_iff_lt_or_eq.mp hi with hbefore | rfl
    · have hother : i ≠ ⟨k, hk⟩ := fun heq => hbefore.ne (congrArg Fin.val heq)
      exact (Function.update_of_ne hother _ _).trans (h.follows hleaves i hbefore)
    · exact (Function.update_self ..).trans (hdriver hleaves)

/-- Where no one but the last is given the factory address, everyone has its own in the end. -/
theorem FleetSystem.Assigned.eq_fresh {addresses : Fin n → U8} {sys : FleetSystem n n}
    (h : sys.Assigned addresses n) (hleaves : LeavesFactory addresses) : sys = .fresh addresses := by
  have hstaged : staged addresses n = addresses := funext fun i => hleaves.staged_of_lt le_rfl i.isLt
  obtain ⟨drivers, stores, rate⟩ := sys
  obtain rfl : stores = (FleetSystem.fresh addresses).stores := hstaged ▸ h.stores
  obtain rfl : rate = 38400 := h.rate
  obtain rfl : drivers = (FleetSystem.fresh addresses).drivers := funext fun i => h.follows hleaves i i.isLt
  rfl

variable (fleet : Fleet n) {addresses : Fin n → U8}

/-- The first `k` instruments. -/
theorem assign_take (haccepts : ∀ i addr, ¬ Driver.Illegal addr → fleet.accepts i (assignment addr) = true)
    (hlegal : ∀ i, ¬ Driver.Illegal (addresses i)) {faults : Fin n → Fault n}
    (hfaults : ∀ k, (faults k).Connects k) (garbage : Fin n → List U8) {k : ℕ} (hk : k ≤ n) :
    ∃ replies sys', Machine.run fleet.step ((assignAddresses F addresses garbage faults).take k)
        (.fresh fun _ => 1) = some (replies, sys')
      ∧ sys'.Assigned addresses k ∧ (LeavesFactory addresses → ∀ reply ∈ replies, reply.error = .none) := by
  induction k with
  | zero =>
    exact ⟨[], .fresh fun _ => 1, rfl, ⟨rfl, rfl, fun _ _ => rfl, fun _ _ hi => absurd hi (Nat.not_lt_zero _)⟩,
      fun _ _ hmem => absurd hmem List.not_mem_nil⟩
  | succ k ih =>
    obtain ⟨replies, sys, hrun, hsys, hreplies⟩ := ih (Nat.le_of_succ_le hk)
    have hlength : k < (assignAddresses F addresses garbage faults).length :=
      hk.trans_eq List.length_ofFn.symm
    obtain ⟨reply, driver, hstep, hgood⟩ := step_assign (F := F) (k := ⟨k, hk⟩) fleet haccepts (hlegal ⟨k, hk⟩)
      (hfaults _) (garbage ⟨k, hk⟩) hsys.stores hsys.rate (hsys.waiting _ le_rfl)
    -- those connected before have left the factory address
    have honly : LeavesFactory addresses → ∀ i : Fin n, i ≤ ⟨k, hk⟩ → staged addresses k i = 1 → i = ⟨k, hk⟩ := by
      intro hleaves i hi hfactory
      rcases hi.lt_or_eq with hbefore | rfl
      · rw [hleaves.staged_of_lt (Nat.le_of_succ_le hk) hbefore] at hfactory
        exact absurd hfactory (hleaves i _ hbefore)
      · rfl
    have hgood := fun hleaves => hgood (staged_of_le addresses le_rfl) (honly hleaves)
    refine ⟨replies ++ [reply], _, ?_, hsys.succ hk fun hleaves => (hgood hleaves).2, fun hleaves r hmem => ?_⟩
    · rw [List.take_succ_eq_append_getElem hlength]
      refine Machine.run_snoc_eq_some_iff.mpr ⟨sys, replies, reply, hrun, ?_, rfl⟩
      simpa only [assignAddresses, List.getElem_ofFn] using hstep
    · rcases List.mem_append.mp hmem with hold | hnew
      · exact hreplies hleaves r hold
      · rw [List.mem_singleton.mp hnew]
        exact (hgood hleaves).1

/-- **First power-up.** Fresh instruments that accept legal addresses are connected one after another, and each is
given its address, on a line that keeps single replies: for any legal addresses the procedure runs to its end, and
the instruments are at different addresses exactly when these are different and no one but the last is the factory
address 1. Where they leave the factory address, every call succeeds, and each driver and its instrument are at the
address given. -/
theorem first_power_up (haccepts : ∀ i addr, ¬ Driver.Illegal addr → fleet.accepts i (assignment addr) = true)
    (hlegal : ∀ i, ¬ Driver.Illegal (addresses i)) {faults : Fin n → Fault n}
    (hfaults : ∀ k, (faults k).Connects k) (garbage : Fin n → List U8) :
    ∃ replies sys', Machine.run fleet.step (assignAddresses F addresses garbage faults) (.fresh fun _ => 1)
        = some (replies, sys')
      ∧ (sys'.Separate ↔ Function.Injective addresses ∧ LeavesFactory addresses)
      ∧ (LeavesFactory addresses → (∀ reply ∈ replies, reply.error = .none) ∧ sys' = .fresh addresses) := by
  obtain ⟨replies, sys', hrun, hsys, hreplies⟩ :=
    assign_take (F := F) fleet haccepts hlegal hfaults garbage le_rfl
  have hall : (assignAddresses F addresses garbage faults).take n = assignAddresses F addresses garbage faults :=
    List.take_of_length_le List.length_ofFn.le
  rw [hall] at hrun
  refine ⟨replies, sys', hrun, ?_, fun hleaves => ⟨hreplies hleaves, hsys.eq_fresh hleaves⟩⟩
  -- the registers alone decide, so this half needs nothing of the replies
  rw [FleetSystem.Separate, hsys.stores]
  exact FleetSystem.separate_fresh_iff.trans injective_staged_iff

end FirstPowerUp

/-- Two instruments that are given 2 and 3 are at these addresses; where the first is given the factory address,
the second takes it along. -/
theorem first_power_up_pair :
    (∃ (replies : List (Reply ℚ)) (sys' : FleetSystem 2 2),
      Machine.run (Fleet.standard 2).step (assignAddresses ℚ ![2, 3] (fun _ => [0xFF]) Fault.connecting)
          (.fresh fun _ => 1) = some (replies, sys')
        ∧ (∀ reply ∈ replies, reply.error = .none) ∧ sys' = .fresh ![2, 3])
    ∧ ∃ (replies : List (Reply ℚ)) (sys' : FleetSystem 2 2),
      Machine.run (Fleet.standard 2).step (assignAddresses ℚ ![1, 2] (fun _ => []) Fault.connecting)
          (.fresh fun _ => 1) = some (replies, sys')
        ∧ ¬ sys'.Separate := by
  constructor
  · have hlegal : ∀ i, ¬ Driver.Illegal ((![2, 3] : Fin 2 → U8) i) := by decide
    obtain ⟨replies, sys', hrun, -, hends⟩ := first_power_up (F := ℚ) (Fleet.standard 2) (fun _ _ _ => rfl) hlegal
      Fault.connects_connecting fun _ => [0xFF]
    exact ⟨replies, sys', hrun, hends (by decide)⟩
  · have hlegal : ∀ i, ¬ Driver.Illegal ((![1, 2] : Fin 2 → U8) i) := by decide
    obtain ⟨replies, sys', hrun, hseparate, -⟩ := first_power_up (F := ℚ) (Fleet.standard 2) (fun _ _ _ => rfl) hlegal
      Fault.connects_connecting fun _ => []
    exact ⟨replies, sys', hrun, fun h => absurd (hseparate.mp h).2 (by decide)⟩

end AlicatBasis2
