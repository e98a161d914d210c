import AlicatBasis2.Data.Bitmap
import AlicatBasis2.Machine.Run
import AlicatBasis2.Transactions.RawOp

/-! # The discovery sweep

`DiscoverPresentAddresses` is a run of one read of register 25 for each address of its window, in ascending
order. What it reports is a function of the bytes the run brought: the addresses whose probe brought a
well-formed reply are set in the bitmap and counted, the count modulo 256. -/

namespace AlicatBasis2.Driver

open Modbus

/-- The read a probe makes. -/
def probeOp : RawOp := .read Reg.firmwareVersion (List.replicate 1 0) 1

/-- The addresses `firstAddr..lastAddr`. -/
def window (firstAddr lastAddr : U8) : List U8 :=
  (List.range' firstAddr.toNat (lastAddr.toNat + 1 - firstAddr.toNat)).map (BitVec.ofNat 8)

/-- No address is probed twice. -/
theorem nodup_window (firstAddr lastAddr : U8) : (window firstAddr lastAddr).Nodup := by
  refine List.Nodup.map_on ?_ List.nodup_range'
  intro i hi j hj h
  have hlast := lastAddr.isLt
  rw [List.mem_range'_1] at hi hj
  have hnat := congrArg BitVec.toNat h
  rwa [BitVec.toNat_ofNat, BitVec.toNat_ofNat, Nat.mod_eq_of_lt (by omega),
    Nat.mod_eq_of_lt (by omega)] at hnat

/-- The addresses whose probe brought a well-formed reply, given what each probe brought. -/
def present (heard : List (U8 × List U8)) : List U8 :=
  (heard.filter fun p => probeOp.outcome p.1 p.2 = .none).map Prod.fst

/-- Nobody was heard, nobody is present. -/
@[simp] theorem present_nil : present [] = [] := rfl

/-- A probe adds its own address or nothing. -/
theorem present_cons (a : U8) (b : List U8) (heard : List (U8 × List U8)) :
    present ((a, b) :: heard)
      = if probeOp.outcome a b = .none then a :: present heard else present heard := by
  unfold present
  rw [List.filter_cons]
  by_cases hnone : probeOp.outcome a b = .none
  · rw [if_pos (decide_eq_true hnone), if_pos hnone, List.map_cons]
  · rw [if_neg (by rwa [decide_eq_true_iff]), if_neg hnone]

/-- `a` is present when its probe brought a reply that is accepted. -/
theorem mem_present_iff {heard : List (U8 × List U8)} {a : U8} :
    a ∈ present heard ↔ ∃ b, (a, b) ∈ heard ∧ probeOp.outcome a b = .none := by
  simp [present]

/-- The addresses that answered are among those probed, in the order of the probes. -/
theorem present_sublist (heard : List (U8 × List U8)) :
    (present heard).Sublist (heard.map Prod.fst) := List.filter_sublist.map _

/-- The read of a probe fits the receive buffer. -/
theorem probeOp_inRange : probeOp.InRange := by decide

/-! ## One probe -/

section Probe

variable {σ : Type} (uart : Uart σ)

/-- One probe: the bytes it brings and the session after it. -/
def probeStep : Machine.Step (Session σ) U8 (List U8) := fun a s =>
  some (probeOp.delivered uart (s.setAddress a), probeOp.finished uart (s.setAddress a))

/-- The UART calls of one probe. -/
def probeEvents (timeoutMs : U16) (p : U8 × List U8) : List UartEvent :=
  [.flushRx, .write (readRequest p.1 Reg.firmwareVersion 1),
    .read 7 (timeoutMs.setWidth 32) p.2]

/-- Setting the bit of an address that has a byte. -/
theorem markPresent_eq {bitmap : List U8} {a : U16} (h : a.toNat / 8 < bitmap.length) :
    markPresent bitmap a = some (Bitmap.insert bitmap a.toNat) := by
  have hbit : ((1 : U32) <<< (a.toNat % 8)).setWidth 8 = BitVec.twoPow 8 (a.toNat % 8) := by
    have hall : ∀ i < 8, ((1 : U32) <<< i).setWidth 8 = BitVec.twoPow 8 i := by decide
    exact hall _ (Nat.mod_lt _ (by decide))
  have hget : bitmap[a.toNat / 8]? = some (bitmap.getD (a.toNat / 8) 0) := by
    rw [List.getD_eq_getElem?_getD, List.getElem?_eq_getElem h, Option.getD_some]
  rw [markPresent, hget]
  simp only [Option.bind_eq_bind, Option.bind_some]
  rw [store, if_pos h, hbit, Bitmap.insert]

/-- A probe reads register 25 of its address and marks it on success. -/
theorem probe_eq {a : U16} (ha : a.toNat < 256) (found : U8) {bitmap : List U8}
    (hroom : 32 ≤ bitmap.length) (s : Session σ) :
    probe uart a found bitmap s
      = some (if probeOp.outcome (a.setWidth 8)
            (probeOp.delivered uart (s.setAddress (a.setWidth 8))) = .none
          then (found + 1, Bitmap.insert bitmap a.toNat) else (found, bitmap),
        probeOp.finished uart (s.setAddress (a.setWidth 8))) := by
  obtain ⟨hpos, hle, hout⟩ := probeOp_inRange
  have hread := readHoldingRegisters_eq uart (s := s.setAddress (a.setWidth 8))
    Reg.firmwareVersion hpos hle hout rfl
  rw [probe, hread]
  simp only [Option.bind_eq_bind, Option.bind_some, Option.pure_def]
  by_cases hnone : probeOp.outcome (a.setWidth 8)
      (probeOp.delivered uart (s.setAddress (a.setWidth 8))) = .none
  · rw [if_pos hnone]
    refine (if_pos hnone).trans ?_
    rw [markPresent_eq (by omega), Option.bind_some]
    rfl
  · rw [if_neg hnone]
    exact if_neg hnone

/-! ## The loop -/

/-- The sweep stops beyond its last address. -/
theorem sweep_of_lt {lastAddr : U8} {a : U16} (h : lastAddr.toNat < a.toNat) (found : U8)
    (bitmap : List U8) (s : Session σ) :
    sweep uart lastAddr a found bitmap s = some ((found, bitmap), s) := by
  unfold sweep
  exact if_neg fun hle => absurd ((counter_le_iff a lastAddr).mp hle) (not_le.mpr h)

/-- Up to its last address the sweep probes and goes on. -/
theorem sweep_of_le {lastAddr : U8} {a : U16} (h : a.toNat ≤ lastAddr.toNat) (found : U8)
    {bitmap : List U8} (hroom : 32 ≤ bitmap.length) (s : Session σ) :
    sweep uart lastAddr a found bitmap s
      = if probeOp.outcome (a.setWidth 8)
            (probeOp.delivered uart (s.setAddress (a.setWidth 8))) = .none
        then sweep uart lastAddr (a + 1) (found + 1) (Bitmap.insert bitmap a.toNat)
          (probeOp.finished uart (s.setAddress (a.setWidth 8)))
        else sweep uart lastAddr (a + 1) found bitmap
          (probeOp.finished uart (s.setAddress (a.setWidth 8))) := by
  have hlt : a.toNat < 256 := lt_of_le_of_lt h lastAddr.isLt
  rw [sweep, if_pos ((counter_le_iff a lastAddr).mpr h), probe_eq uart hlt found hroom]
  simp only [Option.bind_eq_bind, Option.bind_some]
  split_ifs <;> rfl

/-- **The sweep is a run of probes**, and its count and bitmap are those of the replies it brought. -/
theorem sweep_eq {lastAddr : U8} {a : U16} {k : ℕ} (hk : lastAddr.toNat + 1 - a.toNat = k)
    (found : U8) {bitmap : List U8} (hroom : 32 ≤ bitmap.length) (s : Session σ) :
    ∃ gots s', Machine.run (probeStep uart) ((List.range' a.toNat k).map (BitVec.ofNat 8)) s
        = some (gots, s')
      ∧ sweep uart lastAddr a found bitmap s
        = some ((found + BitVec.ofNat 8 (present
              (((List.range' a.toNat k).map (BitVec.ofNat 8)).zip gots)).length,
            Bitmap.insertAll bitmap ((present
              (((List.range' a.toNat k).map (BitVec.ofNat 8)).zip gots)).map BitVec.toNat)), s') := by
  induction k generalizing a found bitmap s with
  | zero =>
    refine ⟨[], s, rfl, ?_⟩
    rw [sweep_of_lt uart (by omega)]
    simp
  | succ k ih =>
    have hle : a.toNat ≤ lastAddr.toNat := by omega
    have hnext : (a + 1).toNat = a.toNat + 1 := toNat_counter_succ hle
    have hlt : a.toNat < 256 := lt_of_le_of_lt hle lastAddr.isLt
    have haddr : BitVec.ofNat 8 a.toNat = a.setWidth 8 := rfl
    have hnat : (a.setWidth 8).toNat = a.toNat := by
      rw [BitVec.toNat_setWidth, Nat.mod_eq_of_lt hlt]
    -- one probe, then the sweep of the rest with the count and the bitmap it leaves
    rw [sweep_of_le uart hle found hroom s, List.range'_succ, List.map_cons, haddr]
    by_cases hnone : probeOp.outcome (a.setWidth 8)
        (probeOp.delivered uart (s.setAddress (a.setWidth 8))) = .none
    · have hroom' : 32 ≤ (Bitmap.insert bitmap a.toNat).length := by rwa [Bitmap.length_insert]
      obtain ⟨gots, s', hrun, hsweep⟩ := ih (a := a + 1) (by omega) (found + 1) hroom'
        (probeOp.finished uart (s.setAddress (a.setWidth 8)))
      rw [hnext] at hrun hsweep
      refine ⟨_ :: gots, s', Machine.run_cons_eq_some_iff.mpr ⟨_, _, gots, rfl, hrun, rfl⟩, ?_⟩
      rw [if_pos hnone, hsweep, List.zip_cons_cons, present_cons, if_pos hnone, List.map_cons,
        Bitmap.insertAll_cons, hnat, List.length_cons]
      congr 3
      rw [BitVec.add_assoc]
      congr 1
      exact BitVec.eq_of_toNat_eq (by simp [Nat.add_comm])
    · obtain ⟨gots, s', hrun, hsweep⟩ := ih (a := a + 1) (by omega) found hroom
        (probeOp.finished uart (s.setAddress (a.setWidth 8)))
      rw [hnext] at hrun hsweep
      refine ⟨_ :: gots, s', Machine.run_cons_eq_some_iff.mpr ⟨_, _, gots, rfl, hrun, rfl⟩, ?_⟩
      rw [if_neg hnone, hsweep, List.zip_cons_cons, present_cons, if_neg hnone]

/-- What a run of probes does: one answer for each address, no longer than asked for, the timeout kept, and
the UART calls of the probes in order. -/
theorem probes_spec {as : List U8} {gots : List (List U8)} {s s' : Session σ}
    (h : Machine.run (probeStep uart) as s = some (gots, s')) :
    gots.length = as.length ∧ (∀ b ∈ gots, b.length ≤ 7)
      ∧ s'.driver.timeoutMs = s.driver.timeoutMs
      ∧ s'.trace = s.trace ++ (as.zip gots).flatMap (probeEvents s.driver.timeoutMs) := by
  induction as generalizing gots s with
  | nil =>
    cases h
    exact ⟨rfl, fun b hb => absurd hb List.not_mem_nil, rfl, (List.append_nil _).symm⟩
  | cons a as ih =>
    obtain ⟨b, t, gots, hstep, hrun, rfl⟩ := Machine.run_cons_eq_some_iff.mp h
    cases hstep
    obtain ⟨hlen, hshort, htimeout, htrace⟩ := ih hrun
    refine ⟨by rw [List.length_cons, List.length_cons, hlen], ?_, htimeout, ?_⟩
    · intro c hc
      rcases List.mem_cons.mp hc with rfl | hc
      · exact RawOp.length_delivered_le uart probeOp _
      · exact hshort c hc
    · rw [htrace, RawOp.finished_trace, List.zip_cons_cons, List.flatMap_cons, List.append_assoc]
      rfl

end Probe

/-! ## The whole call -/

/-- The bits of the first `bytes` bytes after the sweep are those of the addresses that answered. -/
theorem mem_marked_iff {bytes : ℕ} (hbytes : 32 ≤ bytes) (rest : List U8)
    (heard : List (U8 × List U8)) {k : ℕ} (hk : k < 8 * bytes) :
    Bitmap.mem (Bitmap.insertAll (List.replicate bytes 0 ++ rest)
        ((present heard).map BitVec.toNat)) k = true
      ↔ ∃ a ∈ present heard, a.toNat = k := by
  -- an address is a byte, so its bit lies in the first 32 bytes
  have hks : ∀ k ∈ (present heard).map BitVec.toNat,
      k / 8 < (List.replicate bytes (0 : U8) ++ rest).length := by
    intro k hk
    obtain ⟨a, -, rfl⟩ := List.mem_map.mp hk
    have := a.isLt
    rw [List.length_append, List.length_replicate]
    omega
  rw [Bitmap.mem_insertAll (by decide) hks, Bitmap.mem_replicate_append _ _ hk, Bool.or_false,
    decide_eq_true_iff, List.mem_map]

/-- **`DiscoverPresentAddresses`** with a bitmap of at least 32 bytes: a run of probes over the window, the
addresses that answered counted and marked in the cleared bitmap, and the driver as it was. -/
theorem discoverPresentAddresses_eq {σ : Type} (uart : Uart σ) {bitmap : List U8}
    {bitmapBytes : ℕ} (hbytes : 32 ≤ bitmapBytes) (hroom : bitmapBytes ≤ bitmap.length)
    (probeTimeoutMs : U16) (firstAddr lastAddr : U8) (s : Session σ) :
    ∃ gots s', Machine.run (probeStep uart) (window firstAddr lastAddr)
          (s.setTimeoutMs probeTimeoutMs) = some (gots, s')
      ∧ discoverPresentAddresses uart (some bitmap) bitmapBytes probeTimeoutMs firstAddr lastAddr s
        = some ((.success (BitVec.ofNat 8 (present ((window firstAddr lastAddr).zip gots)).length),
            some (Bitmap.insertAll (List.replicate bitmapBytes 0 ++ bitmap.drop bitmapBytes)
              ((present ((window firstAddr lastAddr).zip gots)).map BitVec.toNat))),
          { s' with driver := s.driver }) := by
  have hlong : 32 ≤ (List.replicate bitmapBytes (0 : U8) ++ bitmap.drop bitmapBytes).length := by
    rw [List.length_append, List.length_replicate]
    omega
  obtain ⟨gots, s', hrun, hsweep⟩ := sweep_eq uart (a := firstAddr.setWidth 16) rfl 0 hlong
    (s.setTimeoutMs probeTimeoutMs)
  have hzero : ∀ x : U8, 0 + x = x := fun x => BitVec.zero_add x
  rw [toNat_widen, hzero] at hsweep
  rw [toNat_widen] at hrun
  refine ⟨gots, s', hrun, ?_⟩
  have hvalid : ¬ ((some bitmap).isNone ∨ bitmapBytes < 32) := by
    rintro (h | h)
    · cases h
    · omega
  rw [discoverPresentAddresses, if_neg hvalid]
  simp only [Option.bind_eq_bind, Option.bind_some, Option.pure_def]
  rw [memset, if_pos hroom, Option.bind_some, hsweep, Option.bind_some]
  rfl

end AlicatBasis2.Driver
