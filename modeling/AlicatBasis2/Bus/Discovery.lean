import AlicatBasis2.Bus.LateBus
import AlicatBasis2.Transactions.Sweep

/-! # Discovery under late replies

A sweep over a bus whose slaves answer late. A reply that spills into the probe of another address is
refused by the address check of the parser, whatever it answers, so the addresses found are addresses of
slaves; each address is probed once, so no slave is counted twice; and a slave whose reply comes during its
own probe is found. -/

namespace AlicatBasis2

open Modbus Driver

namespace Installation

variable {n : ℕ} (inst : Installation n)

/-- The answers a probe can receive are answers to requests of the drivers. -/
theorem made_of_mem_pending {op : RawOp} (hop : op.Transmits) (addr : U8) {bus : LateBus n}
    (hmade : ∀ a ∈ bus.outstanding, a.request.Made) :
    ∀ a ∈ bus.pending inst (op.request addr), a.request.Made := by
  intro a ha
  rcases List.mem_append.mp ha with hold | hnew
  · exact hmade a hold
  · split_ifs at hnew
    · exact ⟨op, hop, (inst.of_mem_answers (RawOp.decode_request hop addr) hnew).2⟩
    · exact absurd hnew List.not_mem_nil

/-- A probe that succeeds has been answered by a slave at its address. -/
theorem exists_slave_of_probe {addr : U8} {s : Session (Line (LateBus n))}
    (hmade : ∀ a ∈ s.bus.parties.outstanding, a.request.Made)
    (hnone : probeOp.outcome addr (probeOp.delivered inst.lateUart (s.setAddress addr)) = .none) :
    ∃ i, inst.address i = addr := by
  have hreply := (RawOp.outcome_eq_none_iff probeOp_inRange
    (RawOp.length_delivered_le inst.lateUart probeOp (s.setAddress addr))).mp hnone
  obtain ⟨a, -, hslave, -⟩ := inst.exists_answer_of_isReply probeOp_inRange
    (inst.made_of_mem_pending probeOp_inRange.transmits addr hmade)
    (RawOp.delivered_line _ probeOp (s.setAddress addr)) hreply
  exact ⟨a.slave, hslave⟩

/-- **No probe of a sweep is answered by an absent slave.** -/
theorem exists_slave_of_probes {as : List U8} {gots : List (List U8)} {s s' : Session (Line (LateBus n))}
    (h : Machine.run (probeStep inst.lateUart) as s = some (gots, s'))
    (hmade : ∀ a ∈ s.bus.parties.outstanding, a.request.Made) :
    ∀ a ∈ present (as.zip gots), ∃ i, inst.address i = a := by
  induction as generalizing gots s with
  | nil =>
    cases h
    exact fun a ha => absurd ha List.not_mem_nil
  | cons addr as ih =>
    obtain ⟨b, t, gots, hstep, hrun, rfl⟩ := Machine.run_cons_eq_some_iff.mp h
    cases hstep
    -- what this probe leaves outstanding could arrive in it
    have hleft : ∀ a ∈ (probeOp.finished inst.lateUart (s.setAddress addr)).bus.parties.outstanding,
        a.request.Made := fun a ha =>
      inst.made_of_mem_pending probeOp_inRange.transmits addr hmade a (Pool.mem_of_mem_left ha)
    intro a ha
    -- either this probe succeeded, or the address is found later in the sweep
    rw [List.zip_cons_cons, present_cons] at ha
    split_ifs at ha with hnone
    · rcases List.mem_cons.mp ha with rfl | ha
      · exact inst.exists_slave_of_probe hmade hnone
      · exact ih hrun hleft a ha
    · exact ih hrun hleft a ha

/-- Distinct addresses of slaves are no more than the slaves. -/
theorem length_le_of_addresses {as : List U8} (hnodup : as.Nodup)
    (has : ∀ a ∈ as, ∃ i, inst.address i = a) : as.length ≤ n := by
  have hsub : as ⊆ (List.finRange n).map inst.address := by
    intro a ha
    obtain ⟨i, rfl⟩ := has a ha
    exact List.mem_map_of_mem (List.mem_finRange i)
  calc as.length ≤ ((List.finRange n).map inst.address).length := (hnodup.subperm hsub).length_le
    _ = n := by rw [List.length_map, List.length_finRange]

/-- The answer of a slave to its own probe is a well-formed reply. -/
theorem isReply_bytes (i : Fin n) (regs : Registers) :
    probeOp.IsReply (inst.address i) (inst.bytes ⟨i, probeOp.toRequest, regs⟩) := by
  have hfits : probeOp.toRequest.Fits := by decide
  rw [bytes, Request.answer, if_pos hfits]
  exact RawOp.isReply_reply probeOp_inRange.transmits _ regs

end Installation

/-- **No ghosts under late replies.** For every bus of slaves at distinct addresses, every course of the
transactions and whatever replies are still outstanding, `DiscoverPresentAddresses` on a bitmap of at least
32 bytes returns; it makes one probe for each address of the window, marks only addresses of slaves, counts
no more than there are, and marks every slave of the window whose own answer is what its probe received. -/
theorem discovery_no_ghosts {n : ℕ} (inst : Installation n) {bitmap : List U8} {bitmapBytes : ℕ}
    (hbytes : 32 ≤ bitmapBytes) (hroom : bitmapBytes ≤ bitmap.length) (probeTimeoutMs : U16)
    (firstAddr lastAddr : U8) (s : Session (Line (LateBus n)))
    (hmade : ∀ a ∈ s.bus.parties.outstanding, a.request.Made) :
    ∃ (found : U8) (bitmap' : List U8) (s' : Session (Line (LateBus n))) (heard : List (U8 × List U8)),
      discoverPresentAddresses inst.lateUart (some bitmap) bitmapBytes probeTimeoutMs firstAddr
          lastAddr s = some ((.success found, some bitmap'), s')
      ∧ heard.map Prod.fst = window firstAddr lastAddr
      ∧ s'.trace = s.trace ++ heard.flatMap (probeEvents probeTimeoutMs)
      ∧ (∀ k < 8 * bitmapBytes, Bitmap.mem bitmap' k = true → ∃ i, (inst.address i).toNat = k)
      ∧ found.toNat ≤ n
      ∧ ∀ i b regs, (inst.address i, b) ∈ heard →
        b = inst.bytes ⟨i, .read Reg.firmwareVersion 1, regs⟩ →
        Bitmap.mem bitmap' (inst.address i).toNat = true := by
  obtain ⟨gots, s', hrun, hdiscover⟩ := discoverPresentAddresses_eq inst.lateUart hbytes hroom
    probeTimeoutMs firstAddr lastAddr s
  obtain ⟨hlen, -, -, htrace⟩ := probes_spec inst.lateUart hrun
  have hslaves := inst.exists_slave_of_probes hrun hmade
  have hheard : ((window firstAddr lastAddr).zip gots).map Prod.fst = window firstAddr lastAddr :=
    List.map_fst_zip hlen.ge
  refine ⟨_, _, _, (window firstAddr lastAddr).zip gots, hdiscover, hheard, htrace, ?_, ?_, ?_⟩
  · intro k hk hmem
    obtain ⟨a, ha, rfl⟩ := (mem_marked_iff hbytes _ _ hk).mp hmem
    obtain ⟨i, rfl⟩ := hslaves a ha
    exact ⟨i, rfl⟩
  · have hsub := present_sublist ((window firstAddr lastAddr).zip gots)
    rw [hheard] at hsub
    have hnodup := hsub.nodup (nodup_window firstAddr lastAddr)
    rw [BitVec.toNat_ofNat]
    exact (Nat.mod_le _ _).trans (inst.length_le_of_addresses hnodup hslaves)
  · rintro i b regs hb rfl
    have hsmall := (inst.address i).isLt
    have hreply := inst.isReply_bytes i regs
    refine (mem_marked_iff hbytes _ _ (by omega)).mpr ⟨inst.address i, ?_, rfl⟩
    exact mem_present_iff.mpr
      ⟨_, hb, (RawOp.outcome_eq_none_iff probeOp_inRange hreply.length_eq.le).mpr hreply⟩

/-- One slave at address 5, whose reply spills into the probe of address 6. -/
theorem discovery_no_ghosts_spill :
    ∃ (found : U8) (bitmap' : List U8) (s' : Session (Line (LateBus 1))),
      discoverPresentAddresses (Installation.single 5 2).lateUart
          (some (List.replicate 32 0xFF)) 32 50 4 6
          ⟨⟨1, 200⟩, ⟨⟨![fun _ => 7], [], [⟨true, []⟩, ⟨true, []⟩, ⟨true, [0]⟩]⟩, []⟩, []⟩
        = some ((.success found, some bitmap'), s')
      ∧ (∀ k < 256, Bitmap.mem bitmap' k = true → k = 5)
      ∧ found.toNat ≤ 1 := by
  obtain ⟨found, bitmap', s', -, hdiscover, -, -, hmarked, hfound, -⟩ :=
    discovery_no_ghosts (Installation.single 5 2) (le_refl 32)
      (List.length_replicate.ge : 32 ≤ (List.replicate 32 (0xFF : U8)).length) 50 4 6
      ⟨⟨1, 200⟩, ⟨⟨![fun _ => 7], [], [⟨true, []⟩, ⟨true, []⟩, ⟨true, [0]⟩]⟩, []⟩, []⟩
      (fun a ha => absurd ha List.not_mem_nil)
  refine ⟨found, bitmap', s', hdiscover, fun k hk hmem => ?_, hfound⟩
  obtain ⟨i, rfl⟩ := hmarked k hk hmem
  rfl

end AlicatBasis2
