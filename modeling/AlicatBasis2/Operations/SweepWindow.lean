import AlicatBasis2.Bus.Line
import AlicatBasis2.Transactions.Acceptance
import AlicatBasis2.Transactions.Sweep

/-! # The window of a sweep and its count

What `DiscoverPresentAddresses` does, for every window, bitmap and UART. It probes the addresses of the
window once each and marks exactly those that answer. It counts them in a byte, so that the count is their
number unless all 256 addresses are probed and answer. -/

namespace AlicatBasis2

open Modbus

namespace Driver

/-! ## The addresses of the window -/

/-- The addresses of the window in ascending order. -/
theorem map_toNat_window (firstAddr lastAddr : U8) :
    (window firstAddr lastAddr).map BitVec.toNat
      = List.range' firstAddr.toNat (lastAddr.toNat + 1 - firstAddr.toNat) := by
  have hlast := lastAddr.isLt
  rw [window, List.map_map]
  refine (List.map_congr_left fun i hi => ?_).trans (List.map_id _)
  rw [List.mem_range'_1] at hi
  rw [Function.comp_apply, BitVec.toNat_ofNat, Nat.mod_eq_of_lt (by omega), id_eq]

/-- The window has `last + 1 - first` addresses. -/
@[simp] theorem length_window (firstAddr lastAddr : U8) :
    (window firstAddr lastAddr).length = lastAddr.toNat + 1 - firstAddr.toNat := by
  rw [window, List.length_map, List.length_range']

/-- Only the whole address space has 256 addresses. -/
theorem length_window_eq_iff (firstAddr lastAddr : U8) :
    (window firstAddr lastAddr).length = 256 ↔ firstAddr = 0 ∧ lastAddr = 255 := by
  have hlast := lastAddr.isLt
  rw [length_window]
  constructor
  · intro h
    exact ⟨BitVec.eq_of_toNat_eq (show firstAddr.toNat = 0 by omega),
      BitVec.eq_of_toNat_eq (show lastAddr.toNat = 255 by omega)⟩
  · rintro ⟨rfl, rfl⟩
    rfl

/-! ## Answers -/

/-- The bytes a probe brought are a well-formed reply of the probed address: one register and the CRC. -/
def ProbeAnswered (p : U8 × List U8) : Prop :=
  ∃ word, p.2 = withCrc [p.1, 3, 2, highByte word, lowByte word]

/-- A reply to the read of a probe carries one word. -/
theorem isReply_probeOp_iff (p : U8 × List U8) : probeOp.IsReply p.1 p.2 ↔ ProbeAnswered p := by
  constructor
  · rintro ⟨words, hlen, hbytes⟩
    obtain ⟨word, rfl⟩ := List.length_eq_one_iff.mp hlen
    exact ⟨word, hbytes⟩
  · rintro ⟨word, hbytes⟩
    exact ⟨[word], rfl, hbytes⟩

/-- A probe succeeds exactly on an answer. -/
theorem outcome_eq_none_iff_probeAnswered {p : U8 × List U8} (hshort : p.2.length ≤ 7) :
    probeOp.outcome p.1 p.2 = .none ↔ ProbeAnswered p :=
  (RawOp.outcome_eq_none_iff probeOp_inRange hshort).trans (isReply_probeOp_iff p)

/-! ## The whole sweep -/

section Swept

variable {σ : Type} (uart : Uart σ)

/-- What a run of probes brought: for each address, what a probe of that address was delivered. -/
theorem probes_delivered {as : List U8} {gots : List (List U8)} {s s' : Session σ}
    (h : Machine.run (probeStep uart) as s = some (gots, s')) :
    ∀ p ∈ as.zip gots, ∃ t : Session σ, p.2 = probeOp.delivered uart (t.setAddress p.1) := by
  induction as generalizing gots s with
  | nil => exact fun p hp => absurd hp List.not_mem_nil
  | cons a as ih =>
    obtain ⟨b, t, gots, hstep, hrun, rfl⟩ := Machine.run_cons_eq_some_iff.mp h
    cases hstep
    intro p hp
    rw [List.zip_cons_cons] at hp
    rcases List.mem_cons.mp hp with rfl | hp
    · exact ⟨s, rfl⟩
    · exact ih hrun p hp

/-- A sweep of the window with the answers `heard`, from a bitmap and a session to others. -/
structure Swept (bytes : ℕ) (timeoutMs : U16) (firstAddr lastAddr : U8) (heard : List (U8 × List U8))
    (bitmap bitmap' : List U8) (s s' : Session σ) : Prop where
  window : heard.map Prod.fst = window firstAddr lastAddr
  delivered : ∀ p ∈ heard, ∃ t : Session σ, p.2 = probeOp.delivered uart (t.setAddress p.1)
  trace : s'.trace = s.trace ++ heard.flatMap (probeEvents timeoutMs)
  marked : ∀ k < 8 * bytes, Bitmap.mem bitmap' k = true ↔ ∃ a ∈ present heard, a.toNat = k
  length : bitmap'.length = bitmap.length
  rest : bitmap'.drop bytes = bitmap.drop bytes
  driver : s'.driver = s.driver

/-- On a bitmap of at least 32 bytes the call is a sweep, and counts its answers modulo 256. -/
theorem exists_swept {bitmap : List U8} {bytes : ℕ} (hbytes : 32 ≤ bytes)
    (hroom : bytes ≤ bitmap.length) (timeoutMs : U16) (firstAddr lastAddr : U8) (s : Session σ) :
    ∃ heard bitmap' s', Swept uart bytes timeoutMs firstAddr lastAddr heard bitmap bitmap' s s'
      ∧ discoverPresentAddresses uart (some bitmap) bytes timeoutMs firstAddr lastAddr s
        = some ((.success (BitVec.ofNat 8 (present heard).length), some bitmap'), s') := by
  obtain ⟨gots, s', hrun, hcall⟩ :=
    discoverPresentAddresses_eq uart hbytes hroom timeoutMs firstAddr lastAddr s
  obtain ⟨hlen, -, -, htrace⟩ := probes_spec uart hrun
  have hcleared : (List.replicate bytes (0 : U8) ++ bitmap.drop bytes).length = bitmap.length := by
    rw [List.length_append, List.length_replicate, List.length_drop]
    omega
  refine ⟨(window firstAddr lastAddr).zip gots, _, _, ?_, hcall⟩
  exact {
    window := List.map_fst_zip hlen.ge
    delivered := probes_delivered uart hrun
    trace := htrace
    marked := fun k hk => mem_marked_iff hbytes _ _ hk
    length := (Bitmap.length_insertAll _ _).trans hcleared
    rest := by
      -- a marked address is a byte, so its bit is in the first 32 bytes
      have hks : ∀ k ∈ (present ((window firstAddr lastAddr).zip gots)).map BitVec.toNat,
          k / 8 < bytes := by
        intro k hk
        obtain ⟨a, -, rfl⟩ := List.mem_map.mp hk
        have := a.isLt
        omega
      rw [Bitmap.drop_insertAll hks, List.drop_left' List.length_replicate]
    driver := rfl }

namespace Swept

variable {uart} {bytes : ℕ} {timeoutMs : U16} {firstAddr lastAddr : U8}
  {heard : List (U8 × List U8)} {bitmap bitmap' : List U8} {s s' : Session σ}
  (h : Swept uart bytes timeoutMs firstAddr lastAddr heard bitmap bitmap' s s')

include h

/-- No probe is delivered more than it asked for. -/
theorem length_le {p : U8 × List U8} (hp : p ∈ heard) : p.2.length ≤ 7 := by
  obtain ⟨t, ht⟩ := h.delivered p hp
  rw [ht]
  exact RawOp.length_delivered_le uart probeOp _

/-- The addresses found are those that answered. -/
theorem mem_present_iff {a : U8} : a ∈ present heard ↔ ∃ p ∈ heard, p.1 = a ∧ ProbeAnswered p := by
  rw [Driver.mem_present_iff]
  constructor
  · rintro ⟨b, hb, hnone⟩
    exact ⟨(a, b), hb, rfl, (outcome_eq_none_iff_probeAnswered (p := (a, b)) (h.length_le hb)).mp hnone⟩
  · rintro ⟨⟨_, b⟩, hb, rfl, hanswered⟩
    exact ⟨b, hb, (outcome_eq_none_iff_probeAnswered (h.length_le hb)).mpr hanswered⟩

/-- No address is found twice. -/
theorem nodup_present : (present heard).Nodup := by
  have hsub := present_sublist heard
  rw [h.window] at hsub
  exact hsub.nodup (nodup_window firstAddr lastAddr)

/-- The bits set are as many as the addresses found. -/
theorem card_eq (hbytes : 32 ≤ bytes) (hroom : bytes ≤ bitmap.length) :
    Bitmap.card (bitmap'.take bytes) = (present heard).length := by
  have hlen : (bitmap'.take bytes).length = bytes := by
    rw [List.length_take, h.length, min_eq_left hroom]
  rw [← List.length_map (f := BitVec.toNat)]
  refine Bitmap.card_eq_length ?_ ?_ ?_
  · exact h.nodup_present.map fun _ _ => BitVec.eq_of_toNat_eq
  · intro k hk
    obtain ⟨a, -, rfl⟩ := List.mem_map.mp hk
    have := a.isLt
    rw [hlen]
    omega
  · intro k hk
    rw [hlen] at hk
    rw [Bitmap.mem_take bitmap' hk, h.marked k hk, List.mem_map]

/-- All 256 addresses are found exactly when all are probed and answer. -/
theorem length_present_eq_iff : (present heard).length = 256
    ↔ firstAddr = 0 ∧ lastAddr = 255 ∧ ∀ p ∈ heard, ProbeAnswered p := by
  have hheard : heard.length = (Driver.window firstAddr lastAddr).length := by
    rw [← h.window, List.length_map]
  have hall : (present heard).length = heard.length ↔ ∀ p ∈ heard, ProbeAnswered p := by
    rw [present, List.length_map, List.length_filter_eq_length_iff]
    refine forall₂_congr fun p hp => ?_
    rw [decide_eq_true_iff, outcome_eq_none_iff_probeAnswered (h.length_le hp)]
  have hle : (present heard).length ≤ heard.length := by
    rw [present, List.length_map]
    exact List.length_filter_le _ _
  have hsmall : heard.length ≤ 256 := by
    have := lastAddr.isLt
    rw [hheard, length_window]
    omega
  rw [← and_assoc, ← length_window_eq_iff, ← hheard, ← hall]
  omega

/-- The count is short of the addresses found exactly when all 256 are found. -/
theorem toNat_count_eq_iff : (BitVec.ofNat 8 (present heard).length).toNat = (present heard).length
    ↔ (present heard).length ≠ 256 := by
  have hle : (present heard).length ≤ (heard.map Prod.fst).length := (present_sublist heard).length_le
  have := lastAddr.isLt
  rw [h.window, length_window] at hle
  rw [BitVec.toNat_ofNat]
  omega

end Swept

end Swept

end Driver

open Driver

/-- **The sweep covers exactly its window.** For every UART, session, window, probe timeout and bitmap: with
a null bitmap or less than 32 bytes the call changes nothing. Otherwise it returns; it makes one read of
register 25 of each address of the window, in ascending order, waiting with the probe timeout; bit `k` is set
exactly when address `k` was probed and its probe brought a well-formed reply of that address, all other bits
of the bitmap are cleared and no byte after it is touched; and the driver is as before. -/
theorem sweep_exact {σ : Type} (uart : Uart σ) (presentBitmap : Option (List U8)) (bitmapBytes : ℕ)
    (hroom : ∀ bitmap, presentBitmap = some bitmap → bitmapBytes ≤ bitmap.length)
    (probeTimeoutMs : U16) (firstAddr lastAddr : U8) (s : Session σ) :
    (presentBitmap = none ∨ bitmapBytes < 32 →
      discoverPresentAddresses uart presentBitmap bitmapBytes probeTimeoutMs firstAddr lastAddr s
        = some ((.failure .bufferTooSmall, presentBitmap), s))
      ∧ ∀ bitmap, presentBitmap = some bitmap → 32 ≤ bitmapBytes →
        ∃ (found : U8) (bitmap' : List U8) (s' : Session σ) (heard : List (U8 × List U8)),
          discoverPresentAddresses uart presentBitmap bitmapBytes probeTimeoutMs firstAddr lastAddr s
            = some ((.success found, some bitmap'), s')
          ∧ heard.map (fun p => p.1.toNat)
            = List.range' firstAddr.toNat (lastAddr.toNat + 1 - firstAddr.toNat)
          ∧ s'.trace = s.trace ++ heard.flatMap (fun p => [.flushRx,
              .write (readRequest p.1 Reg.firmwareVersion 1),
              .read 7 (probeTimeoutMs.setWidth 32) p.2])
          ∧ (∀ k < 8 * bitmapBytes, Bitmap.mem bitmap' k = true
              ↔ ∃ p ∈ heard, p.1.toNat = k
                ∧ ∃ word, p.2 = withCrc [p.1, 3, 2, highByte word, lowByte word])
          ∧ bitmap'.length = bitmap.length
          ∧ bitmap'.drop bitmapBytes = bitmap.drop bitmapBytes
          ∧ s'.driver = s.driver := by
  constructor
  · intro hinvalid
    have hguard : presentBitmap.isNone ∨ bitmapBytes < 32 := by
      rwa [Option.isNone_iff_eq_none]
    exact if_pos hguard
  · rintro bitmap rfl hbytes
    obtain ⟨heard, bitmap', s', hswept, hcall⟩ := exists_swept uart hbytes (hroom bitmap rfl)
      probeTimeoutMs firstAddr lastAddr s
    refine ⟨_, bitmap', s', heard, hcall, ?_, hswept.trace, ?_, hswept.length, hswept.rest,
      hswept.driver⟩
    · rw [← map_toNat_window, ← hswept.window, List.map_map]
      rfl
    · intro k hk
      rw [hswept.marked k hk]
      constructor
      · rintro ⟨a, ha, rfl⟩
        obtain ⟨p, hp, rfl, hanswered⟩ := hswept.mem_present_iff.mp ha
        exact ⟨p, hp, rfl, hanswered⟩
      · rintro ⟨p, hp, rfl, hanswered⟩
        exact ⟨p.1, hswept.mem_present_iff.mpr ⟨p, hp, rfl, hanswered⟩, rfl⟩

/-- A line on which every probe brings a reply of address 6, swept from 5 to 7 without a bitmap and with one
that has a byte to spare. -/
theorem sweep_exact_reply_of_six :
    (discoverPresentAddresses (Uart.constant (readReply 6 [7])) none 32 50 5 7
        (constructDefault () 1)
      = some ((.failure .bufferTooSmall, none), constructDefault () 1))
    ∧ ∃ (found : U8) (bitmap' : List U8) (s' : Session Unit),
      discoverPresentAddresses (Uart.constant (readReply 6 [7])) (some (List.replicate 33 0xFF)) 32 50
          5 7 (constructDefault () 1) = some ((.success found, some bitmap'), s')
      ∧ bitmap'.drop 32 = [0xFF] ∧ s'.driver = (constructDefault () 1).driver := by
  refine ⟨?_, ?_⟩
  · exact (sweep_exact (Uart.constant (readReply 6 [7])) none 32 (fun _ h => nomatch h) 50 5 7
      (constructDefault () 1)).1 (.inl rfl)
  · have hroom : ∀ bitmap, some (List.replicate 33 (0xFF : U8)) = some bitmap → 32 ≤ bitmap.length := by
      rintro _ ⟨rfl⟩
      decide
    obtain ⟨-, hsweep⟩ := sweep_exact (Uart.constant (readReply 6 [7]))
      (some (List.replicate 33 0xFF)) 32 hroom 50 5 7 (constructDefault () 1)
    obtain ⟨found, bitmap', s', heard, hcall, -, -, -, -, hrest, hdriver⟩ :=
      hsweep _ rfl (le_refl 32)
    exact ⟨found, bitmap', s', hcall, hrest, hdriver⟩

/-- **The count of a sweep.** For every UART, session, window, probe timeout and bitmap of at least 32 bytes,
the call returns a count that is the number of the bits set in the bitmap, exactly when it is not the case
that all 256 addresses are probed and every probe is answered with a well-formed reply. -/
theorem sweep_count_iff {σ : Type} (uart : Uart σ) {bitmap : List U8} {bitmapBytes : ℕ}
    (hbytes : 32 ≤ bitmapBytes) (hroom : bitmapBytes ≤ bitmap.length) (probeTimeoutMs : U16)
    (firstAddr lastAddr : U8) (s : Session σ) :
    ∃ (found : U8) (bitmap' : List U8) (s' : Session σ) (heard : List (U8 × List U8)),
      discoverPresentAddresses uart (some bitmap) bitmapBytes probeTimeoutMs firstAddr lastAddr s
        = some ((.success found, some bitmap'), s')
      ∧ heard.map Prod.fst = window firstAddr lastAddr
      ∧ s'.trace = s.trace ++ heard.flatMap (probeEvents probeTimeoutMs)
      ∧ (found.toNat = Bitmap.card (bitmap'.take bitmapBytes)
        ↔ ¬ (firstAddr = 0 ∧ lastAddr = 255 ∧ ∀ p ∈ heard, ProbeAnswered p)) := by
  obtain ⟨heard, bitmap', s', hswept, hcall⟩ :=
    exists_swept uart hbytes hroom probeTimeoutMs firstAddr lastAddr s
  refine ⟨_, bitmap', s', heard, hcall, hswept.window, hswept.trace, ?_⟩
  rw [hswept.card_eq hbytes hroom, hswept.toNat_count_eq_iff, ← hswept.length_present_eq_iff]

/-- A line on which every probe brings a reply of address 6, swept from 5 to 7: one of the three answers, one bit
is set and the count is one. -/
theorem sweep_count_iff_reply_of_six :
    ∃ (bitmap' : List U8) (s' : Session Unit),
      discoverPresentAddresses (Uart.constant (readReply 6 [7])) (some (List.replicate 32 0xFF)) 32 50 5 7
        (constructDefault () 1) = some ((.success 1, some bitmap'), s')
      ∧ Bitmap.card (bitmap'.take 32) = 1 := by
  have hroom : 32 ≤ (List.replicate 32 (0xFF : U8)).length := by decide
  obtain ⟨found, bitmap', s', heard, hcall, -, -, hiff⟩ := sweep_count_iff (Uart.constant (readReply 6 [7]))
    (le_refl 32) hroom 50 5 7 (constructDefault () 1)
  have hfound : (discoverPresentAddresses (Uart.constant (readReply 6 [7])) (some (List.replicate 32 0xFF)) 32
      50 5 7 (constructDefault () 1)).map (fun r => r.1.1.value) = some 1 := by decide +kernel
  rw [hcall] at hfound
  obtain rfl : found = 1 := Option.some.inj hfound
  exact ⟨bitmap', s', hcall, (hiff.mpr fun h => absurd h.1 (by decide)).symm⟩

/-- A line where whoever is asked answers with a register of 0. -/
def everyoneUart : Uart (Line Unit) :=
  Uart.line fun frame parties => (parties, readReply (frame.headD 0) [0])

/-- A sweep of all 256 addresses on it sets 256 bits and reports a count of 0. -/
theorem sweep_count_of_everyone :
    ∃ (bitmap' : List U8) (s' : Session (Line Unit)),
      discoverPresentAddresses everyoneUart (some (List.replicate 32 0)) 32 30 0 255
        (constructDefault ⟨(), []⟩ 1) = some ((.success 0, some bitmap'), s')
      ∧ Bitmap.card (bitmap'.take 32) = 256 := by
  have hroom : 32 ≤ (List.replicate 32 (0 : U8)).length := by decide
  obtain ⟨heard, bitmap', s', hswept, hcall⟩ := exists_swept everyoneUart (le_refl 32) hroom 30 0 255
    (constructDefault ⟨(), []⟩ 1)
  have hanswered : ∀ p ∈ heard, ProbeAnswered p := by
    intro p hp
    obtain ⟨t, ht⟩ := hswept.delivered p hp
    exact ⟨0, ht.trans rfl⟩
  have hfound : (present heard).length = 256 :=
    hswept.length_present_eq_iff.mpr ⟨rfl, rfl, hanswered⟩
  refine ⟨bitmap', s', ?_, ?_⟩
  · rw [hcall, hfound]
    rfl
  · rw [hswept.card_eq (le_refl 32) hroom, hfound]

end AlicatBasis2
