import AlicatBasis2.CyclicCode.Detection
import AlicatBasis2.CyclicCode.Period
import AlicatBasis2.Frames.Replies
import Mathlib.Tactic.NormNum.Prime

/-! # Errors `CheckCrc` detects

The feedback word `0xA001` has its top bit set, an odd number of set bits, and period 32767, so the three
detection theorems of the `CyclicCode` library apply to it: bursts of up to sixteen bits, odd numbers of
flipped bits, and two flipped bits in a frame of at most 4095 bytes. -/

namespace AlicatBasis2.Modbus

open CyclicCode

/-- A frame with the bits of a mask flipped. -/
def corrupt (frame mask : List U8) : List U8 := List.zipWith (· ^^^ ·) frame mask

/-- Flipping bits keeps the length. -/
theorem length_corrupt {frame mask : List U8} (h : mask.length = frame.length) :
    (corrupt frame mask).length = frame.length := by
  rw [corrupt, List.length_zipWith, h, min_self]

/-- The bits of an exclusive or are the exclusive or of the bits. -/
theorem lsbFirst_xor (x y : U8) : lsbFirst (x ^^^ y) = xorBits (lsbFirst x) (lsbFirst y) := by
  refine List.ext_getElem (by simp [xorBits]) fun i hi hi' => ?_
  simp [lsbFirst, xorBits]

/-- Flipping a frame by a mask flips the frame's bits by the mask's. -/
theorem frameBits_corrupt {frame mask : List U8} (h : mask.length = frame.length) :
    frameBits (corrupt frame mask) = xorBits (frameBits frame) (frameBits mask) := by
  induction frame generalizing mask with
  | nil => rfl
  | cons x frame ih =>
    match mask, h with
    | y :: mask, h =>
      have hlen : mask.length = frame.length := by simpa using h
      have hstep : corrupt (x :: frame) (y :: mask) = (x ^^^ y) :: corrupt frame mask := rfl
      have hcons : ∀ (z : U8) (zs : List U8), frameBits (z :: zs) = lsbFirst z ++ frameBits zs :=
        fun _ _ => List.flatMap_cons
      rw [hstep, hcons, hcons, hcons, ih hlen, lsbFirst_xor, xorBits, xorBits, xorBits,
        List.zipWith_append (by simp)]

/-- **Undetected masks.** Flipping a sealed frame leaves it sealed exactly when the generator of `0xA001`
divides the mask. -/
theorem sealed_corrupt_iff {frame mask : List U8} (hlen : mask.length = frame.length)
    (hsealed : Sealed frame) :
    Sealed (corrupt frame mask) ↔ generator (0xA001 : U16) ∣ bitsPoly (frameBits mask) := by
  rw [sealed_iff_run, frameBits_corrupt hlen, length_corrupt hlen, and_iff_right hsealed.1]
  apply run_xorBits_eq_zero_iff (Nat.succ_pos 15) feedback_top ((sealed_iff_run frame).mp hsealed).2
  rw [length_frameBits, length_frameBits, hlen]

/-- A burst of up to sixteen bits breaks the seal. -/
theorem not_sealed_of_burst {frame mask : List U8} (hlen : mask.length = frame.length)
    (hsealed : Sealed frame) {i : ℕ} (hconf : ConfinedTo (frameBits mask) i 16)
    (hset : true ∈ frameBits mask) : ¬ Sealed (corrupt frame mask) := by
  rw [sealed_corrupt_iff hlen hsealed]
  exact not_generator_dvd_burst (Nat.succ_pos 15) feedback_top hconf hset

/-- An odd number of flipped bits breaks the seal. -/
theorem not_sealed_of_odd {frame mask : List U8} (hlen : mask.length = frame.length)
    (hsealed : Sealed frame) (hodd : Odd (weight (frameBits mask))) :
    ¬ Sealed (corrupt frame mask) := by
  rw [sealed_corrupt_iff hlen hsealed]
  exact not_generator_dvd_odd (by decide) hodd

/-- The primes that divide 32767. -/
theorem prime_dvd_32767 {p : ℕ} (hp : p.Prime) (hdvd : p ∣ 32767) : p = 7 ∨ p = 31 ∨ p = 151 := by
  have hfactor : (32767 : ℕ) = 7 * (31 * 151) := by norm_num
  rw [hfactor, hp.dvd_mul, hp.dvd_mul, Nat.prime_dvd_prime_iff_eq hp (by norm_num),
    Nat.prime_dvd_prime_iff_eq hp (by norm_num), Nat.prime_dvd_prime_iff_eq hp (by norm_num)] at hdvd
  exact hdvd

/-- **The period of the Modbus generator** is 32767: the order of `X` modulo `X^16 + X^15 + X^2 + 1`. -/
theorem generator_dvd_X_pow_add_one_iff_dvd (d : ℕ) :
    generator (0xA001 : U16) ∣ Polynomial.X ^ d + 1 ↔ 32767 ∣ d := by
  have hdigits : ofDigits (List.replicate 15 true) = 32767 := by decide
  have hone : generator (0xA001 : U16) ∣ Polynomial.X ^ 32767 + 1 :=
    (generator_dvd_X_pow_add_one_iff _ hdigits (by decide)).mpr (by decide +kernel)
  have hnot : ∀ digits : List Bool, powX (0xA001 : U16) digits ≠ oneWord 16 →
      ∀ n, ofDigits digits = n → ¬ generator (0xA001 : U16) ∣ Polynomial.X ^ n + 1 :=
    fun digits hne n hn h => hne ((generator_dvd_X_pow_add_one_iff _ hn (by decide)).mp h)
  refine generator_dvd_iff_dvd_of_period (by norm_num) hone (fun p hp hdvd => ?_) d
  -- the binary digits of 32767 / 7, 32767 / 31 and 32767 / 151
  rcases prime_dvd_32767 hp hdvd with rfl | rfl | rfl
  · exact hnot [true, false, false, true, false, false, true, false, false, true, false, false, true]
      (by decide +kernel) _ (by decide)
  · exact hnot [true, false, false, false, false, true, false, false, false, false, true]
      (by decide +kernel) _ (by decide)
  · exact hnot [true, true, false, true, true, false, false, true] (by decide +kernel) _ (by decide)

/-- Two flipped bits break the seal of a frame of at most 4095 bytes. -/
theorem not_sealed_of_double {frame mask : List U8} (hlen : mask.length = frame.length)
    (hsealed : Sealed frame) (hshort : frame.length ≤ 4095) (htwo : weight (frameBits mask) = 2) :
    ¬ Sealed (corrupt frame mask) := by
  rw [sealed_corrupt_iff hlen hsealed]
  have hperiod : ∀ d, 0 < d → d < 32767 →
      ¬ generator (0xA001 : U16) ∣ Polynomial.X ^ d + 1 := by
    intro d hpos hlt
    rw [generator_dvd_X_pow_add_one_iff_dvd]
    exact Nat.not_dvd_of_pos_of_lt hpos hlt
  apply not_generator_dvd_double (Nat.succ_pos 15) feedback_top hperiod htwo
  rw [length_frameBits, hlen]
  omega

/-! ## The checked functions on altered frames -/

/-- `CheckCrc` on a whole frame. -/
theorem checkCrc_length_eq (frame : List U8) :
    checkCrc frame frame.length = some (decide (Sealed frame)) := by
  rw [checkCrc_eq le_rfl, List.take_length]

/-- A frame that `CheckCrc` accepts is sealed. -/
theorem checkCrc_eq_true_iff (frame : List U8) :
    checkCrc frame frame.length = some true ↔ Sealed frame := by
  rw [checkCrc_length_eq, Option.some.injEq, decide_eq_true_iff]

/-- A frame that `CheckCrc` rejects is not sealed. -/
theorem checkCrc_eq_false_iff (frame : List U8) :
    checkCrc frame frame.length = some false ↔ ¬ Sealed frame := by
  rw [checkCrc_length_eq, Option.some.injEq, decide_eq_false_iff_not]

/-- The first two tests of a parser, of the length and of the CRC, let sealed frames through. -/
theorem head_eq_some_iff {α : Type} {frame : List U8} {k : ℕ} {short badCrc result : α}
    {rest : Option α} (hshort : short ≠ result) (hbad : badCrc ≠ result) :
    (if frame.length < k then some short
      else (checkCrc frame frame.length).bind fun ok => if !ok then some badCrc else rest) = some result
      ↔ k ≤ frame.length ∧ Sealed frame ∧ rest = some result := by
  rw [checkCrc_length_eq, Option.bind_some]
  by_cases hlen : frame.length < k
  · rw [if_pos hlen, Option.some.injEq]
    exact iff_of_false hshort fun h => absurd h.1 (not_le.mpr hlen)
  · rw [if_neg hlen, and_iff_right (not_lt.mp hlen)]
    by_cases hsealed : Sealed frame
    · simp [hsealed]
    · simp [hsealed, hbad]

/-- The second test stops a frame that `CheckCrc` rejects. -/
theorem head_of_rejected {α : Type} {frame : List U8} {k : ℕ} {short badCrc : α} {rest : Option α}
    (hlen : k ≤ frame.length) (hreject : checkCrc frame frame.length = some false) :
    (if frame.length < k then some short
      else (checkCrc frame frame.length).bind fun ok => if !ok then some badCrc else rest)
      = some badCrc := by
  rw [if_neg (not_lt.mpr hlen), hreject]
  rfl

/-- `ParseReadHolding` accepts only sealed frames of at least five bytes. -/
theorem parseReadHolding_none {frame : List U8} {addr count : U8} {regs out : List U16}
    (h : parseReadHolding frame frame.length addr count regs = some (.none, out)) :
    5 ≤ frame.length ∧ Sealed frame := by
  rw [parseReadHolding] at h
  obtain ⟨hlen, hsealed, -⟩ := (head_eq_some_iff (by simp) (by simp)).mp h
  exact ⟨hlen, hsealed⟩

/-- `ParseWriteSingleEcho` accepts only sealed frames at least as long as the request. -/
theorem parseWriteSingleEcho_none {frame request : List U8} {reqLen : ℕ}
    (h : parseWriteSingleEcho frame frame.length request reqLen = some .none) :
    reqLen ≤ frame.length ∧ Sealed frame := by
  rw [parseWriteSingleEcho] at h
  obtain ⟨hlen, hsealed, -⟩ := (head_eq_some_iff (by simp) (by simp)).mp h
  exact ⟨hlen, hsealed⟩

/-- `ParseWriteMultipleEcho` accepts only sealed frames of at least eight bytes. -/
theorem parseWriteMultipleEcho_none {frame : List U8} {addr : U8} {regAddr count : U16}
    (h : parseWriteMultipleEcho frame frame.length addr regAddr count = some .none) :
    8 ≤ frame.length ∧ Sealed frame := by
  rw [parseWriteMultipleEcho] at h
  obtain ⟨hlen, hsealed, -⟩ := (head_eq_some_iff (by simp) (by simp)).mp h
  exact ⟨hlen, hsealed⟩

/-- **Burst detection.** A nonzero mask confined to sixteen consecutive bits turns an accepted frame into
a rejected one, and a reply that a parser accepts into a `BadCrc`. -/
theorem burst_detected (frame mask : List U8) (hlen : mask.length = frame.length) (i : ℕ)
    (hconf : ConfinedTo (frameBits mask) i 16) (hset : true ∈ frameBits mask) :
    (checkCrc frame frame.length = some true →
        checkCrc (corrupt frame mask) (corrupt frame mask).length = some false)
      ∧ (∀ addr count regs out,
          parseReadHolding frame frame.length addr count regs = some (.none, out) →
          parseReadHolding (corrupt frame mask) (corrupt frame mask).length addr count regs
            = some (.badCrc, regs))
      ∧ (∀ request reqLen,
          parseWriteSingleEcho frame frame.length request reqLen = some .none →
          parseWriteSingleEcho (corrupt frame mask) (corrupt frame mask).length request reqLen
            = some .badCrc)
      ∧ (∀ addr regAddr count,
          parseWriteMultipleEcho frame frame.length addr regAddr count = some .none →
          parseWriteMultipleEcho (corrupt frame mask) (corrupt frame mask).length addr regAddr count
            = some .badCrc) := by
  -- each parser tests the CRC right after the length, and the mask keeps the length
  have hreject : Sealed frame →
      checkCrc (corrupt frame mask) (corrupt frame mask).length = some false := fun hsealed =>
    (checkCrc_eq_false_iff _).mpr (not_sealed_of_burst hlen hsealed hconf hset)
  have hsame : ∀ {k}, k ≤ frame.length → k ≤ (corrupt frame mask).length := fun h =>
    (length_corrupt hlen).symm ▸ h
  refine ⟨fun h => hreject ((checkCrc_eq_true_iff frame).mp h), ?_, ?_, ?_⟩
  · intro addr count regs out h
    obtain ⟨hfive, hsealed⟩ := parseReadHolding_none h
    exact head_of_rejected (hsame hfive) (hreject hsealed)
  · intro request reqLen h
    obtain ⟨hreq, hsealed⟩ := parseWriteSingleEcho_none h
    exact head_of_rejected (hsame hreq) (hreject hsealed)
  · intro addr regAddr count h
    obtain ⟨height, hsealed⟩ := parseWriteMultipleEcho_none h
    exact head_of_rejected (hsame height) (hreject hsealed)

/-- Nine flipped bits across the payload and the CRC of a one-register reply. -/
theorem burst_detected_reply :
    parseReadHolding [1, 3, 2, 0, 0x87, 0xF6, 0x86] 7 1 1 [0] = some (.badCrc, [0]) := by
  have h := (burst_detected [1, 3, 2, 0, 7, 0xF9, 0x86] [0, 0, 0, 0, 0x80, 0x0F, 0] rfl 39
    (by decide) (by decide)).2.1 1 1 [0] [7] (by decide +kernel)
  exact h

/-- The mask between two frames of one length. -/
theorem corrupt_corrupt {frame other : List U8} (h : other.length = frame.length) :
    corrupt frame (corrupt frame other) = other := by
  refine List.ext_getElem (by simp [corrupt, h]) fun i hi hi' => ?_
  simp only [corrupt, List.getElem_zipWith]
  rw [← BitVec.xor_assoc, BitVec.xor_self, BitVec.zero_xor]

/-- A mask without set bits changes nothing. -/
theorem corrupt_of_weight_eq_zero {frame mask : List U8} (hlen : mask.length = frame.length)
    (h : weight (frameBits mask) = 0) : corrupt frame mask = frame := by
  induction frame generalizing mask with
  | nil => rfl
  | cons x frame ih =>
    match mask, hlen with
    | y :: mask, hlen =>
      have hbits : frameBits (y :: mask) = lsbFirst y ++ frameBits mask := List.flatMap_cons
      rw [hbits, weight, List.count_append, Nat.add_eq_zero_iff] at h
      have hy : y = 0 := by
        apply BitVec.eq_of_getLsbD_eq
        intro i hi
        have hmem : y.getLsbD i ∈ lsbFirst y := List.mem_map_of_mem (List.mem_range.mpr hi)
        cases hbit : y.getLsbD i with
        | false => simp
        | true => exact absurd (hbit ▸ hmem) (List.count_eq_zero.mp h.1)
      have hstep : corrupt (x :: frame) (y :: mask) = (x ^^^ y) :: corrupt frame mask := rfl
      rw [hstep, ih (by simpa using hlen) h.2, hy]
      simp

/-- **Scattered errors.** An odd number of flipped bits is rejected at any length; up to 4095 bytes two
flipped bits are rejected, and distinct accepted frames of one length differ in at least four bits. -/
theorem scattered_errors_detected (frame mask other : List U8) (hlen : mask.length = frame.length)
    (hother : other.length = frame.length)
    (haccept : checkCrc frame frame.length = some true) :
    (Odd (weight (frameBits mask)) →
        checkCrc (corrupt frame mask) (corrupt frame mask).length = some false)
      ∧ (frame.length ≤ 4095 → weight (frameBits mask) = 2 →
          checkCrc (corrupt frame mask) (corrupt frame mask).length = some false)
      ∧ (frame.length ≤ 4095 → other ≠ frame → checkCrc other other.length = some true →
          4 ≤ weight (xorBits (frameBits frame) (frameBits other))) := by
  have hsealed : Sealed frame := (checkCrc_eq_true_iff frame).mp haccept
  refine ⟨?_, ?_, ?_⟩
  · intro hodd
    exact (checkCrc_eq_false_iff _).mpr (not_sealed_of_odd hlen hsealed hodd)
  · intro hshort htwo
    exact (checkCrc_eq_false_iff _).mpr (not_sealed_of_double hlen hsealed hshort htwo)
  · intro hshort hne hok
    -- the difference of the two frames is a mask that keeps the seal
    have hdiff : (corrupt frame other).length = frame.length := length_corrupt hother
    rw [checkCrc_eq_true_iff] at hok
    rw [← frameBits_corrupt hother]
    have hzero : weight (frameBits (corrupt frame other)) ≠ 0 := by
      intro h
      exact hne ((corrupt_corrupt hother).symm.trans (corrupt_of_weight_eq_zero hdiff h))
    have hodd : ¬ Odd (weight (frameBits (corrupt frame other))) := by
      intro h
      apply not_sealed_of_odd hdiff hsealed h
      rwa [corrupt_corrupt hother]
    have htwo : weight (frameBits (corrupt frame other)) ≠ 2 := by
      intro h
      apply not_sealed_of_double hdiff hsealed hshort h
      rwa [corrupt_corrupt hother]
    -- an even weight other than zero and two
    rw [Nat.not_odd_iff_even] at hodd
    obtain ⟨k, hk⟩ := hodd
    omega

/-- Three flips, two flips, and a reply that differs in eight bits. -/
theorem scattered_errors_detected_reply :
    checkCrc [0, 3, 2, 0, 7, 0xF8, 0x87] 7 = some false
      ∧ checkCrc [0, 3, 2, 0, 7, 0xF9, 0x87] 7 = some false
      ∧ 4 ≤ weight (xorBits (frameBits [1, 3, 2, 0, 7, 0xF9, 0x86])
          (frameBits [1, 3, 2, 0, 8, 0xB9, 0x82])) := by
  have hthree := (scattered_errors_detected [1, 3, 2, 0, 7, 0xF9, 0x86] [1, 0, 0, 0, 0, 1, 1]
    [1, 3, 2, 0, 8, 0xB9, 0x82] rfl rfl (by decide +kernel)).1 (by decide)
  have htwo := (scattered_errors_detected [1, 3, 2, 0, 7, 0xF9, 0x86] [1, 0, 0, 0, 0, 0, 1]
    [1, 3, 2, 0, 8, 0xB9, 0x82] rfl rfl (by decide +kernel)).2.1 (by decide) (by decide)
  have hfour := (scattered_errors_detected [1, 3, 2, 0, 7, 0xF9, 0x86] [0, 0, 0, 0, 0, 0, 0]
    [1, 3, 2, 0, 8, 0xB9, 0x82] rfl rfl (by decide +kernel)).2.2 (by decide) (by decide)
    (by decide +kernel)
  exact ⟨hthree, htwo, hfour⟩

end AlicatBasis2.Modbus
