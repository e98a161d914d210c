import AlicatBasis2.CyclicCode.Limits
import AlicatBasis2.Frames.ErrorDetection

/-! # Errors `CheckCrc` does not detect

What the CRC lets through, exactly: two flipped bits at multiples of the period, bursts of seventeen bits that
are the generator, and for every way to change the rest of a frame one change of the last two bytes. -/

namespace AlicatBasis2.Modbus

open CyclicCode

/-- `CheckCrc` accepts a whole frame. -/
def Accepted (frame : List U8) : Prop := checkCrc frame frame.length = some true

instance (frame : List U8) : Decidable (Accepted frame) := inferInstanceAs (Decidable (_ = _))

/-- A frame that is changed by a mask on its body and on its two last bytes. -/
theorem corrupt_append_pair {body mask : List U8} (hlen : mask.length = body.length) (a b x y : U8) :
    corrupt (body ++ [a, b]) (mask ++ [x, y]) = corrupt body mask ++ [a ^^^ x, b ^^^ y] := by
  rw [corrupt, List.zipWith_append hlen.symm]
  rfl

/-- A byte that turns `a` into `c`. -/
theorem xor_eq_iff {a b c : U8} : a ^^^ b = c ↔ b = a ^^^ c := by
  constructor
  · rintro rfl
    rw [← BitVec.xor_assoc, BitVec.xor_self, BitVec.zero_xor]
  · rintro rfl
    rw [← BitVec.xor_assoc, BitVec.xor_self, BitVec.zero_xor]

/-- For every change of the rest of an accepted frame one change of its last two bytes is accepted. -/
theorem existsUnique_tail {frame mask : List U8} (haccept : Accepted frame)
    (hlen : mask.length + 2 = frame.length) :
    ∃! tail : U8 × U8, Accepted (corrupt frame (mask ++ [tail.1, tail.2])) := by
  obtain ⟨hfour, -⟩ := (checkCrc_eq_true_iff frame).mp haccept
  obtain ⟨body, low, high, rfl⟩ := exists_split_pair (by omega : 2 ≤ frame.length)
  have hbody : mask.length = body.length := by simpa using hlen
  have htwo : 2 ≤ (corrupt body mask).length := by
    rw [length_corrupt hbody, ← hbody]
    omega
  have hiff : ∀ x y, Accepted (corrupt (body ++ [low, high]) (mask ++ [x, y]))
      ↔ low ^^^ x = lowByte (checksum (corrupt body mask))
        ∧ high ^^^ y = highByte (checksum (corrupt body mask)) := by
    intro x y
    rw [Accepted, checkCrc_eq_true_iff, corrupt_append_pair hbody, sealed_append_pair_iff htwo]
  refine ⟨(low ^^^ lowByte (checksum (corrupt body mask)), high ^^^ highByte (checksum (corrupt body mask))),
    (hiff _ _).mpr ⟨xor_eq_iff.mpr rfl, xor_eq_iff.mpr rfl⟩, ?_⟩
  rintro ⟨x, y⟩ h
  obtain ⟨hx, hy⟩ := (hiff x y).mp h
  exact Prod.ext (xor_eq_iff.mp hx) (xor_eq_iff.mp hy)

/-- **What the CRC lets through.** Against an accepted frame of any length, two flipped bits are accepted exactly when
their distance is a multiple of 32767; a nonzero mask confined to seventeen consecutive bits is accepted exactly
when it is `X^16 + X^15 + X^2 + 1`; and of the 65536 changes of the last two bytes exactly one is accepted, for
every change of the others. -/
theorem undetected_errors (frame : List U8) (haccept : Accepted frame) :
    (∀ mask as bs cs, mask.length = frame.length →
      frameBits mask = as ++ true :: (bs ++ true :: cs) → true ∉ as → true ∉ bs → true ∉ cs →
      (Accepted (corrupt frame mask) ↔ 32767 ∣ bs.length + 1))
    ∧ (∀ mask i, mask.length = frame.length → ConfinedTo (frameBits mask) i 17 → true ∈ frameBits mask →
      (Accepted (corrupt frame mask)
        ↔ ((frameBits mask).drop i).take 17 = true :: lsbFirst (0xA001 : U16)))
    ∧ ∀ mask : List U8, mask.length + 2 = frame.length →
      ∃! tail : U8 × U8, Accepted (corrupt frame (mask ++ [tail.1, tail.2])) := by
  have hsealed : Sealed frame := (checkCrc_eq_true_iff frame).mp haccept
  have hdvd : ∀ mask, mask.length = frame.length →
      (Accepted (corrupt frame mask) ↔ generator (0xA001 : U16) ∣ bitsPoly (frameBits mask)) := by
    intro mask hlen
    rw [Accepted, checkCrc_eq_true_iff, sealed_corrupt_iff hlen hsealed]
  refine ⟨fun mask as bs cs hlen hbits has hbs hcs => ?_, fun mask i hlen hconf hset => ?_,
    fun mask => existsUnique_tail haccept⟩
  · rw [hdvd mask hlen, hbits, generator_dvd_double_iff (Nat.succ_pos 15) feedback_top has hbs hcs,
      generator_dvd_X_pow_add_one_iff_dvd]
  · rw [hdvd mask hlen]
    exact generator_dvd_burst_succ_iff (Nat.succ_pos 15) feedback_top hconf hset

/-- A reply with seven in its register that reads four after the burst of the generator, and is rejected after
another burst of seventeen bits. -/
theorem undetected_errors_reply :
    Accepted (corrupt [1, 3, 2, 0, 7, 0xF9, 0x86] [0, 0, 0, 0, 3, 0x40, 1])
      ∧ ¬ Accepted (corrupt [1, 3, 2, 0, 7, 0xF9, 0x86] [0, 0, 0, 0, 1, 0x20, 1]) := by
  obtain ⟨-, hburst, -⟩ := undetected_errors [1, 3, 2, 0, 7, 0xF9, 0x86] (by decide +kernel)
  exact ⟨(hburst [0, 0, 0, 0, 3, 0x40, 1] 32 rfl (by decide) (by decide)).mpr (by decide),
    fun h => absurd ((hburst [0, 0, 0, 0, 1, 0x20, 1] 32 rfl (by decide) (by decide)).mp h) (by decide)⟩

end AlicatBasis2.Modbus
