import AlicatBasis2.Frames.Checksum

/-! # The CRC as a polynomial division

`Crc16` of a byte string is, bit for bit in reverse, the remainder of a division over `GF(2)`: the string's
polynomial times `X^16`, with the seed's sixteen ones ahead of it, divided by `X^16 + X^15 + X^2 + 1`. The
two bytes `AppendCrc` writes are the only ones that `CheckCrc` accepts behind the string. -/

open Polynomial

namespace AlicatBasis2.Modbus

open CyclicCode

/-- The seed is sixteen ones. -/
theorem wordPoly_seed : wordPoly (0xFFFF : U16) = ∑ i ∈ Finset.range 16, X ^ i := by
  have hones : ∀ i < 16, (0xFFFF : U16).getLsbD (16 - 1 - i) = true := by decide
  refine Finset.sum_congr rfl fun i hi => ?_
  rw [hones i (Finset.mem_range.mp hi), bit_true, C_1, one_mul]

/-- The generator of the feedback word `0xA001`. -/
theorem generator_modbus : generator (0xA001 : U16) = X ^ 16 + X ^ 15 + X ^ 2 + 1 := by
  have hword : wordPoly (0xA001 : U16) = X ^ 15 + X ^ 2 + 1 := by
    ext j
    rw [coeff_wordPoly, coeff_add, coeff_add, coeff_X_pow, coeff_X_pow, coeff_one]
    have hbits : ∀ i < 16, bit ((0xA001 : U16).getLsbD (16 - 1 - i))
        = (if i = 15 then 1 else 0) + (if i = 2 then 1 else 0) + if i = 0 then 1 else 0 := by decide
    by_cases hj : j < 16
    · rw [if_pos hj]
      exact hbits j hj
    · rw [if_neg hj, if_neg (by omega), if_neg (by omega), if_neg (by omega), add_zero, add_zero]
  rw [generator, hword, add_assoc, add_assoc, add_assoc]

/-- The checksum of a string is the remainder of its division, in the register's reading. -/
theorem wordPoly_checksum (m : List U8) :
    wordPoly (checksum m)
      = (bitsPoly (frameBits m) * X ^ 16 + (∑ i ∈ Finset.range 16, X ^ i) * X ^ (8 * m.length))
        %ₘ (X ^ 16 + X ^ 15 + X ^ 2 + 1) := by
  rw [checksum_eq_run, wordPoly_run _ _ _ (Nat.succ_pos 15), length_frameBits, wordPoly_seed,
    generator_modbus, add_comm, mul_comm (bitsPoly _), mul_comm (X ^ (8 * m.length))]

/-- **`Crc16` is polynomial division.** For every byte string `m`, the reversed word that `Crc16` returns is
the remainder of `M * X^16 + (X^15 + ... + X + 1) * X^(8n)` by `X^16 + X^15 + X^2 + 1`, where `M` is the
polynomial of its `8n` bits, first bit highest. For `m` of at least two bytes, the two bytes `AppendCrc`
writes behind it are the only two that `CheckCrc` accepts there. -/
theorem crc_is_division (m : List U8) :
    (∃ crc, crc16 m m.length = some crc
      ∧ plainPoly crc.reverse
        = (bitsPoly (frameBits m) * X ^ 16 + (∑ i ∈ Finset.range 16, X ^ i) * X ^ (8 * m.length))
          %ₘ (X ^ 16 + X ^ 15 + X ^ 2 + 1))
      ∧ (2 ≤ m.length → ∃ low high,
        (∀ x y rest, appendCrc (m ++ x :: y :: rest) m.length
          = some (m.length + 2, m ++ low :: high :: rest))
        ∧ ∀ low' high', checkCrc (m ++ [low', high']) (m.length + 2) = some true
          ↔ low' = low ∧ high' = high) := by
  constructor
  · refine ⟨checksum m, ?_, ?_⟩
    · rw [crc16_eq le_rfl, List.take_length]
    · rw [plainPoly_reverse, wordPoly_checksum]
  · intro hm
    refine ⟨lowByte (checksum m), highByte (checksum m), fun x y rest => ?_, fun low' high' => ?_⟩
    · rw [appendCrc_eq, withCrc, List.append_assoc]
      rfl
    · have hlen : (m ++ [low', high']).length = m.length + 2 := List.length_append
      rw [← hlen, checkCrc_eq le_rfl, List.take_length, Option.some.injEq, decide_eq_true_iff,
        sealed_append_pair_iff hm]

/-- The suffix of a two-byte string. -/
theorem crc_is_division_suffix :
    ∃ low high, ∀ low' high', checkCrc [1, 3, low', high'] 4 = some true
      ↔ low' = low ∧ high' = high := by
  obtain ⟨-, hsuffix⟩ := crc_is_division [1, 3]
  obtain ⟨low, high, -, hunique⟩ := hsuffix le_rfl
  exact ⟨low, high, hunique⟩

end AlicatBasis2.Modbus
