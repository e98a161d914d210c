import AlicatBasis2.CyclicCode.ShiftRegister
import AlicatBasis2.Model.Modbus

/-! # The frame check sequence

`Crc16` is the reflected shift register of the `CyclicCode` library with feedback word `0xA001`, started
at `0xFFFF` and fed the frame in transmission order. A frame is *sealed* when it ends in the checksum of
the bytes before it; `CheckCrc` decides exactly that, and a sealed frame is one that drives the register
to zero. -/

namespace AlicatBasis2.Modbus

open CyclicCode

/-- The checksum of a whole byte string. -/
def checksum (m : List U8) : U16 := m.foldl crcByte 0xFFFF

/-- The bits of a frame in transmission order: byte by byte, least significant bit first. -/
def frameBits (b : List U8) : List Bool := b.flatMap lsbFirst

/-- The two bytes `AppendCrc` writes behind `m`. -/
def crcBytes (m : List U8) : List U8 := [lowByte (checksum m), highByte (checksum m)]

/-- A body followed by its checksum. -/
def withCrc (m : List U8) : List U8 := m ++ crcBytes m

/-- A frame of at least four bytes that ends in the checksum of its body. -/
def Sealed (b : List U8) : Prop := 4 ≤ b.length ∧ withCrc (b.take (b.length - 2)) = b

instance (b : List U8) : Decidable (Sealed b) := inferInstanceAs (Decidable (_ ∧ _))

/-- A checksum has two bytes. -/
@[simp] theorem length_crcBytes (m : List U8) : (crcBytes m).length = 2 := rfl

/-- `|withCrc m| = |m| + 2`. -/
@[simp] theorem length_withCrc (m : List U8) : (withCrc m).length = m.length + 2 := by
  simp [withCrc]

/-- A body of at least two bytes with its checksum is sealed. -/
theorem sealed_withCrc {m : List U8} (hm : 2 ≤ m.length) : Sealed (withCrc m) := by
  refine ⟨by rw [length_withCrc]; omega, ?_⟩
  have hbody : (withCrc m).take ((withCrc m).length - 2) = m := by
    rw [length_withCrc, Nat.add_sub_cancel]
    exact List.take_left
  rw [hbody]

/-- A sealed frame is its body with the body's checksum. -/
theorem Sealed.exists_eq_withCrc {b : List U8} (h : Sealed b) : ∃ m, 2 ≤ m.length ∧ b = withCrc m := by
  refine ⟨b.take (b.length - 2), ?_, h.2.symm⟩
  rw [List.length_take]
  have := h.1
  omega

/-- A string of at least two bytes splits before its last two. -/
theorem exists_split_pair {b : List U8} (h : 2 ≤ b.length) :
    ∃ m low high, b = m ++ [low, high] := by
  refine ⟨b.take (b.length - 2), b[b.length - 2], b[b.length - 1], ?_⟩
  have hdrop : b.drop (b.length - 2) = [b[b.length - 2], b[b.length - 1]] := by
    rw [List.drop_eq_getElem_cons (by omega), List.drop_eq_getElem_cons (by omega),
      List.drop_of_length_le (by omega)]
    simp only [show b.length - 2 + 1 = b.length - 1 by omega]
  rw [← hdrop, List.take_append_drop]

/-- A frame is sealed exactly when its last two bytes are the checksum of the rest, low byte first. -/
theorem sealed_append_pair_iff {m : List U8} {low high : U8} (hm : 2 ≤ m.length) :
    Sealed (m ++ [low, high]) ↔ low = lowByte (checksum m) ∧ high = highByte (checksum m) := by
  have hbody : (m ++ [low, high]).take ((m ++ [low, high]).length - 2) = m := by simp
  have hlen : 4 ≤ (m ++ [low, high]).length := by
    rw [List.length_append]
    exact Nat.add_le_add_right hm 2
  rw [Sealed, and_iff_right hlen, hbody, withCrc, List.append_cancel_left_eq, crcBytes]
  simp only [List.cons.injEq, and_true, eq_comm]

/-! ## The register behind `Crc16` -/

/-- The feedback word has its top bit set. -/
theorem feedback_top : (0xA001 : U16).getLsbD (16 - 1) = true := rfl

/-- The inner loop body is one clock of the register. -/
theorem crcBit_eq_shift (crc : U16) : crcBit crc = shift 0xA001 crc := by
  rw [crcBit, shift]
  -- the mask leaves the bit that is about to leave the register
  have hbit : crc &&& 0x0001 ≠ 0 ↔ crc.getLsbD 0 = true := by
    have hmask : crc &&& 0x0001 = (BitVec.ofBool (crc.getLsbD 0)).setWidth 16 :=
      BitVec.and_one_eq_setWidth_ofBool_getLsbD
    rw [hmask]
    cases crc.getLsbD 0 <;> decide
  simp only [hbit]

/-- The eight passes of the inner loop are eight clocks. -/
theorem crcByte_eq_shift_iterate (crc : U16) (byte : U8) :
    crcByte crc byte = (shift 0xA001)^[8] (crc ^^^ byte.setWidth 16) := by
  simp only [crcByte, List.range_succ, List.range_zero, List.nil_append, List.cons_append,
    List.foldl_cons, List.foldl_nil, crcBit_eq_shift, Function.iterate_succ_apply,
    Function.iterate_zero_apply]

/-- A pass of the outer loop feeds the byte's bits, least significant first. -/
theorem crcByte_eq_run (crc : U16) (byte : U8) :
    crcByte crc byte = run 0xA001 crc (lsbFirst byte) := by
  rw [crcByte_eq_shift_iterate, run_lsbFirst_eq_shift_iterate _ _ _ (Nat.succ_pos 15) (Nat.le_add_left 8 8)]

/-- `Crc16` runs the register over the frame's bits. -/
theorem foldl_crcByte_eq_run (crc : U16) (m : List U8) :
    m.foldl crcByte crc = run 0xA001 crc (frameBits m) := by
  induction m generalizing crc with
  | nil => rfl
  | cons byte m ih =>
    have hbits : frameBits (byte :: m) = lsbFirst byte ++ frameBits m := List.flatMap_cons
    rw [List.foldl_cons, ih, crcByte_eq_run, hbits, run_append]

/-- The checksum is the register after the message. -/
theorem checksum_eq_run (m : List U8) : checksum m = run 0xA001 0xFFFF (frameBits m) :=
  foldl_crcByte_eq_run _ _

/-- The bits of two strings in a row are their bits in a row. -/
@[simp] theorem frameBits_append (a b : List U8) :
    frameBits (a ++ b) = frameBits a ++ frameBits b := List.flatMap_append

/-- A frame has eight bits a byte. -/
@[simp] theorem length_frameBits (b : List U8) : (frameBits b).length = 8 * b.length := by
  induction b with
  | nil => rfl
  | cons byte b ih =>
    rw [frameBits, List.flatMap_cons, List.length_append, length_lsbFirst, List.length_cons]
    rw [frameBits] at ih
    omega

/-- A word sent low byte first is sent least significant bit first. -/
theorem lsbFirst_word (w : U16) : lsbFirst w = lsbFirst (lowByte w) ++ lsbFirst (highByte w) := by
  simp [lsbFirst, lowByte_eq, highByte_eq, List.range_succ]

/-- Two bytes bring the register to zero exactly when they are the bytes of the register, low first. -/
theorem run_pair_eq_zero_iff (crc : U16) (low high : U8) :
    run 0xA001 crc (frameBits [low, high]) = 0 ↔ low = lowByte crc ∧ high = highByte crc := by
  have hbits : frameBits [low, high] = lsbFirst (joinBytes high low) := by
    rw [lsbFirst_word, lowByte_joinBytes, highByte_joinBytes]
    simp [frameBits]
  rw [hbits, run_lsbFirst_eq_zero_iff (Nat.succ_pos 15) feedback_top, joinBytes_eq_iff, and_comm]

/-- **Sealed frames drive the register to zero.** -/
theorem sealed_iff_run (b : List U8) :
    Sealed b ↔ 4 ≤ b.length ∧ run (0xA001 : U16) 0xFFFF (frameBits b) = 0 := by
  by_cases hlen : 4 ≤ b.length
  · obtain ⟨m, low, high, rfl⟩ := exists_split_pair (by omega : 2 ≤ b.length)
    have hm : 2 ≤ m.length := by simpa using hlen
    rw [sealed_append_pair_iff hm, frameBits_append, run_append, ← checksum_eq_run,
      run_pair_eq_zero_iff, and_iff_right hlen]
  · exact iff_of_false (fun h => hlen h.1) (fun h => hlen h.1)

/-! ## The checked functions -/

/-- A loop that reads a buffer in order folds over the part it reads. -/
theorem foldlM_range_getElem {α β : Type} (f : β → α → β) (xs : List α) (n : ℕ) (init : β)
    (h : n ≤ xs.length) :
    (List.range n).foldlM (fun acc i => do
      let x ← xs[i]?
      return f acc x) init = some ((xs.take n).foldl f init) := by
  induction n with
  | zero => rfl
  | succ n ih =>
    rw [List.range_succ, List.foldlM_append, ih (by omega), List.take_succ_eq_append_getElem h,
      List.foldl_append]
    simp [List.getElem?_eq_getElem (show n < xs.length by omega)]

/-- `Crc16` inside its buffer is the checksum of the bytes it covers. -/
theorem crc16_eq {data : List U8} {length : ℕ} (h : length ≤ data.length) :
    crc16 data length = some (checksum (data.take length)) :=
  foldlM_range_getElem crcByte data length 0xFFFF h

/-- `AppendCrc` seals the body and leaves the rest of the buffer. -/
theorem appendCrc_eq (body : List U8) (x y : U8) (rest : List U8) :
    appendCrc (body ++ x :: y :: rest) body.length
      = some (body.length + 2, withCrc body ++ rest) := by
  have hcrc : crc16 (body ++ x :: y :: rest) body.length = some (checksum body) := by
    rw [crc16_eq (by simp), List.take_left]
  have hlow : ∀ v, store (body ++ x :: y :: rest) body.length v = some (body ++ v :: y :: rest) := by
    intro v
    rw [store_of_lt (by simp)]
    simp
  have hhigh : ∀ u v, store (body ++ u :: y :: rest) (body.length + 1) v
      = some (body ++ u :: v :: rest) := by
    intro u v
    rw [store_of_lt (by simp)]
    simp
  simp only [appendCrc, hcrc, hlow, hhigh, Option.bind_eq_bind, Option.bind_some, Option.pure_def]
  simp [withCrc, crcBytes]

/-- `CheckCrc` decides whether the bytes it covers are sealed. -/
theorem checkCrc_eq {frame : List U8} {length : ℕ} (h : length ≤ frame.length) :
    checkCrc frame length = some (decide (Sealed (frame.take length))) := by
  have htake : (frame.take length).length = length := by rw [List.length_take]; omega
  by_cases hlen : length < 4
  · have hnot : ¬ Sealed (frame.take length) := fun hs => by
      have := hs.1
      omega
    rw [checkCrc, if_pos hlen, decide_eq_false hnot]
    rfl
  · obtain ⟨m, low, high, hsplit⟩ := exists_split_pair (by omega : 2 ≤ (frame.take length).length)
    have hm : m.length + 2 = length := by
      rw [← htake, hsplit]
      simp
    -- the covered bytes are a body and two more, low byte first
    obtain ⟨rest, rfl⟩ : ∃ rest, frame = m ++ low :: high :: rest := by
      refine ⟨frame.drop length, ?_⟩
      conv_lhs => rw [← List.take_append_drop length frame, hsplit]
      simp
    subst hm
    have hcrc : crc16 (m ++ low :: high :: rest) m.length = some (checksum m) := by
      rw [crc16_eq (by simp), List.take_left]
    rw [hsplit, checkCrc, if_neg hlen]
    have hlow : (m ++ low :: high :: rest)[m.length]? = some low := by simp
    have hhigh : (m ++ low :: high :: rest)[m.length + 1]? = some high := by simp
    simp only [Nat.add_sub_cancel, show m.length + 2 - 1 = m.length + 1 by omega, hcrc, hlow, hhigh,
      Option.bind_eq_bind, Option.bind_some, Option.pure_def, Option.some.injEq]
    have hjoin := joinBytes_eq_iff high low (checksum m)
    rw [joinBytes, BitVec.or_comm] at hjoin
    have hiff : checksum m = low.setWidth 16 ||| (high.setWidth 16 <<< 8)
        ↔ Sealed (m ++ [low, high]) := by
      rw [eq_comm, hjoin, sealed_append_pair_iff (by omega), and_comm]
    rw [← decide_eq_decide.mpr hiff]
    rfl

end AlicatBasis2.Modbus
