import AlicatBasis2.Bus.Instrument

/-! # Builders and the decoder of a slave

Each builder either leaves the output buffer alone or writes one sealed frame at its front, and a slave
reads the arguments back from the frame. The exception is `BuildWriteMultiple` from 128 registers on: the
byte-count field is the doubled count in a byte, and it wraps. -/

namespace AlicatBasis2

open Modbus

/-- A call of a request builder. -/
inductive BuilderCall
  | readHolding (unitAddr : U8) (regAddr regCount : U16)
  | writeSingle (unitAddr : U8) (regAddr value : U16)
  | writeMultiple (unitAddr : U8) (regAddr : U16) (regs : List U16) (count : U8)

namespace BuilderCall

/-- The frame length and the buffer after the call. -/
def build : BuilderCall → List U8 → Option (ℕ × List U8)
  | readHolding unitAddr regAddr regCount, out => buildReadHolding unitAddr regAddr regCount out
  | writeSingle unitAddr regAddr value, out => buildWriteSingle unitAddr regAddr value out
  | writeMultiple unitAddr regAddr regs count, out =>
      buildWriteMultiple unitAddr regAddr regs count out

/-- The unit a call names. -/
def unitAddr : BuilderCall → U8
  | readHolding unitAddr _ _ | writeSingle unitAddr _ _ | writeMultiple unitAddr _ _ _ => unitAddr

/-- The request a call describes. -/
def request : BuilderCall → Request
  | readHolding _ regAddr regCount => .read regAddr regCount
  | writeSingle _ regAddr value => .writeSingle regAddr value
  | writeMultiple _ regAddr regs count => .writeMultiple regAddr (regs.take count.toNat)

/-- The array of register values is as long as the count says. -/
def HoldsWords : BuilderCall → Prop
  | writeMultiple _ _ regs count => count.toNat ≤ regs.length
  | _ => True

/-- There is something to write and room for it. -/
def Builds (out : List U8) : BuilderCall → Prop
  | writeMultiple _ _ _ count => count ≠ 0 ∧ 9 + count.toNat * 2 ≤ out.length
  | _ => 8 ≤ out.length

/-- The doubled count does not fit a byte. -/
def CountWraps : BuilderCall → Prop
  | writeMultiple _ _ _ count => 128 ≤ count.toNat
  | _ => False

/-- The frame of a call. -/
def frame : BuilderCall → List U8
  | readHolding unitAddr regAddr regCount => readRequest unitAddr regAddr regCount
  | writeSingle unitAddr regAddr value => writeSingleRequest unitAddr regAddr value
  | writeMultiple unitAddr regAddr regs count =>
      writeMultipleRequest unitAddr regAddr count (regs.take count.toNat)

/-- A result `r` of a call is confined to the buffer and invertible: nothing is written, or a frame at the
front of the buffer that has a correct CRC and from which a slave recovers the arguments. -/
structure Invertible (call : BuilderCall) (out : List U8) (r : ℕ × List U8) : Prop where
  untouched : r.1 = 0 → r.2 = out
  length : r.2.length = out.length
  fits : 0 < r.1 → r.1 ≤ out.length
  rest : 0 < r.1 → r.2.drop r.1 = out.drop r.1
  crc : 0 < r.1 → checkCrc r.2 r.1 = some true
  decoded : 0 < r.1 → decode (r.2.take r.1) = some (call.unitAddr, call.request)

/-! ## What a call does -/

/-- A call that builds writes its frame and leaves the rest of the buffer. -/
theorem build_of_builds {call : BuilderCall} {out : List U8} (hwords : call.HoldsWords)
    (h : call.Builds out) :
    call.frame.length ≤ out.length
      ∧ call.build out = some (call.frame.length, call.frame ++ out.drop call.frame.length) := by
  cases call with
  | readHolding unitAddr regAddr regCount =>
    exact ⟨h, buildFixed_eq unitAddr Reg.Fn.readHolding regAddr regCount h⟩
  | writeSingle unitAddr regAddr value =>
    exact ⟨h, buildFixed_eq unitAddr Reg.Fn.writeSingle regAddr value h⟩
  | writeMultiple unitAddr regAddr regs count =>
    obtain ⟨hcount, hroom⟩ := h
    have hlen : (frame (writeMultiple unitAddr regAddr regs count)).length = 9 + count.toNat * 2 := by
      rw [frame, length_writeMultipleRequest, List.length_take, min_eq_left hwords, Nat.mul_comm]
    rw [hlen]
    exact ⟨hroom, buildWriteMultiple_eq unitAddr regAddr hcount hwords hroom⟩

/-- A call that does not build returns 0 and leaves the buffer. -/
theorem build_of_not_builds {call : BuilderCall} {out : List U8} (h : ¬ call.Builds out) :
    call.build out = some (0, out) := by
  cases call with
  | readHolding unitAddr regAddr regCount => exact buildFixed_of_lt _ _ _ _ (Nat.not_le.mp h)
  | writeSingle unitAddr regAddr value => exact buildFixed_of_lt _ _ _ _ (Nat.not_le.mp h)
  | writeMultiple unitAddr regAddr regs count =>
    refine buildWriteMultiple_of_lt unitAddr regAddr regs ?_
    by_cases hcount : count = 0
    · exact .inl hcount
    · exact .inr (Nat.not_le.mp fun hroom => h ⟨hcount, hroom⟩)

/-- The frame of a call is sealed. -/
theorem sealed_frame (call : BuilderCall) : Sealed call.frame := by
  cases call with
  | readHolding unitAddr regAddr regCount | writeSingle unitAddr regAddr regCount =>
    exact sealed_withCrc (m := fixedBody unitAddr _ regAddr regCount) (Nat.le_add_left 2 4)
  | writeMultiple unitAddr regAddr regs count =>
    refine sealed_withCrc ?_
    rw [writeMultipleBody, List.length_append]
    exact Nat.le_add_right_of_le (Nat.le_add_left 2 5)

/-- A slave reads the arguments back unless the byte count wraps. -/
theorem decode_frame_iff {call : BuilderCall} (hwords : call.HoldsWords) :
    decode call.frame = some (call.unitAddr, call.request) ↔ ¬ call.CountWraps := by
  cases call with
  | readHolding unitAddr regAddr regCount =>
    exact iff_of_true (decode_readRequest unitAddr regAddr regCount) not_false
  | writeSingle unitAddr regAddr value =>
    exact iff_of_true (decode_writeSingleRequest unitAddr regAddr value) not_false
  | writeMultiple unitAddr regAddr regs count =>
    have hlen : (regs.take count.toNat).length = count.toNat := by
      rw [List.length_take, min_eq_left hwords]
    rw [frame, decode_writeMultipleRequest_eq unitAddr regAddr hlen, CountWraps]
    by_cases hcount : count.toNat ≤ 127
    · rw [if_pos hcount]
      exact iff_of_true rfl (by omega)
    · rw [if_neg hcount]
      exact iff_of_false (fun h => nomatch h) (by omega)

/-- A frame at the front of the buffer is invertible when a slave reads the arguments back. -/
theorem invertible_frame_iff {call : BuilderCall} {out : List U8}
    (hroom : call.frame.length ≤ out.length) :
    call.Invertible out (call.frame.length, call.frame ++ out.drop call.frame.length)
      ↔ decode call.frame = some (call.unitAddr, call.request) := by
  have hsealed := call.sealed_frame
  have hpos : 0 < call.frame.length := lt_of_lt_of_le (Nat.succ_pos 3) hsealed.1
  constructor
  · intro h
    have hdecoded := h.decoded hpos
    rwa [List.take_left] at hdecoded
  · intro h
    exact {
      untouched := fun hzero => absurd hzero hpos.ne'
      length := by
        rw [List.length_append, List.length_drop]
        omega
      fits := fun _ => hroom
      rest := fun _ => List.drop_left
      crc := fun _ => by
        rw [checkCrc_eq (by rw [List.length_append]; omega), List.take_left, decide_eq_true hsealed]
      decoded := fun _ => by rw [List.take_left, h] }

/-- Nothing written is nothing to invert. -/
theorem invertible_untouched (call : BuilderCall) (out : List U8) : call.Invertible out (0, out) where
  untouched _ := rfl
  length := rfl
  fits h := absurd h (lt_irrefl 0)
  rest h := absurd h (lt_irrefl 0)
  crc h := absurd h (lt_irrefl 0)
  decoded h := absurd h (lt_irrefl 0)

end BuilderCall

/-- **Builders are confined and invertible below 128 registers.** For every builder, all arguments with
register values for the whole count, and every output buffer, the call returns, and what it returns is
confined and invertible unless it is a `BuildWriteMultiple` of 128 or more registers that has room for its
frame. -/
theorem builders_invertible_iff (call : BuilderCall) (hwords : call.HoldsWords) (out : List U8) :
    ∃ r, call.build out = some r
      ∧ (call.Invertible out r ↔ ¬ (call.CountWraps ∧ call.Builds out)) := by
  by_cases hbuilds : call.Builds out
  · obtain ⟨hroom, hbuild⟩ := call.build_of_builds hwords hbuilds
    refine ⟨_, hbuild, ?_⟩
    rw [BuilderCall.invertible_frame_iff hroom, BuilderCall.decode_frame_iff hwords,
      and_iff_left hbuilds]
  · exact ⟨_, call.build_of_not_builds hbuilds,
      iff_of_true (call.invertible_untouched out) fun h => hbuilds h.2⟩

/-- Two registers into a buffer of sixteen bytes. -/
theorem builders_invertible_iff_pair :
    ∃ r, (BuilderCall.writeMultiple 5 2053 [1, 2] 2).build (List.replicate 16 0xFF) = some r
      ∧ (BuilderCall.writeMultiple 5 2053 [1, 2] 2).Invertible (List.replicate 16 0xFF) r := by
  obtain ⟨r, hbuild, hiff⟩ := builders_invertible_iff (.writeMultiple 5 2053 [1, 2] 2)
    (le_refl 2) (List.replicate 16 0xFF)
  exact ⟨r, hbuild, hiff.mpr fun h => absurd h.1 (show ¬ 128 ≤ (2 : U8).toNat by decide)⟩

/-- With 128 registers and room for them, `BuildWriteMultiple` returns 265, writes a byte count of 0, and no
slave accepts the frame. -/
theorem builders_of_128_registers :
    ∃ buf, buildWriteMultiple 1 0 (List.replicate 128 7) 128 (List.replicate 265 0) = some (265, buf)
      ∧ buf.getD 6 1 = 0
      ∧ decode (buf.take 265) = none := by
  have hroom : 9 + (128 : U8).toNat * 2 ≤ (List.replicate 265 (0 : U8)).length := by
    rw [List.length_replicate]
    decide
  have hregs : (128 : U8).toNat ≤ (List.replicate 128 (7 : U16)).length := by
    rw [List.length_replicate]
    decide
  have hlen : ((List.replicate 128 (7 : U16)).take (128 : U8).toNat).length = (128 : U8).toNat := by
    rw [List.length_take, min_eq_left hregs]
  refine ⟨_, buildWriteMultiple_eq 1 0 (by decide) hregs hroom, rfl, ?_⟩
  have htake : ∀ rest : List U8, (writeMultipleRequest 1 0 128
      ((List.replicate 128 7).take (128 : U8).toNat) ++ rest).take 265
        = writeMultipleRequest 1 0 128 ((List.replicate 128 7).take (128 : U8).toNat) := by
    intro rest
    refine List.take_left' ?_
    rw [length_writeMultipleRequest, hlen]
    rfl
  rw [htake, decode_writeMultipleRequest_eq 1 0 hlen]
  exact if_neg (by decide)

end AlicatBasis2
