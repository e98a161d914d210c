import AlicatBasis2.Frames.Requests

/-! # Reply frames and the parsers' verdicts

The standard replies of a slave, and for each parser the verdict it gives on the bytes it received as a
total function of those bytes. A parser inside its buffers always has a result, and it is the verdict
(`parseReadHolding_eq`, `parseWriteSingleEcho_eq`, `parseWriteMultipleEcho_eq`); everything proved about
replies is proved about the verdicts. -/

namespace AlicatBasis2.Modbus

/-! ## Standard replies -/

/-- The function-3 reply carrying `words`. -/
def readReply (addr : U8) (words : List U16) : List U8 :=
  withCrc ([addr, Reg.Fn.readHolding, BitVec.ofNat 8 (2 * words.length)] ++ payload words)

/-- The function-16 reply. -/
def writeMultipleReply (addr : U8) (regAddr count : U16) : List U8 :=
  withCrc (fixedBody addr Reg.Fn.writeMultiple regAddr count)

/-- The five-byte exception reply to `function`. -/
def exceptionReply (addr function code : U8) : List U8 :=
  withCrc [addr, function ||| Reg.Fn.exceptionMask, code]

/-- A reply with `n` words has `5 + 2 * n` bytes. -/
@[simp] theorem length_readReply (addr : U8) (words : List U16) :
    (readReply addr words).length = 5 + 2 * words.length := by
  rw [readReply, length_withCrc, List.length_append, length_payload]
  simp only [List.length_cons, List.length_nil]
  omega

/-- The function-16 reply has eight bytes. -/
@[simp] theorem length_writeMultipleReply (addr : U8) (regAddr count : U16) :
    (writeMultipleReply addr regAddr count).length = 8 := rfl

/-- An exception reply has five bytes. -/
@[simp] theorem length_exceptionReply (addr function code : U8) :
    (exceptionReply addr function code).length = 5 := rfl

/-! ## Verdicts -/

/-- Byte `i` of a received string. -/
def byteAt (b : List U8) (i : ℕ) : U8 := b.getD i 0

/-- Byte `0` is the head. -/
@[simp] theorem byteAt_cons_zero (x : U8) (b : List U8) : byteAt (x :: b) 0 = x := rfl

/-- Byte `i + 1` is byte `i` of the tail. -/
@[simp] theorem byteAt_cons_succ (x : U8) (b : List U8) (i : ℕ) :
    byteAt (x :: b) (i + 1) = byteAt b i := rfl

/-- A checked access inside the received part of a buffer. -/
theorem getElem?_eq_byteAt {frame : List U8} {length i : ℕ} (hi : i < length)
    (h : length ≤ frame.length) : frame[i]? = some (byteAt (frame.take length) i) := by
  rw [byteAt, List.getD_eq_getElem?_getD, List.getElem?_take_of_lt hi,
    List.getElem?_eq_getElem (by omega)]
  rfl

/-- The verdict of `ParseReadHolding` on the received bytes. -/
def readVerdict (b : List U8) (addr count : U8) : DriverError :=
  if b.length < 5 then .invalidFrame
  else if ¬ Sealed b then .badCrc
  else if byteAt b 0 ≠ addr then .responseMismatch
  else if byteAt b 1 &&& Reg.Fn.exceptionMask ≠ 0 then .modbusException
  else if byteAt b 1 ≠ Reg.Fn.readHolding then .responseMismatch
  else if (byteAt b 2).toNat ≠ count.toNat * 2 then .invalidFrame
  else if b.length < 3 + (byteAt b 2).toNat + 2 then .invalidFrame
  else .none

/-- The verdict of `ParseWriteSingleEcho` on the received bytes. -/
def echoVerdict (b request : List U8) : DriverError :=
  if b.length < request.length then .invalidFrame
  else if ¬ Sealed b then .badCrc
  else if byteAt b 0 ≠ byteAt request 0 then .responseMismatch
  else if byteAt b 1 &&& Reg.Fn.exceptionMask ≠ 0 then .modbusException
  else if b.take request.length ≠ request then .responseMismatch
  else .none

/-- The verdict of `ParseWriteMultipleEcho` on the received bytes. -/
def writeMultipleVerdict (b : List U8) (addr : U8) (regAddr count : U16) : DriverError :=
  if b.length < 8 then .invalidFrame
  else if ¬ Sealed b then .badCrc
  else if byteAt b 0 ≠ addr then .responseMismatch
  else if byteAt b 1 &&& Reg.Fn.exceptionMask ≠ 0 then .modbusException
  else if byteAt b 1 ≠ Reg.Fn.writeMultiple then .responseMismatch
  else if joinBytes (byteAt b 2) (byteAt b 3) ≠ regAddr then .responseMismatch
  else if joinBytes (byteAt b 4) (byteAt b 5) ≠ count then .responseMismatch
  else .none

/-- A chain of tests ends in `None` when the first one lets through and the rest end in it. -/
theorem guard_eq_none_iff {c : Prop} [Decidable c] {e rest : DriverError} (he : e ≠ .none) :
    (if c then e else rest) = .none ↔ ¬ c ∧ rest = .none := by
  by_cases hc : c
  · rw [if_pos hc]
    exact iff_of_false he fun h => h.1 hc
  · rw [if_neg hc, and_iff_right hc]

/-- What `ParseReadHolding` tests. -/
theorem readVerdict_eq_none_iff_tests {b : List U8} {addr count : U8} :
    readVerdict b addr count = .none
      ↔ 5 ≤ b.length ∧ Sealed b ∧ byteAt b 0 = addr ∧ byteAt b 1 &&& Reg.Fn.exceptionMask = 0
        ∧ byteAt b 1 = Reg.Fn.readHolding ∧ (byteAt b 2).toNat = count.toNat * 2
        ∧ 3 + (byteAt b 2).toNat + 2 ≤ b.length := by
  simp (disch := decide) only [readVerdict, guard_eq_none_iff, not_lt, not_not, and_true]

/-- What `ParseWriteSingleEcho` tests. -/
theorem echoVerdict_eq_none_iff_tests {b request : List U8} :
    echoVerdict b request = .none
      ↔ request.length ≤ b.length ∧ Sealed b ∧ byteAt b 0 = byteAt request 0
        ∧ byteAt b 1 &&& Reg.Fn.exceptionMask = 0 ∧ b.take request.length = request := by
  simp (disch := decide) only [echoVerdict, guard_eq_none_iff, not_lt, not_not, and_true]

/-- What `ParseWriteMultipleEcho` tests. -/
theorem writeMultipleVerdict_eq_none_iff_tests {b : List U8} {addr : U8} {regAddr count : U16} :
    writeMultipleVerdict b addr regAddr count = .none
      ↔ 8 ≤ b.length ∧ Sealed b ∧ byteAt b 0 = addr ∧ byteAt b 1 &&& Reg.Fn.exceptionMask = 0
        ∧ byteAt b 1 = Reg.Fn.writeMultiple ∧ joinBytes (byteAt b 2) (byteAt b 3) = regAddr
        ∧ joinBytes (byteAt b 4) (byteAt b 5) = count := by
  simp (disch := decide) only [writeMultipleVerdict, guard_eq_none_iff, not_lt, not_not, and_true]

/-- The errors a parser finds in received bytes, and `None`. -/
def IsVerdict (e : DriverError) : Prop :=
  e = .none ∨ e = .invalidFrame ∨ e = .badCrc ∨ e = .responseMismatch ∨ e = .modbusException

instance : DecidablePred IsVerdict := fun _ => inferInstanceAs (Decidable (_ ∨ _))

/-- A chain of tests gives a verdict when each test does. -/
theorem isVerdict_guard {c : Prop} [Decidable c] {e rest : DriverError} (he : IsVerdict e)
    (hrest : IsVerdict rest) : IsVerdict (if c then e else rest) := by
  by_cases hc : c
  · rwa [if_pos hc]
  · rwa [if_neg hc]

/-- `ParseReadHolding` gives a verdict. -/
theorem isVerdict_readVerdict (b : List U8) (addr count : U8) : IsVerdict (readVerdict b addr count) := by
  rw [readVerdict]
  repeat refine isVerdict_guard (by decide) ?_
  decide

/-- `ParseWriteSingleEcho` gives a verdict. -/
theorem isVerdict_echoVerdict (b request : List U8) : IsVerdict (echoVerdict b request) := by
  rw [echoVerdict]
  repeat refine isVerdict_guard (by decide) ?_
  decide

/-- `ParseWriteMultipleEcho` gives a verdict. -/
theorem isVerdict_writeMultipleVerdict (b : List U8) (addr : U8) (regAddr count : U16) :
    IsVerdict (writeMultipleVerdict b addr regAddr count) := by
  rw [writeMultipleVerdict]
  repeat refine isVerdict_guard (by decide) ?_
  decide

/-- The words a frame carries behind its three-byte header, `n` of them. -/
def replyWords (b : List U8) (n : ℕ) : List U16 :=
  (List.range n).map fun i => joinBytes (byteAt b (3 + i * 2)) (byteAt b (3 + i * 2 + 1))

/-- `n` words are asked for and `n` are there. -/
@[simp] theorem length_replyWords (b : List U8) (n : ℕ) : (replyWords b n).length = n := by
  simp [replyWords]

/-! ## The parsers compute the verdicts -/

/-- The payload loop of `ParseReadHolding`: after `k` passes the first `k` words are stored. -/
theorem foldlM_getWord_eq {frame : List U8} {length : ℕ} (hframe : length ≤ frame.length)
    (regs : List U16) (k : ℕ) (hk : 3 + k * 2 ≤ length) (hregs : k ≤ regs.length) :
    (List.range k).foldlM (getWord frame) regs
      = some (replyWords (frame.take length) k ++ regs.drop k) := by
  induction k with
  | zero => simp [replyWords]
  | succ k ih =>
    have hwords : (replyWords (frame.take length) k).length = k := length_replyWords _ _
    rw [List.range_succ, List.foldlM_append, ih (by omega) (by omega)]
    simp only [Option.bind_eq_bind, Option.bind_some, List.foldlM_cons, List.foldlM_nil, getWord,
      getElem?_eq_byteAt (show 3 + k * 2 < length by omega) hframe,
      getElem?_eq_byteAt (show 3 + k * 2 + 1 < length by omega) hframe]
    -- pass `k` replaces the first register that is not yet stored
    rw [store_of_lt (by simp only [List.length_append, List.length_drop, hwords]; omega)]
    simp only [Option.bind_some, Option.pure_def, Option.some.injEq]
    rw [List.set_append_right _ _ (by omega), hwords, Nat.sub_self,
      List.drop_eq_getElem_cons (by omega : k < regs.length), List.set_cons_zero, replyWords,
      replyWords, List.range_succ, List.map_append, List.append_assoc]
    rfl

/-- `ParseReadHolding` inside its frame: the verdict, and the payload loop only on success. -/
theorem parseReadHolding_eq_loop {frame : List U8} {length : ℕ} (addr count : U8) (regs : List U16)
    (hframe : length ≤ frame.length) :
    parseReadHolding frame length addr count regs = (do
      let regs ← if readVerdict (frame.take length) addr count = .none
        then (List.range count.toNat).foldlM (getWord frame) regs else some regs
      return (readVerdict (frame.take length) addr count, regs)) := by
  have hlen : (frame.take length).length = length := by rw [List.length_take]; omega
  rw [parseReadHolding, readVerdict, hlen]
  by_cases hshort : length < 5
  · -- a short frame is judged before any byte of it is read
    simp [hshort]
  · rw [if_neg hshort, if_neg hshort, checkCrc_eq hframe,
      getElem?_eq_byteAt (by omega : 0 < length) hframe,
      getElem?_eq_byteAt (by omega : 1 < length) hframe,
      getElem?_eq_byteAt (by omega : 2 < length) hframe]
    simp only [Option.bind_eq_bind, Option.bind_some, Option.pure_def, Bool.not_eq_true',
      decide_eq_false_iff_not]
    by_cases hseal : Sealed (frame.take length)
    · simp only [hseal, not_true, if_false]
      split_ifs
      all_goals first | rfl | contradiction
    · simp only [hseal, not_false_eq_true, if_true]
      rfl

/-- Past its header test the reply of `count` words is long enough for the payload loop. -/
theorem le_length_of_readVerdict {b : List U8} {addr count : U8}
    (h : readVerdict b addr count = .none) : 3 + count.toNat * 2 + 2 ≤ b.length := by
  obtain ⟨-, -, -, -, -, hbytes, hend⟩ := readVerdict_eq_none_iff_tests.mp h
  omega

/-- `ParseReadHolding` inside its buffers: the verdict, and the words stored only on success. -/
theorem parseReadHolding_eq {frame : List U8} {length : ℕ} (addr count : U8) {regs : List U16}
    (hframe : length ≤ frame.length) (hregs : count.toNat ≤ regs.length) :
    parseReadHolding frame length addr count regs
      = some (readVerdict (frame.take length) addr count,
          if readVerdict (frame.take length) addr count = .none
          then replyWords (frame.take length) count.toNat ++ regs.drop count.toNat else regs) := by
  rw [parseReadHolding_eq_loop addr count regs hframe]
  by_cases hverdict : readVerdict (frame.take length) addr count = .none
  · have hlen := le_length_of_readVerdict hverdict
    rw [List.length_take] at hlen
    rw [if_pos hverdict, if_pos hverdict,
      foldlM_getWord_eq hframe regs count.toNat (by omega) hregs]
    rfl
  · rw [if_neg hverdict, if_neg hverdict]
    rfl

/-- The comparison loop compares the two strings over the bytes it visits. -/
theorem compareEcho_eq (frame request : List U8) (i remaining : ℕ)
    (hframe : i + remaining ≤ frame.length) (hrequest : i + remaining ≤ request.length) :
    compareEcho frame request i remaining
      = some (if (frame.drop i).take remaining = (request.drop i).take remaining then .none
          else .responseMismatch) := by
  induction remaining generalizing i with
  | zero => simp [compareEcho]
  | succ remaining ih =>
    rw [compareEcho, List.getElem?_eq_getElem (by omega), List.getElem?_eq_getElem (by omega),
      List.drop_eq_getElem_cons (by omega : i < frame.length),
      List.drop_eq_getElem_cons (by omega : i < request.length), List.take_succ_cons,
      List.take_succ_cons]
    simp only [Option.bind_eq_bind, Option.bind_some, Option.pure_def]
    by_cases hbyte : frame[i] = request[i]
    · -- equal bytes: the loop goes on; different bytes: it stops
      rw [if_neg (not_not.mpr hbyte), ih (i + 1) (by omega) (by omega), hbyte]
      simp
    · rw [if_pos hbyte, if_neg]
      intro h
      exact hbyte (List.cons.inj h).1

/-- `ParseWriteSingleEcho` inside its buffers gives the verdict. -/
theorem parseWriteSingleEcho_eq {frame request : List U8} {length reqLen : ℕ}
    (hframe : length ≤ frame.length) (hrequest : reqLen ≤ request.length)
    (hne : 0 < reqLen) :
    parseWriteSingleEcho frame length request reqLen
      = some (echoVerdict (frame.take length) (request.take reqLen)) := by
  have hlen : (frame.take length).length = length := by rw [List.length_take]; omega
  have hreq : (request.take reqLen).length = reqLen := by rw [List.length_take]; omega
  rw [parseWriteSingleEcho, echoVerdict, hlen, hreq]
  by_cases hshort : length < reqLen
  · simp [hshort]
  · rw [if_neg hshort, if_neg hshort, checkCrc_eq hframe,
      getElem?_eq_byteAt hne hrequest]
    by_cases hseal : Sealed (frame.take length)
    · have hfour : 4 ≤ length := hlen ▸ hseal.1
      rw [getElem?_eq_byteAt (by omega : 0 < length) hframe,
        getElem?_eq_byteAt (by omega : 1 < length) hframe,
        compareEcho_eq frame request 0 reqLen (by omega) (by omega)]
      simp only [Option.bind_eq_bind, Option.bind_some, Option.pure_def, Bool.not_eq_true',
        decide_eq_false_iff_not, hseal, not_true, if_false, List.drop_zero, List.take_take,
        min_eq_left (not_lt.mp hshort)]
      split_ifs
      all_goals first | rfl | contradiction
    · simp only [Option.bind_eq_bind, Option.bind_some, Option.pure_def, Bool.not_eq_true',
        decide_eq_false_iff_not, hseal, not_false_eq_true, if_true]

/-- `ParseWriteMultipleEcho` inside its buffer gives the verdict. -/
theorem parseWriteMultipleEcho_eq {frame : List U8} {length : ℕ} (addr : U8) (regAddr count : U16)
    (hframe : length ≤ frame.length) :
    parseWriteMultipleEcho frame length addr regAddr count
      = some (writeMultipleVerdict (frame.take length) addr regAddr count) := by
  have hlen : (frame.take length).length = length := by rw [List.length_take]; omega
  rw [parseWriteMultipleEcho, writeMultipleVerdict, hlen]
  by_cases hshort : length < 8
  · simp [hshort]
  · rw [if_neg hshort, if_neg hshort, checkCrc_eq hframe,
      getElem?_eq_byteAt (by omega : 0 < length) hframe,
      getElem?_eq_byteAt (by omega : 1 < length) hframe,
      getElem?_eq_byteAt (by omega : 2 < length) hframe,
      getElem?_eq_byteAt (by omega : 3 < length) hframe,
      getElem?_eq_byteAt (by omega : 4 < length) hframe,
      getElem?_eq_byteAt (by omega : 5 < length) hframe]
    simp only [Option.bind_eq_bind, Option.bind_some, Option.pure_def, Bool.not_eq_true',
      decide_eq_false_iff_not]
    by_cases hseal : Sealed (frame.take length)
    · simp only [hseal, not_true, if_false]
      split_ifs
      all_goals rfl
    · simp only [hseal, not_false_eq_true, if_true]

end AlicatBasis2.Modbus
