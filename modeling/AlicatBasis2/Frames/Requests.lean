import AlicatBasis2.Frames.Checksum

/-! # Request frames

What the builders put on the wire: the register words of a payload, the bodies of the three requests, and
for each builder the frame it writes into a buffer that is large enough, with the rest of the buffer
untouched. -/

namespace AlicatBasis2.Modbus

/-! ## Payloads -/

/-- Register words in wire order: each word high byte first. -/
def payload (words : List U16) : List U8 := words.flatMap fun w => [highByte w, lowByte w]

/-- No words are no bytes. -/
@[simp] theorem payload_nil : payload [] = [] := rfl

/-- Cons reading of `payload`: the high byte of the first word, its low byte, the rest. -/
@[simp] theorem payload_cons (w : U16) (words : List U16) :
    payload (w :: words) = highByte w :: lowByte w :: payload words := rfl

/-- `payload (us ++ vs) = payload us ++ payload vs`. -/
@[simp] theorem payload_append (us vs : List U16) :
    payload (us ++ vs) = payload us ++ payload vs := List.flatMap_append

/-- `|payload words| = 2 * |words|`. -/
@[simp] theorem length_payload (words : List U16) : (payload words).length = 2 * words.length := by
  induction words with
  | nil => rfl
  | cons w words ih =>
    rw [payload_cons, List.length_cons, List.length_cons, List.length_cons, ih]
    omega

/-- Byte `2k` of a payload is the high byte of word `k`, byte `2k+1` its low byte. -/
theorem getElem?_payload (words : List U16) (k : ℕ) :
    (payload words)[2 * k]? = words[k]?.map highByte
      ∧ (payload words)[2 * k + 1]? = words[k]?.map lowByte := by
  induction words generalizing k with
  | nil => simp
  | cons w words ih =>
    cases k with
    | zero => simp
    | succ k =>
      rw [payload_cons, show 2 * (k + 1) = 2 * k + 1 + 1 by ring]
      simpa only [List.getElem?_cons_succ] using ih k

/-- An even number of bytes is a payload: `|bytes| = 2 * n` gives `bytes = payload words` with `|words| = n`. -/
theorem exists_eq_payload {bytes : List U8} {n : ℕ} (h : bytes.length = 2 * n) :
    ∃ words : List U16, words.length = n ∧ bytes = payload words := by
  induction n generalizing bytes with
  | zero =>
    refine ⟨[], rfl, ?_⟩
    exact List.length_eq_zero_iff.mp h
  | succ n ih =>
    match bytes, h with
    | high :: low :: rest, h =>
      have hrest : rest.length = 2 * n := by
        simp only [List.length_cons] at h
        omega
      obtain ⟨words, hlen, rfl⟩ := ih hrest
      refine ⟨joinBytes high low :: words, by rw [List.length_cons, hlen], ?_⟩
      rw [payload_cons, highByte_joinBytes, lowByte_joinBytes]

/-! ## Request bodies -/

/-- The six-byte body shared by functions 3 and 6: `unit, function, reg_hi, reg_lo, word_hi, word_lo`. -/
def fixedBody (unitAddr function : U8) (regAddr word : U16) : List U8 :=
  [unitAddr, function, highByte regAddr, lowByte regAddr, highByte word, lowByte word]

/-- The body of a function-16 request: `unit, 16, reg_hi, reg_lo, count_hi, count_lo, 2 * count`, and the
payload. -/
def writeMultipleBody (unitAddr : U8) (regAddr : U16) (count : U8) (words : List U16) : List U8 :=
  [unitAddr, Reg.Fn.writeMultiple, highByte regAddr, lowByte regAddr, highByte (count.setWidth 16),
    lowByte (count.setWidth 16), count * 2] ++ payload words

/-- The function-3 request: `unit, 3, reg, count` and the checksum. -/
def readRequest (unitAddr : U8) (regAddr regCount : U16) : List U8 :=
  withCrc (fixedBody unitAddr Reg.Fn.readHolding regAddr regCount)

/-- The function-6 request, and its echo: `unit, 6, reg, value` and the checksum. -/
def writeSingleRequest (unitAddr : U8) (regAddr value : U16) : List U8 :=
  withCrc (fixedBody unitAddr Reg.Fn.writeSingle regAddr value)

/-- The function-16 request: its body and the checksum. -/
def writeMultipleRequest (unitAddr : U8) (regAddr : U16) (count : U8) (words : List U16) : List U8 :=
  withCrc (writeMultipleBody unitAddr regAddr count words)

/-- `|fixedBody| = 6`. -/
@[simp] theorem length_fixedBody (unitAddr function : U8) (regAddr word : U16) :
    (fixedBody unitAddr function regAddr word).length = 6 := rfl

/-- `|readRequest| = 6 + 2`. -/
@[simp] theorem length_readRequest (unitAddr : U8) (regAddr regCount : U16) :
    (readRequest unitAddr regAddr regCount).length = 8 := rfl

/-- `|writeSingleRequest| = 6 + 2`. -/
@[simp] theorem length_writeSingleRequest (unitAddr : U8) (regAddr value : U16) :
    (writeSingleRequest unitAddr regAddr value).length = 8 := rfl

/-- `|writeMultipleRequest| = 7 + 2 * |words| + 2`. -/
@[simp] theorem length_writeMultipleRequest (unitAddr : U8) (regAddr : U16) (count : U8)
    (words : List U16) :
    (writeMultipleRequest unitAddr regAddr count words).length = 9 + 2 * words.length := by
  rw [writeMultipleRequest, length_withCrc, writeMultipleBody, List.length_append, length_payload]
  simp only [List.length_cons, List.length_nil]
  omega

/-! ## The builders -/

/-- A six-byte body is sealed into any buffer of at least eight bytes: the call returns 8 and leaves `withCrc
body ++ out.drop 8`. -/
theorem buildFixed_eq (unitAddr function : U8) (regAddr word : U16) {out : List U8}
    (h : 8 ≤ out.length) :
    buildFixed unitAddr function regAddr word out
      = some (8, withCrc (fixedBody unitAddr function regAddr word) ++ out.drop 8) := by
  match out, h with
  | o0 :: o1 :: o2 :: o3 :: o4 :: o5 :: o6 :: o7 :: rest, h =>
    have happend := appendCrc_eq (fixedBody unitAddr function regAddr word) o6 o7 rest
    rw [buildFixed, if_neg (not_lt.mpr h)]
    simpa [store, fixedBody] using happend

/-- A buffer of fewer than eight bytes is left alone: the call returns 0 and leaves `out`. -/
theorem buildFixed_of_lt (unitAddr function : U8) (regAddr word : U16) {out : List U8}
    (h : out.length < 8) : buildFixed unitAddr function regAddr word out = some (0, out) := by
  rw [buildFixed, if_pos h]
  rfl

/-- The payload loop of `BuildWriteMultiple` behind a seven-byte header: after `k` passes the first `k`
words are in place and the rest of the buffer is untouched. -/
theorem foldlM_putWord_eq (header : List U8) (hheader : header.length = 7) (regs : List U16)
    (buf : List U8) (k : ℕ) (hregs : k ≤ regs.length) (hbuf : 2 * k ≤ buf.length) :
    (List.range k).foldlM (putWord regs) (header ++ buf)
      = some (header ++ (payload (regs.take k) ++ buf.drop (2 * k))) := by
  induction k with
  | zero => simp
  | succ k ih =>
    obtain ⟨x, y, rest, hrest⟩ : ∃ x y rest, buf.drop (2 * k) = x :: y :: rest := by
      rw [List.drop_eq_getElem_cons (by omega), List.drop_eq_getElem_cons (by omega)]
      exact ⟨_, _, _, rfl⟩
    have hdrop : buf.drop (2 * (k + 1)) = rest := by
      rw [show 2 * (k + 1) = 2 * k + 2 by ring, ← List.drop_drop, hrest]
      rfl
    have hlen : (payload (regs.take k)).length = 2 * k := by
      rw [length_payload, List.length_take, min_eq_left (by omega)]
    -- a pass stores the high byte and then the low byte behind the words already there
    have hput : ∀ (u v w : U8) (tail : List U8),
        store (header ++ (payload (regs.take k) ++ u :: v :: tail)) (7 + k * 2) w
          = some (header ++ (payload (regs.take k) ++ w :: v :: tail)) := by
      intro u v w tail
      rw [store_of_lt (by simp only [List.length_append, List.length_cons, hheader, hlen]; omega),
        List.set_append_right _ _ (by omega), List.set_append_right _ _ (by omega),
        hheader, hlen, show 7 + k * 2 - 7 - 2 * k = 0 by omega]
      rfl
    have hput' : ∀ (u v w : U8) (tail : List U8),
        store (header ++ (payload (regs.take k) ++ u :: v :: tail)) (7 + k * 2 + 1) w
          = some (header ++ (payload (regs.take k) ++ u :: w :: tail)) := by
      intro u v w tail
      rw [store_of_lt (by simp only [List.length_append, List.length_cons, hheader, hlen]; omega),
        List.set_append_right _ _ (by omega), List.set_append_right _ _ (by omega),
        hheader, hlen, show 7 + k * 2 + 1 - 7 - 2 * k = 1 by omega]
      rfl
    rw [List.range_succ, List.foldlM_append, ih (by omega) (by omega), hrest, hdrop,
      List.take_succ_eq_append_getElem (by omega : k < regs.length), payload_append]
    simp only [List.foldlM_cons, List.foldlM_nil, putWord, hput, hput',
      List.getElem?_eq_getElem (show k < regs.length by omega), Option.bind_eq_bind,
      Option.bind_some, Option.pure_def, payload_cons, payload_nil, List.append_assoc,
      List.cons_append, List.nil_append]

/-- `BuildWriteMultiple` writes the function-16 request of `count > 0` registers into any buffer with room for
it: the call returns `9 + 2 * count` and leaves the bytes behind as they were. -/
theorem buildWriteMultiple_eq (unitAddr : U8) (regAddr : U16) {regs : List U16} {count : U8}
    {out : List U8} (hcount : count ≠ 0) (hregs : count.toNat ≤ regs.length)
    (hout : 9 + count.toNat * 2 ≤ out.length) :
    buildWriteMultiple unitAddr regAddr regs count out
      = some (9 + count.toNat * 2,
          writeMultipleRequest unitAddr regAddr count (regs.take count.toNat)
            ++ out.drop (9 + count.toNat * 2)) := by
  have hheader : 7 ≤ out.length := by omega
  match out, hheader, hout with
  | o0 :: o1 :: o2 :: o3 :: o4 :: o5 :: o6 :: buf, _, hout =>
    simp only [List.length_cons] at hout
    have hnot : ¬ (count = 0 ∨ (o0 :: o1 :: o2 :: o3 :: o4 :: o5 :: o6 :: buf).length
        < 9 + count.toNat * 2) := by
      simp only [List.length_cons, hcount, false_or]
      omega
    obtain ⟨x, y, rest, hrest⟩ : ∃ x y rest, buf.drop (2 * count.toNat) = x :: y :: rest := by
      rw [List.drop_eq_getElem_cons (by omega), List.drop_eq_getElem_cons (by omega)]
      exact ⟨_, _, _, rfl⟩
    -- seven header bytes, the payload loop, and the CRC behind both
    have hloop := foldlM_putWord_eq
      [unitAddr, Reg.Fn.writeMultiple, highByte regAddr, lowByte regAddr,
        highByte (count.setWidth 16), lowByte (count.setWidth 16), count * 2] rfl regs buf
      count.toNat hregs (by omega)
    have hbody : (writeMultipleBody unitAddr regAddr count (regs.take count.toNat)).length
        = 7 + count.toNat * 2 := by
      rw [writeMultipleBody, List.length_append, length_payload, List.length_take,
        min_eq_left hregs]
      simp only [List.length_cons, List.length_nil]
      omega
    have happend := appendCrc_eq
      (writeMultipleBody unitAddr regAddr count (regs.take count.toNat)) x y rest
    rw [hbody, show 7 + count.toNat * 2 + 2 = 9 + count.toNat * 2 by ring] at happend
    have hdrop : (o0 :: o1 :: o2 :: o3 :: o4 :: o5 :: o6 :: buf).drop (9 + count.toNat * 2)
        = rest := by
      rw [show 9 + count.toNat * 2 = 2 * count.toNat + 2 + 1 + 1 + 1 + 1 + 1 + 1 + 1 by ring]
      simp only [List.drop_succ_cons]
      rw [← List.drop_drop, hrest]
      rfl
    rw [hrest] at hloop
    rw [buildWriteMultiple, if_neg hnot, hdrop, writeMultipleRequest]
    simp only [store, List.length_cons, List.set_cons_zero, List.set_cons_succ, Option.bind_eq_bind,
      Option.bind_some, Nat.zero_lt_succ, Nat.succ_lt_succ_iff, if_true]
    rw [List.cons_append, List.cons_append, List.cons_append, List.cons_append, List.cons_append,
      List.cons_append, List.cons_append, List.nil_append] at hloop
    rw [hloop]
    simpa only [Option.bind_some, writeMultipleBody, List.append_assoc] using happend

/-- `BuildWriteMultiple` leaves the buffer alone for `count = 0` or fewer than `9 + 2 * count` bytes: the call
returns 0. -/
theorem buildWriteMultiple_of_lt (unitAddr : U8) (regAddr : U16) (regs : List U16) {count : U8}
    {out : List U8} (h : count = 0 ∨ out.length < 9 + count.toNat * 2) :
    buildWriteMultiple unitAddr regAddr regs count out = some (0, out) := by
  rw [buildWriteMultiple, if_pos h]
  rfl

/-- The payload loop fails at the first word that the array lacks. -/
theorem foldlM_putWord_of_short {regs : List U16} {k : ℕ} (hregs : regs.length < k)
    (buf : List U8) : (List.range k).foldlM (putWord regs) buf = none := by
  induction k with
  | zero => exact absurd hregs (Nat.not_lt_zero _)
  | succ k ih =>
    rw [List.range_succ, List.foldlM_append]
    rcases Nat.lt_succ_iff_lt_or_eq.mp hregs with hlt | heq
    · -- an earlier pass failed
      rw [ih hlt]
      rfl
    · -- this pass reads past the array
      have hput : ∀ out, putWord regs out k = none := by
        intro out
        rw [putWord, List.getElem?_eq_none (by omega)]
        rfl
      cases (List.range k).foldlM (putWord regs) buf with
      | none => rfl
      | some out => simp [hput]

/-- `BuildWriteMultiple` reads out of bounds when the array is shorter than the count. -/
theorem buildWriteMultiple_of_short (unitAddr : U8) (regAddr : U16) {regs : List U16} {count : U8}
    (hpos : 0 < count.toNat) (hregs : regs.length < count.toNat) (out : List U8)
    (hout : 9 + count.toNat * 2 ≤ out.length) :
    buildWriteMultiple unitAddr regAddr regs count out = none := by
  have hnot : ¬ (count = 0 ∨ out.length < 9 + count.toNat * 2) := by
    rintro (rfl | h)
    · exact absurd hpos (by decide)
    · omega
  rw [buildWriteMultiple, if_neg hnot]
  simp only [foldlM_putWord_of_short hregs, Option.bind_eq_bind, Option.bind_none,
    Option.bind_fun_none]

end AlicatBasis2.Modbus
