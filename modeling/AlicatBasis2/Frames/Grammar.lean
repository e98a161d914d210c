import AlicatBasis2.Frames.Replies
import Mathlib.Data.List.GetD

/-! # The grammar the parsers accept

Each parser compares lengths with inequalities and checks the CRC over the whole received string, so it
accepts its standard reply, and beyond the standard length exactly the strings with padding between the
standard body and a CRC that covers the padding. On strings no longer than the standard reply, which is
all the driver ever asks the UART for, the padding is empty and the grammar is strict. -/

namespace AlicatBasis2.Modbus

/-! ## Bytes of a sealed frame -/

/-- Inside the body a frame has the body's bytes. -/
theorem byteAt_append_left {m rest : List U8} {i : ℕ} (hi : i < m.length) :
    byteAt (m ++ rest) i = byteAt m i := by
  rw [byteAt, byteAt, List.getD_append _ _ _ _ hi]

/-- A string of at least three bytes splits into its header and the rest. -/
theorem exists_header {m : List U8} (h : 3 ≤ m.length) :
    ∃ x y z rest, m = x :: y :: z :: rest := by
  match m, h with
  | x :: y :: z :: rest, _ => exact ⟨x, y, z, rest, rfl⟩

/-- The body of a function-3 reply. -/
def readReplyBody (addr : U8) (words : List U16) : List U8 :=
  [addr, Reg.Fn.readHolding, BitVec.ofNat 8 (2 * words.length)] ++ payload words

/-- The body of a reply with `n` words has `3 + 2 * n` bytes. -/
@[simp] theorem length_readReplyBody (addr : U8) (words : List U16) :
    (readReplyBody addr words).length = 3 + 2 * words.length := by
  rw [readReplyBody, List.length_append, length_payload]
  rfl

/-- The words read out of a frame that starts with a function-3 body. -/
theorem replyWords_readReplyBody (addr : U8) (words : List U16) (rest : List U8) :
    replyWords (readReplyBody addr words ++ rest) words.length = words := by
  refine List.ext_getElem (length_replyWords _ _) fun k hk hk' => ?_
  have hbyte : ∀ j, j < 2 * words.length →
      byteAt (readReplyBody addr words ++ rest) (3 + j) = ((payload words)[j]?).getD 0 := by
    intro j hj
    rw [byteAt_append_left (by rw [length_readReplyBody]; omega), byteAt,
      List.getD_eq_getElem?_getD, readReplyBody, List.getElem?_append_right (by simp)]
    simp
  obtain ⟨hhigh, hlow⟩ := getElem?_payload words k
  simp only [replyWords, List.getElem_map, List.getElem_range]
  rw [add_assoc, hbyte _ (by omega), hbyte _ (by omega), mul_comm k 2, hhigh, hlow,
    List.getElem?_eq_getElem hk']
  simp

/-! ## Verdict `None` -/

/-- `ParseReadHolding` accepts a function-3 body, any padding, and the CRC of both. -/
theorem readVerdict_eq_none_iff {b : List U8} {addr count : U8} (hcount : count.toNat ≤ 127) :
    readVerdict b addr count = .none
      ↔ ∃ words pad, words.length = count.toNat ∧ b = withCrc (readReplyBody addr words ++ pad) := by
  constructor
  · intro h
    obtain ⟨-, hseal, haddr, -, hfn, hbytes, hend⟩ := readVerdict_eq_none_iff_tests.mp h
    obtain ⟨m, -, rfl⟩ := hseal.exists_eq_withCrc
    rw [hbytes, length_withCrc] at hend
    obtain ⟨x, y, z, rest, rfl⟩ := exists_header (by omega : 3 ≤ m.length)
    -- the header tests fix the first three bytes, the byte count cuts the payload
    have hx : x = addr := haddr
    have hy : y = Reg.Fn.readHolding := hfn
    have hz : z.toNat = count.toNat * 2 := hbytes
    simp only [List.length_cons] at hend
    have hrestlen : (rest.take (2 * count.toNat)).length = 2 * count.toNat := by
      rw [List.length_take]
      omega
    obtain ⟨words, hwords, hpayload⟩ := exists_eq_payload hrestlen
    refine ⟨words, rest.drop (2 * count.toNat), hwords, ?_⟩
    have hz' : z = BitVec.ofNat 8 (2 * words.length) := by
      apply BitVec.eq_of_toNat_eq
      rw [hz, BitVec.toNat_ofNat, hwords]
      omega
    have hrest : rest = payload words ++ rest.drop (2 * count.toNat) := by
      rw [← hpayload, List.take_append_drop]
    rw [readReplyBody, List.append_assoc, ← hrest, hx, hy, hz']
    rfl
  · rintro ⟨words, pad, hwords, rfl⟩
    -- such a string passes the tests one by one
    have hsealed : Sealed (withCrc (readReplyBody addr words ++ pad)) :=
      sealed_withCrc (by rw [List.length_append, length_readReplyBody]; omega)
    have hlen : (withCrc (readReplyBody addr words ++ pad)).length
        = 5 + 2 * words.length + pad.length := by
      rw [length_withCrc, List.length_append, length_readReplyBody]
      omega
    have haddr : byteAt (withCrc (readReplyBody addr words ++ pad)) 0 = addr := rfl
    have hfn : byteAt (withCrc (readReplyBody addr words ++ pad)) 1 = Reg.Fn.readHolding := rfl
    have hbytes : (byteAt (withCrc (readReplyBody addr words ++ pad)) 2).toNat
        = count.toNat * 2 := by
      have hbyte : byteAt (withCrc (readReplyBody addr words ++ pad)) 2
          = BitVec.ofNat 8 (2 * words.length) := rfl
      rw [hbyte, BitVec.toNat_ofNat, hwords]
      omega
    rw [readVerdict_eq_none_iff_tests, haddr, hfn, hbytes, hlen]
    exact ⟨by omega, hsealed, rfl, by decide, rfl, rfl, by omega⟩

/-- `ParseWriteSingleEcho` accepts a sealed string that starts with the request. -/
theorem echoVerdict_eq_none_iff {b : List U8} (addr : U8) (regAddr value : U16) :
    echoVerdict b (writeSingleRequest addr regAddr value) = .none
      ↔ Sealed b ∧ ∃ pad, b = writeSingleRequest addr regAddr value ++ pad := by
  have hfirst : ∀ pad, byteAt (writeSingleRequest addr regAddr value ++ pad) 0 = addr := fun _ => rfl
  have hsecond : ∀ pad, byteAt (writeSingleRequest addr regAddr value ++ pad) 1
      = Reg.Fn.writeSingle := fun _ => rfl
  constructor
  · intro h
    obtain ⟨-, hseal, -, -, hbody⟩ := echoVerdict_eq_none_iff_tests.mp h
    refine ⟨hseal, b.drop 8, ?_⟩
    rw [length_writeSingleRequest] at hbody
    conv_lhs => rw [← List.take_append_drop 8 b, hbody]
  · rintro ⟨hsealed, pad, rfl⟩
    have hreq : byteAt (writeSingleRequest addr regAddr value) 0 = addr := rfl
    have hlen : (writeSingleRequest addr regAddr value).length
        ≤ (writeSingleRequest addr regAddr value ++ pad).length := by
      rw [List.length_append]
      omega
    rw [echoVerdict_eq_none_iff_tests, hfirst, hsecond, hreq]
    exact ⟨hlen, hsealed, rfl, by decide, List.take_left⟩

/-- `ParseWriteMultipleEcho` accepts a function-16 reply body, any padding, and the CRC of both. -/
theorem writeMultipleVerdict_eq_none_iff {b : List U8} (addr : U8) (regAddr count : U16) :
    writeMultipleVerdict b addr regAddr count = .none
      ↔ ∃ pad, b = withCrc (fixedBody addr Reg.Fn.writeMultiple regAddr count ++ pad) := by
  constructor
  · intro h
    obtain ⟨hshort, hseal, haddr, -, hfn, hreg, hcnt⟩ := writeMultipleVerdict_eq_none_iff_tests.mp h
    obtain ⟨m, -, rfl⟩ := hseal.exists_eq_withCrc
    rw [length_withCrc] at hshort
    have hm : 6 ≤ m.length := by omega
    match m, hm with
    | x0 :: x1 :: x2 :: x3 :: x4 :: x5 :: pad, _ =>
      have h0 : x0 = addr := haddr
      have h1 : x1 = Reg.Fn.writeMultiple := hfn
      obtain ⟨h2, h3⟩ := (joinBytes_eq_iff x2 x3 regAddr).mp hreg
      obtain ⟨h4, h5⟩ := (joinBytes_eq_iff x4 x5 count).mp hcnt
      exact ⟨pad, by rw [h0, h1, h2, h3, h4, h5]; rfl⟩
  · rintro ⟨pad, rfl⟩
    have hsealed : Sealed (withCrc (fixedBody addr Reg.Fn.writeMultiple regAddr count ++ pad)) :=
      sealed_withCrc (by rw [List.length_append, length_fixedBody]; omega)
    have hlen : 8 ≤ (withCrc (fixedBody addr Reg.Fn.writeMultiple regAddr count ++ pad)).length := by
      rw [length_withCrc, List.length_append, length_fixedBody]
      omega
    have haddr : byteAt (withCrc (fixedBody addr Reg.Fn.writeMultiple regAddr count ++ pad)) 0
        = addr := rfl
    have hfn : byteAt (withCrc (fixedBody addr Reg.Fn.writeMultiple regAddr count ++ pad)) 1
        = Reg.Fn.writeMultiple := rfl
    have hreg : joinBytes
        (byteAt (withCrc (fixedBody addr Reg.Fn.writeMultiple regAddr count ++ pad)) 2)
        (byteAt (withCrc (fixedBody addr Reg.Fn.writeMultiple regAddr count ++ pad)) 3)
          = regAddr := joinBytes_highByte_lowByte regAddr
    have hcnt : joinBytes
        (byteAt (withCrc (fixedBody addr Reg.Fn.writeMultiple regAddr count ++ pad)) 4)
        (byteAt (withCrc (fixedBody addr Reg.Fn.writeMultiple regAddr count ++ pad)) 5)
          = count := joinBytes_highByte_lowByte count
    rw [writeMultipleVerdict_eq_none_iff_tests, haddr, hfn, hreg, hcnt]
    exact ⟨hlen, hsealed, rfl, by decide, rfl, rfl, rfl⟩

/-! ## Strings no longer than the standard reply -/

/-- Within the length the driver asks for, `ParseReadHolding` accepts exactly the standard reply. -/
theorem readVerdict_eq_none_iff_of_le {b : List U8} {addr count : U8} (hcount : count.toNat ≤ 127)
    (hlen : b.length ≤ 5 + 2 * count.toNat) :
    readVerdict b addr count = .none
      ↔ ∃ words, words.length = count.toNat ∧ b = readReply addr words := by
  rw [readVerdict_eq_none_iff hcount]
  constructor
  · rintro ⟨words, pad, hwords, rfl⟩
    rw [length_withCrc, List.length_append, length_readReplyBody] at hlen
    have hpad : pad = [] := List.length_eq_zero_iff.mp (by omega)
    exact ⟨words, hwords, by rw [hpad, List.append_nil]; rfl⟩
  · rintro ⟨words, hwords, rfl⟩
    exact ⟨words, [], hwords, by rw [List.append_nil]; rfl⟩

/-- Within eight bytes, `ParseWriteSingleEcho` accepts exactly the request. -/
theorem echoVerdict_eq_none_iff_of_le {b : List U8} (addr : U8) (regAddr value : U16)
    (hlen : b.length ≤ 8) :
    echoVerdict b (writeSingleRequest addr regAddr value) = .none
      ↔ b = writeSingleRequest addr regAddr value := by
  rw [echoVerdict_eq_none_iff]
  constructor
  · rintro ⟨-, pad, rfl⟩
    rw [List.length_append, length_writeSingleRequest] at hlen
    have hpad : pad = [] := List.length_eq_zero_iff.mp (by omega)
    rw [hpad, List.append_nil]
  · rintro rfl
    exact ⟨sealed_withCrc (by rw [length_fixedBody]; omega), [], (List.append_nil _).symm⟩

/-- Within eight bytes, `ParseWriteMultipleEcho` accepts exactly the standard reply. -/
theorem writeMultipleVerdict_eq_none_iff_of_le {b : List U8} (addr : U8) (regAddr count : U16)
    (hlen : b.length ≤ 8) :
    writeMultipleVerdict b addr regAddr count = .none
      ↔ b = writeMultipleReply addr regAddr count := by
  rw [writeMultipleVerdict_eq_none_iff]
  constructor
  · rintro ⟨pad, rfl⟩
    rw [length_withCrc, List.length_append, length_fixedBody] at hlen
    have hpad : pad = [] := List.length_eq_zero_iff.mp (by omega)
    rw [hpad, List.append_nil]
    rfl
  · rintro rfl
    exact ⟨[], by rw [List.append_nil]; rfl⟩

/-! ## The public parsers -/

/-- `ParseReadHolding` succeeds exactly with verdict `None`, and then stores the words. -/
theorem parseReadHolding_eq_none_iff {frame : List U8} {addr count : U8} {regs out : List U16}
    (hregs : count.toNat ≤ regs.length) :
    parseReadHolding frame frame.length addr count regs = some (.none, out)
      ↔ readVerdict frame addr count = .none
        ∧ out = replyWords frame count.toNat ++ regs.drop count.toNat := by
  rw [parseReadHolding_eq addr count le_rfl hregs, List.take_length, Option.some.injEq,
    Prod.mk.injEq]
  refine and_congr_right fun hverdict => ?_
  rw [if_pos hverdict, eq_comm]

/-- **The grammar of the public parsers**, on strings of any length. `ParseReadHolding` accepts the
header, the payload, any padding and the CRC of all of these, and stores the payload words;
`ParseWriteSingleEcho` accepts a sealed string that starts with the built request;
`ParseWriteMultipleEcho` accepts the reply body, any padding and the CRC of both. Strings no longer than
the standard reply are accepted exactly when they are the standard reply. -/
theorem parsers_accept_iff (frame : List U8) (addr count : U8) (regs : List U16)
    (regAddr word : U16) (buf request : List U8) (reqLen : ℕ) (hcount : count.toNat ≤ 127)
    (hregs : count.toNat ≤ regs.length) (hbuf : buf.length = 8)
    (hbuild : buildWriteSingle addr regAddr word buf = some (reqLen, request)) :
    (∀ out, parseReadHolding frame frame.length addr count regs = some (.none, out)
        ↔ ∃ words pad, words.length = count.toNat
          ∧ frame = withCrc ([addr, 3, 2 * count] ++ payload words ++ pad)
          ∧ out = words ++ regs.drop count.toNat)
      ∧ (frame.length ≤ 5 + 2 * count.toNat →
          ∀ out, parseReadHolding frame frame.length addr count regs = some (.none, out)
            ↔ ∃ words, words.length = count.toNat
              ∧ frame = withCrc ([addr, 3, 2 * count] ++ payload words)
              ∧ out = words ++ regs.drop count.toNat)
      ∧ (parseWriteSingleEcho frame frame.length request reqLen = some .none
          ↔ Sealed frame ∧ ∃ pad, frame = request ++ pad)
      ∧ (frame.length ≤ 8 →
          (parseWriteSingleEcho frame frame.length request reqLen = some .none ↔ frame = request))
      ∧ (parseWriteMultipleEcho frame frame.length addr regAddr word = some .none
          ↔ ∃ pad, frame = withCrc ([addr, 0x10, highByte regAddr, lowByte regAddr, highByte word,
              lowByte word] ++ pad))
      ∧ (frame.length ≤ 8 →
          (parseWriteMultipleEcho frame frame.length addr regAddr word = some .none
            ↔ frame = withCrc [addr, 0x10, highByte regAddr, lowByte regAddr, highByte word,
                lowByte word])) := by
  have hbody : ∀ words : List U16, words.length = count.toNat →
      readReplyBody addr words = [addr, 3, 2 * count] ++ payload words := by
    intro words hwords
    have hbytes : BitVec.ofNat 8 (2 * words.length) = 2 * count := by
      apply BitVec.eq_of_toNat_eq
      rw [BitVec.toNat_ofNat, BitVec.toNat_mul, hwords]
      rfl
    rw [readReplyBody, hbytes]
    rfl
  have hread : ∀ out, parseReadHolding frame frame.length addr count regs = some (.none, out)
      ↔ ∃ words pad, words.length = count.toNat
        ∧ frame = withCrc ([addr, 3, 2 * count] ++ payload words ++ pad)
        ∧ out = words ++ regs.drop count.toNat := by
    intro out
    rw [parseReadHolding_eq_none_iff hregs, readVerdict_eq_none_iff hcount]
    constructor
    · rintro ⟨⟨words, pad, hwords, hframe⟩, hout⟩
      refine ⟨words, pad, hwords, by rw [hframe, hbody words hwords], ?_⟩
      rw [hout, hframe, ← hwords, withCrc, List.append_assoc, replyWords_readReplyBody]
    · rintro ⟨words, pad, hwords, hframe, hout⟩
      rw [← hbody words hwords] at hframe
      refine ⟨⟨words, pad, hwords, hframe⟩, ?_⟩
      rw [hout, hframe, ← hwords, withCrc, List.append_assoc, replyWords_readReplyBody]
  -- the request the driver built is the eight bytes of its buffer
  have hecho : parseWriteSingleEcho frame frame.length request reqLen
      = some (echoVerdict frame (writeSingleRequest addr regAddr word))
        ∧ request = writeSingleRequest addr regAddr word := by
    rw [buildWriteSingle, buildFixed_eq _ _ _ _ hbuf.ge, List.drop_of_length_le hbuf.le,
      List.append_nil, Option.some.injEq, Prod.mk.injEq] at hbuild
    obtain ⟨rfl, rfl⟩ := hbuild
    refine ⟨?_, rfl⟩
    rw [parseWriteSingleEcho_eq le_rfl (by simp) (by decide), List.take_length]
    rfl
  have hmulti : parseWriteMultipleEcho frame frame.length addr regAddr word
      = some (writeMultipleVerdict frame addr regAddr word) := by
    rw [parseWriteMultipleEcho_eq addr regAddr word le_rfl, List.take_length]
  obtain ⟨hecho, rfl⟩ := hecho
  refine ⟨hread, ?_, ?_, ?_, ?_, ?_⟩
  · intro hlen out
    rw [hread]
    constructor
    · rintro ⟨words, pad, hwords, hframe, hout⟩
      rw [hframe, ← hbody words hwords, length_withCrc, List.length_append,
        length_readReplyBody] at hlen
      have hpad : pad = [] := List.length_eq_zero_iff.mp (by omega)
      exact ⟨words, hwords, by rw [hframe, hpad, List.append_nil], hout⟩
    · rintro ⟨words, hwords, hframe, hout⟩
      exact ⟨words, [], hwords, by rw [hframe, List.append_nil], hout⟩
  · rw [hecho, Option.some.injEq, echoVerdict_eq_none_iff]
  · intro hlen
    rw [hecho, Option.some.injEq, echoVerdict_eq_none_iff_of_le addr regAddr word hlen]
  · rw [hmulti, Option.some.injEq, writeMultipleVerdict_eq_none_iff]
    rfl
  · intro hlen
    rw [hmulti, Option.some.injEq, writeMultipleVerdict_eq_none_iff_of_le addr regAddr word hlen]
    rfl

/-- The one-register reply `07` from address 1 is accepted, through the grammar. -/
theorem parsers_accept_iff_reply :
    parseReadHolding [1, 3, 2, 0, 7, 0xF9, 0x86] 7 1 1 [0] = some (.none, [7]) :=
  ((parsers_accept_iff [1, 3, 2, 0, 7, 0xF9, 0x86] 1 1 [0] 45 9 (List.replicate 8 0)
    (writeSingleRequest 1 45 9) 8 (by decide) (by decide) rfl (by decide +kernel)).2.1 (by decide)
    [7]).mpr ⟨[7], rfl, by decide +kernel, rfl⟩

/-- Each parser accepts a string longer than its standard reply: a padded body under a CRC of its own, and
an echo followed by two clear bytes, over which the register stays at zero. -/
theorem parsers_accept_padded :
    (parseReadHolding (withCrc [1, 3, 2, 0, 7, 0xAA]) 8 1 1 [0] = some (.none, [7])
        ∧ (withCrc [1, 3, 2, 0, 7, 0xAA]).length ≠ 5 + 2 * 1)
      ∧ (buildWriteSingle 1 45 9 (List.replicate 8 0) = some (8, writeSingleRequest 1 45 9)
        ∧ parseWriteSingleEcho (writeSingleRequest 1 45 9 ++ [0, 0]) 10 (writeSingleRequest 1 45 9) 8
            = some .none
        ∧ writeSingleRequest 1 45 9 ++ [0, 0] ≠ writeSingleRequest 1 45 9)
      ∧ (parseWriteMultipleEcho (writeMultipleReply 1 45 2 ++ [0, 0]) 10 1 45 2 = some .none
        ∧ (writeMultipleReply 1 45 2 ++ [0, 0]).length ≠ 8) := by
  decide +kernel

end AlicatBasis2.Modbus
