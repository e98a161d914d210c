import AlicatBasis2.Operations.Burst
import AlicatBasis2.Operations.Scaling
import AlicatBasis2.Transactions.Acceptance

/-! # `ReadIdentity`

Three bursts fill one record. The first burst that fails ends the operation with its error and no further
request; when all three succeed the record determines every register it was made from, as far as the
register is documented. -/

namespace AlicatBasis2

open Modbus Driver

/-! ## The record of twelve registers -/

/-- A version word is its three packed numbers. -/
theorem version_digits (w : U16) :
    256 * (((w >>> 8) &&& 0xFF).setWidth 8).toNat + 16 * (((w >>> 4) &&& 0x0F).setWidth 8).toNat
      + ((w &&& 0x0F).setWidth 8).toNat = w.toNat := by
  have hlt := w.isLt
  have hfour : ∀ n : ℕ, n &&& 15 = n % 16 := fun n => Nat.and_two_pow_sub_one_eq_mod n 4
  have height : ∀ n : ℕ, n &&& 255 = n % 256 := fun n => Nat.and_two_pow_sub_one_eq_mod n 8
  simp only [BitVec.toNat_setWidth, BitVec.toNat_and, BitVec.toNat_ushiftRight,
    Nat.shiftRight_eq_div_pow, show (0xFF : U16).toNat = 255 from rfl,
    show (0x0F : U16).toNat = 15 from rfl, hfour, height]
  omega

/-- The record of the words of the three bursts. -/
def identityOf (fw sn tail : List U16) : InstrumentIdentity where
  firmwareVersionRaw := fw.getD 0 0
  fwMajor := ((fw.getD 0 0 >>> 8) &&& 0xFF).setWidth 8
  fwMinor := ((fw.getD 0 0 >>> 4) &&& 0x0F).setWidth 8
  fwPatch := (fw.getD 0 0 &&& 0x0F).setWidth 8
  serialNumber := payload sn ++ [0]
  modbusAddress := lowByte (tail.getD 0 0)
  asciiUnitId := lowByte (tail.getD 1 0)
  flowUnits := ⟨lowByte (tail.getD 4 0)⟩
  fullScaleFlowRaw := joinWords (tail.getD 2 0) (tail.getD 3 0)

/-- What an identity says about the registers it was read from: the packed version, the serial number two
characters a register with the terminator behind them, the full scale, and three low bytes. -/
structure InstrumentIdentity.Identifies (id : InstrumentIdentity) (regs : Registers) : Prop where
  versionRaw : id.firmwareVersionRaw = regs 25
  version : 256 * id.fwMajor.toNat + 16 * id.fwMinor.toNat + id.fwPatch.toNat = (regs 25).toNat
  serial : ∀ i < 6, id.serialNumber[2 * i]? = some (highByte (regs (26 + BitVec.ofNat 16 i)))
    ∧ id.serialNumber[2 * i + 1]? = some (lowByte (regs (26 + BitVec.ofNat 16 i)))
  terminated : id.serialNumber.length = 13 ∧ id.serialNumber[12]? = some 0
  fullScale : id.fullScaleFlowRaw.toNat = 65536 * (regs 47).toNat + (regs 48).toNat
  modbusAddress : id.modbusAddress = lowByte (regs 45)
  asciiUnitId : id.asciiUnitId = lowByte (regs 46)
  flowUnits : id.flowUnits.code = lowByte (regs 49)

/-- Two register files with one identity agree on all it was read from. -/
theorem InstrumentIdentity.Identifies.determines {id : InstrumentIdentity} {f g : Registers}
    (hf : id.Identifies f) (hg : id.Identifies g) :
    f 25 = g 25 ∧ (∀ i < 6, f (26 + BitVec.ofNat 16 i) = g (26 + BitVec.ofNat 16 i))
      ∧ f 47 = g 47 ∧ f 48 = g 48 ∧ lowByte (f 45) = lowByte (g 45)
      ∧ lowByte (f 46) = lowByte (g 46) ∧ lowByte (f 49) = lowByte (g 49) := by
  have hscale : joinWords (f 47) (f 48) = joinWords (g 47) (g 48) := by
    apply BitVec.eq_of_toNat_eq
    rw [toNat_joinWords, toNat_joinWords, ← hf.fullScale, hg.fullScale]
  obtain ⟨hhigh, hlow⟩ := joinWords_inj.mp hscale
  refine ⟨?_, ?_, hhigh, hlow, ?_, ?_, ?_⟩
  · exact BitVec.eq_of_toNat_eq (hf.version.symm.trans hg.version)
  · intro i hi
    obtain ⟨hfhigh, hflow⟩ := hf.serial i hi
    obtain ⟨hghigh, hglow⟩ := hg.serial i hi
    have hhighByte := Option.some.inj (hfhigh.symm.trans hghigh)
    have hlowByte := Option.some.inj (hflow.symm.trans hglow)
    rw [← joinBytes_highByte_lowByte (f _), hhighByte, hlowByte, joinBytes_highByte_lowByte]
  · exact hf.modbusAddress.symm.trans hg.modbusAddress
  · exact hf.asciiUnitId.symm.trans hg.asciiUnitId
  · exact hf.flowUnits.symm.trans hg.flowUnits

/-- The record of a register file identifies it. -/
theorem identifies_identityOf (regs : Registers) :
    (identityOf (regs.contents Reg.firmwareVersion 1) (regs.contents Reg.serialNumberStart 6)
      (regs.contents Reg.modbusAddress 5)).Identifies regs where
  versionRaw := rfl
  version := version_digits _
  serial := by
    intro i hi
    have hword : (regs.contents Reg.serialNumberStart 6)[i]?
        = some (regs (26 + BitVec.ofNat 16 i)) := by
      rw [Registers.contents, List.getElem?_map, List.getElem?_range hi]
      rfl
    obtain ⟨hhigh, hlow⟩ := getElem?_payload (regs.contents Reg.serialNumberStart 6) i
    rw [hword] at hhigh hlow
    have hlen : (payload (regs.contents Reg.serialNumberStart 6)).length = 12 := rfl
    rw [identityOf, List.getElem?_append_left (by omega), List.getElem?_append_left (by omega)]
    exact ⟨hhigh, hlow⟩
  terminated := ⟨rfl, rfl⟩
  fullScale := toNat_joinWords _ _
  modbusAddress := rfl
  asciiUnitId := rfl
  flowUnits := rfl

/-! ## The three bursts -/

section Bursts

variable {σ : Type} (uart : Uart σ) (s : Session σ)

/-- The session after the first burst. -/
def afterVersion : Session σ := (burst Reg.firmwareVersion 1).finished uart s

/-- The session after the second burst. -/
def afterSerial : Session σ := (burst Reg.serialNumberStart 6).finished uart (afterVersion uart s)

/-- The session after the third burst. -/
def afterTail : Session σ := (burst Reg.modbusAddress 5).finished uart (afterSerial uart s)

/-- A checked access inside an array. -/
theorem deref_of_lt {buf : List U16} {i : ℕ} (h : i < buf.length) :
    deref (some buf) i = some (buf.getD i 0) := by
  rw [List.getD_eq_getElem _ _ h]
  exact List.getElem?_eq_getElem h

/-- The serial loop writes the payload of the six words in front of the last character. -/
theorem foldlM_putSerial_eq {sn : List U16} (hsn : sn.length = 6) :
    (List.range Reg.serialNumberCount.toNat).foldlM (putSerial (some sn))
      (default : InstrumentIdentity).serialNumber = some (payload sn ++ [0]) := by
  match sn, hsn with
  | [_, _, _, _, _, _], _ => rfl

/-- The terminator is written into the thirteenth character, the last of the array. -/
theorem store_terminator {sn : List U16} (hsn : sn.length = 6) :
    store (payload sn ++ [0]) 12 0 = some (payload sn ++ [0]) := by
  match sn, hsn with
  | [_, _, _, _, _, _], _ => rfl

/-- **`ReadIdentity`**: the bursts in order up to the first that fails, and the record of their words. -/
theorem readIdentity_eq :
    readIdentity uart s
      = some (
          if burstOutcome uart Reg.firmwareVersion 1 s ≠ .none then
            (.failure (burstOutcome uart Reg.firmwareVersion 1 s), afterVersion uart s)
          else if burstOutcome uart Reg.serialNumberStart 6 (afterVersion uart s) ≠ .none then
            (.failure (burstOutcome uart Reg.serialNumberStart 6 (afterVersion uart s)),
              afterSerial uart s)
          else if burstOutcome uart Reg.modbusAddress 5 (afterSerial uart s) ≠ .none then
            (.failure (burstOutcome uart Reg.modbusAddress 5 (afterSerial uart s)), afterTail uart s)
          else
            (.success (identityOf (burstWords uart Reg.firmwareVersion 1 s)
              (burstWords uart Reg.serialNumberStart 6 (afterVersion uart s))
              (burstWords uart Reg.modbusAddress 5 (afterSerial uart s))), afterTail uart s)) := by
  have hversion : readHoldingRegisters uart Reg.firmwareVersion (some (List.replicate 1 0)) 1 s
      = some ((burstOutcome uart Reg.firmwareVersion 1 s,
          some (burstWords uart Reg.firmwareVersion 1 s)), afterVersion uart s) :=
    readHoldingRegisters_burst uart (show 0 < (1 : U8).toNat by decide) (by decide) s
  have hserial : readHoldingRegisters uart Reg.serialNumberStart
        (some (List.replicate Reg.serialNumberCount.toNat 0)) (Reg.serialNumberCount.setWidth 8)
        (afterVersion uart s)
      = some ((burstOutcome uart Reg.serialNumberStart 6 (afterVersion uart s),
          some (burstWords uart Reg.serialNumberStart 6 (afterVersion uart s))),
          afterSerial uart s) :=
    readHoldingRegisters_burst uart (show 0 < (6 : U8).toNat by decide) (by decide) _
  have htail : readHoldingRegisters uart Reg.modbusAddress (some (List.replicate 5 0)) 5
        (afterSerial uart s)
      = some ((burstOutcome uart Reg.modbusAddress 5 (afterSerial uart s),
          some (burstWords uart Reg.modbusAddress 5 (afterSerial uart s))), afterTail uart s) :=
    readHoldingRegisters_burst uart (show 0 < (5 : U8).toNat by decide) (by decide) _
  have hfw : (burstWords uart Reg.firmwareVersion 1 s).length = 1 := length_burstWords uart s
  have hsn : (burstWords uart Reg.serialNumberStart 6 (afterVersion uart s)).length = 6 :=
    length_burstWords uart _
  have htl : (burstWords uart Reg.modbusAddress 5 (afterSerial uart s)).length = 5 :=
    length_burstWords uart _
  rw [readIdentity, hversion]
  -- each burst that fails ends the call, each that succeeds leads to the next one
  by_cases hv : burstOutcome uart Reg.firmwareVersion 1 s ≠ .none
  · rw [if_pos hv]
    exact if_pos hv
  rw [if_neg hv]
  refine (if_neg hv).trans ?_
  rw [deref_of_lt (hfw.symm ▸ Nat.one_pos), Option.bind_eq_bind, Option.bind_some, hserial]
  by_cases hs : burstOutcome uart Reg.serialNumberStart 6 (afterVersion uart s) ≠ .none
  · rw [if_pos hs]
    exact if_pos hs
  rw [if_neg hs]
  refine (if_neg hs).trans ?_
  rw [foldlM_putSerial_eq hsn, Option.bind_eq_bind, Option.bind_some, store_terminator hsn,
    Option.bind_eq_bind, Option.bind_some, htail]
  by_cases ht : burstOutcome uart Reg.modbusAddress 5 (afterSerial uart s) ≠ .none
  · rw [if_pos ht]
    exact if_pos ht
  rw [if_neg ht]
  refine (if_neg ht).trans ?_
  rw [deref_of_lt (htl.symm ▸ (by decide : 0 < 5)), deref_of_lt (htl.symm ▸ (by decide : 1 < 5)),
    deref_of_lt (htl.symm ▸ (by decide : 2 < 5)), deref_of_lt (htl.symm ▸ (by decide : 3 < 5)),
    deref_of_lt (htl.symm ▸ (by decide : 4 < 5))]
  rfl

/-- The three bursts bring the standard replies with the contents `regs`. -/
structure Answered (regs : Registers) : Prop where
  version : (burst Reg.firmwareVersion 1).delivered uart s
    = readReply s.driver.address (regs.contents Reg.firmwareVersion 1)
  serial : (burst Reg.serialNumberStart 6).delivered uart (afterVersion uart s)
    = readReply s.driver.address (regs.contents Reg.serialNumberStart 6)
  tail : (burst Reg.modbusAddress 5).delivered uart (afterSerial uart s)
    = readReply s.driver.address (regs.contents Reg.modbusAddress 5)

/-- The words of three bursts are the contents of one register file, as the blocks do not overlap. -/
theorem exists_contents {fw sn tail : List U16} (hfw : fw.length = 1) (hsn : sn.length = 6)
    (htail : tail.length = 5) :
    ∃ regs : Registers, regs.contents Reg.firmwareVersion 1 = fw
      ∧ regs.contents Reg.serialNumberStart 6 = sn ∧ regs.contents Reg.modbusAddress 5 = tail := by
  have blank : Registers := fun _ => 0
  refine ⟨((blank.write Reg.firmwareVersion fw).write Reg.serialNumberStart sn).write
    Reg.modbusAddress tail, ?_, ?_, ?_⟩
  · match fw, hfw, sn, hsn, tail, htail with
    | [_], _, [_, _, _, _, _, _], _, [_, _, _, _, _], _ => rfl
  · match sn, hsn, tail, htail with
    | [_, _, _, _, _, _], _, [_, _, _, _, _], _ => rfl
  · match tail, htail with
    | [_, _, _, _, _], _ => rfl

/-- Three bursts that succeed brought the contents of some registers. -/
theorem exists_answered (hversion : burstOutcome uart Reg.firmwareVersion 1 s = .none)
    (hserial : burstOutcome uart Reg.serialNumberStart 6 (afterVersion uart s) = .none)
    (htail : burstOutcome uart Reg.modbusAddress 5 (afterSerial uart s) = .none) :
    ∃ regs, Answered uart s regs := by
  obtain ⟨regs, hfw, hsn, htl⟩ := exists_contents
    (length_burstWords uart s : (burstWords uart Reg.firmwareVersion 1 s).length = 1)
    (length_burstWords uart (afterVersion uart s) :
      (burstWords uart Reg.serialNumberStart 6 (afterVersion uart s)).length = 6)
    (length_burstWords uart (afterSerial uart s) :
      (burstWords uart Reg.modbusAddress 5 (afterSerial uart s)).length = 5)
  refine ⟨regs, ?_, ?_, ?_⟩
  · rw [hfw, delivered_of_burstOutcome uart (by decide) (by decide) hversion]
  · rw [hsn, delivered_of_burstOutcome uart (by decide) (by decide) hserial]
    rfl
  · rw [htl, delivered_of_burstOutcome uart (by decide) (by decide) htail]
    rfl

/-- A slave that answers with its registers has them recorded. -/
theorem readIdentity_of_answered {regs : Registers} (h : Answered uart s regs) :
    readIdentity uart s
      = some (.success (identityOf (regs.contents Reg.firmwareVersion 1)
          (regs.contents Reg.serialNumberStart 6) (regs.contents Reg.modbusAddress 5)),
          afterTail uart s) := by
  have hversion := burstOutcome_of_reply uart (by decide) (by decide)
    (Registers.length_contents _ _ _) h.version
  have hserial := burstOutcome_of_reply uart (by decide) (by decide)
    (Registers.length_contents _ _ _) h.serial
  have htail := burstOutcome_of_reply uart (by decide) (by decide)
    (Registers.length_contents _ _ _) h.tail
  rw [readIdentity_eq, if_neg (not_not.mpr hversion), if_neg (not_not.mpr hserial),
    if_neg (not_not.mpr htail),
    burstWords_of_reply uart (by decide) (by decide) (Registers.length_contents _ _ _) h.version,
    burstWords_of_reply uart (by decide) (by decide) (Registers.length_contents _ _ _) h.serial,
    burstWords_of_reply uart (by decide) (by decide) (Registers.length_contents _ _ _) h.tail]
  rfl

/-- A first read that fails ends the call. -/
theorem readIdentity_of_version_failed (h : burstOutcome uart Reg.firmwareVersion 1 s ≠ .none) :
    readIdentity uart s
      = some (.failure (burstOutcome uart Reg.firmwareVersion 1 s), afterVersion uart s) := by
  rw [readIdentity_eq, if_pos h]

/-- So does a second read. -/
theorem readIdentity_of_serial_failed
    (hversion : burstOutcome uart Reg.firmwareVersion 1 s = .none)
    (h : burstOutcome uart Reg.serialNumberStart 6 (afterVersion uart s) ≠ .none) :
    readIdentity uart s
      = some (.failure (burstOutcome uart Reg.serialNumberStart 6 (afterVersion uart s)),
          afterSerial uart s) := by
  rw [readIdentity_eq, if_neg (not_not.mpr hversion), if_pos h]

/-- And a third. -/
theorem readIdentity_of_tail_failed (hversion : burstOutcome uart Reg.firmwareVersion 1 s = .none)
    (hserial : burstOutcome uart Reg.serialNumberStart 6 (afterVersion uart s) = .none)
    (h : burstOutcome uart Reg.modbusAddress 5 (afterSerial uart s) ≠ .none) :
    readIdentity uart s
      = some (.failure (burstOutcome uart Reg.modbusAddress 5 (afterSerial uart s)),
          afterTail uart s) := by
  rw [readIdentity_eq, if_neg (not_not.mpr hversion), if_neg (not_not.mpr hserial), if_pos h]

end Bursts

/-- **`ReadIdentity` is all or nothing, and loses nothing.** On every UART the call makes its three reads in
order. It succeeds exactly when all three do, and otherwise returns the error of the first that fails with a
default identity and leaves the session as that read left it. A success comes from three standard replies
with the contents of some registers, and for all such contents the identity is theirs and determines them. -/
theorem identity_all_or_nothing {σ : Type} (uart : Uart σ) (s : Session σ) :
    ∃ rc₁ fw rc₂ sn rc₃ tail result s',
      (burst Reg.firmwareVersion 1).exec uart s = some ((rc₁, fw), afterVersion uart s)
      ∧ (burst Reg.serialNumberStart 6).exec uart (afterVersion uart s)
        = some ((rc₂, sn), afterSerial uart s)
      ∧ (burst Reg.modbusAddress 5).exec uart (afterSerial uart s)
        = some ((rc₃, tail), afterTail uart s)
      ∧ readIdentity uart s = some (result, s')
      ∧ (result.ok = true ↔ rc₁ = .none ∧ rc₂ = .none ∧ rc₃ = .none)
      ∧ (rc₁ ≠ .none → result = .failure rc₁ ∧ s' = afterVersion uart s)
      ∧ (rc₁ = .none → rc₂ ≠ .none → result = .failure rc₂ ∧ s' = afterSerial uart s)
      ∧ (rc₁ = .none → rc₂ = .none → rc₃ ≠ .none → result = .failure rc₃ ∧ s' = afterTail uart s)
      ∧ (result.ok = true → ∃ regs, Answered uart s regs)
      ∧ ∀ regs, Answered uart s regs → result.ok = true ∧ s' = afterTail uart s
        ∧ result.value.Identifies regs
        ∧ ∀ regs', result.value.Identifies regs' →
          regs' 25 = regs 25
          ∧ (∀ i < 6, regs' (26 + BitVec.ofNat 16 i) = regs (26 + BitVec.ofNat 16 i))
          ∧ regs' 47 = regs 47 ∧ regs' 48 = regs 48 ∧ lowByte (regs' 45) = lowByte (regs 45)
          ∧ lowByte (regs' 46) = lowByte (regs 46) ∧ lowByte (regs' 49) = lowByte (regs 49) := by
  obtain ⟨⟨result, s'⟩, hcall⟩ : ∃ r, readIdentity uart s = some r := ⟨_, readIdentity_eq uart s⟩
  have hreturns : ∀ {r t}, readIdentity uart s = some (r, t) → result = r ∧ s' = t := by
    intro r t h
    rw [hcall, Option.some.injEq, Prod.mk.injEq] at h
    exact h
  have hok : result.ok = true ↔ burstOutcome uart Reg.firmwareVersion 1 s = .none
      ∧ burstOutcome uart Reg.serialNumberStart 6 (afterVersion uart s) = .none
      ∧ burstOutcome uart Reg.modbusAddress 5 (afterSerial uart s) = .none := by
    rw [DriverResult.ok_iff]
    constructor
    · -- the error of a read that fails is the error of the call
      intro hnone
      by_cases hversion : burstOutcome uart Reg.firmwareVersion 1 s = .none
      · by_cases hserial : burstOutcome uart Reg.serialNumberStart 6 (afterVersion uart s) = .none
        · by_cases htail : burstOutcome uart Reg.modbusAddress 5 (afterSerial uart s) = .none
          · exact ⟨hversion, hserial, htail⟩
          · rw [(hreturns (readIdentity_of_tail_failed uart s hversion hserial htail)).1] at hnone
            exact absurd hnone htail
        · rw [(hreturns (readIdentity_of_serial_failed uart s hversion hserial)).1] at hnone
          exact absurd hnone hserial
      · rw [(hreturns (readIdentity_of_version_failed uart s hversion)).1] at hnone
        exact absurd hnone hversion
    · rintro ⟨hversion, hserial, htail⟩
      obtain ⟨regs, h⟩ := exists_answered uart s hversion hserial htail
      rw [(hreturns (readIdentity_of_answered uart s h)).1, DriverResult.success_error]
  refine ⟨_, _, _, _, _, _, result, s', exec_burst uart (by decide) (by decide) s,
    exec_burst uart (by decide) (by decide) _, exec_burst uart (by decide) (by decide) _, hcall, hok,
    ?_, ?_, ?_, ?_, ?_⟩
  · intro hversion
    exact hreturns (readIdentity_of_version_failed uart s hversion)
  · intro hversion hserial
    exact hreturns (readIdentity_of_serial_failed uart s hversion hserial)
  · intro hversion hserial htail
    exact hreturns (readIdentity_of_tail_failed uart s hversion hserial htail)
  · intro h
    obtain ⟨hversion, hserial, htail⟩ := hok.mp h
    exact exists_answered uart s hversion hserial htail
  · intro regs h
    obtain ⟨rfl, rfl⟩ := hreturns (readIdentity_of_answered uart s h)
    have hid := identifies_identityOf regs
    exact ⟨rfl, rfl, hid, fun regs' h' => h'.determines hid⟩

/-- The UART of a slave at address `own` that answers each request with its registers. -/
def slaveUart (own : U8) : Uart (Line Registers) :=
  .line fun frame regs => (regs, ((received own frame).map (Request.reply own regs)).getD [])

/-- A slave at address 1 whose registers hold their own addresses is identified. -/
theorem identity_all_or_nothing_slave :
    ∃ result s', readIdentity (slaveUart 1) (construct ⟨id, []⟩ 1 200) = some (result, s')
      ∧ result.ok = true ∧ result.value.Identifies id := by
  obtain ⟨_, _, _, _, _, _, result, s', -, -, -, hcall, -, -, -, -, -, hanswered⟩ :=
    identity_all_or_nothing (slaveUart 1) (construct ⟨id, []⟩ 1 200)
  obtain ⟨hok, -, hid, -⟩ := hanswered id
    ⟨by decide +kernel, by decide +kernel, by decide +kernel⟩
  exact ⟨result, s', hcall, hok, hid⟩

end AlicatBasis2
