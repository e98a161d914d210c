import AlicatBasis2.Bus.Instrument

/-! # A burst of registers and its decoding

The decoding operations read a block of consecutive registers into an array of zeros and turn the words
into a record. A burst succeeds on exactly the standard reply of the slave, its array then holds the words
of the reply, and a burst that fails leaves the zeros and ends the operation. -/

namespace AlicatBasis2

open Modbus

/-- A read of `count` registers into an array of zeros. -/
def burst (regAddr : U16) (count : U8) : RawOp := .read regAddr (List.replicate count.toNat 0) count

/-- The counts whose reply the receive buffer holds. -/
theorem burst_inRange (regAddr : U16) {count : U8} (hpos : 0 < count.toNat)
    (hle : count.toNat ≤ 32) : (burst regAddr count).InRange :=
  ⟨hpos, hle, List.length_replicate.ge⟩

namespace Driver

variable {σ : Type} (uart : Uart σ)

/-- The words a burst leaves in its array. -/
def burstWords (regAddr : U16) (count : U8) (s : Session σ) : List U16 :=
  (burst regAddr count).output s.driver.address ((burst regAddr count).delivered uart s)

/-- What a burst reports. -/
def burstOutcome (regAddr : U16) (count : U8) (s : Session σ) : DriverError :=
  (burst regAddr count).outcome s.driver.address ((burst regAddr count).delivered uart s)

section Burst

variable {regAddr : U16} {count : U8} (hpos : 0 < count.toNat) (hle : count.toNat ≤ 32)

include hpos hle

/-- A burst is one read, at every address. -/
theorem readHoldingRegisters_burst (s : Session σ) :
    readHoldingRegisters uart regAddr (some (List.replicate count.toNat 0)) count s
      = some ((burstOutcome uart regAddr count s, some (burstWords uart regAddr count s)),
          (burst regAddr count).finished uart s) :=
  readHoldingRegisters_eq uart regAddr hpos hle List.length_replicate.ge rfl

/-- A burst is a raw operation. -/
theorem exec_burst (s : Session σ) :
    (burst regAddr count).exec uart s
      = some ((burstOutcome uart regAddr count s, burstWords uart regAddr count s),
          (burst regAddr count).finished uart s) := by
  rw [burst, RawOp.exec, readHoldingRegisters_burst uart hpos hle]
  rfl

omit hpos hle in
/-- A burst keeps the length of its array. -/
theorem length_burstWords (s : Session σ) :
    (burstWords uart regAddr count s).length = count.toNat := by
  rw [burstWords, burst, RawOp.output]
  split_ifs
  · rw [List.length_append, length_replyWords, List.length_drop, List.length_replicate,
      Nat.sub_self, Nat.add_zero]
  · exact List.length_replicate

/-- A burst that receives the reply with `words` succeeds. -/
theorem burstOutcome_of_reply {s : Session σ} {words : List U16} (hwords : words.length = count.toNat)
    (h : (burst regAddr count).delivered uart s = readReply s.driver.address words) :
    burstOutcome uart regAddr count s = .none := by
  rw [burstOutcome, RawOp.outcome_eq_none_iff (burst_inRange regAddr hpos hle)
    (RawOp.length_delivered_le uart _ s), h]
  exact ⟨words, hwords, RawOp.readReply_eq _ hwords⟩

/-- Its array holds the words. -/
theorem burstWords_of_reply {s : Session σ} {words : List U16} (hwords : words.length = count.toNat)
    (h : (burst regAddr count).delivered uart s = readReply s.driver.address words) :
    burstWords uart regAddr count s = words := by
  rw [burstWords, h, burst, RawOp.output_readReply _ _ _ (by omega) hwords, List.drop_of_length_le
    List.length_replicate.le, List.append_nil]

/-- A burst that succeeds received the reply with the words of its array. -/
theorem delivered_of_burstOutcome {s : Session σ} (h : burstOutcome uart regAddr count s = .none) :
    (burst regAddr count).delivered uart s
      = readReply s.driver.address (burstWords uart regAddr count s) := by
  rw [burstOutcome, RawOp.outcome_eq_none_iff (burst_inRange regAddr hpos hle)
    (RawOp.length_delivered_le uart _ s)] at h
  obtain ⟨words, hwords, hreply⟩ := h
  rw [← RawOp.readReply_eq _ hwords] at hreply
  rw [burstWords_of_reply uart hpos hle hwords hreply, hreply]

end Burst

/-! ## Reading and decoding -/

/-- A burst and the decoding of its words, the common body of `ReadInstantaneous` and `ReadMeasurement`. -/
def readDecode {T : Type} [Inhabited T] (regAddr : U16) (count : U8)
    (decode : Option (List U16) → Option T) (s : Session σ) : Option (DriverResult T × Session σ) := do
  let ((rc, regs), s) ←
    readHoldingRegisters uart regAddr (some (List.replicate count.toNat 0)) count s
  if rc ≠ .none then return (.failure rc, s)
  let out ← decode regs
  return (.success out, s)

/-- The operation fails with the burst, and otherwise returns the decoded words. -/
theorem readDecode_eq {T : Type} [Inhabited T] {regAddr : U16} {count : U8}
    (hpos : 0 < count.toNat) (hle : count.toNat ≤ 32) {decode : Option (List U16) → Option T}
    {s : Session σ} {v : T} (hv : decode (some (burstWords uart regAddr count s)) = some v) :
    readDecode uart regAddr count decode s
      = some (if burstOutcome uart regAddr count s = .none then .success v
          else .failure (burstOutcome uart regAddr count s), (burst regAddr count).finished uart s) := by
  rw [readDecode, readHoldingRegisters_burst uart hpos hle]
  simp only [Option.bind_eq_bind, Option.bind_some, Option.pure_def, hv]
  by_cases hnone : burstOutcome uart regAddr count s = .none
  · rw [if_pos hnone, if_neg (not_not.mpr hnone)]
  · rw [if_neg hnone, if_pos hnone]

/-- A slave that answers with `words` has them decoded. -/
theorem readDecode_of_reply {T : Type} [Inhabited T] {regAddr : U16} {count : U8}
    (hpos : 0 < count.toNat) (hle : count.toNat ≤ 32) {decode : Option (List U16) → Option T}
    {s : Session σ} {words : List U16} (hwords : words.length = count.toNat)
    (h : (burst regAddr count).delivered uart s = readReply s.driver.address words) {v : T}
    (hv : decode (some words) = some v) :
    readDecode uart regAddr count decode s
      = some (.success v, (burst regAddr count).finished uart s) := by
  rw [← burstWords_of_reply uart hpos hle hwords h] at hv
  rw [readDecode_eq uart hpos hle hv, if_pos (burstOutcome_of_reply uart hpos hle hwords h)]

/-- An operation whose decoding is defined on a full array returns, whatever the burst brings. -/
theorem exists_readDecode {T : Type} [Inhabited T] {regAddr : U16} {count : U8}
    (hpos : 0 < count.toNat) (hle : count.toNat ≤ 32) {decode : Option (List U16) → Option T}
    (hdecode : ∀ regs : List U16, regs.length = count.toNat → ∃ v, decode (some regs) = some v)
    (s : Session σ) : ∃ r, readDecode uart regAddr count decode s = some r := by
  obtain ⟨v, hv⟩ := hdecode _ (length_burstWords uart s)
  exact ⟨_, readDecode_eq uart hpos hle hv⟩

end Driver

end AlicatBasis2
