import AlicatBasis2.Bus.Fleet

/-! # One transaction with a fleet

What each raw primitive may report and do to a fleet: whatever is accepted is the undisturbed reply of the
one instrument at the driver's address, a write is carried out by the instruments that hear it or not at all,
and a faultless transaction with an instrument that accepts the request succeeds. -/

namespace AlicatBasis2

open Machine Modbus

namespace Fleet

variable {n : ℕ} (fleet : Fleet n)

/-! ## Who answers -/

section Answering

variable (bus : FleetBus n) (unit : U8)

/-- `i` answers when the request reaches it and it is at the unit. -/
theorem mem_answering {i : Fin n} :
    i ∈ answering bus unit ↔ bus.fault.reaches i = true ∧ bus.At unit i := by
  simp [answering]

/-- Nobody answers twice. -/
theorem nodup_answering : (answering bus unit).Nodup := (List.nodup_finRange n).filter _

/-- Where no two instruments answer at once, nobody answers or one instrument does. -/
theorem answering_of_alone (halone : bus.Alone unit) :
    answering bus unit = [] ∨ ∃ i, answering bus unit = [i] := by
  have hnodup := nodup_answering bus unit
  match hlist : answering bus unit with
  | [] => exact Or.inl rfl
  | [i] => exact Or.inr ⟨i, rfl⟩
  | i :: j :: rest =>
    -- the first two are at one address, and are not the same
    have hi : i ∈ answering bus unit := hlist ▸ List.mem_cons_self
    have hj : j ∈ answering bus unit := hlist ▸ List.mem_cons_of_mem _ List.mem_cons_self
    have hij := halone i j ((mem_answering bus unit).mp hi).2 ((mem_answering bus unit).mp hj).2
    rw [hlist, hij] at hnodup
    exact absurd hnodup (by simp)

/-- Where only one instrument can answer, it does or nobody does. -/
theorem answering_eq {i : Fin n} (h : ∀ j ∈ answering bus unit, j = i) :
    answering bus unit = if bus.fault.reaches i = true ∧ bus.At unit i then [i] else [] := by
  have hcopies : answering bus unit = List.replicate (answering bus unit).length i :=
    List.eq_replicate_of_mem h
  have hlen : (answering bus unit).length ≤ 1 := by
    have hnodup := nodup_answering bus unit
    rwa [hcopies, List.nodup_replicate] at hnodup
  by_cases hi : bus.fault.reaches i = true ∧ bus.At unit i
  · have hpos : 0 < (answering bus unit).length := List.length_pos_of_mem ((mem_answering bus unit).mpr hi)
    rw [if_pos hi, hcopies, Nat.le_antisymm hlen hpos]
    rfl
  · rw [if_neg hi, List.eq_nil_iff_forall_not_mem]
    intro j hj
    exact hi ((mem_answering bus unit).mp (h j hj ▸ hj))

/-- On a clean line the one instrument at an address answers. -/
theorem answering_of_clean (hclean : bus.faults = []) (halone : bus.Alone unit) {i : Fin n}
    (hi : bus.At unit i) : answering bus unit = [i] := by
  have hmem : i ∈ answering bus unit := by
    rw [mem_answering, FleetBus.fault, hclean]
    exact ⟨rfl, hi⟩
  rcases answering_of_alone bus unit halone with hnone | ⟨j, hj⟩
  · rw [hnone] at hmem
    exact absurd hmem List.not_mem_nil
  · rw [hj] at hmem ⊢
    rw [List.mem_singleton.mp hmem]

end Answering

/-! ## What is delivered -/

section Delivered

variable {op : RawOp} (hop : op.InRange) (s : Session (Line (FleetBus n)))

/-- A frame that decodes to a message is carried out and answered. -/
theorem respond_of_decode {frame : List U8} {unit : U8} {request : Request}
    (hdecode : decode frame = some (unit, request)) (bus : FleetBus n) :
    fleet.respond frame bus = (⟨fleet.settle bus unit request, bus.rate, bus.faults.tail⟩,
      bus.fault.onLine ((answering bus unit).map (fleet.answer bus unit request))) := by
  simp only [respond, hdecode]

include hop

/-- The bytes a call receives. -/
theorem delivered_eq : op.delivered fleet.uart s
    = (s.bus.parties.fault.onLine ((answering s.bus.parties s.driver.address).map
        (fleet.answer s.bus.parties s.driver.address op.toRequest))).take op.replyLength := by
  rw [uart, RawOp.delivered_line,
    fleet.respond_of_decode (RawOp.decode_request hop.transmits s.driver.address)]

/-- The fleet a call leaves. -/
theorem finished_parties : (op.finished fleet.uart s).bus.parties
    = ⟨fleet.settle s.bus.parties s.driver.address op.toRequest, s.bus.parties.rate, s.bus.parties.faults.tail⟩ := by
  rw [uart, RawOp.finished_line_parties,
    fleet.respond_of_decode (RawOp.decode_request hop.transmits s.driver.address)]

/-- **What is accepted is a reply undisturbed**: of the one instrument at the driver's address, which has
carried out the request. -/
theorem exists_at_of_outcome (halone : s.bus.parties.Alone s.driver.address)
    (hnone : op.outcome s.driver.address (op.delivered fleet.uart s) = .none) :
    ∃ i, s.bus.parties.At s.driver.address i ∧ fleet.accepts i op.toRequest = true
      ∧ (op.finished fleet.uart s).bus.parties.stores i = op.toRequest.apply (s.bus.parties.stores i)
      ∧ op.delivered fleet.uart s
        = op.toRequest.reply s.driver.address (s.bus.parties.stores i) := by
  have hreply := (RawOp.outcome_eq_none_iff hop (RawOp.length_delivered_le _ _ s)).mp hnone
  have hseven := RawOp.seven_le_replyLength hop.transmits
  have hbytes := fleet.delivered_eq hop s
  rcases answering_of_alone s.bus.parties s.driver.address halone with hnobody | ⟨i, hone⟩
  · -- nobody answers: nothing has come
    rw [hnobody] at hbytes
    rw [hbytes, List.map_nil, Fault.onLine, List.take_nil] at hreply
    have hlen := hreply.length_eq
    rw [List.length_nil] at hlen
    omega
  · have hi : i ∈ answering s.bus.parties s.driver.address := hone ▸ List.mem_cons_self
    obtain ⟨hreaches, hat⟩ := (mem_answering _ _).mp hi
    rw [hone, List.map_singleton, Fault.onLine] at hbytes
    rw [hbytes] at hreply
    by_cases haccepts : fleet.accepts i op.toRequest = true
    · have hstandard := RawOp.isReply_reply hop.transmits s.driver.address (s.bus.parties.stores i)
      have hanswer : fleet.answer s.bus.parties s.driver.address op.toRequest i
          = op.toRequest.reply s.driver.address (s.bus.parties.stores i) := if_pos haccepts
      rw [hanswer] at hbytes hreply
      have hsame := RawOp.IsReply.eq_of_disturbed hstandard.isSealed hstandard.length_eq.le
        (s.bus.parties.fault.disturbed _) hreply
      refine ⟨i, hat, haccepts, ?_, hbytes.trans hsame⟩
      rw [fleet.finished_parties hop s]
      exact if_pos ⟨hreaches, hat.hears, haccepts⟩
    · -- the exception reply is shorter than every standard reply
      have hanswer : fleet.answer s.bus.parties s.driver.address op.toRequest i
          = exceptionReply s.driver.address op.toRequest.function (fleet.exceptionCode i) :=
        if_neg haccepts
      rw [hanswer] at hreply
      have hsealed : Sealed (exceptionReply s.driver.address op.toRequest.function
          (fleet.exceptionCode i)) := sealed_withCrc (by simp)
      have hsame := RawOp.IsReply.eq_of_disturbed hsealed
        (by rw [length_exceptionReply]; omega) (s.bus.parties.fault.disturbed _) hreply
      have hlen := hreply.length_eq
      rw [hsame, length_exceptionReply] at hlen
      omega

/-- A transaction whose single answer is not disturbed succeeds if the instrument accepts the request. -/
theorem outcome_of_intact {i : Fin n}
    (hone : answering s.bus.parties s.driver.address = [i])
    (hdeliver : ∀ reply, s.bus.parties.fault.deliver reply = reply)
    (haccepts : fleet.accepts i op.toRequest = true) :
    op.outcome s.driver.address (op.delivered fleet.uart s) = .none := by
  have hstandard := RawOp.isReply_reply hop.transmits s.driver.address (s.bus.parties.stores i)
  have hanswer : fleet.answer s.bus.parties s.driver.address op.toRequest i
      = op.toRequest.reply s.driver.address (s.bus.parties.stores i) := if_pos haccepts
  rw [RawOp.outcome_eq_none_iff hop (RawOp.length_delivered_le _ _ s), fleet.delivered_eq hop s,
    hone, List.map_singleton, hanswer, Fault.onLine, hdeliver,
    List.take_of_length_le hstandard.length_eq.le]
  exact hstandard

/-- **A clean transaction** with the one instrument at the driver's address succeeds if it accepts the
request. -/
theorem outcome_of_clean (hclean : s.bus.parties.faults = [])
    (halone : s.bus.parties.Alone s.driver.address) {i : Fin n} (hi : s.bus.parties.At s.driver.address i)
    (haccepts : fleet.accepts i op.toRequest = true) :
    op.outcome s.driver.address (op.delivered fleet.uart s) = .none := by
  refine fleet.outcome_of_intact hop s (answering_of_clean _ _ hclean halone hi) (fun reply => ?_) haccepts
  rw [FleetBus.fault, hclean]
  rfl

/-- Bytes come only from an instrument at the driver's address. -/
theorem exists_at_of_delivered (h : op.delivered fleet.uart s ≠ []) :
    ∃ i, s.bus.parties.At s.driver.address i := by
  rw [fleet.delivered_eq hop s] at h
  match hlist : answering s.bus.parties s.driver.address with
  | [] =>
    rw [hlist, List.map_nil, Fault.onLine, List.take_nil] at h
    exact absurd rfl h
  | i :: rest =>
    have hi : i ∈ answering s.bus.parties s.driver.address := hlist ▸ List.mem_cons_self
    exact ⟨i, ((mem_answering _ _).mp hi).2⟩

end Delivered

end Fleet

end AlicatBasis2
