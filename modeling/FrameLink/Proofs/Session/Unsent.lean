import FrameLink.Proofs.Device.Told
import FrameLink.Proofs.Session.Faults
import FrameLink.Proofs.Session.Request

namespace FrameLink

variable {σ : Type} {T : Transport σ} {received : σ → List Frame}

/-- The far side receives no frame by a write that fails, nor when the device is given back. -/
structure Transport.Withholds (T : Transport σ) (received : σ → List Frame) : Prop where
  failed : ∀ {link link' bytes d e}, T.write bytes d link = (.error e, link') →
    received link' = received link
  release : ∀ link, received (T.release link) = received link

theorem Bench.device_of_write_error {b b' : Bench} {bytes : Bytes} {e : TransportError}
    (hw : b.write bytes = (.error e, b')) : b'.device = b.device := by
  rw [write] at hw
  dsimp only at hw
  split at hw
  · cases hw
    rfl
  · split at hw
    · next hwrite =>
      cases hw
      exact Device.eq_of_write_error hwrite
    · cases hw

theorem Bench.transport_withholds : transport.Withholds fun b : Bench => b.device.frames where
  failed := fun hw => congrArg Device.frames (device_of_write_error hw)
  release := fun _ => rfl

namespace Session

variable {s s' s₁ : Session σ} {h : Handle} {opcode : UInt8} {payload : Bytes} {e : SessionError}

/-- A request has come and gone, and all it leaves behind is that its own handle is told so, and
what has become of the link. -/
structure Withdrawn (h : Handle) (link : σ) (s s' : Session σ) : Prop where
  link : s'.link = link
  phase : s'.phase = s.phase
  stats : s'.stats = s.stats
  pending : s'.table.pending = s.table.pending
  answers : s'.answers = s.answers ++ [(h.ticket, .error (.cancelled h.seq))]

/-- Giving up the request that was registered last undoes its registration. -/
theorem withdrawn_of_enroll (he : s.enroll = .ok (h, s₁)) (link : σ) :
    Withdrawn h link s ({ s₁ with link := link }.withdraw h) := by
  obtain ⟨-, hfree, rfl, rfl⟩ := enroll_eq_ok_iff.mp he
  have hfind : { s with
      table := s.table.enter s.tickets, tickets := s.tickets + 1, link := link
      journal := .issued ⟨s.table.due, s.tickets⟩ :: s.journal }.table.find? s.table.due =
        some ⟨s.table.due, s.tickets⟩ := PendingTable.find?_enter hfree s.tickets
  have hpending := PendingTable.pending_retire_enter hfree s.tickets
  have hcancel := cancel_of_pending hfind
  rw [cancel] at hcancel
  rw [withdraw, hcancel]
  exact ⟨rfl, rfl, rfl, hpending _ _, rfl⟩

theorem Withdrawn.answer? {link : σ} (hw : Withdrawn h link s s') {ticket : Ticket}
    (ht : ticket < h.ticket) : s'.answer? ticket = s.answer? ticket := by
  have hnone : [(h.ticket, (.error (.cancelled h.seq) : Reply))].lookup ticket = none := by
    rw [List.lookup_cons, beq_false_of_ne (Nat.ne_of_lt ht)]
    rfl
  rw [Session.answer?, hw.answers, List.lookup_append, hnone, Option.or_none]
  rfl

theorem withdraw_fault (hl : s.phase.isLive = true) (cause : SessionError) (h : Handle) :
    (s.fault T cause).withdraw h = (s.fault T cause).tick := by
  have hfree : (s.fault T cause).table.find? h.seq = none := by
    rw [fault_of_live hl, failAll_eq]
    rfl
  rw [withdraw, finish_of_free hfree]

theorem isPending_of_enroll (he : s.enroll = .ok (h, s₁))
    (hsub : s'.table.pending ⊆ s.table.pending) : s'.table.isPending h.seq = false := by
  obtain ⟨-, hfree, rfl, -⟩ := enroll_eq_ok_iff.mp he
  exact PendingTable.isPending_eq_false_iff.mpr fun p hm =>
    PendingTable.isPending_eq_false_iff.mp hfree p (hsub hm)

structure ReadyAsBefore (s s' : Session σ) : Prop where
  phase : s'.phase = .ready
  pending : s'.table.pending = s.table.pending
  answers : ∀ h ∈ s.issued, s'.answer? h.ticket = s.answer? h.ticket

theorem link_of_enroll (he : s.enroll = .ok (h, s₁)) : s₁.link = s.link := by
  obtain ⟨-, -, -, rfl⟩ := enroll_eq_ok_iff.mp he
  rfl

/-- A request that is given up before it is sent leaves the session ready as before. -/
theorem Books.givenUp (hb : s.Books) (hp : s.phase = .ready) (he : s.enroll = .ok (h, s₁))
    (link : σ) :
    let s' := { s₁ with link := link }.withdraw h
    ReadyAsBefore s s' ∧ s'.stats = s.stats ∧ s'.link = link := by
  have hw := withdrawn_of_enroll he link
  obtain ⟨-, -, rfl, -⟩ := enroll_eq_ok_iff.mp he
  exact ⟨⟨hw.phase.trans hp, hw.pending, fun h hi => hw.answer? (hb.ticket_lt hi)⟩, hw.stats,
    hw.link⟩

/-- A send that fails leaves no trace. The far side has received no frame by it, nothing has been
counted, and the id that the request may have had is free again. Then the session is ready as
before, and whoever waits for another request still does; or the write has failed for good, and the
session has faulted. -/
theorem Reached.send_fails (hT : T.Withholds received) (hs : Reached T s) (hp : s.phase = .ready)
    (hsend : s.send T opcode payload = (.error e, s')) :
    received s'.link = received s.link ∧ s'.stats = s.stats ∧
      (∀ h s₁, s.enroll = .ok (h, s₁) → s'.table.isPending h.seq = false) ∧
      (ReadyAsBefore s s' ∨
        (∃ h s₁ cause, WriteFails T opcode payload cause h s s₁ ∧ cause.isFatal = true ∧
            e = .ofTransport cause) ∧
          s'.phase = .faulted ∧ s'.table.pending = []) := by
  have hb : s.Books := hs.books
  have ht := transmitted T s opcode payload
  rw [send, hp] at hsend
  dsimp only at hsend
  rw [hsend] at ht
  suffices hleft : received s'.link = received s.link ∧ s'.stats = s.stats ∧
      (ReadyAsBefore s s' ∨
        (∃ h s₁ cause, WriteFails T opcode payload cause h s s₁ ∧ cause.isFatal = true ∧
            e = .ofTransport cause) ∧
          s'.phase = .faulted ∧ s'.table.pending = []) by
    obtain ⟨hreceived, hstats, hleft⟩ := hleft
    have hsub : s'.table.pending ⊆ s.table.pending := by
      obtain hready | ⟨-, -, hnone⟩ := hleft
      · exact hready.pending ▸ List.Subset.refl _
      · exact hnone ▸ List.nil_subset _
    exact ⟨hreceived, hstats, fun h s₁ he => isPending_of_enroll he hsub, hleft⟩
  cases ht with
  | refused _ => exact ⟨rfl, rfl, .inl ⟨hp, rfl, fun _ _ => rfl⟩⟩
  | @tooLong h s₁ _ he _ =>
    obtain ⟨hready, hstats, hlink⟩ := hb.givenUp hp he s₁.link
    exact ⟨congrArg received (hlink.trans (link_of_enroll he)), hstats, .inl hready⟩
  | @detached h s₁ he _ =>
    obtain ⟨hready, hstats, hlink⟩ := hb.givenUp hp he s₁.link
    exact ⟨congrArg received (hlink.trans (link_of_enroll he)), hstats, .inl hready⟩
  | @failed h s₁ _ _ link he _ _ hw _ =>
    obtain ⟨hready, hstats, hlink⟩ := hb.givenUp hp he link
    have hreceived := (hT.failed hw).trans (congrArg received (link_of_enroll he))
    exact ⟨(congrArg received hlink).trans hreceived, hstats, .inl hready⟩
  | @broken h s₁ bytes cause link he hencode ha hw hf =>
    have hfails : WriteFails T opcode payload cause h s { s₁ with link := link } :=
      ⟨s₁, bytes, link, he, hencode, ha, hw, rfl⟩
    have hreceived := (hT.failed hw).trans (congrArg received (link_of_enroll he))
    obtain ⟨-, -, -, rfl⟩ := enroll_eq_ok_iff.mp he
    have hl : s.phase.isLive = true := hp ▸ rfl
    -- The fault has emptied the table, so that there is nothing to undo when the handle goes.
    rw [withdraw_fault (by exact hl), fault_of_live (by exact hl), failAll_eq]
    exact ⟨(hT.release link).trans hreceived, rfl, .inr ⟨⟨h, _, cause, hfails, hf, rfl⟩, rfl, rfl⟩⟩

/-- A request waits, and the device is busy when the next one is written. -/
def snubbed : Session Bench :=
  (Client.run Bench.transport
    { session := Session.new .standard .standard .stepped (.new SessionSettings.standard.codec) }
    [.connect, .send Opcode.request [0x61],
      .device fun b => { b with writeFaults := [some .busy] }]).session

theorem Reached.send_fails_snubbed :
    snubbed.table.pending = [⟨1, 1⟩] ∧
      ∃ s', snubbed.send Bench.transport Opcode.request [0x62] = (.error .deviceBusy, s') ∧
        s'.link.device.frames = snubbed.link.device.frames ∧ s'.stats = snubbed.stats ∧
        s'.table.isPending 2 = false ∧ ReadyAsBefore snubbed s' := by
  have hs : Reached Bench.transport snubbed := ⟨_, _, _, _, _, .refl⟩
  have hfacts : snubbed.phase = .ready ∧ snubbed.table.pending = [⟨1, 1⟩] ∧
      snubbed.table.closed = none ∧ snubbed.table.isPending snubbed.table.due = false ∧
      snubbed.table.due = 2 ∧
      (snubbed.send Bench.transport Opcode.request [0x62]).1 = .error .deviceBusy ∧
      (snubbed.send Bench.transport Opcode.request [0x62]).2.phase = .ready := by
    decide +kernel
  obtain ⟨hp, hpending, hopen, hfree, hdue, hsend, hready⟩ := hfacts
  obtain ⟨hreceived, hstats, hfreed, hleft⟩ :=
    hs.send_fails Bench.transport_withholds hp (Prod.ext hsend rfl)
  have hseq := hfreed _ _ (enroll_eq_ok_iff.mpr ⟨hopen, hfree, rfl, rfl⟩)
  rw [hdue] at hseq
  refine ⟨hpending, _, Prod.ext hsend rfl, hreceived, hstats, hseq, hleft.resolve_right ?_⟩
  rintro ⟨-, hfaulted, -⟩
  cases hready.symm.trans hfaulted

end Session
end FrameLink
