import FrameLink.Proofs.Session.Anomalies
import FrameLink.Proofs.Session.AtRest

namespace FrameLink

/-- The version that a reply offers, if it is accepted. -/
def Frame.Offers (f : Frame) (v : Version) : Prop :=
  f.opcode = Opcode.handshakeAck ∧ (∃ rest, f.payload = v.toBytes ++ rest) ∧
    v.major = Version.current.major

theorem Version.ofBytes_eq_ok_iff {bs : Bytes} {v : Version} :
    Version.ofBytes bs = .ok v ↔ ∃ rest, bs = v.toBytes ++ rest := by
  constructor
  · intro h
    match bs, h with
    | major :: minor :: rest, h =>
      cases h
      exact ⟨rest, rfl⟩
  · rintro ⟨rest, rfl⟩
    exact Version.ofBytes_toBytes_append v rest

theorem Version.validate_eq_ok_iff {v : Version} :
    v.validate = .ok () ↔ v.major = Version.current.major := by
  rw [validate]
  split
  · next h => exact iff_of_true rfl h
  · next h => exact iff_of_false nofun h

namespace Session

theorem acceptReply_eq_ok_iff {f : Frame} {v : Version} : acceptReply f = .ok v ↔ f.Offers v := by
  rw [acceptReply, Frame.Offers, ← Version.ofBytes_eq_ok_iff, ← Version.validate_eq_ok_iff]
  cases hack : f.isHandshakeAck with
  | false =>
    have hne : f.opcode ≠ Opcode.handshakeAck := beq_eq_false_iff_ne.mp hack
    exact iff_of_false nofun fun h => hne h.1
  | true =>
    have he : f.opcode = Opcode.handshakeAck := beq_iff_eq.mp hack
    rw [if_pos rfl]
    cases hv : Version.ofBytes f.payload with
    | error e => exact iff_of_false nofun fun h => nomatch h.2.1
    | ok w =>
      dsimp only
      split
      · next e hw =>
        refine iff_of_false nofun fun ⟨_, hwv, hvalid⟩ => ?_
        cases hwv
        cases hw.symm.trans hvalid
      · next hw =>
        constructor
        · intro h
          cases h
          exact ⟨he, rfl, hw⟩
        · rintro ⟨-, h, -⟩
          cases h
          rfl

variable {σ : Type} {T : Transport σ} {isOpen : σ → Bool} {s s' s₁ : Session σ} {h : Handle}
  {opcode : UInt8} {payload : Bytes} {d : Duration}

def heard (s : Session σ) : List Frame :=
  ((s.journal.takeWhile fun e => e != .connected).filterMap Entry.frame?).reverse

theorem heard_of_note {entry : Entry} (hj : s'.journal = entry :: s.journal)
    (hne : entry ≠ .connected) : s'.heard = s.heard ++ entry.frame?.toList := by
  have hkeep : (entry != .connected) = true := bne_iff_ne.mpr hne
  rw [heard, hj, List.takeWhile_cons, hkeep, if_pos rfl, List.filterMap_cons, heard]
  cases entry.frame? with
  | none => exact (List.append_nil _).symm
  | some f => exact List.reverse_cons

/-- The version has been offered under `h`, and nothing else has been asked on this connection. The
first frame with that id is the answer. -/
structure Offered (h : Handle) (s : Session σ) : Prop where
  accepts : s.table.closed = none
  next : s.table.next = 1
  outcome : s.heard.find? (fun f => f.seq == h.seq) = none ∧
      s.table.pending = [⟨h.seq, h.ticket⟩] ∧ s.answer? h.ticket = none ∨
    ∃ f, s.heard.find? (fun f => f.seq == h.seq) = some f ∧
      s.table.pending = [] ∧ s.answer? h.ticket = some (.ok f)

theorem Offered.route (ho : s.Offered h) (f : Frame) : (s.route f).Offered h := by
  have hheard : (s.route f).heard = s.heard ++ [f] := heard_of_note (journal_route s f) nofun
  cases hf : s.table.find? f.seq with
  | none =>
    have hsame := (route_of_free hf).2
    have hpending : (s.route f).table.pending = s.table.pending := by
      rw [hsame.table]
      rfl
    have hanswer : (s.route f).answer? h.ticket = s.answer? h.ticket := by
      rw [answer?, hsame.answers, answer?]
    refine ⟨?_, ?_, ?_⟩
    · rw [hsame.table]
      exact ho.accepts
    · rw [hsame.table]
      exact ho.next
    · rw [hheard, hpending, hanswer, List.find?_append]
      obtain ⟨hnone, hp, ha⟩ | ⟨g, hsome, hp, ha⟩ := ho.outcome
      · have hne : (f.seq == h.seq) = false := by
          have hfree := PendingTable.find?_eq_none_iff.mp hf ⟨h.seq, h.ticket⟩
          rw [hp] at hfree
          exact beq_eq_false_iff_ne.mpr (hfree (List.mem_singleton.mpr rfl)).symm
        refine .inl ⟨?_, hp, ha⟩
        rw [hnone, List.find?_singleton, hne]
        rfl
      · refine .inr ⟨g, ?_, hp, ha⟩
        rw [hsome]
        rfl
  | some p =>
    -- Only the offer itself can be waiting, so that this frame is the first with its id.
    have hp := PendingTable.mem_of_find? hf
    have hseq := PendingTable.seq_of_find? hf
    obtain ⟨hnone, hpending, ha⟩ | ⟨g, -, hpending, -⟩ := ho.outcome
    · rw [hpending, List.mem_singleton] at hp
      subst hp
      have hfirst : (s.heard ++ [f]).find? (fun g => g.seq == h.seq) = some f := by
        rw [List.find?_append, hnone, List.find?_singleton, ← hseq, beq_self_eq_true]
        rfl
      rw [← hheard] at hfirst
      rw [route_of_pending hf] at hfirst ⊢
      refine ⟨ho.accepts, ho.next, .inr ⟨f, hfirst, ?_, ?_⟩⟩
      · simp [PendingTable.retire, PendingTable.prune, hpending, ← hseq]
      · rw [answer?] at ha
        rw [answer?, List.lookup_append, ha, List.lookup_cons_self]
        rfl
    · rw [hpending] at hp
      cases hp

theorem Hears.offered (hs : Hears T s s') (ho : s.Offered h) : s'.Offered h := by
  induction hs with
  | refl => exact ho
  | tail _ hs ih =>
    cases hs with
    | quiet => exact ⟨ih.accepts, ih.next, ih.outcome⟩
    | routed f => exact ih.route f

theorem faults_fault (T : Transport σ) (s : Session σ) (cause : SessionError) :
    (s.fault T cause).faults = cause :: s.faults := by
  cases hl : s.phase.isLive with
  | true =>
    rw [fault_of_live hl, failAll_eq]
    rfl
  | false => rw [fault_of_not_live hl, report]

theorem Listens.hears (hT : T.Tracks isOpen) (hs : Listens T s s') (hf : s'.faults = []) :
    Hears T s s' := by
  induction hs with
  | refl => exact .refl
  | @tail s₁ s₂ _ hs ih =>
    cases hs with
    | heard hs => exact (ih ((hs.sameConnection hT).faults ▸ hf)).tail hs
    | faulted cause =>
      rw [faults_fault] at hf
      cases hf

theorem Offered.await (ho : (s.linger T h d).Offered h) :
    (∃ f, (s.linger T h d).heard.find? (fun g => g.seq == h.seq) = some f ∧
      (s.linger T h d).table.pending = [] ∧ s.await T h d = (.ok f, s.linger T h d)) ∨
    (s.await T h d).2.heard.find? (fun g => g.seq == h.seq) = none ∧
      ∃ e, (s.await T h d).1 = .error e := by
  obtain ⟨hnone, hp, ha⟩ | ⟨f, hsome, hp, ha⟩ := ho.outcome
  · have hw : (s.linger T h d).table.awaits h.ticket = true := by
      rw [PendingTable.awaits, hp]
      exact List.any_eq_true.mpr ⟨_, List.mem_singleton.mpr rfl, beq_self_eq_true _⟩
    have hf : (s.linger T h d).table.find? h.seq = some ⟨h.seq, h.ticket⟩ := by
      rw [PendingTable.find?, hp]
      exact List.find?_cons_of_pos (beq_self_eq_true _)
    have hgiven := giveUp_of_pending (d := d) hf
    have hheard : ((s.linger T h d).giveUp h d).2.heard = (s.linger T h d).heard ++ [] :=
      heard_of_note (congrArg (fun outcome => outcome.2.journal) hgiven) Entry.noConfusion
    rw [await_of_awaits ha hw]
    refine .inr ⟨?_, _, congrArg Prod.fst hgiven⟩
    rw [hheard, List.append_nil, hnone]
  · rw [await_of_answer ha]
    exact .inl ⟨f, hsome, hp, rfl⟩

structure Fresh (s : Session σ) : Prop where
  accepts : s.table.closed = none
  empty : s.table.pending = []
  next : s.table.next = 0
  space : 2 ≤ s.table.space
  unanswered : s.answer? s.tickets = none
  journal : ∃ earlier, s.journal = .connected :: earlier

theorem Books.fresh_attachLink (hb : s.Books) (link : σ) : (s.attachLink link).Fresh where
  accepts := rfl
  empty := rfl
  next := rfl
  space := hb.sound.le_space
  unanswered := by
    have hf := hb.fates s.tickets
    rw [if_neg (Nat.lt_irrefl _), Session.fates, tally] at hf
    have hnone : s.answers.countP (fun a => a.1 == s.tickets) = 0 := by omega
    refine List.lookup_eq_none_iff.mpr fun a ha => bne_iff_ne.mpr fun he => ?_
    exact List.countP_eq_zero.mp hnone a ha (beq_iff_eq.mpr he.symm)
  journal := ⟨s.journal, rfl⟩

theorem Fresh.heard_eq_nil (hs : s.Fresh) : s.heard = [] := by
  obtain ⟨earlier, hj⟩ := hs.journal
  rw [heard, hj]
  rfl

theorem Fresh.offered (hs : s.Fresh) (he : s.enroll = .ok (h, s₁)) :
    h.seq = 0 ∧ s₁.heard = [] ∧ s₁.Offered h := by
  obtain ⟨-, -, rfl, rfl⟩ := enroll_eq_ok_iff.mp he
  have hdue : s.table.due = 0 := by
    rw [PendingTable.due, hs.next]
    rfl
  have hnext : (s.table.next + 1) % s.table.space = 1 := by
    rw [hs.next]
    exact Nat.mod_eq_of_lt hs.space
  have hheard : heard { s with
      table := s.table.enter s.tickets
      tickets := s.tickets + 1
      journal := .issued ⟨s.table.due, s.tickets⟩ :: s.journal } = [] := by
    have hne : Entry.issued ⟨s.table.due, s.tickets⟩ ≠ .connected := Entry.noConfusion
    refine (heard_of_note rfl hne).trans ?_
    rw [hs.heard_eq_nil]
    rfl
  refine ⟨hdue, hheard, hs.accepts, hnext, .inl ⟨?_, ?_, hs.unanswered⟩⟩
  · rw [hheard]
    rfl
  · rw [PendingTable.enter, hs.empty]
    rfl

theorem heard_withdraw (s : Session σ) (h : Handle) : (s.withdraw h).heard = s.heard := by
  have hj : (s.withdraw h).journal = s.journal := by
    rw [withdraw, ← cancel]
    cases hf : s.table.find? h.seq with
    | none => rw [cancel, finish_of_free hf]; rfl
    | some p => rw [cancel_of_pending hf]; rfl
  rw [heard, hj, heard]

theorem faults_withdraw (s : Session σ) (h : Handle) : (s.withdraw h).faults = s.faults := by
  have hsame : SameConnection (fun _ => true) s (s.withdraw h) :=
    sameConnection_finish s h.seq .cancelled
  exact hsame.faults

theorem faults_await (T : Transport σ) (s : Session σ) (h : Handle) (d : Duration) :
    (s.await T h d).2.faults = (s.linger T h d).faults := by
  have hsame : SameConnection (fun _ => true) (s.linger T h d) ((s.linger T h d).giveUp h d).2 :=
    sameConnection_giveUp _ h d
  exact await_keeps (P := fun s' => s'.faults = (s.linger T h d).faults) T s h d rfl
    fun _ => hsame.faults

theorem handshake_of_not_sent {e : SessionError}
    (ht : s.transmit T Opcode.handshake Version.current.toBytes = (.error e, s₁)) :
    s.handshake T = (.error e, s₁) := by
  rw [handshake, ht]

theorem handshake_of_sent
    (ht : s.transmit T Opcode.handshake Version.current.toBytes = (.ok h, s₁)) :
    (s.handshake T).2 = (s₁.await T h s.settings.handshakeTimeout).2 ∧
      (∀ f, (s₁.await T h s.settings.handshakeTimeout).1 = .ok f →
        (s.handshake T).1 = acceptReply f) ∧
      ∀ e, (s₁.await T h s.settings.handshakeTimeout).1 = .error e →
        ∃ e', (s.handshake T).1 = .error e' := by
  rw [handshake, ht]
  dsimp only
  split <;> next he => rw [he]; simp

/-- Unless the connection fails during the handshake, the first frame with the id of the offer
decides on it. -/
theorem Fresh.handshake (hT : T.Tracks isOpen) (hs : s.Fresh)
    (hf : (s.handshake T).2.faults = []) :
    (∃ f, (s.handshake T).2.heard.find? (fun g => g.seq == 0) = some f ∧
      (s.handshake T).1 = acceptReply f ∧ (s.handshake T).2.table.closed = none ∧
      (s.handshake T).2.table.pending = [] ∧ (s.handshake T).2.table.next = 1) ∨
    (s.handshake T).2.heard.find? (fun g => g.seq == 0) = none ∧
      ∃ e, (s.handshake T).1 = .error e := by
  have ht := transmitted T s Opcode.handshake Version.current.toBytes
  generalize hr : s.transmit T Opcode.handshake Version.current.toBytes = outcome at ht
  cases ht with
  | refused he =>
    rw [handshake_of_not_sent hr, hs.heard_eq_nil]
    exact .inr ⟨rfl, _, rfl⟩
  | tooLong he _ =>
    rw [handshake_of_not_sent hr, heard_withdraw, (hs.offered he).2.1]
    exact .inr ⟨rfl, _, rfl⟩
  | detached he _ =>
    rw [handshake_of_not_sent hr, heard_withdraw, (hs.offered he).2.1]
    exact .inr ⟨rfl, _, rfl⟩
  | failed he _ _ _ _ =>
    rw [handshake_of_not_sent hr, heard_withdraw]
    exact .inr ⟨congrArg _ (hs.offered he).2.1, _, rfl⟩
  | broken =>
    rw [handshake_of_not_sent hr, faults_withdraw, faults_fault] at hf
    cases hf
  | @sent h s₁ _ _ link he _ _ _ =>
    obtain ⟨hseq, -, ho⟩ := hs.offered he
    obtain ⟨hsession, hok, herror⟩ := handshake_of_sent hr
    rw [hsession] at hf ⊢
    generalize hs₂ : updateStats _ _ = s₂ at hf hok herror ⊢
    have hlistens : Listens T { s₁ with link := link } s₂ := by
      subst hs₂
      exact (listens_settle T _).trans (hears_quiet _ _ _ _).listens
    -- From the registration on, the session has only listened.
    have hall : Listens T { s₁ with link := link } (s₂.linger T h s.settings.handshakeTimeout) :=
      hlistens.trans (listens_linger T s₂ h _)
    rw [faults_await] at hf
    have ho' : (s₂.linger T h s.settings.handshakeTimeout).Offered h :=
      (hall.hears hT hf).offered ⟨ho.accepts, ho.next, ho.outcome⟩
    obtain ⟨f, hfirst, hp, hw⟩ | ⟨hnone, e, hw⟩ := ho'.await
    · rw [hseq] at hfirst
      rw [hw] at hok ⊢
      exact .inl ⟨f, hfirst, hok f rfl, ho'.accepts, hp, ho'.next⟩
    · rw [hseq] at hnone
      exact .inr ⟨hnone, herror e hw⟩

end Session
end FrameLink
