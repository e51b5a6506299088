import FrameLink.Proofs.Session.Books
import FrameLink.Proofs.Session.Growth

namespace FrameLink

def Greeting (journal : List Entry) (ticket : Ticket) : Prop :=
  ∃ h earlier, .issued h :: .connected :: earlier <:+ journal ∧ h.ticket = ticket

theorem Greeting.mono {journal journal' : List Entry} {ticket : Ticket}
    (hg : Greeting journal ticket) (hj : journal <:+ journal') : Greeting journal' ticket := by
  obtain ⟨h, earlier, hs, ht⟩ := hg
  exact ⟨h, earlier, hs.trans hj, ht⟩

namespace Session

variable {σ : Type} {T : Transport σ} {s s' : Session σ} {h : Handle} {reply : Reply}
  {mine : Ticket → Prop} {d : Duration}

theorem mem_answers_of_answer? {ticket : Ticket} (ha : s.answer? ticket = some reply) :
    (ticket, reply) ∈ s.answers := by
  obtain ⟨front, back, hl, -⟩ := List.lookup_eq_some_iff.mp ha
  rw [hl]
  exact List.mem_append_right front List.mem_cons_self

theorem not_mem_of_answer? {ticket : Ticket} (ha : s.answer? ticket = none) :
    (ticket, reply) ∉ s.answers := by
  intro hm
  have hne := List.lookup_eq_none_iff.mp ha _ hm
  simp at hne

/-- What a waiting caller obtains. It is the answer to the request, or a timeout, if a request with
its id has timed out, its own or a later one. It is the end of the session if another caller has
timed out the request. -/
inductive Yields (s : Session σ) (h : Handle) : Reply → Prop
  | answer {reply : Reply} : (h.ticket, reply) ∈ s.answers → Rightful s.journal h reply →
    Yields s h reply
  | timeout {h' : Handle} (d : Duration) : h' ∈ s.issued → h'.seq = h.seq → h.ticket ≤ h'.ticket →
    .lapsed h'.ticket ∈ s.journal → Yields s h (.error (.requestTimeout h.seq d))
  | deserted : .lapsed h.ticket ∈ s.journal → Yields s h (.error .sessionClosed)

/-- Whether a request is pending, and whoever waits for it still does. -/
def Undecided (s : Session σ) (p : Pending) : Prop :=
  p ∈ s.table.pending ∧ (s.answer? p.ticket).isNone = true

instance (s : Session σ) (p : Pending) : Decidable (s.Undecided p) :=
  inferInstanceAs (Decidable (_ ∧ _))

theorem outcome?_of_answer (ha : s.answer? h.ticket = some reply) : s.outcome? h = some reply := by
  rw [outcome?, ha]

theorem outcome?_eq_none_iff :
    s.outcome? h = none ↔ s.answer? h.ticket = none ∧ s.table.awaits h.ticket = true := by
  rw [outcome?]
  cases s.answer? h.ticket with
  | some reply => simp
  | none => cases s.table.awaits h.ticket <;> simp

theorem giveUp_of_free (hf : s.table.find? h.seq = none) :
    s.giveUp h d = ((s.answer? h.ticket).getD (.error (.requestTimeout h.seq d)), s.tick) := by
  simp only [giveUp, finish_of_free hf]
  rfl

theorem giveUp_of_pending {p : Pending} (hp : s.table.find? h.seq = some p) :
    s.giveUp h d =
      (.error (.requestTimeout h.seq d),
        { s.tick with
          table := s.table.retire h.seq s.tick.clock .timedOut
          journal := .lapsed p.ticket :: s.journal
          stats := { s.stats with requestTimeouts := s.stats.requestTimeouts + 1 } }) := by
  simp only [giveUp, timeOut_of_pending hp]
  rfl

theorem await_of_answer (ha : (s.linger T h d).answer? h.ticket = some reply) :
    s.await T h d = (reply, s.linger T h d) := by
  simp only [await, outcome?_of_answer ha]

theorem await_of_awaits (ha : (s.linger T h d).answer? h.ticket = none)
    (hw : (s.linger T h d).table.awaits h.ticket = true) :
    s.await T h d = (s.linger T h d).giveUp h d := by
  simp only [await, outcome?_eq_none_iff.mpr ⟨ha, hw⟩]

namespace Books

theorem undecided_of_pending (hb : s.Books) (hp : p ∈ s.table.pending) : s.Undecided p := by
  refine ⟨hp, Option.isNone_iff_eq_none.mpr ?_⟩
  cases ha : s.answer? p.ticket with
  | none => rfl
  | some reply =>
    have hf : s.fates p.ticket = 1 := hb.fates_eq_one (hb.issued_of_pending hp)
    have hpending : 0 < s.table.pending.countP (fun q => q.ticket == p.ticket) :=
      List.countP_pos_iff.mpr ⟨p, hp, beq_self_eq_true _⟩
    have hanswers : 0 < s.answers.countP (fun a => a.1 == p.ticket) :=
      List.countP_pos_iff.mpr ⟨_, mem_answers_of_answer? ha, beq_self_eq_true _⟩
    rw [Session.fates, tally] at hf
    omega

theorem lapsed_of_open (hb : s.Books) (hi : h ∈ s.issued) (ha : s.answer? h.ticket = none)
    (hw : s.table.awaits h.ticket = false) : .lapsed h.ticket ∈ s.journal := by
  have hf := hb.fates_eq_one hi
  have hanswers : s.answers.countP (fun a => a.1 == h.ticket) = 0 := by
    rw [List.countP_eq_zero]
    rintro ⟨ticket, reply⟩ hm he
    obtain rfl : ticket = h.ticket := beq_iff_eq.mp he
    exact not_mem_of_answer? ha hm
  have hpending : s.table.pending.countP (fun p => p.ticket == h.ticket) = 0 :=
    List.countP_eq_zero.mpr (List.any_eq_false.mp hw)
  rw [Session.fates, tally, hanswers, hpending, Nat.zero_add] at hf
  exact List.count_pos_iff.mp (Nat.lt_of_lt_of_eq Nat.zero_lt_one hf.symm)

theorem rightful (hb : s.Books) (hi : h ∈ s.issued) (hm : (h.ticket, reply) ∈ s.answers) :
    Rightful s.journal h reply := by
  obtain ⟨h', hi', ht, hr⟩ := hb.answers _ _ hm
  rwa [hb.eq_of_ticket hi' hi ht] at hr

theorem outcome_yields (hb : s.Books) (hi : h ∈ s.issued) (ho : s.outcome? h = some reply) :
    s.Yields h reply := by
  cases ha : s.answer? h.ticket with
  | some reply' =>
    obtain rfl : reply' = reply := by rwa [outcome?_of_answer ha, Option.some.injEq] at ho
    exact .answer (mem_answers_of_answer? ha) (hb.rightful hi (mem_answers_of_answer? ha))
  | none =>
    cases hw : s.table.awaits h.ticket with
    | true => rw [outcome?_eq_none_iff.mpr ⟨ha, hw⟩] at ho; cases ho
    | false =>
      rw [outcome?, ha, hw] at ho
      cases ho
      exact .deserted (hb.lapsed_of_open hi ha hw)

theorem giveUp_yields (hb : s.Books) (hi : h ∈ s.issued) (d : Duration) :
    (s.giveUp h d).2.Yields h (s.giveUp h d).1 := by
  cases hf : s.table.find? h.seq with
  | none =>
    rw [giveUp_of_free hf]
    have hw : s.table.awaits h.ticket = false := by
      rw [Bool.eq_false_iff]
      intro hw
      rw [hb.find?_of_awaits hi hw] at hf
      cases hf
    cases ha : s.answer? h.ticket with
    | some reply =>
      have hm := mem_answers_of_answer? ha
      exact .answer hm (hb.rightful hi hm)
    | none => exact .timeout d hi rfl (Nat.le_refl _) (hb.lapsed_of_open hi ha hw)
  | some p =>
    rw [giveUp_of_pending hf]
    have hp := PendingTable.mem_of_find? hf
    have hseq : p.seq = h.seq := PendingTable.seq_of_find? hf
    have hle := hb.le_of_same_id hp hi hseq
    refine .timeout d (?_ : p.handle ∈ _) hseq hle List.mem_cons_self
    exact mem_issued.mpr (List.mem_cons_of_mem _ (hb.undisturbed p hp).mem)

/-- Whatever takes out the request that waits under the id of a handle leaves all others alone
unless that request is a later one. -/
theorem spares_iff (hb : s.Books) (hi : h ∈ s.issued) (hb' : s'.Books)
    (hm : ∀ p, p ∈ s'.table.pending ↔ p ∈ s.table.pending ∧ p.seq ≠ h.seq) :
    (∀ p ∈ s.table.pending, p.ticket ≠ h.ticket → s'.Undecided p) ↔
      ¬ ∃ p ∈ s.table.pending, p.seq = h.seq ∧ h.ticket < p.ticket := by
  constructor
  · rintro hkeep ⟨p, hp, hs, hlt⟩
    exact ((hm p).mp (hkeep p hp (Nat.ne_of_gt hlt)).1).2 hs
  · intro hnone p hp hne
    refine hb'.undecided_of_pending ((hm p).mpr ⟨hp, fun hs => hnone ?_⟩)
    exact ⟨p, hp, hs, hb.lt_of_same_id hp hi hs hne⟩

theorem giveUp_spares_iff (hb : s.Books) (hi : h ∈ s.issued) (d : Duration) :
    (∀ p ∈ s.table.pending, p.ticket ≠ h.ticket → (s.giveUp h d).2.Undecided p) ↔
      ¬ ∃ p ∈ s.table.pending, p.seq = h.seq ∧ h.ticket < p.ticket := by
  have hsteps : Steps (fun _ => True) s (s.giveUp h d).2 := steps_giveUp (fun _ _ => trivial) d
  refine hb.spares_iff hi (hb.steps hsteps) fun p => ?_
  cases hf : s.table.find? h.seq with
  | none =>
    rw [giveUp_of_free hf]
    exact (and_iff_left_of_imp fun hp => PendingTable.find?_eq_none_iff.mp hf p hp).symm
  | some q =>
    rw [giveUp_of_pending hf]
    exact PendingTable.mem_retire

end Books

theorem steps_await (hb : s.Books) (T : Transport σ) (hi : h ∈ s.issued) (d : Duration) :
    Steps (· = h.ticket) s (s.await T h d).2 := by
  have hl : Steps (· = h.ticket) s (s.linger T h d) := steps_linger T s h d
  obtain he | ⟨ho, he⟩ := await_cases T s h d
  · rwa [he]
  · rw [he]
    refine hl.trans (steps_giveUp (fun p hp => ?_) d)
    -- The books say that the request under the id of the handle is its own.
    have hi' : h ∈ (s.linger T h d).issued :=
      mem_issued.mpr (hl.grows.journal.subset (mem_issued.mp hi))
    rw [(hb.steps hl).find?_of_awaits hi' (outcome?_eq_none_iff.mp ho).2] at hp
    cases hp
    rfl

/-- The books of a session between the calls of its users. -/
structure Settled (s : Session σ) : Prop where
  books : s.Books
  accepts : s.Accepts .ready

theorem Settled.pending_eq_nil (hs : s.Settled) (hp : s.phase ≠ .ready) :
    s.table.pending = [] :=
  hs.books.sound.closed fun hc => hp (hs.accepts hc)

theorem Settled.steps (hs : s.Settled) (h : Steps mine s s') : s'.Settled :=
  ⟨hs.books.steps h, h.accepts hs.accepts⟩

theorem Settled.new (settings : SessionSettings) (selector : Selector) (pace : Pace) (link : σ) :
    (Session.new settings selector pace link).Settled :=
  ⟨.new settings selector pace link, nofun⟩

theorem Settled.failAll (hs : s.Settled) (hsame : SameRequests (s.failAll .sessionClosed) s') :
    s'.Settled ∧ Grows mine s s' := by
  refine ⟨⟨(hs.books.failAll _ fun _ _ => .closed).of_same hsame, ?_⟩, ?_⟩
  · intro hc
    rw [hsame.table, failAll_eq] at hc
    cases hc
  · exact (grows_failAll s .sessionClosed).trans (.of_same hsame)

theorem Settled.close (hs : s.Settled) (T : Transport σ) :
    (s.close T).Settled ∧ Grows mine s (s.close T) := by
  rw [Session.close]
  split
  · exact ⟨hs, .refl s⟩
  · refine hs.failAll ?_
    rw [failAll_eq, failAll_eq]
    exact ⟨rfl, rfl, rfl, rfl⟩

theorem Settled.abandon (hs : s.Settled) (T : Transport σ) :
    (s.abandon T).Settled ∧ Grows mine s (s.abandon T) :=
  hs.failAll ⟨rfl, rfl, rfl, rfl⟩

theorem closed_fault (ha : s.Accepts .handshaking) (cause : SessionError) :
    (s.fault T cause).table.closed ≠ none := by
  rw [fault]
  split
  · rw [failAll_eq]
    exact Option.some_ne_none _
  · next hl =>
    intro hc
    have hp : (s.report cause).phase = .handshaking := ha hc
    rw [hp] at hl
    exact hl rfl

theorem handshake_cases (hb : s.Books) (T : Transport σ) :
    (s.handshake T).2 = s ∨
      ∃ h s₁, s.enroll = .ok (h, s₁) ∧ Steps (· = h.ticket) s₁ (s.handshake T).2 := by
  rw [handshake]
  have ht := transmit_cases (fun ticket => ticket = s.tickets) T s Opcode.handshake
    Version.current.toBytes
  obtain ⟨e, he⟩ | ⟨h, s₁, s₂, he, hs, hr⟩ := ht
  · rw [he]
    exact .inl rfl
  · obtain ⟨-, -, rfl, rfl⟩ := enroll_eq_ok_iff.mp he
    refine .inr ⟨_, _, he, ?_⟩
    obtain hr | ⟨e, hr⟩ := hr
    · rw [hr]
      have hi := mem_issued.mpr (hs.grows.journal.subset List.mem_cons_self)
      have hw := hs.trans (steps_await ((hb.enroll he).steps hs) T hi s.settings.handshakeTimeout)
      split
      · next he => cases he
      · next h' s' he =>
        cases he
        split <;> next hw' => rw [hw'] at hw; exact hw
    · rw [hr]
      exact hs

theorem connect_cases (T : Transport σ) (s : Session σ) :
    (s.connect T).2 = s ∨
      s.phase.isLive = false ∧
        (SameRequests s (s.connect T).2 ∨
          ∃ link s', (((s.setPhase .handshaking).attachLink link).handshake T).2 = s' ∧
            ((s.connect T).2 = s'.setPhase .ready ∨ ∃ cause, (s.connect T).2 = s'.fault T cause)) := by
  rw [connect]
  split
  · exact .inl rfl
  · next hl =>
    refine .inr ⟨Bool.eq_false_iff.mpr hl, ?_⟩
    dsimp only
    split
    · exact .inl ⟨rfl, rfl, rfl, rfl⟩
    · next link _ =>
      refine .inr ⟨link, _, rfl, ?_⟩
      split
      · next version s' he =>
        rw [he]
        split
        · exact .inl rfl
        · exact .inr ⟨_, rfl⟩
      · next e s' he =>
        rw [he]
        exact .inr ⟨_, rfl⟩

theorem handshake_settled (hb : s.Books) (hj : ∃ earlier, s.journal = .connected :: earlier)
    (ha : s.Accepts .handshaking) (T : Transport σ) :
    (s.handshake T).2.Books ∧ (s.handshake T).2.Accepts .handshaking ∧
      Grows (fun ticket => s.tickets ≤ ticket ∧ Greeting (s.handshake T).2.journal ticket) s
        (s.handshake T).2 := by
  obtain hh | ⟨h, s₁, he, hs⟩ := handshake_cases hb T
  · rw [hh]
    exact ⟨hb, ha, .refl s⟩
  · have hall : Steps (· = h.ticket) s (s.handshake T).2 := (Step.steps (.enrolled he)).trans hs
    refine ⟨hb.steps hall, hall.accepts ha, hall.grows.answers, hall.grows.journal, ?_⟩
    intro ticket hl
    obtain hl | rfl := hall.grows.lapsed ticket hl
    · exact .inl hl
    · obtain ⟨earlier, hj⟩ := hj
      obtain ⟨-, -, rfl, rfl⟩ := enroll_eq_ok_iff.mp he
      refine .inr ⟨Nat.le_refl _, _, earlier, ?_, rfl⟩
      have hsuffix := hs.grows.journal
      rwa [hj] at hsuffix

theorem Settled.connect (hs : s.Settled) (T : Transport σ) :
    (s.connect T).2.Settled ∧
      Grows (fun ticket => s.tickets ≤ ticket ∧ Greeting (s.connect T).2.journal ticket) s
        (s.connect T).2 := by
  obtain hc | ⟨hl, hsame | ⟨link, s', rfl, hc⟩⟩ := connect_cases T s
  · rw [hc]
    exact ⟨hs, .refl s⟩
  · refine ⟨⟨hs.books.of_same hsame, ?_⟩, .of_same hsame⟩
    intro hn
    rw [hsame.table] at hn
    rw [hs.accepts hn] at hl
    cases hl
  · have hp : s.table.pending = [] := by
      refine hs.pending_eq_nil fun hr => ?_
      rw [hr] at hl
      cases hl
    have hb₀ : (s.setPhase .handshaking).Books := hs.books.of_same ⟨rfl, rfl, rfl, rfl⟩
    have hb₁ := hb₀.attachLink hp link
    obtain ⟨hb, ha, hg⟩ := handshake_settled hb₁ ⟨s.journal, rfl⟩ (fun _ => rfl) T
    -- What follows the handshake is one step, and it leaves the table closed or the session ready.
    have hlast : (s.connect T).2.Settled ∧
        Grows (fun _ => False) (((s.setPhase .handshaking).attachLink link).handshake T).2
          (s.connect T).2 := by
      obtain hc | ⟨cause, hc⟩ := hc
      · rw [hc]
        exact ⟨⟨hb.of_same ⟨rfl, rfl, rfl, rfl⟩, fun _ => rfl⟩, .of_same ⟨rfl, rfl, rfl, rfl⟩⟩
      · rw [hc]
        have hf : Steps (fun _ => False) _ (fault T _ cause) := steps_fault T
          (((s.setPhase .handshaking).attachLink link).handshake T).2 cause
        exact ⟨⟨hb.steps hf, fun hn => absurd hn (closed_fault ha cause)⟩, hf.grows⟩
    obtain ⟨hsettled, hgrows⟩ := hlast
    refine ⟨hsettled, List.Subset.trans hg.answers hgrows.answers, ?_, ?_⟩
    · exact ((List.suffix_cons ..).trans hg.journal).trans hgrows.journal
    · intro ticket hl
      obtain hl | hl := hgrows.lapsed ticket hl
      · obtain hl | ⟨ht, hl⟩ := hg.lapsed ticket hl
        · cases hl with
          | tail _ hl => exact .inl hl
        · exact .inr ⟨ht, hl.mono hgrows.journal⟩
      · exact hl.elim

end Session
end FrameLink
