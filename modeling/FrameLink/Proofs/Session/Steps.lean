import FrameLink.Proofs.PendingTable.Sound
import FrameLink.Proofs.Session.Moves

namespace FrameLink.Session

variable {σ : Type} {T : Transport σ} {s s' s'' : Session σ} {h : Handle} {f : Frame}
  {seq : SequenceId} {p : Pending} {e : SessionError} {mine : Ticket → Prop}

structure SameRequests (s s' : Session σ) : Prop where
  table : s'.table = s.table
  tickets : s'.tickets = s.tickets
  answers : s'.answers = s.answers
  journal : s'.journal = s.journal

theorem SameRequests.trans (h₁ : SameRequests s s') (h₂ : SameRequests s' s'') :
    SameRequests s s'' where
  table := h₂.table.trans h₁.table
  tickets := h₂.tickets.trans h₁.tickets
  answers := h₂.answers.trans h₁.answers
  journal := h₂.journal.trans h₁.journal

theorem foldl_answer (e : SessionError) (tickets : List Ticket) (s : Session σ) :
    tickets.foldl (fun s ticket => s.answer ticket (.error e)) s =
      { s with answers := s.answers ++ tickets.map fun ticket => (ticket, .error e) } := by
  induction tickets generalizing s with
  | nil => simp
  | cons ticket tickets ih =>
    rw [List.foldl_cons, ih]
    simp [answer]

theorem failAll_eq (s : Session σ) (e : SessionError) :
    s.failAll e =
      { s with
        table := (s.table.failAll e).2
        answers := s.answers ++ s.table.pending.map fun p => (p.ticket, .error e) } := by
  rw [failAll]
  simp only [foldl_answer, PendingTable.failAll, List.map_map]
  rfl

theorem finish_of_free (hf : s.table.find? seq = none) (outcome : Completion) :
    s.finish seq outcome = (false, s.tick) := by
  have ht : s.tick.table.find? seq = none := hf
  simp only [finish, PendingTable.finish_of_free ht]

theorem cancel_of_pending (hp : s.table.find? seq = some p) :
    s.cancel seq =
      (true, { s.tick with
        table := s.table.retire seq s.tick.clock .cancelled
        answers := s.answers ++ [(p.ticket, .error (.cancelled seq))] }) := by
  have ht : s.tick.table.find? seq = some p := hp
  simp only [cancel, finish, PendingTable.finish_of_pending ht]
  rfl

theorem timeOut_of_pending (hp : s.table.find? seq = some p) :
    s.finish seq .timedOut =
      (true, { s.tick with
        table := s.table.retire seq s.tick.clock .timedOut
        journal := .lapsed p.ticket :: s.journal }) := by
  have ht : s.tick.table.find? seq = some p := hp
  simp only [finish, PendingTable.finish_of_pending ht]
  rfl

theorem publish_same (s : Session σ) (f : Frame) : SameRequests s (s.publish f) := by
  rw [publish]
  split <;> exact ⟨rfl, rfl, rfl, rfl⟩

theorem phase_publish (s : Session σ) (f : Frame) : (s.publish f).phase = s.phase := by
  obtain ⟨_, h⟩ := publish_eq s f
  rw [h]

theorem route_of_pending (hp : s.table.find? f.seq = some p) :
    s.route f =
      { s.tick with
        table := (s.table.prune s.tick.clock).retire f.seq s.tick.clock .completed
        answers := s.answers ++ [(p.ticket, .ok f)]
        journal := .routed f :: s.journal } := by
  have hn : (s.tick.note (.routed f)).table.find? f.seq = some p := hp
  simp only [route, PendingTable.route_of_pending _ hn]
  rfl

/-- A frame that answers no request is a response that came too late, or an event. -/
theorem route_cases_of_free (hf : s.table.find? f.seq = none) :
    let routed := { s.tick.note (.routed f) with table := s.table.prune s.tick.clock }
    s.route f = routed.updateStats (fun st =>
        { st with duplicateResponses := st.duplicateResponses + 1 }) ∨
      s.route f = routed.publish f := by
  have hn : (s.tick.note (.routed f)).table.find? f.seq = none := hf
  obtain ⟨r, hr, hne⟩ := PendingTable.route_of_free (s.tick.note (.routed f)).clock hn
  cases r with
  | completed ticket => exact absurd rfl (hne ticket)
  | duplicate outcome =>
    refine .inl ?_
    simp only [route, hr]
    rfl
  | unmatched =>
    refine .inr ?_
    simp only [route, hr]
    rfl

theorem route_of_free (hf : s.table.find? f.seq = none) :
    (s.route f).phase = s.phase ∧
      SameRequests
        { s with table := s.table.prune s.tick.clock, journal := .routed f :: s.journal }
        (s.route f) := by
  obtain he | he := route_cases_of_free hf
  · rw [he]
    exact ⟨rfl, rfl, rfl, rfl, rfl⟩
  · rw [he]
    refine ⟨phase_publish _ f, SameRequests.trans ?_ (publish_same _ f)⟩
    exact ⟨rfl, rfl, rfl, rfl⟩

theorem enroll_eq_ok_iff :
    s.enroll = .ok (h, s') ↔
      s.table.closed = none ∧ s.table.isPending s.table.due = false ∧
        h = ⟨s.table.due, s.tickets⟩ ∧
        s' = { s with
          table := s.table.enter s.tickets
          tickets := s.tickets + 1
          journal := .issued h :: s.journal } := by
  rw [enroll]
  cases hr : s.table.register s.tickets with
  | error e =>
    have hne : ¬ (s.table.closed = none ∧ s.table.isPending s.table.due = false) := by
      intro hok
      rw [PendingTable.register_of_free hok.1 hok.2] at hr
      cases hr
    constructor
    · intro he; cases he
    · intro hok; exact absurd ⟨hok.1, hok.2.1⟩ hne
  | ok given =>
    obtain ⟨seq, table⟩ := given
    obtain ⟨hc, hp, rfl, rfl⟩ := PendingTable.register_eq_ok_iff.mp hr
    simp only [Except.ok.injEq, Prod.mk.injEq, hc, hp, true_and]
    constructor
    · rintro ⟨rfl, rfl⟩; exact ⟨rfl, rfl⟩
    · rintro ⟨rfl, rfl⟩; exact ⟨rfl, rfl⟩

/-- What can happen to the requests of a session. Of those that time out `mine` tells which they
are. -/
inductive Step (mine : Ticket → Prop) : Session σ → Session σ → Prop
  | quiet {s s' : Session σ} : s'.phase = s.phase → SameRequests s s' → Step mine s s'
  | enrolled {s s' : Session σ} {h : Handle} : s.enroll = .ok (h, s') → Step mine s s'
  | routed (s : Session σ) (f : Frame) : Step mine s (s.route f)
  | cancelled (s : Session σ) (seq : SequenceId) : Step mine s (s.cancel seq).2
  | lapsed {s : Session σ} {seq : SequenceId} :
    (∀ p, s.table.find? seq = some p → mine p.ticket) → Step mine s (s.finish seq .timedOut).2
  | faulted {s : Session σ} (cause : String) : s.phase.isLive = true →
    Step mine s ((s.setPhase .faulted).failAll (.sessionFaulted cause))

abbrev Steps (mine : Ticket → Prop) : Session σ → Session σ → Prop :=
  Relation.ReflTransGen (Step mine)

theorem Step.steps (h : Step mine s s') : Steps mine s s' := .single h

theorem SameRequests.steps (hs : SameRequests s s') (hp : s'.phase = s.phase) : Steps mine s s' :=
  .single (.quiet hp hs)

theorem steps_link (s : Session σ) (link : σ) : Steps mine s { s with link := link } :=
  SameRequests.steps ⟨rfl, rfl, rfl, rfl⟩ rfl

theorem steps_report (s : Session σ) (cause : SessionError) : Steps mine s (s.report cause) :=
  SameRequests.steps ⟨rfl, rfl, rfl, rfl⟩ rfl

theorem steps_fault (T : Transport σ) (s : Session σ) (cause : SessionError) :
    Steps mine s (s.fault T cause) := by
  rw [fault]
  split
  · next hl =>
    refine (steps_report s cause).trans ?_
    refine Relation.ReflTransGen.trans (Step.steps (.faulted cause.message hl)) ?_
    exact SameRequests.steps ⟨rfl, rfl, rfl, rfl⟩ rfl
  · exact steps_report s cause

theorem Hear.step (hs : Hear T s s') : Step mine s s' := by
  cases hs with
  | quiet => exact .quiet rfl ⟨rfl, rfl, rfl, rfl⟩
  | routed f => exact .routed s f

theorem Listens.steps (hs : Listens T s s') : Steps mine s s' := by
  induction hs with
  | refl => exact .refl
  | @tail s₁ _ _ hs ih =>
    cases hs with
    | heard hs => exact ih.tail hs.step
    | faulted cause => exact ih.trans (steps_fault T s₁ cause)

theorem steps_settleWithin (T : Transport σ) (n : Nat) (s : Session σ) :
    Steps mine s (settleWithin T n s) :=
  (listens_settleWithin T n s).steps

theorem steps_idle (T : Transport σ) (s : Session σ) (d : Duration) : Steps mine s (s.idle T d) :=
  (listens_idle T s d).steps

theorem steps_cancel (s : Session σ) (seq : SequenceId) : Steps mine s (s.cancel seq).2 :=
  Step.steps (.cancelled s seq)

theorem steps_withdraw (s : Session σ) (h : Handle) : Steps mine s (s.withdraw h) :=
  steps_cancel s h.seq

theorem steps_giveUp (hm : ∀ p, s.table.find? h.seq = some p → mine p.ticket) (d : Duration) :
    Steps mine s (s.giveUp h d).2 := by
  obtain ⟨n, hn⟩ := giveUp_eq s h d
  rw [hn]
  exact (Step.steps (.lapsed hm)).trans (SameRequests.steps ⟨rfl, rfl, rfl, rfl⟩ rfl)

theorem transmit_cases (mine : Ticket → Prop) (T : Transport σ) (s : Session σ) (opcode : UInt8)
    (payload : Bytes) :
    (∃ e, s.transmit T opcode payload = (.error e, s)) ∨
      ∃ h s₁ s₂, s.enroll = .ok (h, s₁) ∧ Steps mine s₁ s₂ ∧
        (s.transmit T opcode payload = (.ok h, s₂) ∨
          ∃ e, s.transmit T opcode payload = (.error e, s₂)) := by
  have ht := transmitted T s opcode payload
  generalize s.transmit T opcode payload = outcome at ht
  cases ht with
  | @refused e he => exact .inl ⟨e, rfl⟩
  | @tooLong h s₁ e he _ => exact .inr ⟨h, s₁, _, he, steps_withdraw s₁ h, .inr ⟨_, rfl⟩⟩
  | @detached h s₁ he _ => exact .inr ⟨h, s₁, _, he, steps_withdraw s₁ h, .inr ⟨_, rfl⟩⟩
  | @broken h s₁ _ e link he _ _ _ _ =>
    refine .inr ⟨h, s₁, _, he, (steps_link s₁ link).trans ?_, .inr ⟨_, rfl⟩⟩
    exact (steps_fault T _ _).trans (steps_withdraw _ h)
  | @failed h s₁ _ e link he _ _ _ _ =>
    refine .inr ⟨h, s₁, _, he, (steps_link s₁ link).trans ?_, .inr ⟨_, rfl⟩⟩
    exact steps_withdraw _ h
  | @sent h s₁ _ n link he _ _ _ =>
    refine .inr ⟨h, s₁, _, he, ?_, .inl rfl⟩
    refine ((steps_link s₁ link).trans (listens_settle T _).steps).trans ?_
    exact SameRequests.steps ⟨rfl, rfl, rfl, rfl⟩ rfl

theorem steps_transmit (T : Transport σ) (s : Session σ) (opcode : UInt8) (payload : Bytes) :
    Steps mine s (s.transmit T opcode payload).2 := by
  obtain ⟨e, he⟩ | ⟨h, s₁, s₂, he, hs, hr⟩ := transmit_cases mine T s opcode payload
  · rw [he]
  · have hall := (Step.steps (.enrolled he)).trans hs
    obtain hr | ⟨e, hr⟩ := hr <;> rwa [hr]

theorem steps_send (T : Transport σ) (s : Session σ) (opcode : UInt8) (payload : Bytes) :
    Steps mine s (s.send T opcode payload).2 := by
  rw [send]
  split
  · exact steps_transmit T s opcode payload
  · exact steps_transmit T s opcode payload
  · exact .refl

theorem enroll_of_send {opcode : UInt8} {payload : Bytes} (mine : Ticket → Prop)
    (hs : s.send T opcode payload = (.ok h, s')) :
    ∃ s₁, s.enroll = .ok (h, s₁) ∧ Steps mine s₁ s' := by
  have ht : s.transmit T opcode payload = (.ok h, s') := by
    rw [send] at hs
    split at hs
    · exact hs
    · exact hs
    · cases hs
  obtain ⟨e, he⟩ | ⟨h', s₁, s₂, he, hsteps, hr | ⟨e, hr⟩⟩ := transmit_cases mine T s opcode payload
  · rw [he] at ht
    cases ht
  · rw [hr] at ht
    cases ht
    exact ⟨s₁, he, hsteps⟩
  · rw [hr] at ht
    cases ht

theorem steps_linger (T : Transport σ) (s : Session σ) (h : Handle) (timeout : Duration) :
    Steps mine s (s.linger T h timeout) :=
  (listens_linger T s h timeout).steps

theorem steps_subscribe (s : Session σ) : Steps mine s s.subscribe.2 :=
  SameRequests.steps ⟨rfl, rfl, rfl, rfl⟩ rfl

theorem steps_nextEvent (s : Session σ) (id : StreamId) : Steps mine s (s.nextEvent id).2 := by
  rw [nextEvent]
  split
  · exact .refl
  · exact SameRequests.steps ⟨rfl, rfl, rfl, rfl⟩ rfl

theorem steps_unsubscribe (s : Session σ) (id : StreamId) : Steps mine s (s.unsubscribe id) :=
  SameRequests.steps ⟨rfl, rfl, rfl, rfl⟩ rfl

end FrameLink.Session
