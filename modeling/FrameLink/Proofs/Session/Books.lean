import FrameLink.Proofs.Session.Steps
import Mathlib.Data.List.Basic

namespace FrameLink

def Pending.handle (p : Pending) : Handle := ⟨p.seq, p.ticket⟩

def Entry.handle? : Entry → Option Handle
  | issued h => some h
  | _ => none

def Entry.frame? : Entry → Option Frame
  | .routed f => some f
  | _ => none

def Entry.Spares (seq : SequenceId) : Entry → Prop
  | connected => False
  | issued h => h.seq ≠ seq
  | routed f => f.seq ≠ seq
  | lapsed _ => True

/-- Since the request was registered there has been no new connection, and neither a frame with its
id nor another request with its id. -/
def Undisturbed (journal : List Entry) (h : Handle) : Prop :=
  ∃ since earlier, journal = since ++ .issued h :: earlier ∧ ∀ e ∈ since, e.Spares h.seq

/-- What a request may be answered with, given what has happened. A response is the first frame with
the id of the request since it was registered, on the same connection. -/
inductive Rightful (journal : List Entry) (h : Handle) : Reply → Prop
  | response {f : Frame} {later earlier : List Entry} : journal = later ++ .routed f :: earlier →
    f.seq = h.seq → Undisturbed earlier h → Rightful journal h (.ok f)
  | cancelled : Rightful journal h (.error (.cancelled h.seq))
  | closed : Rightful journal h (.error .sessionClosed)
  | faulted (cause : String) : Rightful journal h (.error (.sessionFaulted cause))

variable {journal : List Entry} {h h' : Handle} {reply : Reply} {entry : Entry}

theorem Undisturbed.issued (journal : List Entry) (h : Handle) :
    Undisturbed (.issued h :: journal) h :=
  ⟨[], journal, rfl, nofun⟩

theorem Undisturbed.cons (hu : Undisturbed journal h) (hs : entry.Spares h.seq) :
    Undisturbed (entry :: journal) h := by
  obtain ⟨since, earlier, rfl, hsince⟩ := hu
  refine ⟨entry :: since, earlier, rfl, ?_⟩
  intro e he
  cases List.mem_cons.mp he with
  | inl he => rwa [he]
  | inr he => exact hsince e he

theorem Undisturbed.mem (hu : Undisturbed journal h) : .issued h ∈ journal := by
  obtain ⟨since, earlier, rfl, -⟩ := hu
  exact List.mem_append_right since List.mem_cons_self

theorem Rightful.cons (hr : Rightful journal h reply) (entry : Entry) :
    Rightful (entry :: journal) h reply := by
  cases hr with
  | @response f later earlier hj hf hu =>
    subst hj
    exact .response (List.cons_append ..).symm hf hu
  | cancelled => exact .cancelled
  | closed => exact .closed
  | faulted cause => exact .faulted cause

def tally (pending : List Pending) (answers : List (Ticket × Reply)) (journal : List Entry)
    (ticket : Ticket) : Nat :=
  pending.countP (fun p => p.ticket == ticket) + answers.countP (fun a => a.1 == ticket) +
    journal.count (.lapsed ticket)

section

variable (pending : List Pending) (answers : List (Ticket × Reply)) (journal : List Entry)
  (ticket : Ticket)

theorem tally_enter (p : Pending) :
    tally (pending ++ [p]) answers journal ticket =
      tally pending answers journal ticket + if p.ticket = ticket then 1 else 0 := by
  simp only [tally, List.countP_append, List.countP_singleton, beq_iff_eq]
  omega

theorem tally_answer (answered : Ticket) (reply : Reply) :
    tally pending (answers ++ [(answered, reply)]) journal ticket =
      tally pending answers journal ticket + if answered = ticket then 1 else 0 := by
  simp only [tally, List.countP_append, List.countP_singleton, beq_iff_eq]
  omega

theorem tally_lapse (lapsed : Ticket) :
    tally pending answers (.lapsed lapsed :: journal) ticket =
      tally pending answers journal ticket + if lapsed = ticket then 1 else 0 := by
  simp only [tally, List.count_cons, beq_iff_eq, Entry.lapsed.injEq]
  omega

theorem tally_note {entry : Entry} (hne : ∀ lapsed, entry ≠ .lapsed lapsed) :
    tally pending answers (entry :: journal) ticket = tally pending answers journal ticket := by
  rw [tally, List.count_cons_of_ne (hne ticket), tally]

theorem tally_failAll (reply : Reply) :
    tally [] (answers ++ pending.map fun p => (p.ticket, reply)) journal ticket =
      tally pending answers journal ticket := by
  simp only [tally, List.countP_nil, List.countP_append, List.countP_map, Function.comp_def]
  omega

end

namespace PendingTable

variable {t : PendingTable} {seq : SequenceId} {p : Pending}

/-- One request leaves the table, and no other. -/
theorem Sound.perm_retire (ht : t.Sound) (hp : t.find? seq = some p) (now : Nat)
    (outcome : Completion) : t.pending.Perm (p :: (t.retire seq now outcome).pending) := by
  have hseq : p.seq = seq := seq_of_find? hp
  obtain ⟨-, front, back, hpending, hfront⟩ := List.find?_eq_some_iff_append.mp hp
  have hd := ht.distinct
  rw [hpending, List.map_append, List.map_cons] at hd
  have hback : ∀ q ∈ back, (q.seq != seq) = true := by
    intro q hq
    have hn := (List.nodup_cons.mp (List.nodup_append.mp hd).2.1).1
    refine bne_iff_ne.mpr fun he => hn ?_
    rw [hseq, ← he]
    exact List.mem_map_of_mem hq
  have hkeep : ∀ q ∈ front, (q.seq != seq) = true := fun q hq => by simpa using hfront q hq
  have hrest : (t.retire seq now outcome).pending = front ++ back := by
    rw [PendingTable.retire, hpending, List.filter_append, List.filter_cons_of_neg (by simp [hseq]),
      List.filter_eq_self.mpr hkeep, List.filter_eq_self.mpr hback]
  rw [hrest, hpending]
  exact List.perm_middle

theorem Sound.tally_retire (ht : t.Sound) (hp : t.find? seq = some p) (now : Nat)
    (outcome : Completion) (answers : List (Ticket × Reply)) (journal : List Entry)
    (ticket : Ticket) :
    tally t.pending answers journal ticket =
      tally (t.retire seq now outcome).pending answers journal ticket +
        if p.ticket = ticket then 1 else 0 := by
  simp only [tally, (ht.perm_retire hp now outcome).countP_eq, List.countP_cons, beq_iff_eq]
  omega

end PendingTable

namespace Session

variable {σ : Type} {s s' : Session σ} {seq : SequenceId} {p : Pending} {mine : Ticket → Prop}

def issued (s : Session σ) : List Handle := s.journal.filterMap Entry.handle?

/-- How often a request has met with one of its three fates. -/
def fates (s : Session σ) (ticket : Ticket) : Nat :=
  tally s.table.pending s.answers s.journal ticket

theorem mem_issued : h ∈ s.issued ↔ .issued h ∈ s.journal := by
  rw [issued, List.mem_filterMap]
  constructor
  · rintro ⟨e, he, hh⟩
    cases e with
    | issued h' => cases hh; exact he
    | _ => cases hh
  · intro he
    exact ⟨_, he, rfl⟩

structure Books (s : Session σ) : Prop where
  sound : s.table.Sound
  tickets : s.issued.map Handle.ticket = (List.range s.tickets).reverse
  undisturbed : ∀ p ∈ s.table.pending, Undisturbed s.journal p.handle
  fates : ∀ ticket, s.fates ticket = if ticket < s.tickets then 1 else 0
  answers : ∀ ticket reply, (ticket, reply) ∈ s.answers →
    ∃ h ∈ s.issued, h.ticket = ticket ∧ Rightful s.journal h reply

namespace Books

theorem ticket_lt (hb : s.Books) (hi : h ∈ s.issued) : h.ticket < s.tickets := by
  have hm : h.ticket ∈ s.issued.map Handle.ticket := List.mem_map_of_mem hi
  rw [hb.tickets] at hm
  exact List.mem_range.mp (List.mem_reverse.mp hm)

theorem eq_of_ticket (hb : s.Books) (hi : h ∈ s.issued) (hi' : h' ∈ s.issued)
    (ht : h.ticket = h'.ticket) : h = h' := by
  have hn : (s.issued.map Handle.ticket).Nodup := by
    rw [hb.tickets]
    exact List.nodup_reverse.mpr List.nodup_range
  exact List.inj_on_of_nodup_map hn hi hi' ht

theorem fates_eq_one (hb : s.Books) (hi : h ∈ s.issued) : s.fates h.ticket = 1 := by
  rw [hb.fates, if_pos (hb.ticket_lt hi)]

theorem issued_of_pending (hb : s.Books) (hp : p ∈ s.table.pending) : p.handle ∈ s.issued :=
  mem_issued.mpr (hb.undisturbed p hp).mem

theorem new (settings : SessionSettings) (selector : Selector) (pace : Pace) (link : σ) :
    (Session.new settings selector pace link).Books where
  sound := .new settings.sequenceSpace settings.requestTimeout
  tickets := rfl
  undisturbed := nofun
  fates := fun _ => rfl
  answers := nofun

theorem issued_pairwise (hb : s.Books) : s.issued.Pairwise fun a b => b.ticket < a.ticket := by
  have hr : (List.range s.tickets).reverse.Pairwise fun a b => b < a :=
    List.pairwise_reverse.mpr List.pairwise_lt_range
  rw [← hb.tickets] at hr
  exact List.pairwise_map.mp hr

theorem lt_of_same_id (hb : s.Books) (hp : p ∈ s.table.pending) (hi : h ∈ s.issued)
    (hs : p.seq = h.seq) (hne : p.ticket ≠ h.ticket) : h.ticket < p.ticket := by
  obtain ⟨since, earlier, hj, hsince⟩ := hb.undisturbed p hp
  have hissued : s.issued =
      since.filterMap Entry.handle? ++ p.handle :: earlier.filterMap Entry.handle? := by
    rw [issued, hj, List.filterMap_append]
    rfl
  have hlater : h ∉ since.filterMap Entry.handle? := by
    intro hm
    obtain ⟨e, he, hh⟩ := List.mem_filterMap.mp hm
    cases e with
    | issued h' =>
      cases hh
      exact hsince _ he hs.symm
    | _ => cases hh
  have hpair := hb.issued_pairwise
  rw [hissued] at hpair hi
  obtain hi | hi := (List.mem_append.mp hi).resolve_left hlater |> List.mem_cons.mp
  · exact absurd (congrArg Handle.ticket hi).symm hne
  · exact (List.pairwise_cons.mp (List.pairwise_append.mp hpair).2.1).1 h hi

theorem le_of_same_id (hb : s.Books) (hp : p ∈ s.table.pending) (hi : h ∈ s.issued)
    (hs : p.seq = h.seq) : h.ticket ≤ p.ticket := by
  by_cases hne : p.ticket = h.ticket
  · exact Nat.le_of_eq hne.symm
  · exact Nat.le_of_lt (hb.lt_of_same_id hp hi hs hne)

theorem of_same (hb : s.Books) (hs : SameRequests s s') : s'.Books := by
  have hi : s'.issued = s.issued := by rw [issued, hs.journal, issued]
  have hf : s'.fates = s.fates := by
    funext ticket
    rw [Session.fates, hs.table, hs.answers, hs.journal, Session.fates]
  constructor
  · rw [hs.table]; exact hb.sound
  · rw [hi, hs.tickets]; exact hb.tickets
  · rw [hs.table, hs.journal]; exact hb.undisturbed
  · rw [hf, hs.tickets]; exact hb.fates
  · rw [hi, hs.answers, hs.journal]; exact hb.answers

/-- Whatever an answer rests on stays in the journal. -/
theorem answers_cons (hb : s.Books) (entry : Entry) (ticket : Ticket) (reply : Reply)
    (hm : (ticket, reply) ∈ s.answers) :
    ∃ h ∈ (s.note entry).issued, h.ticket = ticket ∧ Rightful (entry :: s.journal) h reply := by
  obtain ⟨h, hi, ht, hr⟩ := hb.answers ticket reply hm
  exact ⟨h, mem_issued.mpr (List.mem_cons_of_mem _ (mem_issued.mp hi)), ht, hr.cons entry⟩

theorem enroll (hb : s.Books) (he : s.enroll = .ok (h, s')) : s'.Books := by
  obtain ⟨hc, hfree, rfl, rfl⟩ := enroll_eq_ok_iff.mp he
  have hnew := PendingTable.isPending_eq_false_iff.mp hfree
  constructor
  · exact hb.sound.enter hc hfree
  · have ht := hb.tickets
    rw [issued] at ht ⊢
    simp only [Entry.handle?, List.filterMap_cons, List.map_cons, List.range_succ,
      List.reverse_append, List.reverse_singleton, List.singleton_append, ht]
  · intro p hp
    cases List.mem_append.mp hp with
    | inl hp => exact (hb.undisturbed p hp).cons (hnew p hp).symm
    | inr hp =>
      cases List.mem_singleton.mp hp
      exact .issued _ _
  · intro ticket
    change tally (_ ++ [_]) _ (.issued _ :: _) ticket = if ticket < s.tickets + 1 then 1 else 0
    have hne : ∀ lapsed, Entry.issued ⟨s.table.due, s.tickets⟩ ≠ .lapsed lapsed := nofun
    have hf : tally s.table.pending s.answers s.journal ticket = _ := hb.fates ticket
    rw [tally_enter, tally_note _ _ _ _ hne, hf]
    by_cases ht : s.tickets = ticket
    · subst ht
      rw [if_neg (Nat.lt_irrefl _), if_pos rfl, if_pos (Nat.lt_succ_self _)]
    · have hlt : ticket < s.tickets + 1 ↔ ticket < s.tickets :=
        Nat.lt_succ_iff_lt_or_eq.trans (or_iff_left (Ne.symm ht))
      rw [if_neg ht, if_congr hlt rfl rfl, Nat.add_zero]
  · exact hb.answers_cons _

theorem route (hb : s.Books) (f : Frame) : (s.route f).Books := by
  cases hf : s.table.find? f.seq with
  | none =>
    have hfree := PendingTable.find?_eq_none_iff.mp hf
    refine of_same ?_ (route_of_free hf).2
    constructor
    · exact hb.sound.prune _
    · exact hb.tickets
    · intro p hp
      exact (hb.undisturbed p hp).cons (hfree p hp).symm
    · intro ticket
      have hne : ∀ lapsed, Entry.routed f ≠ .lapsed lapsed := nofun
      exact (tally_note _ _ _ ticket hne).trans (hb.fates ticket)
    · exact hb.answers_cons _
  | some p =>
    rw [route_of_pending hf]
    have hseq : p.seq = f.seq := PendingTable.seq_of_find? hf
    have hp : p ∈ s.table.pending := PendingTable.mem_of_find? hf
    constructor
    · exact (hb.sound.prune _).retire hf _ _
    · exact hb.tickets
    · intro q hq
      obtain ⟨hq, hne⟩ := PendingTable.mem_retire.mp hq
      exact (hb.undisturbed q hq).cons hne.symm
    · intro ticket
      refine Eq.trans ?_ (hb.fates ticket)
      have hr := (hb.sound.prune s.tick.clock).tally_retire hf s.tick.clock .completed
      have hne : ∀ lapsed, Entry.routed f ≠ .lapsed lapsed := nofun
      exact ((tally_answer _ _ _ ticket p.ticket _).trans (hr _ _ ticket).symm).trans
        (tally_note _ _ _ ticket hne)
    · intro ticket reply hm
      cases List.mem_append.mp hm with
      | inl hm => exact hb.answers_cons _ ticket reply hm
      | inr hm =>
        cases List.mem_singleton.mp hm
        refine ⟨p.handle, ?_, rfl, ?_⟩
        · exact mem_issued.mpr (List.mem_cons_of_mem _ (hb.undisturbed p hp).mem)
        · exact .response (List.nil_append _).symm hseq.symm (hb.undisturbed p hp)

theorem cancel (hb : s.Books) (seq : SequenceId) : (s.cancel seq).2.Books := by
  cases hf : s.table.find? seq with
  | none =>
    rw [Session.cancel, finish_of_free hf]
    exact hb.of_same ⟨rfl, rfl, rfl, rfl⟩
  | some p =>
    have hseq : p.seq = seq := PendingTable.seq_of_find? hf
    have hp : p ∈ s.table.pending := PendingTable.mem_of_find? hf
    rw [cancel_of_pending hf]
    constructor
    · exact hb.sound.retire hf _ _
    · exact hb.tickets
    · intro q hq
      exact hb.undisturbed q (PendingTable.mem_retire.mp hq).1
    · intro ticket
      refine Eq.trans ?_ (hb.fates ticket)
      have hr := hb.sound.tally_retire hf s.tick.clock .cancelled
      exact (tally_answer _ _ _ ticket p.ticket _).trans (hr _ _ ticket).symm
    · intro ticket reply hm
      cases List.mem_append.mp hm with
      | inl hm => exact hb.answers ticket reply hm
      | inr hm =>
        cases List.mem_singleton.mp hm
        subst hseq
        exact ⟨p.handle, hb.issued_of_pending hp, rfl, .cancelled⟩

theorem find?_of_awaits (hb : s.Books) (hi : h ∈ s.issued) (ha : s.table.awaits h.ticket = true) :
    s.table.find? h.seq = some ⟨h.seq, h.ticket⟩ := by
  obtain ⟨p, hp, ht⟩ := List.any_eq_true.mp ha
  have hh : p.handle = h := hb.eq_of_ticket (hb.issued_of_pending hp) hi (beq_iff_eq.mp ht)
  subst hh
  exact hb.sound.find?_of_mem hp

theorem timeOut (hb : s.Books) (seq : SequenceId) : (s.finish seq .timedOut).2.Books := by
  cases hf : s.table.find? seq with
  | none =>
    rw [finish_of_free hf]
    exact hb.of_same ⟨rfl, rfl, rfl, rfl⟩
  | some p =>
    rw [timeOut_of_pending hf]
    constructor
    · exact hb.sound.retire hf _ _
    · exact hb.tickets
    · intro q hq
      exact (hb.undisturbed q (PendingTable.mem_retire.mp hq).1).cons trivial
    · intro ticket
      refine Eq.trans ?_ (hb.fates ticket)
      have hr := hb.sound.tally_retire hf s.tick.clock .timedOut
      exact (tally_lapse _ _ _ ticket p.ticket).trans (hr _ _ ticket).symm
    · exact hb.answers_cons _

theorem failAll (hb : s.Books) (e : SessionError)
    (he : ∀ journal h, Rightful journal h (.error e)) : (s.failAll e).Books := by
  rw [failAll_eq]
  constructor
  · exact hb.sound.failAll e
  · exact hb.tickets
  · exact nofun
  · intro ticket
    exact (tally_failAll _ _ _ ticket _).trans (hb.fates ticket)
  · intro ticket reply hm
    cases List.mem_append.mp hm with
    | inl hm => exact hb.answers ticket reply hm
    | inr hm =>
      obtain ⟨p, hp, hpe⟩ := List.mem_map.mp hm
      cases hpe
      exact ⟨p.handle, hb.issued_of_pending hp, rfl, he _ _⟩

theorem attachLink (hb : s.Books) (hp : s.table.pending = []) (link : σ) :
    (s.attachLink link).Books where
  sound := hb.sound.reopen
  tickets := hb.tickets
  undisturbed := nofun
  fates := by
    intro ticket
    have hf := hb.fates ticket
    rw [Session.fates, hp] at hf
    have hne : ∀ lapsed, Entry.connected ≠ .lapsed lapsed := nofun
    exact (tally_note _ _ _ ticket hne).trans hf
  answers := hb.answers_cons .connected

theorem step (hb : s.Books) (hs : Step mine s s') : s'.Books := by
  cases hs with
  | quiet _ hs => exact hb.of_same hs
  | enrolled he => exact hb.enroll he
  | routed f => exact hb.route f
  | cancelled seq => exact hb.cancel seq
  | @lapsed seq _ => exact hb.timeOut seq
  | faulted cause _ =>
    have hb' : (s.setPhase .faulted).Books := hb.of_same ⟨rfl, rfl, rfl, rfl⟩
    exact hb'.failAll _ fun _ _ => .faulted cause

theorem steps (hb : s.Books) (hs : Steps mine s s') : s'.Books := by
  induction hs with
  | refl => exact hb
  | tail _ hs ih => exact ih.step hs

end Books
end Session
end FrameLink
