import FrameLink.Proofs.Session.AtRest
import FrameLink.Proofs.Session.Isolation

namespace FrameLink

namespace EventStream

variable {stream : EventStream} {f : Frame} {rest : List Frame}

def queued (stream : EventStream) : List Frame :=
  match stream.source with
  | .ended => []
  | _ => stream.unread

theorem queued_detach (stream : EventStream) : stream.detach.queued = stream.queued := by
  obtain ⟨source, unread, missed⟩ := stream
  cases source <;> rfl

theorem next_of_queued_nil (hl : stream.source ≠ .live) (hq : stream.queued = []) :
    stream.next.2.1 = .ended ∧ stream.next.2.2.queued = [] := by
  obtain ⟨source, unread, missed⟩ := stream
  cases source with
  | live => exact absurd rfl hl
  | «over» =>
    obtain rfl : unread = [] := hq
    exact ⟨rfl, rfl⟩
  | ended => exact ⟨rfl, rfl⟩

theorem next_of_queued_cons (hq : stream.queued = f :: rest) :
    stream.next.2.1 = .event f ∧ stream.next.2.2.queued = rest := by
  obtain ⟨source, unread, missed⟩ := stream
  cases source with
  | ended => cases hq
  | live =>
    obtain rfl : unread = f :: rest := hq
    exact ⟨rfl, rfl⟩
  | «over» =>
    obtain rfl : unread = f :: rest := hq
    exact ⟨rfl, rfl⟩

end EventStream

namespace Session

variable {σ : Type} {T : Transport σ} {isOpen : σ → Bool} {s s' : Session σ} {e : SessionError}
  {id : StreamId} {stream : EventStream}

def nextEvents (s : Session σ) (id : StreamId) : Nat → List NextEvent
  | 0 => []
  | n + 1 => (s.nextEvent id).1 :: (s.nextEvent id).2.nextEvents id n

/-- However often a stream is read, it gives these events and has ended then. -/
def EndsAfter (s : Session σ) (id : StreamId) (events : List Frame) : Prop :=
  ∀ n, s.nextEvents id n = (events.map NextEvent.event ++ List.replicate n NextEvent.ended).take n

theorem nextEvent_of_stream (hs : s.streams[id]? = some stream) :
    (s.nextEvent id).1 = stream.next.2.1 ∧
      (s.nextEvent id).2.streams[id]? = some stream.next.2.2 := by
  have hlt : id < s.streams.length := (List.getElem?_eq_some_iff.mp hs).1
  rw [nextEvent, hs]
  exact ⟨rfl, List.getElem?_set_self hlt⟩

theorem endsAfter_queued (hs : s.streams[id]? = some stream) (hl : stream.source ≠ .live) :
    s.EndsAfter id stream.queued := by
  intro n
  induction n generalizing s stream with
  | zero => rfl
  | succ n ih =>
    obtain ⟨hfound, hleft⟩ := nextEvent_of_stream hs
    rw [nextEvents, hfound, ih hleft (EventStream.source_next hl)]
    cases hq : stream.queued with
    | nil =>
      obtain ⟨hfirst, hrest⟩ := EventStream.next_of_queued_nil hl hq
      rw [hfirst, hrest]
      rfl
    | cons f rest =>
      obtain ⟨hfirst, hrest⟩ := EventStream.next_of_queued_cons hq
      rw [hfirst, hrest, List.map_cons, List.cons_append, List.take_succ_cons]
      -- The one `ended` more than before lies behind what is taken.
      have hle : n ≤ (rest.map NextEvent.event ++ List.replicate n NextEvent.ended).length := by
        simp
      rw [List.replicate_succ', ← List.append_assoc, List.take_append_of_le_length hle]

theorem lookup_pending (pending : List Pending) (reply : Reply) (ticket : Ticket) :
    (pending.map fun p => (p.ticket, reply)).lookup ticket =
      if pending.any (fun p => p.ticket == ticket) then some reply else none := by
  induction pending with
  | nil => rfl
  | cons p pending ih =>
    rw [List.map_cons, List.lookup_cons, List.any_cons]
    by_cases hp : p.ticket = ticket
    · subst hp
      simp
    · rw [beq_false_of_ne (Ne.symm hp), beq_false_of_ne hp, ih]
      rfl

/-- The end of a connection, for those who use it: nobody is left waiting, who has waited is told
`e`, and who has been answered before keeps that answer. -/
structure Ended (isOpen : σ → Bool) (e : SessionError) (s s' : Session σ) : Prop where
  pending : s'.table.pending = []
  journal : s'.journal = s.journal
  answers : ∀ ticket, s'.answer? ticket =
    if s.table.awaits ticket then some (.error e) else s.answer? ticket
  streams : ∀ id stream, s.streams[id]? = some stream → s'.EndsAfter id stream.queued
  device : isOpen s'.link = false

theorem Books.ended (hb : s.Books) (hp : s'.table.pending = []) (hj : s'.journal = s.journal)
    (ha : s'.answers = (s.failAll e).answers)
    (hs : s'.streams = s.streams.map EventStream.detach) (hd : isOpen s'.link = false) :
    Ended isOpen e s s' := by
  refine ⟨hp, hj, fun ticket => ?_, fun id stream hstream => ?_, hd⟩
  · rw [failAll_eq] at ha
    rw [answer?, ha, List.lookup_append, lookup_pending, PendingTable.awaits]
    by_cases hw : s.table.pending.any (fun p => p.ticket == ticket) = true
    · obtain ⟨p, hp, ht⟩ := List.any_eq_true.mp hw
      obtain rfl : p.ticket = ticket := beq_iff_eq.mp ht
      have hnone : s.answers.lookup p.ticket = none :=
        Option.isNone_iff_eq_none.mp (hb.undecided_of_pending hp).2
      rw [if_pos hw, if_pos hw, hnone, Option.none_or]
    · rw [if_neg hw, if_neg hw, Option.or_none]
      rfl
  · have hstream' : s'.streams[id]? = some stream.detach := by
      rw [hs, List.getElem?_map, hstream]
      rfl
    have hends := endsAfter_queued hstream' (EventStream.source_detach stream)
    rwa [EventStream.queued_detach] at hends

/-- What has been released has ended before. -/
theorem Released.ended (hr : s.Released isOpen) (hp : s.table.pending = []) :
    Ended isOpen e s s := by
  refine ⟨hp, rfl, fun ticket => ?_, fun id stream hstream => ?_, hr.device⟩
  · rw [PendingTable.awaits, hp]
    rfl
  · exact endsAfter_queued hstream (hr.silent stream (List.mem_of_getElem? hstream))

structure Over (phase : Phase) (e : SessionError) (s : Session σ) : Prop where
  dead : phase.isLive = false
  phase : s.phase = phase
  refusal : s.table.closed = some e

variable {phase : Phase}

theorem Over.of_same (hs : SameConnection isOpen s s') (ho : s.Over phase e) : s'.Over phase e :=
  ⟨ho.dead, hs.phase.trans ho.phase, hs.refusal.trans ho.refusal⟩

theorem Over.fault (ho : s.Over phase e) (T : Transport σ) (cause : SessionError) :
    s.fault T cause = { s with faults := cause :: s.faults } :=
  fault_of_not_live (ho.phase ▸ ho.dead) cause

theorem Over.listens (hT : T.Tracks isOpen) (hs : Listens T s s') (ho : s.Over phase e) :
    s'.Over phase e := by
  induction hs with
  | refl => exact ho
  | tail _ hs ih =>
    cases hs with
    | heard hs => exact ih.of_same (hs.sameConnection hT)
    | faulted cause =>
      rw [ih.fault T cause]
      exact ⟨ih.dead, ih.phase, ih.refusal⟩

theorem Over.send (ho : s.Over phase e) (T : Transport σ) (opcode : UInt8) (payload : Bytes) :
    (s.send T opcode payload).2 = s := by
  have hl : s.phase.isLive = false := ho.phase ▸ ho.dead
  cases hp : s.phase with
  | faulted => rw [send_of_faulted hp ho.refusal]
  | disconnected => rw [send_of_disconnected hp]
  | closing => simp only [Session.send, hp]
  | handshaking => rw [hp] at hl; cases hl
  | ready => rw [hp] at hl; cases hl

theorem Over.giveUp (ho : s.Over phase e) (h : Handle) (d : Duration) :
    (s.giveUp h d).2.Over phase e := by
  have hsame : SameConnection (fun _ => true) s (s.giveUp h d).2 := sameConnection_giveUp s h d
  exact ho.of_same hsame

theorem Over.await (hT : T.Tracks isOpen) (ho : s.Over phase e) (h : Handle) (d : Duration) :
    (s.await T h d).2.Over phase e :=
  await_keeps T s h d (ho.listens hT (listens_linger T s h d)) fun hl => hl.giveUp h d

end Session

/-- A call that leaves a connection alone that is over. -/
def Call.Leaves {σ : Type} (phase : Phase) : Call σ → Prop
  | .connect => False
  | .abandon => False
  | .close => phase = .disconnected
  | _ => True

namespace Client

open Session

variable {σ : Type} {T : Transport σ} {isOpen : σ → Bool} {s s' : Session σ} {c : Client σ}
  {phase : Phase} {e : SessionError}

theorem over_does (hT : T.Tracks isOpen) (ho : s.Over phase e) {call : Call σ}
    (hc : call.Leaves phase) (hd : Does T s call s') : s'.Over phase e := by
  have hcancel (seq : SequenceId) : (s.cancel seq).2.Over phase e := by
    have hsame : SameConnection isOpen s (s.cancel seq).2 :=
      sameConnection_finish s seq .cancelled
    exact ho.of_same hsame
  cases hd with
  | nothing => exact ho
  | connect => exact hc.elim
  | abandon => exact hc.elim
  | close =>
    have hclosed : s.close T = s := if_pos (ho.phase.trans hc)
    rwa [hclosed]
  | send opcode payload => rwa [ho.send]
  | wait h d => exact ho.await hT h d
  | expire h d => exact ho.listens hT (listens_linger T s h d)
  | giveUp h d => exact ho.giveUp h d
  | cancelHandle h => exact hcancel h.seq
  | dropHandle h => exact hcancel h.seq
  | cancel seq => exact hcancel seq
  | subscribe => exact ⟨ho.dead, ho.phase, ho.refusal⟩
  | nextEvent id =>
    have hsame : SameConnection isOpen s (s.nextEvent id).2 := sameConnection_nextEvent s id
    exact ho.of_same hsame
  | unsubscribe id => exact ⟨ho.dead, ho.phase, ho.refusal⟩
  | device act => exact ⟨ho.dead, ho.phase, ho.refusal⟩
  | read steps => exact ho.listens hT (listens_settleWithin T steps s)
  | idle d => exact ho.listens hT (listens_idle T s d)

theorem over_run (hT : T.Tracks isOpen) (ho : c.session.Over phase e) {calls : List (Call σ)}
    (hc : ∀ call ∈ calls, call.Leaves phase) : (c.run T calls).session.Over phase e :=
  run_induction ho fun _ _ call hm ho => over_does hT ho (hc call hm)

end Client
end FrameLink
