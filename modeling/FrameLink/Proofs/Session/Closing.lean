import FrameLink.Proofs.Session.Endings

namespace FrameLink

variable {σ : Type} {T : Transport σ} {isOpen : σ → Bool}

namespace Session

variable {s : Session σ}

theorem phase_close (T : Transport σ) (s : Session σ) : (s.close T).phase = .disconnected := by
  rw [close]
  split
  · next hp => exact hp
  · rfl

theorem close_close (T : Transport σ) (s : Session σ) : (s.close T).close T = s.close T :=
  if_pos (phase_close T s)

theorem AtRest.ended_close (hT : T.Tracks isOpen) (ha : s.AtRest isOpen) (hs : s.Settled) :
    Ended isOpen .sessionClosed s (s.close T) := by
  rw [Session.close]
  split
  · next hp =>
    have hne : s.phase ≠ .ready := by rw [hp]; decide
    exact (ha.released hne).ended (hs.pending_eq_nil hne)
  · rw [failAll_eq]
    refine hs.books.ended rfl rfl ?_ rfl (hT.release _)
    rw [failAll_eq]
    rfl

theorem Settled.ended_abandon (hT : T.Tracks isOpen) (hs : s.Settled) :
    Ended isOpen .sessionClosed s (s.abandon T) := by
  have hpending : (s.abandon T).table.pending = [] := by
    rw [Session.abandon, failAll_eq]
    rfl
  have hjournal : (s.abandon T).journal = s.journal := by
    rw [Session.abandon, failAll_eq]
    rfl
  have hstreams : (s.abandon T).streams = s.streams.map EventStream.detach := by
    rw [Session.abandon, failAll_eq]
    rfl
  exact hs.books.ended hpending hjournal rfl hstreams (hT.release _)

theorem reading_abandon (T : Transport σ) (s : Session σ) : (s.abandon T).reading = false := rfl

theorem AtRest.over_close (hT : T.Tracks isOpen) (ha : s.AtRest isOpen) :
    ∃ e, (s.close T).Over .disconnected e := by
  have hp := phase_close T s
  have hr : (s.close T).Released isOpen := (ha.close hT).released (by rw [hp]; exact nofun)
  obtain ⟨e, he⟩ := Option.ne_none_iff_exists'.mp hr.refuses
  exact ⟨e, rfl, hp, he⟩

end Session

namespace Client

open Session

/-- Whatever has been done with a session that has its device to itself: closing it leaves it
disconnected, with nobody waiting, the device closed and all streams ending. Closing it again
changes nothing, and until it connects anew it refuses to send. A session that is dropped instead
ends its connection in the same way, and its reading side stops. -/
theorem run_new_closes (hT : T.Tracks isOpen) (settings : SessionSettings) (selector : Selector)
    (pace : Pace) {link : σ} (hd : isOpen link = false) {calls : List (Call σ)}
    (hc : ∀ call ∈ calls, call.Sole isOpen) :
    let c := run T { session := Session.new settings selector pace link } calls
    let s := c.session
    (s.close T).phase = .disconnected ∧
    Ended isOpen .sessionClosed s (s.close T) ∧
    (s.close T).close T = s.close T ∧
    (∀ later : List (Call σ), (∀ call ∈ later, call.Leaves .disconnected) →
      let s' := (run T { c with session := s.close T } later).session
      ∀ opcode payload, s'.send T opcode payload = (.error .sessionClosed, s')) ∧
    Ended isOpen .sessionClosed s (s.abandon T) ∧
    (s.abandon T).reading = false := by
  intro c s
  have hk : c.Kept := (Kept.new settings selector pace link).run T calls
  have ha : s.AtRest isOpen := atRest_run hT (.new settings selector pace hd) hc
  refine ⟨phase_close T s, ha.ended_close hT hk.settled, close_close T s, ?_,
    hk.settled.ended_abandon hT, reading_abandon T s⟩
  intro later hlater s'
  obtain ⟨e, ho⟩ := ha.over_close hT
  have ho' : s'.Over .disconnected e := over_run (c := _) hT ho hlater
  exact send_of_disconnected ho'.phase

/-- A session with one request answered, one cancelled, one undecided, and an event not yet read. -/
def midway : List (Call Bench) :=
  [.connect, .subscribe, .send Opcode.request [0x61], .send Opcode.request [0x62],
    .send Opcode.request [0x63], .device (·.act (.frame ⟨1, 3, [0x41]⟩ ⟨0⟩)),
    .device (·.act (.frame ⟨9, 4, [0x45]⟩ ⟨0⟩)), .read 4, .cancel 2]

theorem run_new_closes_midway :
    let link := Bench.new SessionSettings.standard.codec
    let s := (run Bench.transport { session := Session.new .standard .standard .stepped link }
      midway).session
    link.device.isOpen = false ∧ (∀ call ∈ midway, call.Sole fun b => b.device.isOpen) ∧
      s.phase = .ready ∧ (s.close Bench.transport).answer? 3 = some (.error .sessionClosed) ∧
      (s.close Bench.transport).answer? 1 = s.answer? 1 ∧
      (s.close Bench.transport).EndsAfter 0 [⟨9, 4, [0x45]⟩] := by
  intro link s
  have hd : link.device.isOpen = false := rfl
  have hc : ∀ call ∈ midway, call.Sole fun b : Bench => b.device.isOpen := by
    simp only [midway, List.forall_mem_cons, Call.Sole, true_and]
    exact ⟨Bench.isOpen_act _, Bench.isOpen_act _, List.forall_mem_nil _⟩
  obtain ⟨-, hended, -⟩ :=
    run_new_closes Bench.transport_tracks .standard .standard .stepped hd hc
  have hs : s.phase = .ready ∧ s.table.awaits 3 = true ∧ ¬ s.table.awaits 1 = true ∧
      s.streams[0]? = some ⟨.live, [⟨9, 4, [0x45]⟩], 0⟩ := by decide +kernel
  obtain ⟨hready, hwaits, hanswered, hstream⟩ := hs
  refine ⟨hd, hc, hready, ?_, ?_, hended.streams 0 _ hstream⟩
  · rw [hended.answers 3, if_pos hwaits]
  · rw [hended.answers 1, if_neg hanswered]

end Client
end FrameLink
