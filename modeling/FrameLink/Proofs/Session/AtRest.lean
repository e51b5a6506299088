import FrameLink.Proofs.Device.Open
import FrameLink.Proofs.Session.Client

namespace FrameLink

variable {σ : Type} {T : Transport σ} {isOpen : σ → Bool}

namespace Session

variable {s s' : Session σ} {e : SessionError}

theorem send_of_disconnected (hp : s.phase = .disconnected) (opcode : UInt8) (payload : Bytes) :
    s.send T opcode payload = (.error .sessionClosed, s) := by
  simp only [send, hp]

theorem send_of_faulted (hp : s.phase = .faulted) (hc : s.table.closed = some e) (opcode : UInt8)
    (payload : Bytes) : s.send T opcode payload = (.error e, s) := by
  have he : s.enroll = .error e := by simp only [enroll, PendingTable.register_of_closed hc]
  simp only [send, hp, transmit, he]

/-- A session between two calls: it is ready with a connection in force, it has faulted, or it is
disconnected with nothing left of its connection. -/
def AtRest (isOpen : σ → Bool) (s : Session σ) : Prop :=
  s.Fares isOpen .ready ∨ s.phase = .disconnected ∧ s.Released isOpen

theorem Released.setPhase (hr : s.Released isOpen) (phase : Phase) :
    (s.setPhase phase).Released isOpen :=
  ⟨hr.refuses, hr.attached, hr.publishing, hr.reading, hr.device, hr.silent⟩

namespace AtRest

theorem new (settings : SessionSettings) (selector : Selector) (pace : Pace) {link : σ}
    (hd : isOpen link = false) : (Session.new settings selector pace link).AtRest isOpen :=
  .inr ⟨rfl, Option.some_ne_none _, rfl, rfl, rfl, hd, nofun⟩

theorem phase_cases (ha : s.AtRest isOpen) :
    s.phase = .disconnected ∨ s.phase = .ready ∨ s.phase = .faulted := by
  obtain (⟨-, hr⟩ | hf) | ⟨hd, -⟩ := ha
  · exact .inr (.inl hr)
  · exact .inr (.inr hf.phase)
  · exact .inl hd

theorem inForce (ha : s.AtRest isOpen) (hp : s.phase = .ready) : s.InForce isOpen := by
  obtain (⟨hc, -⟩ | hf) | ⟨hd, -⟩ := ha
  · exact hc
  · cases hp.symm.trans hf.phase
  · cases hp.symm.trans hd

theorem released (ha : s.AtRest isOpen) (hp : s.phase ≠ .ready) : s.Released isOpen := by
  obtain (⟨-, hr⟩ | hf) | ⟨-, hr⟩ := ha
  · exact absurd hr hp
  · exact hf.toReleased
  · exact hr

theorem fallen (ha : s.AtRest isOpen) (hp : s.phase = .faulted) : s.Fallen isOpen := by
  obtain (⟨-, hr⟩ | hf) | ⟨hd, -⟩ := ha
  · cases hp.symm.trans hr
  · exact hf
  · cases hp.symm.trans hd

theorem of_same (hs : SameConnection isOpen s s') (ha : s.AtRest isOpen) : s'.AtRest isOpen :=
  ha.imp (Fares.of_same hs) fun ⟨hp, hr⟩ => ⟨hs.phase.trans hp, hr.of_same hs⟩

theorem listen (hT : T.Tracks isOpen) (hs : Listen T s s') (ha : s.AtRest isOpen) :
    s'.AtRest isOpen := by
  obtain hf | ⟨hp, hr⟩ := ha
  · exact .inl (hs.fares hT hf)
  · cases hs with
    | heard hs =>
      have hsame := hs.sameConnection hT
      exact .inr ⟨hsame.phase.trans hp, hr.of_same hsame⟩
    | faulted cause =>
      have hl : s.phase.isLive = false := by rw [hp]; rfl
      rw [fault_of_not_live hl]
      exact .inr ⟨hp, hr.refuses, hr.attached, hr.publishing, hr.reading, hr.device, hr.silent⟩

theorem listens (hT : T.Tracks isOpen) (hs : Listens T s s') (ha : s.AtRest isOpen) :
    s'.AtRest isOpen := by
  induction hs with
  | refl => exact ha
  | tail _ hs ih => exact ih.listen hT hs

theorem send (hT : T.Tracks isOpen) (ha : s.AtRest isOpen) (opcode : UInt8) (payload : Bytes) :
    (s.send T opcode payload).2.AtRest isOpen := by
  rw [Session.send]
  split
  · next hp => exact .inl (Fares.transmit hT (.inl ⟨ha.inForce hp, hp⟩) opcode payload)
  · next hp => exact .inl (Fares.transmit hT (.inr (ha.fallen hp)) opcode payload)
  · exact ha

theorem await (hT : T.Tracks isOpen) (ha : s.AtRest isOpen) (h : Handle) (d : Duration) :
    (s.await T h d).2.AtRest isOpen :=
  await_keeps T s h d (ha.listens hT (listens_linger T s h d)) fun hl =>
    hl.of_same (sameConnection_giveUp _ h d)

theorem connect (hT : T.Tracks isOpen) (ha : s.AtRest isOpen) : (s.connect T).2.AtRest isOpen := by
  rw [Session.connect]
  split
  · exact ha
  · next hl =>
    have hr : s.Released isOpen := ha.released fun hp => hl (by rw [hp]; rfl)
    dsimp only
    split
    · next e link hopen =>
      have hd : isOpen link = isOpen (s.setPhase .handshaking).link := hT.refused hopen
      have hr₁ := (hr.setPhase .handshaking).of_same (sameConnection_link hd)
      exact .inr ⟨rfl, hr₁.setPhase .disconnected⟩
    · next link hopen =>
      have hc : ((s.setPhase .handshaking).attachLink link).InForce isOpen :=
        inForce_attachLink rfl (hT.attached hopen)
      have hf := Fares.handshake hT (.inl ⟨hc, rfl⟩)
      split
      · next version s₁ he =>
        rw [he] at hf
        split
        · next hp =>
          obtain ⟨hc, -⟩ | hf := hf
          · exact .inl (.inl ⟨⟨rfl, hc.accepts, hc.attached, hc.publishing, hc.reading, hc.device,
              hc.intact⟩, rfl⟩)
          · cases hp.symm.trans hf.phase
        · exact .inl (.inr (hf.fault hT _))
      · next e s₁ he =>
        rw [he] at hf
        exact .inl (.inr (hf.fault hT _))

theorem close (hT : T.Tracks isOpen) (ha : s.AtRest isOpen) : (s.close T).AtRest isOpen := by
  rw [Session.close]
  split
  · exact ha
  · refine .inr ⟨rfl, (released_releaseLink hT ?_).setPhase .disconnected⟩
    rw [failAll_eq]
    exact Option.some_ne_none _

end AtRest
end Session

/-- A call of somebody who uses the session, while nobody else opens or closes its device. -/
def Call.Sole (isOpen : σ → Bool) : Call σ → Prop
  | .abandon => False
  | .device act => ∀ link, isOpen (act link) = isOpen link
  | _ => True

namespace Client

open Session

variable {s s' : Session σ} {c : Client σ}

theorem atRest_does (hT : T.Tracks isOpen) (ha : s.AtRest isOpen) {call : Call σ}
    (hc : call.Sole isOpen) (hd : Does T s call s') : s'.AtRest isOpen := by
  cases hd with
  | nothing => exact ha
  | connect => exact ha.connect hT
  | close => exact ha.close hT
  | abandon => exact hc.elim
  | send opcode payload => exact ha.send hT opcode payload
  | wait h d => exact ha.await hT h d
  | expire h d => exact ha.listens hT (listens_linger T s h d)
  | giveUp h d => exact ha.of_same (sameConnection_giveUp s h d)
  | cancelHandle h => exact ha.of_same (sameConnection_finish s h.seq .cancelled)
  | dropHandle h => exact ha.of_same (sameConnection_finish s h.seq .cancelled)
  | cancel seq => exact ha.of_same (sameConnection_finish s seq .cancelled)
  | subscribe => exact ha.of_same (sameConnection_subscribe s)
  | nextEvent id => exact ha.of_same (sameConnection_nextEvent s id)
  | unsubscribe id => exact ha.of_same (sameConnection_unsubscribe s id)
  | device act => exact ha.of_same (sameConnection_link (hc s.link))
  | read steps => exact ha.listens hT (listens_settleWithin T steps s)
  | idle d => exact ha.listens hT (listens_idle T s d)

theorem atRest_run (hT : T.Tracks isOpen) (ha : c.session.AtRest isOpen) {calls : List (Call σ)}
    (hc : ∀ call ∈ calls, call.Sole isOpen) : (c.run T calls).session.AtRest isOpen :=
  run_induction ha fun _ _ call hm ha => atRest_does hT ha (hc call hm)

/-- Whatever is done with a new session that has the device on its bench to itself: it is
disconnected, ready or faulted, and ready just when the device is attached and open, events reach
the streams, and requests are accepted. While it is not ready nobody waits, the device is closed, a
new stream has ended, and no request goes out: a disconnected session is closed to it, and a faulted
one tells of the first failure of its connection. -/
theorem run_new_consistent (settings : SessionSettings) (selector : Selector) (pace : Pace)
    (link : Bench) (calls : List (Call Bench)) (hd : link.device.isOpen = false)
    (hc : ∀ call ∈ calls, call.Sole fun b => b.device.isOpen) :
    let T := Bench.transport
    let s := (run T { session := Session.new settings selector pace link } calls).session
    (s.phase = .disconnected ∨ s.phase = .ready ∨ s.phase = .faulted) ∧
    (s.phase = .ready ↔ s.attached = true ∧ s.publishing = true ∧ s.table.closed = none ∧
      s.link.device.isOpen = true) ∧
    (s.phase ≠ .ready → s.table.pending = [] ∧ s.link.device.isOpen = false ∧
      s.subscribe.2.isEnded s.subscribe.1 = true) ∧
    (s.phase = .disconnected → ∀ opcode payload,
      s.send T opcode payload = (.error .sessionClosed, s)) ∧
    (s.phase = .faulted → ∃ cause, s.faults.getLast? = some cause ∧ ∀ opcode payload,
      s.send T opcode payload = (.error (.sessionFaulted cause.message), s)) := by
  intro T s
  have hk : Kept (run T { session := Session.new settings selector pace link } calls) :=
    (Kept.new settings selector pace link).run T calls
  have hnew : (Session.new settings selector pace link).AtRest fun b : Bench => b.device.isOpen :=
    .new settings selector pace hd
  have ha : s.AtRest fun b : Bench => b.device.isOpen :=
    atRest_run Bench.transport_tracks hnew hc
  refine ⟨ha.phase_cases, ⟨fun hp => ?_, fun hall => ?_⟩, fun hp => ?_, send_of_disconnected,
    fun hp => ?_⟩
  · have hf := ha.inForce hp
    exact ⟨hf.attached, hf.publishing, hf.accepts, hf.device⟩
  · by_contra hp
    exact (ha.released hp).refuses hall.2.2.1
  · have hr := ha.released hp
    refine ⟨hk.settled.pending_eq_nil hp, hr.device, ?_⟩
    simp [subscribe, isEnded, EventStream.isEnded, hr.publishing]
  · obtain ⟨cause, hfirst, hclosed⟩ := (ha.fallen hp).cause
    exact ⟨cause, hfirst, send_of_faulted hp hclosed⟩

/-- A request waits when the device is unplugged, and another is sent afterwards. -/
def unplugged : List (Call Bench) :=
  [.connect, .send Opcode.request [0x61], .device (·.act (.unplug (.io "pipe"))), .read 4,
    .send Opcode.request [0x62]]

theorem run_new_consistent_of_unplugged :
    let link := Bench.new SessionSettings.standard.codec
    let s := (run Bench.transport { session := Session.new .standard .standard .stepped link }
      unplugged).session
    link.device.isOpen = false ∧ (∀ call ∈ unplugged, call.Sole fun b => b.device.isOpen) ∧
      s.phase = .faulted ∧ s.table.pending = [] ∧ ∃ cause, s.faults.getLast? = some cause ∧
        ∀ opcode payload,
          s.send Bench.transport opcode payload = (.error (.sessionFaulted cause.message), s) := by
  intro link s
  have hc : ∀ call ∈ unplugged, call.Sole fun b : Bench => b.device.isOpen := by
    simp only [unplugged, List.forall_mem_cons, Call.Sole, true_and]
    exact ⟨Bench.isOpen_act _, nofun⟩
  have hp : s.phase = .faulted := by decide +kernel
  have hne : s.phase ≠ .ready := by rw [hp]; exact nofun
  obtain ⟨-, -, hrest, -, hfaulted⟩ :=
    run_new_consistent .standard .standard .stepped link unplugged rfl hc
  exact ⟨rfl, hc, hp, (hrest hne).1, hfaulted hp⟩

end Client
end FrameLink
