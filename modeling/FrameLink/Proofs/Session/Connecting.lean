import FrameLink.Proofs.Session.Handshake

namespace FrameLink

variable {σ : Type} {T : Transport σ} {isOpen : σ → Bool}

namespace Session

variable {s s' : Session σ} {link : σ} {e : SessionError} {mine : Ticket → Prop}

theorem connect_of_live (hl : s.phase.isLive = true) :
    s.connect T = (.error .alreadyConnected, s) :=
  if_pos hl

theorem connect_of_refused (hl : s.phase.isLive = false) {e : TransportError}
    (ha : T.attach s.selector s.link = (.error e, link)) :
    (s.connect T).1 = .error (openFailure s.selector e) ∧
      (s.connect T).2.phase = .disconnected := by
  have ha' : T.attach (s.setPhase .handshaking).selector (s.setPhase .handshaking).link =
      (.error e, link) := ha
  rw [connect, if_neg (Bool.eq_false_iff.mp hl)]
  dsimp only
  rw [ha']
  exact ⟨rfl, rfl⟩

theorem handshakeFailure_eq (e : SessionError) :
    ∃ why, handshakeFailure e = .handshakeFailed why := by
  cases e <;> exact ⟨_, rfl⟩

def greeted (T : Transport σ) (s : Session σ) (link : σ) : Session σ :=
  (((s.setPhase .handshaking).attachLink link).handshake T).2

theorem connect_of_opened (hl : s.phase.isLive = false)
    (ha : T.attach s.selector s.link = (.ok (), link)) :
    (∃ v, (((s.setPhase .handshaking).attachLink link).handshake T).1 = .ok v ∧
      (s.greeted T link).phase = .handshaking ∧
      s.connect T = (.ok v, (s.greeted T link).setPhase .ready)) ∨
    (∀ v, (((s.setPhase .handshaking).attachLink link).handshake T).1 = .ok v →
      (s.greeted T link).phase ≠ .handshaking) ∧
      ∃ why, s.connect T =
        (.error (.handshakeFailed why), (s.greeted T link).fault T (.handshakeFailed why)) := by
  have ha' : T.attach (s.setPhase .handshaking).selector (s.setPhase .handshaking).link =
      (.ok (), link) := ha
  rw [connect, if_neg (Bool.eq_false_iff.mp hl), greeted]
  dsimp only
  rw [ha']
  dsimp only
  split
  · next v t he =>
    rw [he]
    by_cases hp : t.phase = .handshaking
    · exact .inl ⟨v, rfl, hp, if_pos hp⟩
    · refine .inr ⟨fun _ _ => hp, _, if_neg hp⟩
  · next e t he =>
    rw [he]
    obtain ⟨why, hwhy⟩ := handshakeFailure_eq e
    rw [hwhy]
    exact .inr ⟨fun v hv => (by cases hv), why, rfl⟩

/-- While a session shakes hands its connection has not failed, and once it has failed it has
faulted. -/
theorem phase_greeted (hT : T.Tracks isOpen)
    (ha : T.attach s.selector s.link = (.ok (), link)) :
    (s.greeted T link).phase = .handshaking ↔ (s.greeted T link).faults = [] := by
  have hc : ((s.setPhase .handshaking).attachLink link).InForce isOpen :=
    inForce_attachLink rfl (hT.attached ha)
  obtain ⟨hc, hp⟩ | hf := Fares.handshake hT (.inl ⟨hc, rfl⟩)
  · exact iff_of_true hp hc.intact
  · refine iff_of_false ?_ ?_
    · rw [greeted, hf.phase]
      exact nofun
    · obtain ⟨cause, hfirst, -⟩ := hf.cause
      intro hnil
      rw [greeted] at hnil
      rw [hnil] at hfirst
      cases hfirst

theorem Books.greeted_cases (hT : T.Tracks isOpen) (hb : s.Books) (link : σ)
    (hf : (s.greeted T link).faults = []) :
    (∃ f, (s.greeted T link).heard.find? (fun g => g.seq == 0) = some f ∧
      (((s.setPhase .handshaking).attachLink link).handshake T).1 = acceptReply f ∧
      (s.greeted T link).table.closed = none ∧ (s.greeted T link).table.pending = [] ∧
      (s.greeted T link).table.next = 1) ∨
    (s.greeted T link).heard.find? (fun g => g.seq == 0) = none ∧
      ∃ e, (((s.setPhase .handshaking).attachLink link).handshake T).1 = .error e := by
  have hb' : (s.setPhase .handshaking).Books := hb.of_same ⟨rfl, rfl, rfl, rfl⟩
  exact (hb'.fresh_attachLink link).handshake hT hf

theorem connect_eq_ok_iff (hT : T.Tracks isOpen) (hb : s.Books) (hl : s.phase.isLive = false)
    (ha : T.attach s.selector s.link = (.ok (), link)) (v : Version) :
    (s.connect T).1 = .ok v ↔
      (∃ f, (s.greeted T link).heard.find? (fun g => g.seq == 0) = some f ∧ f.Offers v) ∧
        (s.greeted T link).faults = [] := by
  obtain ⟨w, hw, hp, hc⟩ | ⟨hnot, why, hc⟩ := connect_of_opened hl ha
  · have hf := (phase_greeted hT ha).mp hp
    obtain ⟨f, hfirst, hr, -⟩ | ⟨-, e, he⟩ := hb.greeted_cases hT link hf
    · rw [hc, hfirst]
      have hoffers : f.Offers w := acceptReply_eq_ok_iff.mp (hr.symm.trans hw)
      constructor
      · rintro ⟨⟩
        exact ⟨⟨f, rfl, hoffers⟩, hf⟩
      · rintro ⟨⟨g, ⟨⟩, hg⟩, -⟩
        cases (acceptReply_eq_ok_iff.mpr hg).symm.trans (hr.symm.trans hw)
        rfl
    · rw [he] at hw
      cases hw
  -- A reply that is accepted on a connection without failures would have been the other case.
  · rw [hc]
    refine iff_of_false nofun ?_
    rintro ⟨⟨f, hfirst, hoffers⟩, hf⟩
    obtain ⟨g, hg, hr, -⟩ | ⟨hnone, -⟩ := hb.greeted_cases hT link hf
    · cases hg.symm.trans hfirst
      have hok := hr.trans (acceptReply_eq_ok_iff.mpr hoffers)
      exact hnot v hok ((phase_greeted hT ha).mpr hf)
    · cases hnone.symm.trans hfirst

theorem connect_ready (hT : T.Tracks isOpen) (hb : s.Books) (hl : s.phase.isLive = false)
    (ha : T.attach s.selector s.link = (.ok (), link)) {v : Version}
    (hv : (s.connect T).1 = .ok v) :
    (s.connect T).2.phase = .ready ∧ (s.connect T).2.table.pending = [] ∧
      ∃ s', (s.connect T).2.enroll = .ok (⟨1, (s.connect T).2.tickets⟩, s') := by
  obtain ⟨w, hw, hp, hc⟩ | ⟨-, why, hc⟩ := connect_of_opened hl ha
  · obtain ⟨f, -, -, haccepts, hpending, hnext⟩ | ⟨-, e, he⟩ :=
      hb.greeted_cases hT link ((phase_greeted hT ha).mp hp)
    · rw [hc]
      have hdue : (s.greeted T link).table.due = 1 := by
        rw [PendingTable.due, hnext]
        rfl
      have hfree : (s.greeted T link).table.isPending (s.greeted T link).table.due = false := by
        rw [PendingTable.isPending, PendingTable.find?, hpending]
        rfl
      refine ⟨rfl, hpending, _, enroll_eq_ok_iff.mpr ⟨haccepts, hfree, ?_, rfl⟩⟩
      exact congrArg (Handle.mk · _) hdue.symm
    · rw [he] at hw
      cases hw
  · rw [hc] at hv
    cases hv

theorem connect_faulted (hT : T.Tracks isOpen) (hl : s.phase.isLive = false)
    (ha : T.attach s.selector s.link = (.ok (), link)) (he : (s.connect T).1 = .error e) :
    (∃ why, e = .handshakeFailed why) ∧ (s.connect T).2.phase = .faulted ∧
      isOpen (s.connect T).2.link = false := by
  obtain ⟨w, -, -, hc⟩ | ⟨-, why, hc⟩ := connect_of_opened hl ha
  · rw [hc] at he
    cases he
  · have hc₀ : ((s.setPhase .handshaking).attachLink link).InForce isOpen :=
      inForce_attachLink rfl (hT.attached ha)
    have hfares : (s.greeted T link).Fares isOpen .handshaking :=
      Fares.handshake hT (.inl ⟨hc₀, rfl⟩)
    have hfallen := hfares.fault hT (.handshakeFailed why)
    rw [hc] at he ⊢
    cases he
    exact ⟨⟨why, rfl⟩, hfallen.phase, hfallen.device⟩

theorem Step.phase (hs : Step mine s s') : s'.phase = s.phase ∨ s'.phase = .faulted := by
  cases hs with
  | quiet hp _ => exact .inl hp
  | enrolled he =>
    obtain ⟨-, -, -, rfl⟩ := enroll_eq_ok_iff.mp he
    exact .inl rfl
  | routed f =>
    have hsame : SameConnection (fun _ => true) s (s.route f) := sameConnection_route s f
    exact .inl hsame.phase
  | cancelled seq =>
    have hsame : SameConnection (fun _ => true) s (s.cancel seq).2 :=
      sameConnection_finish s seq .cancelled
    exact .inl hsame.phase
  | @lapsed seq _ =>
    have hsame : SameConnection (fun _ => true) s (s.finish seq .timedOut).2 :=
      sameConnection_finish s seq .timedOut
    exact .inl hsame.phase
  | faulted cause _ =>
    rw [failAll_eq]
    exact .inr rfl

theorem Steps.settled_phase (hs : Steps mine s s') (hp : s.phase ≠ .handshaking) :
    s'.phase ≠ .handshaking := by
  induction hs with
  | refl => exact hp
  | tail _ hs ih =>
    obtain he | he := hs.phase
    · rwa [he]
    · rw [he]
      exact nofun

theorem phase_fault_ne (T : Transport σ) (s : Session σ) (cause : SessionError) :
    (s.fault T cause).phase ≠ .handshaking := by
  cases hl : s.phase.isLive with
  | true =>
    rw [fault_of_live hl, failAll_eq]
    exact nofun
  | false =>
    rw [fault_of_not_live hl]
    intro hp
    change s.phase = .handshaking at hp
    rw [hp] at hl
    cases hl

theorem phase_connect_ne (T : Transport σ) (hp : s.phase ≠ .handshaking) :
    (s.connect T).2.phase ≠ .handshaking := by
  cases hl : s.phase.isLive with
  | true => rwa [connect_of_live hl]
  | false =>
    rcases hr : T.attach s.selector s.link with ⟨outcome, link⟩
    cases outcome with
    | error e =>
      rw [(connect_of_refused hl hr).2]
      exact nofun
    | ok _ =>
      obtain ⟨v, -, -, hc⟩ | ⟨-, why, hc⟩ := connect_of_opened hl hr
      · rw [hc]
        exact nofun
      · rw [hc]
        exact phase_fault_ne T _ _

theorem phase_giveUp (s : Session σ) (h : Handle) (d : Duration) :
    (s.giveUp h d).2.phase = s.phase := by
  have hsame : SameConnection (fun _ => true) s (s.giveUp h d).2 := sameConnection_giveUp s h d
  exact hsame.phase

theorem phase_await_ne (T : Transport σ) (hp : s.phase ≠ .handshaking) (h : Handle)
    (d : Duration) : (s.await T h d).2.phase ≠ .handshaking := by
  have hsteps : Steps (fun _ => False) s (s.linger T h d) := steps_linger T s h d
  refine await_keeps (P := fun s => s.phase ≠ .handshaking) T s h d ?_ fun hl => ?_
  · exact hsteps.settled_phase hp
  · rwa [phase_giveUp]

end Session

namespace Client

open Session

variable {s s' : Session σ} {c : Client σ}

theorem phase_does_ne (hp : s.phase ≠ .handshaking) {call : Call σ} (hd : Does T s call s') :
    s'.phase ≠ .handshaking := by
  have hsteps {s' : Session σ} (hs : Steps (fun _ => False) s s') : s'.phase ≠ .handshaking :=
    hs.settled_phase hp
  cases hd with
  | nothing => exact hp
  | connect => exact phase_connect_ne T hp
  | close =>
    rw [Session.close]
    split
    · exact hp
    · exact Phase.noConfusion
  | abandon =>
    rw [Session.abandon, failAll_eq]
    exact hp
  | send opcode payload => exact hsteps (steps_send T s opcode payload)
  | wait h d => exact phase_await_ne T hp h d
  | expire h d => exact hsteps (steps_linger T s h d)
  | giveUp h d => rwa [phase_giveUp]
  | cancelHandle h => exact hsteps (steps_cancel s h.seq)
  | dropHandle h => exact hsteps (steps_cancel s h.seq)
  | cancel seq => exact hsteps (steps_cancel s seq)
  | subscribe => exact hp
  | nextEvent id => exact hsteps (steps_nextEvent s id)
  | unsubscribe id => exact hp
  | device act => exact hp
  | read steps => exact hsteps (steps_settleWithin T steps s)
  | idle d => exact hsteps (steps_idle T s d)

theorem phase_run_ne (T : Transport σ) (hp : c.session.phase ≠ .handshaking)
    (calls : List (Call σ)) : (c.run T calls).session.phase ≠ .handshaking :=
  run_induction hp fun _ _ _ _ hp => phase_does_ne hp

/-- Whatever has been done with a new session, and whatever its link does while it connects. A
session that is ready stays as it is. A device that cannot be opened leaves it disconnected.
Otherwise the first frame with the id of the offer decides, as long as nothing fails meanwhile: the
session is ready and its first caller gets the next id, or it has faulted and has given the device
back. -/
theorem run_new_connects (hT : T.Tracks isOpen) (settings : SessionSettings) (selector : Selector)
    (pace : Pace) (link : σ) (calls : List (Call σ)) :
    let s := (run T { session := Session.new settings selector pace link } calls).session
    (s.phase = .ready → s.connect T = (.error .alreadyConnected, s)) ∧
    (s.phase ≠ .ready → ∀ e link', T.attach s.selector s.link = (.error e, link') →
      (s.connect T).1 = .error (openFailure s.selector e) ∧
      (s.connect T).2.phase = .disconnected) ∧
    (s.phase ≠ .ready → ∀ link', T.attach s.selector s.link = (.ok (), link') →
      (∀ v, (s.connect T).1 = .ok v ↔
        (∃ f, (s.greeted T link').heard.find? (fun g => g.seq == 0) = some f ∧ f.Offers v) ∧
          (s.greeted T link').faults = []) ∧
      (∀ v, (s.connect T).1 = .ok v →
        (s.connect T).2.phase = .ready ∧ (s.connect T).2.table.pending = [] ∧
        (∃ s', (s.connect T).2.enroll = .ok (⟨1, (s.connect T).2.tickets⟩, s')) ∧
        ∀ opcode payload h s', (s.connect T).2.send T opcode payload = (.ok h, s') → h.seq = 1) ∧
      ∀ e, (s.connect T).1 = .error e →
        (∃ why, e = .handshakeFailed why) ∧ (s.connect T).2.phase = .faulted ∧
        (s.connect T).2.table.pending = [] ∧ isOpen (s.connect T).2.link = false) := by
  intro s
  have hk : (run T { session := Session.new settings selector pace link } calls).Kept :=
    (Kept.new settings selector pace link).run T calls
  have hb : s.Books := hk.settled.books
  have hnew : (Session.new settings selector pace link).phase ≠ .handshaking := nofun
  have hne : s.phase ≠ .handshaking := phase_run_ne T hnew calls
  have hlive (hp : s.phase ≠ .ready) : s.phase.isLive = false := by
    cases hphase : s.phase with
    | ready => exact absurd hphase hp
    | handshaking => exact absurd hphase hne
    | _ => rfl
  refine ⟨fun hp => connect_of_live (by rw [hp]; rfl),
    fun hp e link' ha => connect_of_refused (hlive hp) ha, fun hp link' ha => ⟨?_, ?_, ?_⟩⟩
  · exact connect_eq_ok_iff hT hb (hlive hp) ha
  · intro v hv
    obtain ⟨hready, hpending, s', he⟩ := connect_ready hT hb (hlive hp) ha hv
    refine ⟨hready, hpending, ⟨s', he⟩, fun opcode payload h s'' hsend => ?_⟩
    obtain ⟨s₁, he', -⟩ := enroll_of_send (fun _ => False) hsend
    cases he.symm.trans he'
    rfl
  · intro e he
    obtain ⟨hwhy, hphase, hclosed⟩ := connect_faulted hT (hlive hp) ha he
    refine ⟨hwhy, hphase, (hk.settled.connect T).1.pending_eq_nil ?_, hclosed⟩
    rw [hphase]
    exact nofun

theorem run_new_connects_again :
    let T := Bench.transport
    let link := Bench.new SessionSettings.standard.codec
    let s := (run T { session := Session.new .standard .standard .stepped link }
      [.connect, .close]).session
    s.phase ≠ .ready ∧ (s.connect T).1 = .ok ⟨1, 0⟩ ∧ (s.connect T).2.phase = .ready ∧
      ∀ opcode payload h s', (s.connect T).2.send T opcode payload = (.ok h, s') → h.seq = 1 := by
  intro T link s
  have hfacts : s.phase = .disconnected ∧ (T.attach s.selector s.link).1 = .ok () ∧
      (s.greeted T (T.attach s.selector s.link).2).heard.find? (fun g => g.seq == 0) =
        some ⟨0, Opcode.handshakeAck, [1, 0]⟩ ∧
      (s.greeted T (T.attach s.selector s.link).2).faults = [] := by decide +kernel
  obtain ⟨hp, hopen, hfirst, hf⟩ := hfacts
  have hne : s.phase ≠ .ready := by rw [hp]; exact nofun
  obtain ⟨-, -, hopened⟩ :=
    run_new_connects Bench.transport_tracks .standard .standard .stepped link [.connect, .close]
  obtain ⟨hok, hready, -⟩ := hopened hne _ (Prod.ext hopen rfl)
  have hv : (s.connect T).1 = .ok ⟨1, 0⟩ := (hok ⟨1, 0⟩).mpr ⟨⟨_, hfirst, rfl, ⟨[], rfl⟩, rfl⟩, hf⟩
  obtain ⟨hphase, -, -, hnext⟩ := hready ⟨1, 0⟩ hv
  exact ⟨hne, hv, hphase, hnext⟩

end Client
end FrameLink
