import FrameLink.Proofs.Session.AtRest

namespace FrameLink

variable {σ : Type} {T : Transport σ} {isOpen : σ → Bool} {P : σ → Prop}

/-- Whatever is done with a link keeps `P`, as long as no device is opened while one is open. -/
structure Transport.Keeps (T : Transport σ) (isOpen : σ → Bool) (P : σ → Prop) : Prop where
  attach : ∀ {selector link link' outcome}, T.attach selector link = (outcome, link') →
    isOpen link = false → P link → P link'
  write : ∀ {bytes d link link' outcome}, T.write bytes d link = (outcome, link') →
    P link → P link'
  drift : ∀ {link link'}, T.Drift link link' → P link → P link'
  release : ∀ {link}, P link → P (T.release link)

namespace Session

variable {s s' : Session σ}

theorem link_route (s : Session σ) (f : Frame) : (s.route f).link = s.link := by
  obtain ⟨_, _, _, _, _, h⟩ := route_eq s f
  rw [h]

theorem link_finish (s : Session σ) (seq : SequenceId) (outcome : Completion) :
    (s.finish seq outcome).2.link = s.link := by
  obtain ⟨_, _, _, _, h⟩ := finish_eq s seq outcome
  rw [h]

theorem link_nextEvent (s : Session σ) (id : StreamId) : (s.nextEvent id).2.link = s.link := by
  obtain ⟨_, _, _, h⟩ := nextEvent_eq s id
  rw [h]

theorem link_giveUp (s : Session σ) (h : Handle) (d : Duration) :
    (s.giveUp h d).2.link = s.link := by
  obtain ⟨n, hn⟩ := giveUp_eq s h d
  rw [hn]
  exact link_finish s h.seq .timedOut

theorem keeps_fault (hT : T.Keeps isOpen P) (hp : P s.link) (cause : SessionError) :
    P (s.fault T cause).link := by
  rw [fault]
  split
  · rw [failAll_eq]
    exact hT.release hp
  · exact hp

theorem Listens.keeps (hT : T.Keeps isOpen P) (hs : Listens T s s') (hp : P s.link) : P s'.link := by
  induction hs with
  | refl => exact hp
  | tail _ hs ih =>
    cases hs with
    | heard hs =>
      cases hs with
      | quiet stats receiver clock hd => exact hT.drift hd ih
      | routed f => rwa [link_route]
    | faulted cause => exact keeps_fault hT ih cause

theorem keeps_await (hT : T.Keeps isOpen P) (hp : P s.link) (h : Handle) (d : Duration) :
    P (s.await T h d).2.link := by
  refine await_keeps (P := fun s => P s.link) T s h d ?_ fun hl => ?_
  · exact (listens_linger T s h d).keeps hT hp
  · rwa [link_giveUp]

theorem keeps_transmit (hT : T.Keeps isOpen P) (hp : P s.link) (opcode : UInt8) (payload : Bytes) :
    P (s.transmit T opcode payload).2.link := by
  have hlink {h : Handle} {s₁ : Session σ} (he : s.enroll = .ok (h, s₁)) : P s₁.link := by
    obtain ⟨-, -, -, rfl⟩ := enroll_eq_ok_iff.mp he
    exact hp
  have hwithdraw (s₁ : Session σ) (h : Handle) (hp : P s₁.link) : P (s₁.withdraw h).link := by
    rw [withdraw, link_finish]
    exact hp
  have ht := transmitted T s opcode payload
  generalize s.transmit T opcode payload = outcome at ht
  cases ht with
  | refused => exact hp
  | tooLong he _ => exact hwithdraw _ _ (hlink he)
  | detached he _ => exact hwithdraw _ _ (hlink he)
  | broken he _ _ hw _ => exact hwithdraw _ _ (keeps_fault hT (hT.write hw (hlink he)) _)
  | failed he _ _ hw _ => exact hwithdraw _ _ (hT.write hw (hlink he))
  | @sent h s₁ bytes n link he _ _ hw =>
    have hsettled := (listens_settle T { s₁ with link := link }).keeps hT (hT.write hw (hlink he))
    exact hsettled

theorem keeps_send (hT : T.Keeps isOpen P) (hp : P s.link) (opcode : UInt8) (payload : Bytes) :
    P (s.send T opcode payload).2.link := by
  rw [send]
  split
  · exact keeps_transmit hT hp opcode payload
  · exact keeps_transmit hT hp opcode payload
  · exact hp

theorem keeps_handshake (hT : T.Keeps isOpen P) (hp : P s.link) : P (s.handshake T).2.link := by
  have ht := keeps_transmit hT hp Opcode.handshake Version.current.toBytes
  rw [handshake]
  split
  · next he => rwa [he] at ht
  · next h s₁ he =>
    rw [he] at ht
    have hw := keeps_await hT ht h s.settings.handshakeTimeout
    split <;> next he => rwa [he] at hw

theorem keeps_connect (hT : T.Keeps isOpen P) (ha : s.AtRest isOpen) (hp : P s.link) :
    P (s.connect T).2.link := by
  rw [connect]
  split
  · exact hp
  · next hl =>
    have hclosed : isOpen s.link = false := (ha.released fun hr => hl (by rw [hr]; rfl)).device
    dsimp only
    split
    · next e link hopen => exact hT.attach hopen hclosed hp
    · next link hopen =>
      have hh : P (((s.setPhase .handshaking).attachLink link).handshake T).2.link :=
        keeps_handshake hT (hT.attach hopen hclosed hp)
      split
      · next he =>
        rw [he] at hh
        split
        · exact hh
        · exact keeps_fault hT hh _
      · next he =>
        rw [he] at hh
        exact keeps_fault hT hh _

theorem keeps_close (hT : T.Keeps isOpen P) (hp : P s.link) : P (s.close T).link := by
  rw [close]
  split
  · exact hp
  · rw [failAll_eq]
    exact hT.release hp

theorem keeps_abandon (hT : T.Keeps isOpen P) (hp : P s.link) : P (s.abandon T).link := by
  rw [abandon, failAll_eq]
  exact hT.release hp

end Session

namespace Client

open Session

variable {s s' : Session σ} {c : Client σ}

theorem keeps_does (hT : T.Keeps isOpen P) (ha : s.AtRest isOpen) (hp : P s.link) {call : Call σ}
    (hact : ∀ act, call = .device act → ∀ link, P link → P (act link)) (hd : Does T s call s') :
    P s'.link := by
  cases hd with
  | connect => exact keeps_connect hT ha hp
  | close => exact keeps_close hT hp
  | abandon => exact keeps_abandon hT hp
  | send opcode payload => exact keeps_send hT hp opcode payload
  | wait h d => exact keeps_await hT hp h d
  | expire h d => exact (listens_linger T s h d).keeps hT hp
  | giveUp h d => rwa [link_giveUp]
  | cancelHandle h => rwa [Session.cancel, link_finish]
  | dropHandle h => rwa [Session.cancel, link_finish]
  | cancel seq => rwa [Session.cancel, link_finish]
  | nextEvent id => rwa [link_nextEvent]
  | device act => exact hact act rfl s.link hp
  | read steps => exact (listens_settleWithin T steps s).keeps hT hp
  | idle d => exact (listens_idle T s d).keeps hT hp
  | nothing | subscribe | unsubscribe => exact hp

/-- What a link keeps is true of it after any run of a session that has its device to itself. -/
theorem keeps_run (hT : T.Tracks isOpen) (hk : T.Keeps isOpen P) (ha : c.session.AtRest isOpen)
    (hp : P c.session.link) {calls : List (Call σ)} (hc : ∀ call ∈ calls, call.Sole isOpen)
    (hact : ∀ act, .device act ∈ calls → ∀ link, P link → P (act link)) :
    P (c.run T calls).session.link := by
  have hrun : (c.run T calls).session.AtRest isOpen ∧ P (c.run T calls).session.link := by
    refine run_induction (P := fun s => s.AtRest isOpen ∧ P s.link) ⟨ha, hp⟩ ?_
    intro s s' call hm ⟨ha, hp⟩ hd
    exact ⟨atRest_does hT ha (hc call hm) hd, keeps_does hk ha hp (fun act he => hact act (he ▸ hm)) hd⟩
  exact hrun.2

end Client
end FrameLink
