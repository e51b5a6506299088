import FrameLink.Proofs.Decoder.Account
import FrameLink.Proofs.Session.AtRest
import FrameLink.Proofs.Session.Packets

namespace FrameLink

variable {σ : Type} {T : Transport σ} {isOpen : σ → Bool}

namespace Session

variable {s s' : Session σ}

/-- What happens in the course of a call: something that concerns neither the connection nor its
reading side, a read, or a failure. -/
inductive Move (T : Transport σ) (isOpen : σ → Bool) : Session σ → Session σ → Prop
  | aside {s s' : Session σ} : SameConnection isOpen s s' → s'.receiver = s.receiver →
    s'.settings = s.settings → Move T isOpen s s'
  | absorbed (s : Session σ) (outcome : Except TransportError Packet) :
    Move T isOpen s (s.absorb T outcome)
  | faulted (s : Session σ) (cause : SessionError) : Move T isOpen s (s.fault T cause)

abbrev Moves (T : Transport σ) (isOpen : σ → Bool) : Session σ → Session σ → Prop :=
  Relation.ReflTransGen (Move T isOpen)

/-- A session that is met between two calls of its users, or in the middle of one, while nobody else
opens or closes its device. -/
def Met (T : Transport σ) (isOpen : σ → Bool) (s : Session σ) : Prop :=
  ∃ settings selector pace link calls, isOpen link = false ∧
    (∀ call ∈ calls, call.Sole isOpen) ∧
    Moves T isOpen
      (Client.run T { session := Session.new settings selector pace link } calls).session s

theorem moves_link {link : σ} (hd : isOpen link = isOpen s.link) :
    Moves T isOpen s { s with link := link } :=
  .single (.aside (sameConnection_link hd) rfl rfl)

theorem moves_clock (s : Session σ) (clock : Nat) :
    Moves T isOpen s { s with clock := clock } :=
  .single (.aside (sameConnection_quiet s.stats s.receiver clock rfl) rfl rfl)

theorem moves_settleWithin (hT : T.Tracks isOpen) (n : Nat) (s : Session σ) :
    Moves T isOpen s (settleWithin T n s) := by
  refine settleWithin_induction (fun s₁ outcome link hs _ hpoll => ?_)
    (fun s₁ link hs he => hs.trans (moves_link (hT.follow he))) n .refl
  have hread : Moves T isOpen s₁ ({ s₁ with link := link }.later (T.readTime link)) :=
    (moves_link (hT.poll hpoll)).trans (moves_clock _ _)
  exact (hs.trans hread).tail (.absorbed _ outcome)

theorem moves_settle (hT : T.Tracks isOpen) (s : Session σ) : Moves T isOpen s (s.settle T) :=
  moves_settleWithin hT _ s

theorem moves_idle (T : Transport σ) (s : Session σ) (d : Duration) :
    Moves T isOpen s (s.idle T d) := by
  rw [idle]
  dsimp only
  split
  · exact ((moves_clock s _).tail (.absorbed _ _)).trans (moves_clock _ _)
  · exact moves_clock s _

theorem moves_linger (T : Transport σ) (s : Session σ) (h : Handle) (d : Duration) :
    Moves T isOpen s (s.linger T h d) := by
  rw [linger.eq_def]
  split
  · exact moves_idle T s d
  · exact .refl

theorem moves_finish (s : Session σ) (seq : SequenceId) (outcome : Completion) :
    Moves T isOpen s (s.finish seq outcome).2 := by
  have hsame : SameConnection isOpen s (s.finish seq outcome).2 :=
    sameConnection_finish s seq outcome
  cases hf : s.table.find? seq with
  | none =>
    rw [finish_of_free hf] at hsame ⊢
    exact .single (.aside hsame rfl rfl)
  | some p =>
    have ht : s.tick.table.find? seq = some p := hf
    simp only [finish, PendingTable.finish_of_pending ht] at hsame ⊢
    cases outcome <;> exact .single (.aside hsame rfl rfl)

theorem moves_giveUp (s : Session σ) (h : Handle) (d : Duration) :
    Moves T isOpen s (s.giveUp h d).2 := by
  obtain ⟨n, hn⟩ := giveUp_eq s h d
  rw [hn]
  exact (moves_finish s h.seq .timedOut).tail (.aside (sameConnection_updateStats _ _) rfl rfl)

theorem moves_await (T : Transport σ) (s : Session σ) (h : Handle) (d : Duration) :
    Moves T isOpen s (s.await T h d).2 :=
  await_keeps T s h d (moves_linger T s h d) fun hl => hl.trans (moves_giveUp _ h d)

theorem moves_enroll {h : Handle} (he : s.enroll = .ok (h, s')) : Moves T isOpen s s' := by
  have hsame : SameConnection isOpen s s' := sameConnection_enroll he
  obtain ⟨-, -, -, rfl⟩ := enroll_eq_ok_iff.mp he
  exact .single (.aside hsame rfl rfl)

theorem moves_transmit (hT : T.Tracks isOpen) (s : Session σ) (opcode : UInt8) (payload : Bytes) :
    Moves T isOpen s (s.transmit T opcode payload).2 := by
  have ht := transmitted T s opcode payload
  generalize s.transmit T opcode payload = outcome at ht
  have hwrite {s₁ : Session σ} {bytes : Bytes} {r : Except TransportError Nat} {link : σ}
      (hw : T.write bytes s₁.settings.writeTimeout s₁.link = (r, link)) :
      Moves T isOpen s₁ { s₁ with link := link } := by
    have hd := hT.write bytes s₁.settings.writeTimeout s₁.link
    rw [hw] at hd
    exact moves_link hd
  cases ht with
  | refused => exact .refl
  | tooLong he _ => exact (moves_enroll he).trans (moves_finish _ _ _)
  | detached he _ => exact (moves_enroll he).trans (moves_finish _ _ _)
  | broken he _ _ hw _ =>
    exact (((moves_enroll he).trans (hwrite hw)).tail (.faulted _ _)).trans (moves_finish _ _ _)
  | failed he _ _ hw _ =>
    exact ((moves_enroll he).trans (hwrite hw)).trans (moves_finish _ _ _)
  | sent he _ _ hw =>
    have hsent := ((moves_enroll he).trans (hwrite hw)).trans (moves_settle hT _)
    dsimp only
    exact hsent.tail (.aside (sameConnection_updateStats _ _) rfl rfl)

theorem moves_send (hT : T.Tracks isOpen) (s : Session σ) (opcode : UInt8) (payload : Bytes) :
    Moves T isOpen s (s.send T opcode payload).2 := by
  rw [send]
  split
  · exact moves_transmit hT s opcode payload
  · exact moves_transmit hT s opcode payload
  · exact .refl

theorem moves_handshake (hT : T.Tracks isOpen) (s : Session σ) :
    Moves T isOpen s (s.handshake T).2 := by
  have ht := moves_transmit hT s Opcode.handshake Version.current.toBytes
  rw [handshake]
  split
  · next e s₁ he => rwa [he] at ht
  · next h s₁ he =>
    rw [he] at ht
    have hw := ht.trans (moves_await T s₁ h s.settings.handshakeTimeout)
    split <;> next he => rwa [he] at hw

theorem moves_nextEvent (s : Session σ) (id : StreamId) : Moves T isOpen s (s.nextEvent id).2 := by
  have hsame : SameConnection isOpen s (s.nextEvent id).2 := sameConnection_nextEvent s id
  rw [nextEvent] at hsame ⊢
  split at hsame
  · exact .refl
  · exact .single (.aside hsame rfl rfl)

theorem Moves.atRest (hT : T.Tracks isOpen) (hm : Moves T isOpen s s') (ha : s.AtRest isOpen) :
    s'.AtRest isOpen := by
  induction hm with
  | refl => exact ha
  | @tail s₁ s₂ _ hm ih =>
    cases hm with
    | aside hs _ _ => exact ih.of_same hs
    | absorbed outcome => exact ih.listens hT (listens_absorb T s₁ outcome)
    | faulted cause => exact ih.listen hT (.faulted s₁ cause)

/-- The decoder is the one that the settings ask for, and while the connection lives every byte that
it has thrown away has been counted. -/
structure Tuned (s : Session σ) : Prop where
  codec : s.receiver.decoder.codec = s.settings.codec
  counted : s.phase.isLive = true → s.receiver.decoder.skipped = 0

namespace Tuned

theorem of_same (ht : s.Tuned) (hr : s'.receiver = s.receiver) (hs : s'.settings = s.settings)
    (hp : s'.phase.isLive = true → s.phase.isLive = true) : s'.Tuned := by
  constructor
  · rw [hr, hs]
    exact ht.codec
  · rw [hr]
    exact fun hl => ht.counted (hp hl)

theorem of_fault (hc : s.receiver.decoder.codec = s.settings.codec) (T : Transport σ)
    (cause : SessionError) : (s.fault T cause).Tuned := by
  cases hl : s.phase.isLive with
  | true =>
    rw [fault_of_live hl, failAll_eq]
    exact ⟨hc, nofun⟩
  | false =>
    rw [fault_of_not_live hl]
    exact ⟨hc, fun hl' => absurd hl' (Bool.eq_false_iff.mp hl)⟩

theorem absorb_data (ht : s.Tuned) (T : Transport σ) {p : Packet} (hp : p.data ≠ []) :
    (s.absorb T (.ok p)).Tuned := by
  obtain ⟨s', -, -, hsettings, -, -, hdecoder, -, he⟩ := exists_absorb_eq T s hp
  have hc : s'.receiver.decoder.codec = s'.settings.codec := by
    rw [hdecoder, (Decoder.drain_accounts _).codec, hsettings]
    exact ht.codec
  rw [he]
  split
  · exact ⟨hc, fun _ => rfl⟩
  · exact of_fault hc T _

theorem absorb (ht : s.Tuned) (T : Transport σ) (outcome : Except TransportError Packet) :
    (s.absorb T outcome).Tuned := by
  by_cases ho : Idle outcome
  · rw [absorb_idle T s ho]
    split
    · exact ht
    · split
      · exact of_fault (s := s.discard) ht.codec T _
      · exact ⟨ht.codec, fun _ => rfl⟩
  · cases outcome with
    | ok p => exact ht.absorb_data T ho
    | error e =>
      have htake := takeIn_of_error (T := T) (s := s) ho
      rw [Session.absorb, htake]
      exact of_fault ht.codec T _

theorem moves (ht : s.Tuned) (hm : Moves T isOpen s s') : s'.Tuned := by
  induction hm with
  | refl => exact ht
  | tail _ hm ih =>
    cases hm with
    | aside hs hr hset => exact ih.of_same hr hset fun hl => hs.phase ▸ hl
    | absorbed outcome => exact ih.absorb T outcome
    | faulted cause => exact of_fault ih.codec T cause

theorem connect (hT : T.Tracks isOpen) (ht : s.Tuned) : (s.connect T).2.Tuned := by
  cases hl : s.phase.isLive with
  | true => rwa [Session.connect, if_pos hl]
  | false =>
    rw [Session.connect, if_neg (Bool.eq_false_iff.mp hl)]
    dsimp only
    split
    · exact ht.of_same rfl rfl fun hlive => absurd hlive Bool.false_ne_true
    · next link _ =>
      have hattached : ((s.setPhase .handshaking).attachLink link).Tuned := ⟨rfl, fun _ => rfl⟩
      have hh := hattached.moves (moves_handshake hT _)
      split
      · next he =>
        rw [he] at hh
        split
        · next hp => exact hh.of_same rfl rfl fun _ => by rw [hp]; rfl
        · exact of_fault hh.codec T _
      · next he =>
        rw [he] at hh
        exact of_fault hh.codec T _

theorem close (ht : s.Tuned) (T : Transport σ) : (s.close T).Tuned := by
  rw [Session.close]
  split
  · exact ht
  · rw [failAll_eq]
    exact ht.of_same rfl rfl fun hlive => absurd hlive Bool.false_ne_true

end Tuned
end Session

namespace Client

open Session

variable {s s' : Session σ} {c : Client σ}

theorem tuned_does (hT : T.Tracks isOpen) (ht : s.Tuned) {call : Call σ} (hc : call.Sole isOpen)
    (hd : Does T s call s') : s'.Tuned := by
  have hmoves {s' : Session σ} (hm : Moves T isOpen s s') : s'.Tuned := ht.moves hm
  cases hd with
  | nothing => exact ht
  | connect => exact ht.connect hT
  | close => exact ht.close T
  | abandon => exact hc.elim
  | send opcode payload => exact hmoves (moves_send hT s opcode payload)
  | wait h d => exact hmoves (moves_await T s h d)
  | expire h d => exact hmoves (moves_linger T s h d)
  | giveUp h d => exact hmoves (moves_giveUp s h d)
  | cancelHandle h => exact hmoves (moves_finish s h.seq .cancelled)
  | dropHandle h => exact hmoves (moves_finish s h.seq .cancelled)
  | cancel seq => exact hmoves (moves_finish s seq .cancelled)
  | subscribe => exact ht.of_same rfl rfl id
  | nextEvent id => exact hmoves (moves_nextEvent s id)
  | unsubscribe id => exact ht.of_same rfl rfl fun h => h
  | device act => exact ht.of_same rfl rfl id
  | read steps => exact hmoves (moves_settleWithin hT steps s)
  | idle d => exact hmoves (moves_idle T s d)

end Client

namespace Session

variable {s : Session σ}

theorem Met.tuned (hT : T.Tracks isOpen) (hs : Met T isOpen s) : s.Tuned := by
  obtain ⟨settings, selector, pace, link, calls, -, hc, hm⟩ := hs
  have hnew : (Session.new settings selector pace link).Tuned := ⟨rfl, fun _ => rfl⟩
  refine Tuned.moves ?_ hm
  exact Client.run_induction hnew fun _ _ call hcall ht => Client.tuned_does hT ht (hc call hcall)

theorem Met.inForce (hT : T.Tracks isOpen) (hs : Met T isOpen s) (hp : s.phase = .ready) :
    s.InForce isOpen := by
  obtain ⟨settings, selector, pace, link, calls, hd, hc, hm⟩ := hs
  have hnew : (Session.new settings selector pace link).AtRest isOpen :=
    .new settings selector pace hd
  exact (hm.atRest hT (Client.atRest_run hT hnew hc)).inForce hp

end Session
end FrameLink
