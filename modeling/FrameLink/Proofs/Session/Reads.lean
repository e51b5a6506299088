import FrameLink.Proofs.Session.Turns

namespace FrameLink

variable {σ : Type} {T : Transport σ}

def Heard : Except TransportError Packet → Prop
  | .ok _ => True
  | .error e => e = .timeout

/-- A link that does not fail: reads at most time out, and a write that fails is not the end of
it. -/
structure Transport.Lasts (T : Transport σ) : Prop where
  poll : ∀ {max d link link' outcome}, T.poll max d link = some (outcome, link') → Heard outcome
  write : ∀ {bytes d link link' e}, T.write bytes d link = (.error e, link') → e.isFatal = false

namespace Session

variable {s s' s'' s₀ : Session σ} {results more : List (Except ProtocolError Frame)}
  {outcome : Except TransportError Packet}

/-- Something else is done with a session than to read. It leaves the reading side alone, it does
not end a connection, and on a connection that has ended it can only fail. -/
structure Beside (s s' : Session σ) : Prop where
  settings : s'.settings = s.settings
  reading : s'.reading = s.reading
  receiver : s'.receiver = s.receiver
  arrived : s'.arrived = s.arrived
  received : s'.stats.framesReceived = s.stats.framesReceived
  checksums : s'.stats.checksumFailures = s.stats.checksumFailures
  malformed : s'.stats.malformedFrames = s.stats.malformedFrames
  live : s.phase.isLive = true → s'.phase.isLive = true ∧ s'.faults = s.faults
  ended : s.phase.isLive = false → s'.phase = s.phase ∧ s.faults <:+ s'.faults

/-- A session goes on, with any reads at any times. These frames and anomalies are what it found. -/
inductive Reads (T : Transport σ) (s₀ : Session σ) :
    List (Except ProtocolError Frame) → Session σ → Prop
  | start : Reads T s₀ [] s₀
  | beside {results : List (Except ProtocolError Frame)} {s s' : Session σ} :
    Reads T s₀ results s → Beside s s' → Reads T s₀ results s'
  | read {results : List (Except ProtocolError Frame)} {s : Session σ}
    {outcome : Except TransportError Packet} :
    Reads T s₀ results s → s.reading = true → Heard outcome →
      Reads T s₀ (results ++ s.findings outcome) (s.absorb T outcome)

theorem Reads.trans (h : Reads T s₀ results s) (h' : Reads T s more s') :
    Reads T s₀ (results ++ more) s' := by
  induction h' with
  | start => rwa [List.append_nil]
  | beside _ hb ih => exact ih.beside hb
  | read _ hr ho ih =>
    rw [← List.append_assoc]
    exact ih.read hr ho

namespace Beside

theorem of_phase (settings : s'.settings = s.settings) (reading : s'.reading = s.reading)
    (receiver : s'.receiver = s.receiver) (arrived : s'.arrived = s.arrived)
    (received : s'.stats.framesReceived = s.stats.framesReceived)
    (checksums : s'.stats.checksumFailures = s.stats.checksumFailures)
    (malformed : s'.stats.malformedFrames = s.stats.malformedFrames) (phase : s'.phase = s.phase)
    (faults : s'.faults = s.faults) : Beside s s' where
  settings := settings
  reading := reading
  receiver := receiver
  arrived := arrived
  received := received
  checksums := checksums
  malformed := malformed
  live := fun hl => ⟨phase ▸ hl, faults⟩
  ended := fun _ => ⟨phase, faults ▸ List.suffix_rfl⟩

theorem linked (s : Session σ) (link : σ) : Beside s { s with link := link } :=
  .of_phase rfl rfl rfl rfl rfl rfl rfl rfl rfl

theorem later (s : Session σ) (clock : Nat) : Beside s { s with clock := clock } :=
  .of_phase rfl rfl rfl rfl rfl rfl rfl rfl rfl

theorem finish (s : Session σ) (seq : SequenceId) (outcome : Completion) :
    Beside s (s.finish seq outcome).2 := by
  have ha := arrived_finish s seq outcome
  obtain ⟨_, _, _, _, h⟩ := finish_eq s seq outcome
  rw [h] at ha ⊢
  exact .of_phase rfl rfl rfl ha rfl rfl rfl rfl rfl

theorem giveUp (s : Session σ) (h : Handle) (d : Duration) : Beside s (s.giveUp h d).2 := by
  have ha := arrived_finish s h.seq .timedOut
  obtain ⟨n, hn⟩ := giveUp_eq s h d
  obtain ⟨_, _, _, _, hf⟩ := finish_eq s h.seq .timedOut
  rw [hf] at ha hn
  rw [hn]
  exact .of_phase rfl rfl rfl ha rfl rfl rfl rfl rfl

theorem enroll {h : Handle} (he : s.enroll = .ok (h, s')) : Beside s s' := by
  obtain ⟨-, -, -, rfl⟩ := enroll_eq_ok_iff.mp he
  refine .of_phase rfl rfl rfl ?_ rfl rfl rfl rfl rfl
  exact (arrived_note rfl).trans (List.append_nil _)

theorem nextEvent (s : Session σ) (id : StreamId) : Beside s (s.nextEvent id).2 := by
  obtain ⟨_, _, _, h⟩ := nextEvent_eq s id
  rw [h]
  exact .of_phase rfl rfl rfl rfl rfl rfl rfl rfl rfl

end Beside

def Onward (T : Transport σ) (s s' : Session σ) : Prop := ∃ found, Reads T s found s'

namespace Onward

theorem refl (s : Session σ) : Onward T s s := ⟨[], .start⟩

theorem trans (h : Onward T s s') (h' : Onward T s' s'') : Onward T s s'' := by
  obtain ⟨found, h⟩ := h
  obtain ⟨later, h'⟩ := h'
  exact ⟨found ++ later, h.trans h'⟩

theorem beside (h : Beside s s') : Onward T s s' := ⟨[], .beside .start h⟩

theorem absorb (hr : s.reading = true) (ho : Heard outcome) : Onward T s (s.absorb T outcome) :=
  ⟨[] ++ s.findings outcome, .read .start hr ho⟩

theorem settleWithin (hT : T.Lasts) (n : Nat) (s : Session σ) :
    Onward T s (settleWithin T n s) := by
  refine settleWithin_induction (fun s₁ outcome link hs hr hpoll => ?_)
    (fun s₁ link hs _ => hs.trans (beside (.linked s₁ link))) n (refl s)
  have hlinked : Onward T s₁ ({ s₁ with link := link }.later (T.readTime link)) :=
    (beside (.linked s₁ link)).trans (beside (.later _ _))
  exact (hs.trans hlinked).trans (absorb hr (hT.poll hpoll))

theorem settle (hT : T.Lasts) (s : Session σ) : Onward T s (s.settle T) := settleWithin hT _ s

theorem idle (T : Transport σ) (s : Session σ) (d : Duration) : Onward T s (s.idle T d) := by
  rw [Session.idle]
  dsimp only
  split
  · next hdue =>
    have hsilent (clock : Nat) :
        Onward T s ({ s with clock := clock }.absorb T (.error .timeout)) :=
      (beside (.later s clock)).trans (absorb hdue.1 rfl)
    exact (hsilent _).trans (beside (.later _ _))
  · exact beside (.later s _)

theorem linger (T : Transport σ) (s : Session σ) (h : Handle) (d : Duration) :
    Onward T s (s.linger T h d) := by
  rw [Session.linger.eq_def]
  split
  · exact idle T s d
  · exact refl s

theorem await (T : Transport σ) (s : Session σ) (h : Handle) (d : Duration) :
    Onward T s (s.await T h d).2 :=
  await_keeps T s h d (linger T s h d) fun hl => hl.trans (beside (.giveUp _ h d))

theorem transmit (hT : T.Lasts) (s : Session σ) (opcode : UInt8) (payload : Bytes) :
    Onward T s (s.transmit T opcode payload).2 := by
  have ht := transmitted T s opcode payload
  generalize s.transmit T opcode payload = outcome at ht
  cases ht with
  | refused => exact refl s
  | tooLong he _ => exact (beside (.enroll he)).trans (beside (.finish _ _ _))
  | detached he _ => exact (beside (.enroll he)).trans (beside (.finish _ _ _))
  | broken _ _ _ hw hf => cases hf.symm.trans (hT.write hw)
  | failed he _ _ _ _ =>
    exact ((beside (.enroll he)).trans (beside (.linked _ _))).trans (beside (.finish _ _ _))
  | @sent h s₁ bytes n link he _ _ _ =>
    have hwritten : Onward T s { s₁ with link := link } :=
      (beside (.enroll he)).trans (beside (.linked s₁ link))
    refine (hwritten.trans (settle hT _)).trans (beside ?_)
    exact .of_phase rfl rfl rfl rfl rfl rfl rfl rfl rfl

theorem send (hT : T.Lasts) (s : Session σ) (opcode : UInt8) (payload : Bytes) :
    Onward T s (s.send T opcode payload).2 := by
  rw [Session.send]
  split
  · exact transmit hT s opcode payload
  · exact transmit hT s opcode payload
  · exact refl s

theorem handshake (hT : T.Lasts) (s : Session σ) : Onward T s (s.handshake T).2 := by
  have ht := transmit hT s Opcode.handshake Version.current.toBytes
  rw [Session.handshake]
  split
  · next he => rwa [he] at ht
  · next h s₁ he =>
    rw [he] at ht
    have hw := ht.trans (await T s₁ h s.settings.handshakeTimeout)
    split <;> next he => rwa [he] at hw

theorem connect (hT : T.Lasts) {version : Version} (h : s.connect T = (.ok version, s')) :
    ∃ link, T.attach s.selector s.link = (.ok (), link) ∧
      Onward T ((s.setPhase .handshaking).attachLink link) s' := by
  rw [Session.connect] at h
  split at h
  · cases h
  · dsimp only at h
    split at h
    · cases h
    · next link hopen =>
      refine ⟨link, hopen, ?_⟩
      have hh : Onward T ((s.setPhase .handshaking).attachLink link) _ := handshake hT _
      split at h
      · next s₁ he =>
        rw [he] at hh
        split at h
        · next hp =>
          cases h
          have hlive : s₁.phase.isLive = true := by rw [hp]; rfl
          refine hh.trans (beside ?_)
          exact ⟨rfl, rfl, rfl, rfl, rfl, rfl, rfl, fun _ => ⟨rfl, rfl⟩,
            fun hd => absurd (hd.symm.trans hlive) Bool.false_ne_true⟩
        · cases h
      · cases h

end Onward
end Session

/-- Whether a call neither begins a connection nor ends one. -/
def Call.isWithin : Call σ → Bool
  | connect => false
  | close => false
  | abandon => false
  | _ => true

namespace Client

open Session

variable {s s' : Session σ} {c : Client σ}

theorem onward_does (hT : T.Lasts) {call : Call σ} (hc : call.isWithin = true)
    (hd : Does T s call s') : Onward T s s' := by
  cases hd with
  | nothing => exact .refl s
  | connect | close | abandon => cases hc
  | send opcode payload => exact .send hT s opcode payload
  | wait h d => exact .await T s h d
  | expire h d => exact .linger T s h d
  | giveUp h d => exact .beside (.giveUp s h d)
  | cancelHandle h => exact .beside (.finish s h.seq .cancelled)
  | dropHandle h => exact .beside (.finish s h.seq .cancelled)
  | cancel seq => exact .beside (.finish s seq .cancelled)
  | subscribe => exact .beside (.of_phase rfl rfl rfl rfl rfl rfl rfl rfl rfl)
  | nextEvent id => exact .beside (.nextEvent s id)
  | unsubscribe => exact .beside (.of_phase rfl rfl rfl rfl rfl rfl rfl rfl rfl)
  | device act => exact .beside (.linked s _)
  | read steps => exact .settleWithin hT steps s
  | idle d => exact .idle T s d

/-- Whatever is done with a connection on a link that does not fail, it goes on. -/
theorem onward_run (hT : T.Lasts) {calls : List (Call σ)}
    (hc : ∀ call ∈ calls, call.isWithin = true) : Onward T c.session (c.run T calls).session :=
  run_induction (.refl c.session) fun _ _ call hm h hd => h.trans (onward_does hT (hc call hm) hd)

end Client
end FrameLink
