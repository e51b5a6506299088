import FrameLink.Proofs.Session.Connection
import FrameLink.Proofs.Session.Client

namespace FrameLink

variable {σ : Type} {T : Transport σ}

namespace Session

variable {s s' s'' : Session σ} {h : Handle}

/-- Something else is done with a session than to read or to open a link. What has been read and
what has been thrown away stay as they are, and only a session that lives goes on to read. -/
structure Apart (s s' : Session σ) : Prop where
  receiver : s'.receiver = s.receiver
  resyncBytes : s'.stats.resyncBytes = s.stats.resyncBytes
  reading : s'.reading = true → s.reading = true
  live : s'.reading = true → s.phase.isLive = true → s'.phase.isLive = true

namespace Apart

theorem refl (s : Session σ) : Apart s s := ⟨rfl, rfl, id, fun _ => id⟩

theorem stopped (receiver : s'.receiver = s.receiver)
    (resyncBytes : s'.stats.resyncBytes = s.stats.resyncBytes) (hstop : s'.reading = false) :
    Apart s s' where
  receiver := receiver
  resyncBytes := resyncBytes
  reading := fun hr => absurd (hstop.symm.trans hr) Bool.false_ne_true
  live := fun hr => absurd (hstop.symm.trans hr) Bool.false_ne_true

theorem linked (s : Session σ) (link : σ) : Apart s { s with link := link } :=
  ⟨rfl, rfl, id, fun _ => id⟩

theorem later (s : Session σ) (clock : Nat) : Apart s { s with clock := clock } :=
  ⟨rfl, rfl, id, fun _ => id⟩

theorem fault (T : Transport σ) (s : Session σ) (cause : SessionError) :
    Apart s (s.fault T cause) := by
  cases hl : s.phase.isLive with
  | true =>
    rw [fault_of_live hl, failAll_eq]
    exact .stopped rfl rfl rfl
  | false =>
    rw [fault_of_not_live hl]
    exact ⟨rfl, rfl, id, fun _ => id⟩

theorem finish (s : Session σ) (seq : SequenceId) (outcome : Completion) :
    Apart s (s.finish seq outcome).2 := by
  obtain ⟨_, _, _, _, he⟩ := finish_eq s seq outcome
  rw [he]
  exact ⟨rfl, rfl, id, fun _ => id⟩

theorem giveUp (s : Session σ) (h : Handle) (d : Duration) : Apart s (s.giveUp h d).2 := by
  obtain ⟨n, hn⟩ := giveUp_eq s h d
  obtain ⟨_, _, _, _, he⟩ := finish_eq s h.seq .timedOut
  rw [hn, he]
  exact ⟨rfl, rfl, id, fun _ => id⟩

theorem enroll (he : s.enroll = .ok (h, s')) : Apart s s' := by
  obtain ⟨-, -, -, rfl⟩ := enroll_eq_ok_iff.mp he
  exact ⟨rfl, rfl, id, fun _ => id⟩

theorem close (T : Transport σ) (s : Session σ) : Apart s (s.close T) := by
  rw [Session.close]
  split
  · exact refl s
  · rw [failAll_eq]
    exact .stopped rfl rfl rfl

theorem abandon (T : Transport σ) (s : Session σ) : Apart s (s.abandon T) := by
  rw [Session.abandon, failAll_eq]
  exact .stopped rfl rfl rfl

theorem nextEvent (s : Session σ) (id : StreamId) : Apart s (s.nextEvent id).2 := by
  obtain ⟨_, _, _, he⟩ := nextEvent_eq s id
  rw [he]
  exact ⟨rfl, rfl, fun hr => hr, fun _ hl => hl⟩

end Apart

/-- What is kept by every read, by opening a link, and by whatever else is done. -/
structure Persists (T : Transport σ) (P : Session σ → Prop) : Prop where
  apart : ∀ {s s'}, P s → Apart s s' → P s'
  read : ∀ {s} outcome, P s → s.reading = true → P (s.absorb T outcome)
  opened : ∀ {s link}, P s → s.phase.isLive = false → T.attach s.selector s.link = (.ok (), link) →
    P ((s.setPhase .handshaking).attachLink link)

namespace Persists

variable {P : Session σ → Prop}

theorem settleWithin (hP : Persists T P) (n : Nat) (hs : P s) : P (settleWithin T n s) := by
  refine settleWithin_induction (fun s outcome link hs hr _ => ?_)
    (fun s link hs _ => hP.apart hs (.linked s link)) n hs
  have hlater : P ({ s with link := link }.later (T.readTime link)) :=
    hP.apart (hP.apart hs (.linked s link)) (.later _ _)
  exact hP.read outcome hlater hr

theorem idle (hP : Persists T P) (d : Duration) (hs : P s) : P (s.idle T d) := by
  rw [Session.idle]
  dsimp only
  split
  · next hdue =>
    have hsilent (clock : Nat) : P ({ s with clock := clock }.absorb T (.error .timeout)) :=
      hP.read _ (hP.apart hs (.later s clock)) hdue.1
    exact hP.apart (hsilent _) (.later _ _)
  · exact hP.apart hs (.later s _)

theorem linger (hP : Persists T P) (h : Handle) (d : Duration) (hs : P s) : P (s.linger T h d) := by
  rw [Session.linger.eq_def]
  split
  · exact hP.idle d hs
  · exact hs

theorem await (hP : Persists T P) (h : Handle) (d : Duration) (hs : P s) :
    P (s.await T h d).2 :=
  await_keeps T s h d (hP.linger h d hs) fun hl => hP.apart hl (.giveUp _ h d)

theorem transmit (hP : Persists T P) (opcode : UInt8) (payload : Bytes) (hs : P s) :
    P (s.transmit T opcode payload).2 := by
  have hwritten {h : Handle} {s₁ : Session σ} (he : s.enroll = .ok (h, s₁)) (link : σ) :
      P { s₁ with link := link } :=
    hP.apart (hP.apart hs (.enroll he)) (.linked s₁ link)
  have ht := transmitted T s opcode payload
  generalize s.transmit T opcode payload = outcome at ht
  cases ht with
  | refused => exact hs
  | tooLong he _ => exact hP.apart (hP.apart hs (.enroll he)) (.finish _ _ _)
  | detached he _ => exact hP.apart (hP.apart hs (.enroll he)) (.finish _ _ _)
  -- The handle of a broken write is given up after the fault.
  | broken he _ _ _ _ => exact hP.apart (hP.apart (hwritten he _) (.fault T _ _)) (.finish _ _ _)
  | failed he _ _ _ _ => exact hP.apart (hwritten he _) (.finish _ _ _)
  | sent he _ _ _ => exact hP.apart (hP.settleWithin _ (hwritten he _)) ⟨rfl, rfl, id, fun _ => id⟩

theorem send (hP : Persists T P) (opcode : UInt8) (payload : Bytes) (hs : P s) :
    P (s.send T opcode payload).2 := by
  rw [Session.send]
  split
  · exact hP.transmit opcode payload hs
  · exact hP.transmit opcode payload hs
  · exact hs

theorem handshake (hP : Persists T P) (hs : P s) : P (s.handshake T).2 := by
  have ht := hP.transmit Opcode.handshake Version.current.toBytes hs
  rw [Session.handshake]
  split
  · next he => rwa [he] at ht
  · next h s₁ he =>
    rw [he] at ht
    have hw := hP.await h s.settings.handshakeTimeout ht
    split <;> next he => rwa [he] at hw

theorem connect (hP : Persists T P) (hs : P s) : P (s.connect T).2 := by
  rw [Session.connect]
  split
  · exact hs
  · next hl =>
    have hdead : s.phase.isLive = false := Bool.eq_false_iff.mpr hl
    dsimp only
    split
    · next link hopen =>
      exact hP.apart hs ⟨rfl, rfl, id, fun _ hlive => absurd hlive hl⟩
    · next link hopen =>
      have hh := hP.handshake (hP.opened hs hdead hopen)
      split
      · next s₁ he =>
        rw [he] at hh
        split
        · exact hP.apart hh ⟨rfl, rfl, id, fun _ _ => rfl⟩
        · exact hP.apart hh (.fault T _ _)
      · next e s₁ he =>
        rw [he] at hh
        exact hP.apart hh (.fault T _ _)

end Persists
end Session

open Session

namespace Client

variable {c : Client σ} {s s' : Session σ} {P : Session σ → Prop}

theorem persists_does (hP : Persists T P) {call : Call σ} (hs : P s) (hd : Does T s call s') :
    P s' := by
  cases hd with
  | nothing => exact hs
  | connect => exact hP.connect hs
  | close => exact hP.apart hs (.close T s)
  | abandon => exact hP.apart hs (.abandon T s)
  | send opcode payload => exact hP.send opcode payload hs
  | wait h d => exact hP.await h d hs
  | expire h d => exact hP.linger h d hs
  | giveUp h d => exact hP.apart hs (.giveUp s h d)
  | cancelHandle h => exact hP.apart hs (.finish s h.seq .cancelled)
  | dropHandle h => exact hP.apart hs (.finish s h.seq .cancelled)
  | cancel seq => exact hP.apart hs (.finish s seq .cancelled)
  | subscribe => exact hP.apart hs ⟨rfl, rfl, id, fun _ => id⟩
  | nextEvent id => exact hP.apart hs (.nextEvent s id)
  | unsubscribe id => exact hP.apart hs ⟨rfl, rfl, fun hr => hr, fun _ hl => hl⟩
  | device act => exact hP.apart hs (.linked s _)
  | read steps => exact hP.settleWithin steps hs
  | idle d => exact hP.idle d hs

theorem persists_run (hP : Persists T P) (calls : List (Call σ)) (hs : P c.session) :
    P (c.run T calls).session :=
  run_induction hs fun _ _ _ _ hs hd => persists_does hP hs hd

end Client

structure Take (σ : Type) where
  session : Session σ
  outcome : Except TransportError Packet

namespace Session

/-- The latest connection of a session: how many bytes had been thrown away when its link was
opened, and what has been read since. -/
inductive Course (T : Transport σ) : Nat → List (Take σ) → Session σ → Prop
  | new (settings : SessionSettings) (selector : Selector) (pace : Pace) (link : σ) :
    Course T 0 [] (Session.new settings selector pace link)
  | apart {before : Nat} {reads : List (Take σ)} {s s' : Session σ} :
    Course T before reads s → Apart s s' → Course T before reads s'
  | read {before : Nat} {reads : List (Take σ)} {s : Session σ}
    (outcome : Except TransportError Packet) : Course T before reads s → s.reading = true →
      Course T before (reads ++ [⟨s, outcome⟩]) (s.absorb T outcome)
  | opened {before : Nat} {reads : List (Take σ)} {s : Session σ} {link : σ} :
    Course T before reads s → s.phase.isLive = false →
    T.attach s.selector s.link = (.ok (), link) →
      Course T s.stats.resyncBytes [] ((s.setPhase .handshaking).attachLink link)

/-- Whatever is done with a new session, it has such a connection. -/
theorem exists_course (T : Transport σ) (settings : SessionSettings) (selector : Selector)
    (pace : Pace) (link : σ) (calls : List (Call σ)) :
    ∃ before reads, Course T before reads
      (Client.run T { session := Session.new settings selector pace link } calls).session := by
  have hcourse : Persists T fun s => ∃ before reads, Course T before reads s := by
    constructor
    · rintro s s' ⟨before, reads, hs⟩ ha
      exact ⟨before, reads, hs.apart ha⟩
    · rintro s outcome ⟨before, reads, hs⟩ hr
      exact ⟨before, _, hs.read outcome hr⟩
    · rintro s link ⟨before, reads, hs⟩ hdead hopen
      exact ⟨_, [], hs.opened hdead hopen⟩
  exact Client.persists_run hcourse calls ⟨0, [], .new settings selector pace link⟩

end Session
end FrameLink
