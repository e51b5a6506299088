import FrameLink.Session.Lifecycle
import Mathlib.Logic.Relation

namespace FrameLink

variable {σ : Type}

/-- What can become of a link that is only read. -/
inductive Transport.Drift (T : Transport σ) : σ → σ → Prop
  | still (link : σ) : Drift T link link
  | polled {link link' : σ} {max : Nat} {d : Duration} {outcome : Except TransportError Packet} :
    T.poll max d link = some (outcome, link') → Drift T link link'
  | followed {link link' : σ} : T.follow link = some link' → Drift T link link'

namespace Stats

variable {st st' : Stats}

structure SameCalls (st st' : Stats) : Prop where
  framesSent : st'.framesSent = st.framesSent
  requestTimeouts : st'.requestTimeouts = st.requestTimeouts
  eventsDelivered : st'.eventsDelivered = st.eventsDelivered
  eventsDropped : st'.eventsDropped = st.eventsDropped

theorem SameCalls.refl (st : Stats) : SameCalls st st := ⟨rfl, rfl, rfl, rfl⟩

end Stats

namespace Session

variable {T : Transport σ}

inductive Hear (T : Transport σ) : Session σ → Session σ → Prop
  | quiet (s : Session σ) {link : σ} (stats : Stats) (receiver : Receiver) (clock : Nat) :
    T.Drift s.link link →
      Hear T s { s with link := link, stats := stats, receiver := receiver, clock := clock }
  | routed (s : Session σ) (f : Frame) : Hear T s (s.route f)

/-- What a session does while it reads: it takes in what is there, and it may fault. -/
inductive Listen (T : Transport σ) : Session σ → Session σ → Prop
  | heard {s s' : Session σ} : Hear T s s' → Listen T s s'
  | faulted (s : Session σ) (cause : SessionError) : Listen T s (s.fault T cause)

abbrev Hears (T : Transport σ) : Session σ → Session σ → Prop := Relation.ReflTransGen (Hear T)

abbrev Listens (T : Transport σ) : Session σ → Session σ → Prop := Relation.ReflTransGen (Listen T)

inductive Intake (T : Transport σ) : Session σ → Session σ → Prop
  | quiet (s : Session σ) {link : σ} {stats : Stats} (receiver : Receiver) (clock : Nat) :
    T.Drift s.link link → s.stats.SameCalls stats →
      Intake T s { s with link := link, stats := stats, receiver := receiver, clock := clock }
  | routed (s : Session σ) (f : Frame) : Intake T s (s.route f)

inductive Reading (T : Transport σ) : Session σ → Session σ → Prop
  | taken {s s' : Session σ} : Intake T s s' → Reading T s s'
  | faulted (s : Session σ) (cause : SessionError) : Reading T s (s.fault T cause)

abbrev Intakes (T : Transport σ) : Session σ → Session σ → Prop := Relation.ReflTransGen (Intake T)

abbrev Readings (T : Transport σ) : Session σ → Session σ → Prop :=
  Relation.ReflTransGen (Reading T)

variable {s s' : Session σ}

theorem Hears.listens (h : Hears T s s') : Listens T s s' :=
  h.lift id fun _ _ => .heard

theorem Intake.hear (h : Intake T s s') : Hear T s s' := by
  cases h with
  | quiet receiver clock hd _ => exact .quiet s _ receiver clock hd
  | routed f => exact .routed s f

theorem Intakes.hears (h : Intakes T s s') : Hears T s s' :=
  h.lift id fun _ _ => Intake.hear

theorem Intakes.readings (h : Intakes T s s') : Readings T s s' :=
  h.lift id fun _ _ => .taken

theorem Readings.listens (h : Readings T s s') : Listens T s s' := by
  refine h.lift id fun s _ hr => ?_
  cases hr with
  | taken hs => exact .heard hs.hear
  | faulted cause => exact .faulted s cause

theorem hears_quiet (s : Session σ) (stats : Stats) (receiver : Receiver) (clock : Nat) :
    Hears T s { s with stats := stats, receiver := receiver, clock := clock } :=
  .single (.quiet s stats receiver clock (.still s.link))

theorem intakes_quiet (s : Session σ) {stats : Stats} (receiver : Receiver) (clock : Nat)
    (h : s.stats.SameCalls stats) :
    Intakes T s { s with stats := stats, receiver := receiver, clock := clock } :=
  .single (.quiet s receiver clock (.still s.link) h)

theorem intakes_link {link : σ} (h : T.Drift s.link link) : Intakes T s { s with link := link } :=
  .single (.quiet s s.receiver s.clock h (.refl s.stats))

theorem intakes_later (s : Session σ) (d : Duration) : Intakes T s (s.later d) :=
  intakes_quiet s s.receiver _ (.refl s.stats)

theorem intakes_receive (s : Session σ) (f : Frame) : Intakes T s (s.receive f) := by
  refine (intakes_quiet s _ s.clock ?_).tail (.routed _ f)
  exact ⟨rfl, rfl, rfl, rfl⟩

theorem intakes_strike (s : Session σ) (e : ProtocolError) : Intakes T s (s.strike e).2 := by
  simp only [strike, apply_ite Prod.snd, ite_self]
  refine intakes_quiet s _ s.clock ?_
  cases e <;> exact ⟨rfl, rfl, rfl, rfl⟩

theorem intakes_digest (results : List (Except ProtocolError Frame)) (s : Session σ) :
    Intakes T s (digest results s).2 := by
  induction results generalizing s with
  | nil => exact .refl
  | cons r rest ih =>
    cases r with
    | ok f => exact (intakes_receive s f).trans (ih _)
    | error e =>
      have hs : Intakes T s (s.strike e).2 := intakes_strike s e
      rw [digest]
      split
      · next cause s' he => rwa [he] at hs
      · next s' he =>
        rw [he] at hs
        exact hs.trans (ih s')

theorem intakes_countSkipped (s : Session σ) : Intakes T s s.countSkipped :=
  intakes_quiet s _ s.clock ⟨rfl, rfl, rfl, rfl⟩

theorem intakes_ingest (s : Session σ) (p : Packet) : Intakes T s (s.ingest p).2 := by
  rw [ingest]
  dsimp only
  generalize hs₁ : { s with receiver := _ } = s₁
  have h₁ : Intakes T s s₁ := by
    subst hs₁
    exact intakes_quiet s _ s.clock (.refl s.stats)
  have h₂ := h₁.trans (intakes_digest (s.receiver.decoder.extend p.data).drain.1 s₁)
  split
  · next cause s₂ he => rwa [he] at h₂
  · next s₂ he =>
    rw [he] at h₂
    exact h₂.trans (intakes_countSkipped s₂)

theorem intakes_expire (s : Session σ) : Intakes T s s.expire.2 := by
  rw [expire]
  split
  · exact .refl
  · split
    · exact .refl
    · refine (intakes_quiet s _ s.clock ?_).trans (intakes_strike _ _)
      exact ⟨rfl, rfl, rfl, rfl⟩

theorem intakes_takeIn (T : Transport σ) (s : Session σ) (outcome : Except TransportError Packet) :
    Intakes T s (s.takeIn T outcome).2 := by
  rw [takeIn.eq_def]
  split
  · split
    · exact intakes_expire s
    · exact intakes_ingest s _
  · exact intakes_expire s
  · exact .refl

theorem hears_takeIn (T : Transport σ) (s : Session σ) (outcome : Except TransportError Packet) :
    Hears T s (s.takeIn T outcome).2 :=
  (intakes_takeIn T s outcome).hears

theorem readings_absorb (T : Transport σ) (s : Session σ) (outcome : Except TransportError Packet) :
    Readings T s (s.absorb T outcome) := by
  have hs := (intakes_takeIn T s outcome).readings
  rw [absorb]
  split
  · next cause s₁ he =>
    rw [he] at hs
    exact hs.tail (.faulted s₁ cause)
  · next s₁ he => rwa [he] at hs

/-- What is kept by a read, and by what the link does on its own, is kept until it is at rest. -/
theorem settleWithin_induction {P : Session σ → Prop}
    (hread : ∀ s outcome link, P s → s.reading = true →
      T.poll s.settings.maxRead s.settings.readPoll s.link = some (outcome, link) →
      P (({ s with link := link }.later (T.readTime link)).absorb T outcome))
    (hfollow : ∀ s link, P s → T.follow s.link = some link → P { s with link := link })
    (n : Nat) (hs : P s) : P (settleWithin T n s) := by
  induction n generalizing s with
  | zero => exact hs
  | succ n ih =>
    rw [settleWithin]
    split
    · next outcome link he =>
      split at he
      · next hr => exact ih (hread s outcome link hs hr he)
      · cases he
    · split
      · next link he => exact ih (hfollow s link hs he)
      · exact hs

theorem readings_settleWithin (T : Transport σ) (n : Nat) (s : Session σ) :
    Readings T s (settleWithin T n s) := by
  refine settleWithin_induction (fun s₁ outcome link hs _ hpoll => ?_)
    (fun s₁ link hs he => hs.trans (intakes_link (.followed he)).readings) n .refl
  have hread : Intakes T s₁ _ :=
    (intakes_link (.polled hpoll)).trans (intakes_later _ (T.readTime link))
  exact (hs.trans hread.readings).trans (readings_absorb T _ outcome)

theorem readings_settle (T : Transport σ) (s : Session σ) : Readings T s (s.settle T) :=
  readings_settleWithin T _ s

theorem readings_idle (T : Transport σ) (s : Session σ) (d : Duration) :
    Readings T s (s.idle T d) := by
  have hclock (s : Session σ) (clock : Nat) : Readings T s { s with clock := clock } :=
    (intakes_quiet s s.receiver clock (.refl s.stats)).readings
  rw [idle]
  dsimp only
  split
  · exact ((hclock s _).trans (readings_absorb T _ _)).trans (hclock _ _)
  · exact hclock s _

theorem readings_linger (T : Transport σ) (s : Session σ) (h : Handle) (timeout : Duration) :
    Readings T s (s.linger T h timeout) := by
  rw [linger.eq_def]
  split
  · exact readings_idle T s timeout
  · exact .refl

theorem listens_absorb (T : Transport σ) (s : Session σ) (outcome : Except TransportError Packet) :
    Listens T s (s.absorb T outcome) :=
  (readings_absorb T s outcome).listens

theorem listens_settleWithin (T : Transport σ) (n : Nat) (s : Session σ) :
    Listens T s (settleWithin T n s) :=
  (readings_settleWithin T n s).listens

theorem listens_settle (T : Transport σ) (s : Session σ) : Listens T s (s.settle T) :=
  (readings_settle T s).listens

theorem listens_idle (T : Transport σ) (s : Session σ) (d : Duration) :
    Listens T s (s.idle T d) :=
  (readings_idle T s d).listens

theorem listens_linger (T : Transport σ) (s : Session σ) (h : Handle) (timeout : Duration) :
    Listens T s (s.linger T h timeout) :=
  (readings_linger T s h timeout).listens

theorem publish_eq (s : Session σ) (f : Frame) :
    ∃ streams, s.publish f = { s with streams := streams } := by
  rw [publish]
  split
  · exact ⟨_, rfl⟩
  · exact ⟨s.streams, rfl⟩

/-- What a frame changes when it is routed. -/
theorem route_eq (s : Session σ) (f : Frame) :
    ∃ clock table answers streams duplicates, s.route f =
      { s with
        clock := clock
        table := table
        answers := answers
        streams := streams
        journal := .routed f :: s.journal
        stats := { s.stats with duplicateResponses := duplicates } } := by
  rw [route]
  split
  · exact ⟨_, _, _, s.streams, s.stats.duplicateResponses, rfl⟩
  · exact ⟨_, _, s.answers, s.streams, _, rfl⟩
  · next table _ =>
    obtain ⟨streams, h⟩ := publish_eq { s.tick.note (.routed f) with table := table } f
    rw [h]
    exact ⟨_, table, s.answers, streams, s.stats.duplicateResponses, rfl⟩

theorem finish_eq (s : Session σ) (seq : SequenceId) (outcome : Completion) :
    ∃ clock table answers lapses, (s.finish seq outcome).2 =
      { s with
        clock := clock
        table := table
        answers := answers
        journal := (lapses : List Ticket).map .lapsed ++ s.journal } := by
  rw [finish]
  dsimp only
  split
  · exact ⟨_, s.table, s.answers, [], rfl⟩
  · split
    · exact ⟨_, _, _, [], rfl⟩
    · next ticket table _ _ _ => exact ⟨_, table, s.answers, [ticket], rfl⟩

theorem nextEvent_eq (s : Session σ) (id : StreamId) :
    ∃ streams delivered dropped, (s.nextEvent id).2 =
      { s with
        streams := streams
        stats := { s.stats with eventsDelivered := delivered, eventsDropped := dropped } } := by
  rw [nextEvent]
  split
  · exact ⟨s.streams, s.stats.eventsDelivered, s.stats.eventsDropped, rfl⟩
  · exact ⟨_, _, _, rfl⟩

theorem giveUp_eq (s : Session σ) (h : Handle) (d : Duration) :
    ∃ n, (s.giveUp h d).2 = (s.finish h.seq .timedOut).2.updateStats fun st =>
      { st with requestTimeouts := n } := by
  rw [giveUp]
  split
  · next s' he => exact ⟨s'.stats.requestTimeouts + 1, by rw [he]; rfl⟩
  · next s' he => exact ⟨s'.stats.requestTimeouts, by rw [he]; rfl⟩

theorem await_cases (T : Transport σ) (s : Session σ) (h : Handle) (d : Duration) :
    (s.await T h d).2 = s.linger T h d ∨
      (s.linger T h d).outcome? h = none ∧
        (s.await T h d).2 = ((s.linger T h d).giveUp h d).2 := by
  rw [await]
  split
  · exact .inl rfl
  · next hnone => exact .inr ⟨hnone, rfl⟩

/-- Waiting keeps what lingering and giving up keep. -/
theorem await_keeps {P : Session σ → Prop} (T : Transport σ) (s : Session σ) (h : Handle)
    (d : Duration) (hl : P (s.linger T h d))
    (hg : P (s.linger T h d) → P ((s.linger T h d).giveUp h d).2) : P (s.await T h d).2 := by
  obtain he | ⟨-, he⟩ := await_cases T s h d
  · rwa [he]
  · rw [he]
    exact hg hl

/-- How the transmission of a request can go. -/
inductive Transmitted (T : Transport σ) (s : Session σ) (opcode : UInt8) (payload : Bytes) :
    Except SessionError Handle × Session σ → Prop
  | refused {e : SessionError} : s.enroll = .error e → Transmitted T s opcode payload (.error e, s)
  | tooLong {h : Handle} {s₁ : Session σ} {e : ProtocolError} : s.enroll = .ok (h, s₁) →
    s₁.settings.codec.encode ⟨h.seq, opcode, payload⟩ = .error e →
      Transmitted T s opcode payload (.error (.protocol e), s₁.withdraw h)
  | detached {h : Handle} {s₁ : Session σ} : s.enroll = .ok (h, s₁) → s₁.attached = false →
      Transmitted T s opcode payload (.error .sessionClosed, s₁.withdraw h)
  | broken {h : Handle} {s₁ : Session σ} {bytes : Bytes} {e : TransportError} {link : σ} :
    s.enroll = .ok (h, s₁) → s₁.settings.codec.encode ⟨h.seq, opcode, payload⟩ = .ok bytes →
    s₁.attached = true → T.write bytes s₁.settings.writeTimeout s₁.link = (.error e, link) →
    e.isFatal = true →
      Transmitted T s opcode payload
        (.error (.ofTransport e), ({ s₁ with link := link }.fault T (.ofTransport e)).withdraw h)
  | failed {h : Handle} {s₁ : Session σ} {bytes : Bytes} {e : TransportError} {link : σ} :
    s.enroll = .ok (h, s₁) → s₁.settings.codec.encode ⟨h.seq, opcode, payload⟩ = .ok bytes →
    s₁.attached = true → T.write bytes s₁.settings.writeTimeout s₁.link = (.error e, link) →
    e.isFatal = false →
      Transmitted T s opcode payload
        (.error (.ofTransport e), { s₁ with link := link }.withdraw h)
  | sent {h : Handle} {s₁ : Session σ} {bytes : Bytes} {n : Nat} {link : σ} :
    s.enroll = .ok (h, s₁) → s₁.settings.codec.encode ⟨h.seq, opcode, payload⟩ = .ok bytes →
    s₁.attached = true → T.write bytes s₁.settings.writeTimeout s₁.link = (.ok n, link) →
      Transmitted T s opcode payload
        (.ok h, ({ s₁ with link := link }.settle T).updateStats fun st =>
          { st with framesSent := st.framesSent + 1 })

theorem transmitted (T : Transport σ) (s : Session σ) (opcode : UInt8) (payload : Bytes) :
    Transmitted T s opcode payload (s.transmit T opcode payload) := by
  rw [transmit]
  split
  · next e he => exact .refused he
  · next h s₁ he =>
    split
    · next e hencode => exact .tooLong he hencode
    · next bytes hencode =>
      split
      · next ha =>
        split
        · next e link hw =>
          dsimp only
          split
          · next hf => exact .broken he hencode ha hw hf
          · next hf => exact .failed he hencode ha hw (Bool.eq_false_iff.mpr hf)
        · next n link hw => exact .sent he hencode ha hw
      · next ha => exact .detached he (Bool.eq_false_iff.mpr ha)

theorem transmit_of_tooLong {T : Transport σ} {s s₁ : Session σ} {h : Handle} {opcode : UInt8}
    {payload : Bytes} {e : ProtocolError} (he : s.enroll = .ok (h, s₁))
    (hencode : s₁.settings.codec.encode ⟨h.seq, opcode, payload⟩ = .error e) :
    s.transmit T opcode payload = (.error (.protocol e), s₁.withdraw h) := by
  rw [transmit, he]
  dsimp only
  rw [hencode]

theorem transmit_of_written {T : Transport σ} {s s₁ : Session σ} {h : Handle} {opcode : UInt8}
    {payload bytes : Bytes} {n : Nat} {link : σ} (he : s.enroll = .ok (h, s₁))
    (hencode : s₁.settings.codec.encode ⟨h.seq, opcode, payload⟩ = .ok bytes)
    (ha : s₁.attached = true)
    (hw : T.write bytes s₁.settings.writeTimeout s₁.link = (.ok n, link)) :
    s.transmit T opcode payload =
      (.ok h, ({ s₁ with link := link }.settle T).updateStats fun st =>
        { st with framesSent := st.framesSent + 1 }) := by
  rw [transmit, he]
  dsimp only
  rw [hencode]
  dsimp only
  rw [if_pos ha, hw]

end Session
end FrameLink
