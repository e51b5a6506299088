import FrameLink.Proofs.Session.EventStream
import FrameLink.Proofs.Session.Growth

namespace FrameLink

variable {σ : Type} {T : Transport σ} {isOpen : σ → Bool}

/-- A view of a link that shows whether its device is open: opening it and giving it back decide
that, and whatever else is done to the link leaves it alone. -/
structure Transport.Tracks (T : Transport σ) (isOpen : σ → Bool) : Prop where
  attached : ∀ {selector link link'}, T.attach selector link = (.ok (), link') → isOpen link' = true
  refused : ∀ {selector link link' e}, T.attach selector link = (.error e, link') →
    isOpen link' = isOpen link
  write : ∀ bs d link, isOpen (T.write bs d link).2 = isOpen link
  poll : ∀ {max d link link' outcome}, T.poll max d link = some (outcome, link') →
    isOpen link' = isOpen link
  follow : ∀ {link link'}, T.follow link = some link' → isOpen link' = isOpen link
  release : ∀ link, isOpen (T.release link) = false

theorem Transport.Tracks.drift (hT : T.Tracks isOpen) {link link' : σ} (h : T.Drift link link') :
    isOpen link' = isOpen link := by
  cases h with
  | still => rfl
  | polled h => exact hT.poll h
  | followed h => exact hT.follow h

namespace Session

variable {s s' s'' : Session σ} {phase : Phase} {h : Handle}

def Silent (s : Session σ) : Prop := ∀ stream ∈ s.streams, stream.source ≠ .live

/-- A connection in force. -/
structure InForce (isOpen : σ → Bool) (s : Session σ) : Prop where
  live : s.phase.isLive = true
  accepts : s.table.closed = none
  attached : s.attached = true
  publishing : s.publishing = true
  reading : s.reading = true
  device : isOpen s.link = true
  intact : s.faults = []

structure Released (isOpen : σ → Bool) (s : Session σ) : Prop where
  refuses : s.table.closed ≠ none
  attached : s.attached = false
  publishing : s.publishing = false
  reading : s.reading = false
  device : isOpen s.link = false
  silent : s.Silent

/-- A connection that has faulted. Its first failure is the one that requests are refused with. -/
structure Fallen (isOpen : σ → Bool) (s : Session σ) : Prop extends Released isOpen s where
  phase : s.phase = .faulted
  cause : ∃ cause, s.faults.getLast? = some cause ∧
    s.table.closed = some (.sessionFaulted cause.message)

def Fares (isOpen : σ → Bool) (phase : Phase) (s : Session σ) : Prop :=
  s.InForce isOpen ∧ s.phase = phase ∨ s.Fallen isOpen

/-- What belongs to the connection stays as it is. -/
structure SameConnection (isOpen : σ → Bool) (s s' : Session σ) : Prop where
  phase : s'.phase = s.phase
  refusal : s'.table.closed = s.table.closed
  attached : s'.attached = s.attached
  publishing : s'.publishing = s.publishing
  reading : s'.reading = s.reading
  device : isOpen s'.link = isOpen s.link
  faults : s'.faults = s.faults
  silent : s.publishing = false → s.Silent → s'.Silent

theorem SameConnection.refl (s : Session σ) : SameConnection isOpen s s :=
  ⟨rfl, rfl, rfl, rfl, rfl, rfl, rfl, fun _ => id⟩

theorem SameConnection.trans (h₁ : SameConnection isOpen s s') (h₂ : SameConnection isOpen s' s'') :
    SameConnection isOpen s s'' where
  phase := h₂.phase.trans h₁.phase
  refusal := h₂.refusal.trans h₁.refusal
  attached := h₂.attached.trans h₁.attached
  publishing := h₂.publishing.trans h₁.publishing
  reading := h₂.reading.trans h₁.reading
  device := h₂.device.trans h₁.device
  faults := h₂.faults.trans h₁.faults
  silent := fun hp hs => h₂.silent (h₁.publishing.trans hp) (h₁.silent hp hs)

theorem sameConnection_quiet {link : σ} (stats : Stats) (receiver : Receiver) (clock : Nat)
    (hd : isOpen link = isOpen s.link) :
    SameConnection isOpen s
      { s with link := link, stats := stats, receiver := receiver, clock := clock } :=
  ⟨rfl, rfl, rfl, rfl, rfl, hd, rfl, fun _ => id⟩

theorem sameConnection_link {link : σ} (hd : isOpen link = isOpen s.link) :
    SameConnection isOpen s { s with link := link } :=
  sameConnection_quiet s.stats s.receiver s.clock hd

theorem sameConnection_updateStats (s : Session σ) (f : Stats → Stats) :
    SameConnection isOpen s (s.updateStats f) :=
  ⟨rfl, rfl, rfl, rfl, rfl, rfl, rfl, fun _ => id⟩

theorem sameConnection_route (s : Session σ) (f : Frame) : SameConnection isOpen s (s.route f) := by
  cases hf : s.table.find? f.seq with
  | some p =>
    rw [route_of_pending hf]
    exact ⟨rfl, rfl, rfl, rfl, rfl, rfl, rfl, fun _ => id⟩
  | none =>
    obtain he | he := route_cases_of_free hf
    · rw [he]
      exact ⟨rfl, rfl, rfl, rfl, rfl, rfl, rfl, fun _ => id⟩
    · rw [he, publish]
      split
      · next hp =>
        refine ⟨rfl, rfl, rfl, rfl, rfl, rfl, rfl, fun hn => ?_⟩
        exact absurd hp (Bool.eq_false_iff.mp hn)
      · exact ⟨rfl, rfl, rfl, rfl, rfl, rfl, rfl, fun _ => id⟩

theorem sameConnection_enroll (he : s.enroll = .ok (h, s')) : SameConnection isOpen s s' := by
  obtain ⟨-, -, -, rfl⟩ := enroll_eq_ok_iff.mp he
  exact ⟨rfl, rfl, rfl, rfl, rfl, rfl, rfl, fun _ => id⟩

theorem sameConnection_finish (s : Session σ) (seq : SequenceId) (outcome : Completion) :
    SameConnection isOpen s (s.finish seq outcome).2 := by
  cases hf : s.table.find? seq with
  | none =>
    rw [finish_of_free hf]
    exact ⟨rfl, rfl, rfl, rfl, rfl, rfl, rfl, fun _ => id⟩
  | some p =>
    have ht : s.tick.table.find? seq = some p := hf
    simp only [finish, PendingTable.finish_of_pending ht]
    cases outcome <;> exact ⟨rfl, rfl, rfl, rfl, rfl, rfl, rfl, fun _ => id⟩

theorem sameConnection_giveUp (s : Session σ) (h : Handle) (d : Duration) :
    SameConnection isOpen s (s.giveUp h d).2 := by
  obtain ⟨n, hn⟩ := giveUp_eq s h d
  rw [hn]
  exact (sameConnection_finish s h.seq .timedOut).trans (sameConnection_updateStats _ _)

theorem sameConnection_subscribe (s : Session σ) : SameConnection isOpen s s.subscribe.2 := by
  refine ⟨rfl, rfl, rfl, rfl, rfl, rfl, rfl, fun hp hs stream hm => ?_⟩
  cases List.mem_append.mp hm with
  | inl hm => exact hs stream hm
  | inr hm =>
    rw [List.mem_singleton.mp hm, hp]
    exact nofun

theorem silent_set (hs : s.Silent) (id : StreamId) {stream : EventStream}
    (hl : stream.source ≠ .live) : ∀ st ∈ s.streams.set id stream, st.source ≠ .live := by
  intro st hm
  cases List.mem_or_eq_of_mem_set hm with
  | inl hm => exact hs st hm
  | inr he => rwa [he]

theorem sameConnection_nextEvent (s : Session σ) (id : StreamId) :
    SameConnection isOpen s (s.nextEvent id).2 := by
  rw [nextEvent]
  split
  · exact ⟨rfl, rfl, rfl, rfl, rfl, rfl, rfl, fun _ hs => hs⟩
  · next stream hstream =>
    refine ⟨rfl, rfl, rfl, rfl, rfl, rfl, rfl, fun _ hs => silent_set hs id ?_⟩
    exact EventStream.source_next (hs stream (List.mem_of_getElem? hstream))

theorem sameConnection_unsubscribe (s : Session σ) (id : StreamId) :
    SameConnection isOpen s (s.unsubscribe id) :=
  ⟨rfl, rfl, rfl, rfl, rfl, rfl, rfl, fun _ hs => silent_set hs id nofun⟩

theorem InForce.of_same (hs : SameConnection isOpen s s') (hc : s.InForce isOpen) :
    s'.InForce isOpen where
  live := hs.phase ▸ hc.live
  accepts := hs.refusal.trans hc.accepts
  attached := hs.attached.trans hc.attached
  publishing := hs.publishing.trans hc.publishing
  reading := hs.reading.trans hc.reading
  device := hs.device.trans hc.device
  intact := hs.faults.trans hc.intact

theorem Released.of_same (hs : SameConnection isOpen s s') (hr : s.Released isOpen) :
    s'.Released isOpen where
  refuses := hs.refusal ▸ hr.refuses
  attached := hs.attached.trans hr.attached
  publishing := hs.publishing.trans hr.publishing
  reading := hs.reading.trans hr.reading
  device := hs.device.trans hr.device
  silent := hs.silent hr.publishing hr.silent

theorem Fallen.of_same (hs : SameConnection isOpen s s') (hf : s.Fallen isOpen) :
    s'.Fallen isOpen where
  toReleased := hf.toReleased.of_same hs
  phase := hs.phase.trans hf.phase
  cause := by
    rw [hs.faults, hs.refusal]
    exact hf.cause

theorem Fares.of_same (hs : SameConnection isOpen s s') (hf : s.Fares isOpen phase) :
    s'.Fares isOpen phase :=
  hf.imp (fun ⟨hc, hp⟩ => ⟨hc.of_same hs, hs.phase.trans hp⟩) (Fallen.of_same hs)

theorem released_releaseLink (hT : T.Tracks isOpen) (hc : s.table.closed ≠ none) :
    (s.releaseLink T).Released isOpen where
  refuses := hc
  attached := rfl
  publishing := rfl
  reading := rfl
  device := hT.release _
  silent := by
    intro stream hm
    obtain ⟨before, -, rfl⟩ := List.mem_map.mp hm
    exact before.source_detach

theorem fault_of_live (hl : s.phase.isLive = true) (cause : SessionError) :
    s.fault T cause =
      releaseLink T
        (((s.report cause).setPhase .faulted).failAll (.sessionFaulted cause.message)) :=
  if_pos hl

theorem fault_of_not_live (hl : s.phase.isLive = false) (cause : SessionError) :
    s.fault T cause = s.report cause :=
  if_neg (Bool.eq_false_iff.mp hl)

/-- The first failure of a connection ends it. -/
theorem InForce.fault (hT : T.Tracks isOpen) (hc : s.InForce isOpen) (cause : SessionError) :
    (s.fault T cause).Fallen isOpen := by
  rw [fault_of_live hc.live, failAll_eq]
  refine ⟨released_releaseLink hT (Option.some_ne_none _), rfl, cause, ?_, rfl⟩
  change (cause :: s.faults).getLast? = some cause
  rw [hc.intact]
  rfl

/-- Later failures are only recorded. -/
theorem Fallen.fault (hf : s.Fallen isOpen) (cause : SessionError) :
    (s.fault T cause).Fallen isOpen := by
  have hl : s.phase.isLive = false := by rw [hf.phase]; rfl
  obtain ⟨first, hfirst, hclosed⟩ := hf.cause
  rw [fault_of_not_live hl]
  refine ⟨⟨hf.refuses, hf.attached, hf.publishing, hf.reading, hf.device, hf.silent⟩, hf.phase,
    first, ?_, hclosed⟩
  change (cause :: s.faults).getLast? = some first
  rw [List.getLast?_cons, hfirst]
  rfl

theorem Fares.fault (hT : T.Tracks isOpen) (hf : s.Fares isOpen phase) (cause : SessionError) :
    (s.fault T cause).Fallen isOpen :=
  hf.elim (fun hc => hc.1.fault hT cause) fun hf => hf.fault cause

theorem Hear.sameConnection (hT : T.Tracks isOpen) (hs : Hear T s s') :
    SameConnection isOpen s s' := by
  cases hs with
  | quiet stats receiver clock hd => exact sameConnection_quiet stats receiver clock (hT.drift hd)
  | routed f => exact sameConnection_route s f

theorem Hears.sameConnection (hT : T.Tracks isOpen) (hs : Hears T s s') :
    SameConnection isOpen s s' := by
  induction hs with
  | refl => exact .refl s
  | tail _ hs ih => exact ih.trans (hs.sameConnection hT)

theorem Listen.fares (hT : T.Tracks isOpen) (hs : Listen T s s') (hf : s.Fares isOpen phase) :
    s'.Fares isOpen phase := by
  cases hs with
  | heard hs => exact hf.of_same (hs.sameConnection hT)
  | faulted cause => exact .inr (hf.fault hT cause)

theorem Listens.fares (hT : T.Tracks isOpen) (hs : Listens T s s') (hf : s.Fares isOpen phase) :
    s'.Fares isOpen phase := by
  induction hs with
  | refl => exact hf
  | tail _ hs ih => exact hs.fares hT ih

theorem Fares.withdraw (hf : s.Fares isOpen phase) (h : Handle) :
    (s.withdraw h).Fares isOpen phase :=
  hf.of_same (sameConnection_finish s h.seq .cancelled)

theorem Fares.transmit (hT : T.Tracks isOpen) (hf : s.Fares isOpen phase) (opcode : UInt8)
    (payload : Bytes) : (s.transmit T opcode payload).2.Fares isOpen phase := by
  have ht := transmitted T s opcode payload
  generalize s.transmit T opcode payload = outcome at ht
  -- A write leaves the device as open as it was, whatever becomes of it.
  have hwrite {s₁ : Session σ} {bytes : Bytes} {r : Except TransportError Nat} {link : σ}
      (hf : s₁.Fares isOpen phase)
      (hw : T.write bytes s₁.settings.writeTimeout s₁.link = (r, link)) :
      { s₁ with link := link }.Fares isOpen phase := by
    have hd := hT.write bytes s₁.settings.writeTimeout s₁.link
    rw [hw] at hd
    exact hf.of_same (sameConnection_link hd)
  cases ht with
  | refused => exact hf
  | tooLong he _ => exact (hf.of_same (sameConnection_enroll he)).withdraw _
  | detached he _ => exact (hf.of_same (sameConnection_enroll he)).withdraw _
  | broken he _ _ hw _ =>
    have hl := hwrite (hf.of_same (sameConnection_enroll he)) hw
    exact Fares.withdraw (.inr (hl.fault hT _)) _
  | failed he _ _ hw _ => exact (hwrite (hf.of_same (sameConnection_enroll he)) hw).withdraw _
  | sent he _ _ hw =>
    have hl := hwrite (hf.of_same (sameConnection_enroll he)) hw
    have hs := (listens_settle T _).fares hT hl
    dsimp only
    exact hs.of_same (sameConnection_updateStats _ _)

theorem Fares.await (hT : T.Tracks isOpen) (hf : s.Fares isOpen phase) (h : Handle) (d : Duration) :
    (s.await T h d).2.Fares isOpen phase :=
  await_keeps T s h d ((listens_linger T s h d).fares hT hf) fun hl =>
    hl.of_same (sameConnection_giveUp _ h d)

theorem Fares.handshake (hT : T.Tracks isOpen) (hf : s.Fares isOpen phase) :
    (s.handshake T).2.Fares isOpen phase := by
  have ht := hf.transmit hT Opcode.handshake Version.current.toBytes
  rw [Session.handshake]
  split
  · next e s₁ he => rwa [he] at ht
  · next h s₁ he =>
    rw [he] at ht
    have hw := ht.await hT h s.settings.handshakeTimeout
    split <;> next he => rwa [he] at hw

theorem inForce_attachLink (hp : s.phase.isLive = true) {link : σ} (hd : isOpen link = true) :
    (s.attachLink link).InForce isOpen :=
  ⟨hp, rfl, rfl, rfl, rfl, hd, rfl⟩

end Session
end FrameLink
