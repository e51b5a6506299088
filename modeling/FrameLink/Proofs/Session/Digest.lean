import FrameLink.Proofs.Session.Anomalies
import FrameLink.Proofs.Session.Connection

namespace FrameLink

def Transport.mute : Transport Unit where
  attach _ _ := (.ok (), ())
  write bs _ _ := (.ok bs.length, ())
  poll _ _ _ := none
  follow _ := none
  release _ := ()
  isGone _ := false
  horizon _ := 0
  readTime _ := ⟨0⟩

def Stats.countAnomaly (e : ProtocolError) (st : Stats) : Stats :=
  match e with
  | .checksumMismatch .. => { st with checksumFailures := st.checksumFailures + 1 }
  | _ => { st with malformedFrames := st.malformedFrames + 1 }

theorem Stats.resyncBytes_countAnomaly (e : ProtocolError) (st : Stats) :
    (st.countAnomaly e).resyncBytes = st.resyncBytes := by
  cases e <;> rfl

namespace Session

variable {σ : Type} {T : Transport σ} {s s' : Session σ} {cause : SessionError}
  {results rest : List (Except ProtocolError Frame)}

/-- A session as its users see it: without its link, the bytes that wait in its decoder, when they
were read and how many were thrown away. -/
def outward (s : Session σ) : Session Unit :=
  { s with
    link := ()
    settings := { s.settings with maxRead := 0 }
    receiver := { decoder := .new s.settings.codec, strikes := s.receiver.strikes, heardAt := 0 }
    stats := { s.stats with resyncBytes := 0 } }

theorem outward_publish (s : Session σ) (f : Frame) :
    (s.publish f).outward = s.outward.publish f := by
  rw [publish, publish]
  by_cases hp : s.publishing = true
  · rw [if_pos hp, if_pos (show s.outward.publishing = true from hp)]
    rfl
  · rw [if_neg hp, if_neg (show ¬ s.outward.publishing = true from hp)]

theorem outward_route (s : Session σ) (f : Frame) : (s.route f).outward = s.outward.route f := by
  have ht : (s.outward.tick.note (.routed f)).table.route (s.outward.tick.note (.routed f)).clock
      f.seq = (s.tick.note (.routed f)).table.route (s.tick.note (.routed f)).clock f.seq := rfl
  rw [route, route, ht]
  split
  · rfl
  · rfl
  · exact outward_publish _ f

theorem outward_receive (s : Session σ) (f : Frame) :
    (s.receive f).outward = s.outward.receive f :=
  outward_route _ f

theorem strike_snd (s : Session σ) (e : ProtocolError) :
    (s.strike e).2 = { s with
      stats := s.stats.countAnomaly e
      receiver := { s.receiver with strikes := s.receiver.strikes + 1 } } := by
  simp only [strike, apply_ite Prod.snd, ite_self]
  rfl

theorem strike_outward (s : Session σ) (e : ProtocolError) :
    s.outward.strike e = ((s.strike e).1, (s.strike e).2.outward) := by
  have hstats : s.outward.stats.countAnomaly e =
      { s.stats.countAnomaly e with resyncBytes := 0 } := by
    cases e <;> rfl
  refine Prod.ext ?_ ?_
  · rw [strike_fst, strike_fst]
    rfl
  · rw [strike_snd, strike_snd, hstats]
    rfl

theorem digest_outward (results : List (Except ProtocolError Frame)) (s : Session σ) :
    digest results s.outward = ((digest results s).1, (digest results s).2.outward) := by
  induction results generalizing s with
  | nil => rfl
  | cons r rest ih =>
    cases r with
    | ok f => rw [digest, digest, ← outward_receive, ih]
    | error e =>
      rw [digest, digest, strike_outward]
      rcases s.strike e with ⟨_ | cause, s'⟩
      · exact ih s'
      · rfl

theorem outward_fault (T : Transport σ) (s : Session σ) (cause : SessionError) :
    (s.fault T cause).outward = s.outward.fault .mute cause := by
  cases hl : s.phase.isLive with
  | true =>
    rw [fault_of_live hl, fault_of_live (show s.outward.phase.isLive = true from hl), failAll_eq,
      failAll_eq]
    rfl
  | false =>
    rw [fault_of_not_live hl, fault_of_not_live (show s.outward.phase.isLive = false from hl)]
    rfl

/-- Works through frames and anomalies. The first failure faults the connection. -/
def digested (T : Transport σ) (results : List (Except ProtocolError Frame)) (s : Session σ) :
    Session σ :=
  match digest results s with
  | (some cause, s) => s.fault T cause
  | (none, s) => s

theorem digested_of_none (h : (digest results s).1 = none) :
    s.digested T results = (digest results s).2 := by
  rw [digested]
  split
  · next he => rw [he] at h; cases h
  · next he => rw [he]

theorem digested_of_some (h : (digest results s).1 = some cause) :
    s.digested T results = (digest results s).2.fault T cause := by
  rw [digested]
  split
  · next he => rw [he] at h ⊢; cases h; rfl
  · next he => rw [he] at h; cases h

theorem outward_digested (T : Transport σ) (results : List (Except ProtocolError Frame))
    (s : Session σ) : (s.digested T results).outward = s.outward.digested .mute results := by
  rw [digested, digested, digest_outward]
  rcases digest results s with ⟨_ | cause, s'⟩
  · rfl
  · exact outward_fault T s' cause

theorem digest_append (results rest : List (Except ProtocolError Frame)) (s : Session σ) :
    digest (results ++ rest) s =
      if (digest results s).1 = none then digest rest (digest results s).2
      else digest results s := by
  induction results generalizing s with
  | nil => rfl
  | cons r results ih =>
    rw [List.cons_append]
    cases r with
    | ok f => rw [digest, digest, ih]
    | error e =>
      rw [digest, digest]
      rcases s.strike e with ⟨_ | cause, s'⟩
      · exact ih s'
      · rfl

theorem digested_append (h : (digest results s).1 = none)
    (rest : List (Except ProtocolError Frame)) :
    s.digested T (results ++ rest) = (digest results s).2.digested T rest := by
  rw [digested, digested, digest_append, if_pos h]

/-- The frames and anomalies that are worked through: the last one is the first failure, if there is
one. -/
def heeded : List (Except ProtocolError Frame) → Session σ → List (Except ProtocolError Frame)
  | [], _ => []
  | .ok f :: rest, s => .ok f :: heeded rest (s.receive f)
  | .error e :: rest, s =>
    match s.strike e with
    | (some _, _) => [.error e]
    | (none, s) => .error e :: heeded rest s

theorem heeded_append (results rest : List (Except ProtocolError Frame)) (s : Session σ) :
    heeded (results ++ rest) s =
      if (digest results s).1 = none then heeded results s ++ heeded rest (digest results s).2
      else heeded results s := by
  induction results generalizing s with
  | nil => rfl
  | cons r results ih =>
    rw [List.cons_append]
    cases r with
    | ok f =>
      rw [heeded, heeded, digest, ih]
      split <;> rfl
    | error e =>
      rw [heeded, heeded, digest]
      rcases s.strike e with ⟨_ | cause, s'⟩
      · dsimp only
        rw [ih]
        split <;> rfl
      · rfl

structure SameReader (s s' : Session σ) : Prop where
  link : s'.link = s.link
  settings : s'.settings = s.settings
  reading : s'.reading = s.reading
  phase : s'.phase = s.phase
  decoder : s'.receiver.decoder = s.receiver.decoder
  resyncBytes : s'.stats.resyncBytes = s.stats.resyncBytes

theorem SameReader.refl (s : Session σ) : SameReader s s := ⟨rfl, rfl, rfl, rfl, rfl, rfl⟩

theorem SameReader.trans {s'' : Session σ} (h₁ : SameReader s s') (h₂ : SameReader s' s'') :
    SameReader s s'' where
  link := h₂.link.trans h₁.link
  settings := h₂.settings.trans h₁.settings
  reading := h₂.reading.trans h₁.reading
  phase := h₂.phase.trans h₁.phase
  decoder := h₂.decoder.trans h₁.decoder
  resyncBytes := h₂.resyncBytes.trans h₁.resyncBytes

theorem sameReader_route (s : Session σ) (f : Frame) : SameReader s (s.route f) := by
  obtain ⟨_, _, _, _, _, h⟩ := route_eq s f
  rw [h]
  exact ⟨rfl, rfl, rfl, rfl, rfl, rfl⟩

theorem sameReader_receive (s : Session σ) (f : Frame) : SameReader s (s.receive f) := by
  have hs := sameReader_route ({ s with
    receiver := { s.receiver with strikes := 0 }
    stats := { s.stats with framesReceived := s.stats.framesReceived + 1 } }) f
  exact ⟨hs.link, hs.settings, hs.reading, hs.phase, hs.decoder, hs.resyncBytes⟩

theorem sameReader_strike (s : Session σ) (e : ProtocolError) : SameReader s (s.strike e).2 := by
  rw [strike_snd]
  exact ⟨rfl, rfl, rfl, rfl, rfl, s.stats.resyncBytes_countAnomaly e⟩

theorem sameReader_digest (results : List (Except ProtocolError Frame)) (s : Session σ) :
    SameReader s (digest results s).2 := by
  induction results generalizing s with
  | nil => exact .refl s
  | cons r rest ih =>
    cases r with
    | ok f => exact (sameReader_receive s f).trans (ih _)
    | error e =>
      have hs := sameReader_strike s e
      rw [digest]
      split
      · next he => rwa [he] at hs
      · next s' he =>
        rw [he] at hs
        exact hs.trans (ih s')

end Session
end FrameLink
