import FrameLink.Proofs.Decoder.Chunks
import FrameLink.Proofs.Session.Digest

namespace FrameLink
namespace Session

variable {σ τ : Type} {T : Transport σ} {U : Transport τ} {s s' s₀ : Session σ} {t t₀ : Session τ}
  {p : Packet} {packets more : List Bytes} {results : List (Except ProtocolError Frame)}

theorem digest_congr (h : s.outward = t.outward) (results : List (Except ProtocolError Frame)) :
    (digest results s).1 = (digest results t).1 ∧
      (digest results s).2.outward = (digest results t).2.outward := by
  have he : digest results s.outward = digest results t.outward := by rw [h]
  rw [digest_outward, digest_outward] at he
  exact Prod.mk.inj he

theorem outward_digested_congr (h : s.outward = t.outward)
    (results : List (Except ProtocolError Frame)) :
    (s.digested T results).outward = (t.digested U results).outward := by
  rw [outward_digested, outward_digested, h]

theorem findings_of_data (hp : p.data ≠ []) :
    s.findings (.ok p) = (s.receiver.decoder.extend p.data).drain.1 := by
  rw [findings, if_neg (mt List.isEmpty_iff.mp hp)]

def Idle : Except TransportError Packet → Prop
  | .ok p => p.data = []
  | .error e => e = .timeout

def discard (s : Session σ) : Session σ :=
  { s with
    receiver := { s.receiver with
      decoder := { s.receiver.decoder with buffer := [], skipped := 0 }
      strikes := s.receiver.strikes + 1 }
    stats := { s.stats with
      resyncBytes := s.stats.resyncBytes +
        (s.receiver.decoder.skipped + s.receiver.decoder.buffer.length)
      malformedFrames := s.stats.malformedFrames + 1 } }

theorem expire_of_stale (hb : s.receiver.decoder.buffer ≠ [])
    (hs : ¬ s.receiver.silence s.clock < s.settings.partialTimeout) :
    s.expire =
      if 0 < s.settings.errorLimit ∧ s.settings.errorLimit < s.receiver.strikes + 1 then
        (some (anomaliesInRow (s.receiver.strikes + 1)), s.discard)
      else (none, s.discard) := by
  rw [expire, if_neg (mt List.isEmpty_iff.mp hb), if_neg hs]
  rfl

theorem absorb_idle (T : Transport σ) (s : Session σ) {outcome : Except TransportError Packet}
    (ho : Idle outcome) :
    s.absorb T outcome =
      if s.receiver.decoder.buffer = [] ∨ s.receiver.silence s.clock < s.settings.partialTimeout
      then s
      else if 0 < s.settings.errorLimit ∧ s.settings.errorLimit < s.receiver.strikes + 1 then
        s.discard.fault T (anomaliesInRow (s.receiver.strikes + 1))
      else s.discard := by
  have htake : s.takeIn T outcome = s.expire := by
    cases outcome with
    | ok p => exact if_pos (List.isEmpty_iff.mpr ho)
    | error e => rw [show e = .timeout from ho]; rfl
  rw [absorb, htake]
  by_cases hb : s.receiver.decoder.buffer = []
  · rw [expire, if_pos (List.isEmpty_iff.mpr hb), if_pos (.inl hb)]
  by_cases hs : s.receiver.silence s.clock < s.settings.partialTimeout
  · rw [expire, if_neg (mt List.isEmpty_iff.mp hb), if_pos hs, if_pos (.inr hs)]
  rw [expire_of_stale hb hs, if_neg (not_or.mpr ⟨hb, hs⟩)]
  by_cases hover : 0 < s.settings.errorLimit ∧ s.settings.errorLimit < s.receiver.strikes + 1
  · rw [if_pos hover, if_pos hover]
  · rw [if_neg hover, if_neg hover]

/-- What a session does with a packet is to work through what it finds in it. -/
theorem exists_absorb_eq (T : Transport σ) (s : Session σ) (hp : p.data ≠ []) :
    ∃ s' : Session σ, s'.outward = (digest (s.findings (.ok p)) s).2.outward ∧
      s'.link = s.link ∧ s'.settings = s.settings ∧ s'.phase = s.phase ∧
      s'.reading = s.reading ∧
      s'.receiver.decoder = (s.receiver.decoder.extend p.data).drain.2 ∧
      s'.stats.resyncBytes = s.stats.resyncBytes ∧
      s.absorb T (.ok p) = match (digest (s.findings (.ok p)) s).1 with
        | none => s'.countSkipped
        | some cause => s'.fault T cause := by
  rw [findings_of_data hp, absorb, takeIn, if_neg (mt List.isEmpty_iff.mp hp), ingest]
  generalize (s.receiver.decoder.extend p.data).drain = drained
  obtain ⟨results, decoder⟩ := drained
  dsimp only
  generalize hs₁ : { s with receiver := _ } = s₁
  have ho : s₁.outward = s.outward := by rw [← hs₁]; rfl
  have hsame := sameReader_digest results s₁
  rw [← (digest_congr ho results).1, ← (digest_congr ho results).2]
  refine ⟨(digest results s₁).2, rfl, ?_⟩
  rw [hsame.link, hsame.settings, hsame.phase, hsame.reading, hsame.decoder, hsame.resyncBytes]
  refine ⟨by rw [← hs₁], by rw [← hs₁], by rw [← hs₁], by rw [← hs₁], by rw [← hs₁],
    by rw [← hs₁], ?_⟩
  rcases digest results s₁ with ⟨_ | cause, s₂⟩ <;> rfl

theorem outward_absorb (T : Transport σ) (s : Session σ) (hp : p.data ≠ []) :
    (s.absorb T (.ok p)).outward = (s.digested T (s.findings (.ok p))).outward := by
  obtain ⟨s', ho, -, -, -, -, -, -, he⟩ := exists_absorb_eq T s hp
  rw [he]
  cases h : (digest (s.findings (.ok p)) s).1 with
  | none =>
    rw [digested_of_none h, ← ho]
    rfl
  | some cause => rw [digested_of_some h, outward_fault, outward_fault, ← ho]

theorem absorb_of_sound (T : Transport σ) (hp : p.data ≠ [])
    (h : (digest (s.findings (.ok p)) s).1 = none) :
    (s.absorb T (.ok p)).link = s.link ∧ (s.absorb T (.ok p)).settings = s.settings ∧
    (s.absorb T (.ok p)).reading = s.reading ∧
    (s.absorb T (.ok p)).receiver.decoder =
      { (s.receiver.decoder.extend p.data).drain.2 with skipped := 0 } ∧
    (s.absorb T (.ok p)).stats.resyncBytes =
      s.stats.resyncBytes + (s.receiver.decoder.extend p.data).drain.2.skipped := by
  obtain ⟨s', -, hlink, hsettings, -, hreading, hdecoder, hresync, he⟩ := exists_absorb_eq T s hp
  rw [h] at he
  rw [he, ← hlink, ← hsettings, ← hreading, ← hdecoder, ← hresync]
  exact ⟨rfl, rfl, rfl, rfl, rfl⟩

theorem absorb_of_failure (T : Transport σ) (hp : p.data ≠ []) (hl : s.phase.isLive = true)
    {cause : SessionError} (h : (digest (s.findings (.ok p)) s).1 = some cause) :
    (s.absorb T (.ok p)).phase = .faulted ∧ (s.absorb T (.ok p)).reading = false ∧
    (s.absorb T (.ok p)).link = T.release s.link ∧
    (s.absorb T (.ok p)).settings = s.settings := by
  obtain ⟨s', -, hlink, hsettings, hphase, -, -, -, he⟩ := exists_absorb_eq T s hp
  rw [h] at he
  dsimp only at he
  rw [← hphase] at hl
  rw [he, ← hlink, ← hsettings, fault_of_live hl, failAll_eq]
  exact ⟨rfl, rfl, rfl, rfl⟩

/-- Unless something has failed since the session was `s₀`, it holds the bytes that a decoder would
hold that was fed with these packets. -/
def Holds (s₀ : Session σ) (packets : List Bytes) (s : Session σ) : Prop :=
  (digest (s₀.receiver.decoder.feed packets).1 s₀).1 = none →
    ∃ n, s.receiver.decoder = { (s₀.receiver.decoder.feed packets).2 with skipped := n } ∧
      s.stats.resyncBytes + n = s₀.stats.resyncBytes + (s₀.receiver.decoder.feed packets).2.skipped ∧
      n = if packets = [] then s₀.receiver.decoder.skipped else 0

namespace Holds

theorem refl (s : Session σ) : Holds s [] s := fun _ => ⟨_, rfl, rfl, rfl⟩

/-- After a failure no more is read. -/
theorem failed (hf : (digest (s₀.receiver.decoder.feed packets).1 s₀).1 ≠ none)
    (more : List Bytes) : Holds s₀ (packets ++ more) s := by
  rw [Holds, Decoder.feed_append, digest_append, if_neg hf]
  exact fun hnone => absurd hnone hf

theorem next (hh : Holds s₀ packets s)
    (hnone : (digest (s₀.receiver.decoder.feed packets).1 s₀).1 = none) (bs : Bytes) :
    s₀.receiver.decoder.feed (packets ++ [bs]) =
      ((s₀.receiver.decoder.feed packets).1 ++ (s.receiver.decoder.extend bs).drain.1,
        { (s.receiver.decoder.extend bs).drain.2 with
          skipped := (s₀.receiver.decoder.feed (packets ++ [bs])).2.skipped }) ∧
    s.stats.resyncBytes + (s.receiver.decoder.extend bs).drain.2.skipped =
      s₀.stats.resyncBytes + (s₀.receiver.decoder.feed (packets ++ [bs])).2.skipped := by
  obtain ⟨n, hd, hn, -⟩ := hh hnone
  rw [Decoder.feed_append, Decoder.feed_singleton, hd]
  generalize s₀.receiver.decoder.feed packets = fed at hn ⊢
  obtain ⟨results, last, hdrain⟩ := Decoder.exists_drain_eq (fed.2.extend bs)
  have hfed : (fed.2.extend bs).drain = _ := hdrain fed.2.skipped
  have hs : ({ fed.2 with skipped := n }.extend bs).drain = _ := hdrain n
  rw [hfed, hs]
  refine ⟨rfl, ?_⟩
  dsimp only
  omega

theorem feed_concat (hh : Holds s₀ packets s)
    (hnone : (digest (s₀.receiver.decoder.feed packets).1 s₀).1 = none) (hp : p.data ≠ []) :
    (s₀.receiver.decoder.feed (packets ++ [p.data])).1 =
      (s₀.receiver.decoder.feed packets).1 ++ s.findings (.ok p) := by
  rw [(hh.next hnone p.data).1, findings_of_data hp]

theorem absorb (hh : Holds s₀ packets s)
    (hnone : (digest (s₀.receiver.decoder.feed packets).1 s₀).1 = none) (hp : p.data ≠ [])
    (hfails : (digest (s₀.receiver.decoder.feed (packets ++ [p.data])).1 s₀).1 =
      (digest (s.findings (.ok p)) s).1) : Holds s₀ (packets ++ [p.data]) (s.absorb T (.ok p)) := by
  intro hall
  obtain ⟨hfeed, hskipped⟩ := hh.next hnone p.data
  obtain ⟨-, -, -, hdecoder, hresync⟩ := absorb_of_sound T hp (hfails.symm.trans hall)
  refine ⟨0, ?_, ?_, ?_⟩
  · rw [hdecoder, hfeed]
  · rw [hresync]
    exact hskipped
  · rw [if_neg (List.append_ne_nil_of_right_ne_nil _ (List.cons_ne_nil _ _))]

/-- Two sessions hold the same of the same bytes, whatever packets they come in. -/
theorem agree {xs ys : List Bytes} (hs : Holds s₀ xs s) (ht : Holds t₀ ys t)
    (hd : s₀.receiver.decoder = t₀.receiver.decoder)
    (hn : s₀.stats.resyncBytes = t₀.stats.resyncBytes) (hx : [] ∉ xs) (hy : [] ∉ ys)
    (h : xs.flatten = ys.flatten) (hnone : (digest (s₀.receiver.decoder.feed xs).1 s₀).1 = none)
    (hnone' : (digest (t₀.receiver.decoder.feed ys).1 t₀).1 = none) :
    s.receiver.decoder = t.receiver.decoder ∧ s.stats.resyncBytes = t.stats.resyncBytes := by
  obtain ⟨n, hsd, hsn, hsz⟩ := hs hnone
  obtain ⟨m, htd, htn, htz⟩ := ht hnone'
  rw [← hd, ← Decoder.feed_congr _ hx hy h] at htd htn
  have hnm : n = m := by
    simp only [hsz, htz, hd, Decoder.eq_nil_iff_of_flatten_eq hx hy h]
  subst hnm
  exact ⟨hsd.trans htd.symm, by omega⟩

end Holds

/-- The session has read these packets since it was `s₀`, in no time. -/
structure Received (T : Transport σ) (s₀ : Session σ) (packets : List Bytes) (s : Session σ) :
    Prop where
  outward : s.outward = (s₀.digested T (s₀.receiver.decoder.feed packets).1).outward
  held : Holds s₀ packets s

namespace Received

theorem refl (T : Transport σ) (s : Session σ) : Received T s [] s := ⟨rfl, .refl s⟩

theorem link (hr : Received T s₀ packets s) (link : σ) :
    Received T s₀ packets { s with link := link } :=
  ⟨hr.outward, hr.held⟩

theorem outward_of_sound (hr : Received T s₀ packets s)
    (hnone : (digest (s₀.receiver.decoder.feed packets).1 s₀).1 = none) :
    s.outward = (digest (s₀.receiver.decoder.feed packets).1 s₀).2.outward := by
  rw [hr.outward, digested_of_none hnone]

theorem phase_of_sound (hr : Received T s₀ packets s)
    (hnone : (digest (s₀.receiver.decoder.feed packets).1 s₀).1 = none) :
    s.phase = s₀.phase := by
  have hp : s.outward.phase = (digest (s₀.receiver.decoder.feed packets).1 s₀).2.outward.phase := by
    rw [hr.outward_of_sound hnone]
  exact hp.trans (sameReader_digest _ s₀).phase

theorem absorb (hr : Received T s₀ packets s)
    (hnone : (digest (s₀.receiver.decoder.feed packets).1 s₀).1 = none) (hp : p.data ≠ []) :
    Received T s₀ (packets ++ [p.data]) (s.absorb T (.ok p)) := by
  have hs := hr.outward_of_sound hnone
  have hresults := hr.held.feed_concat hnone hp
  have hdigest := digest_append (s₀.receiver.decoder.feed packets).1 (s.findings (.ok p)) s₀
  rw [if_pos hnone] at hdigest
  refine ⟨?_, hr.held.absorb hnone hp ?_⟩
  · rw [hresults, outward_absorb T s hp, digested_append hnone,
      outward_digested_congr (U := T) hs]
  · rw [hresults, hdigest, (digest_congr hs _).1]

end Received

end Session
end FrameLink
