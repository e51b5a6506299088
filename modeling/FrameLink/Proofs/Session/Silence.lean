import FrameLink.Proofs.Decoder.RoundTrip
import FrameLink.Proofs.Device.Open
import FrameLink.Proofs.Session.Handshake
import FrameLink.Proofs.Session.Met

namespace FrameLink

theorem Decoder.feed_sent {c : Codec} {k : Nat} {packets : List Bytes} {sent : List Sent}
    (hs : ∀ m ∈ sent, m.Intact c) (h : packets.flatten = sent.flatMap Sent.wire) :
    (Decoder.mk c [] k).feed packets =
      (sent.map fun m => .ok m.frame, ⟨c, [], k + (sent.flatMap Sent.noise).length⟩) := by
  have hfeed : (Decoder.mk c [] k).feed packets = (Decoder.mk c packets.flatten k).drain := by
    cases packets with
    | nil => exact (drain_nil c k).symm
    | cons bs packets => exact feed_eq_drain _ (List.cons_ne_nil _ _)
  have hdrain : (Decoder.mk c (sent.flatMap Sent.wire ++ []) k).drain = _ := drain_sent hs
  rw [List.append_nil, drain_nil, List.append_nil] at hdrain
  rw [hfeed, h, hdrain]

theorem Decoder.feed_encoded {c : Codec} {k : Nat} {packets : List Bytes} {f : Frame}
    {bytes : Bytes} (hf : c.encode f = .ok bytes) (h : packets.flatten = bytes) :
    (Decoder.mk c [] k).feed packets = ([.ok f], ⟨c, [], k⟩) := by
  have hsent : ∀ m ∈ [Sent.mk f bytes []], m.Intact c := by
    intro m hm
    rw [List.mem_singleton.mp hm]
    exact ⟨hf, List.not_mem_nil⟩
  refine feed_sent hsent ?_
  rw [h, List.flatMap_singleton, Sent.wire, List.append_nil]

namespace Session

variable {σ : Type} {T : Transport σ} {isOpen : σ → Bool} {s s₀ : Session σ}
  {packets : List Bytes} {reads : List (Packet × σ)} {frames : List Frame}

def readAll (T : Transport σ) (s : Session σ) (reads : List (Packet × σ)) : Session σ :=
  reads.foldl (fun s r => { s with link := r.2 }.absorb T (.ok r.1)) s

theorem digest_frames (frames : List Frame) (s : Session σ) :
    digest (frames.map .ok) s = (none, frames.foldl receive s) := by
  induction frames generalizing s with
  | nil => rfl
  | cons f frames ih => exact ih (s.receive f)

theorem digest_sent {c : Codec} {k : Nat} {sent : List Sent} (hs : ∀ m ∈ sent, m.Intact c)
    (h : packets.flatten = sent.flatMap Sent.wire) (s : Session σ) :
    digest ((Decoder.mk c [] k).feed packets).1 s = (none, (sent.map Sent.frame).foldl receive s) := by
  have hframes := digest_frames (sent.map Sent.frame) s
  rw [List.map_map] at hframes
  rw [Decoder.feed_sent hs h]
  exact hframes

theorem Received.readAll (hr : Received T s₀ packets s) (hfull : ∀ r ∈ reads, r.1.data ≠ [])
    (hall : (digest (s₀.receiver.decoder.feed
      (packets ++ reads.map fun r => r.1.data)).1 s₀).1 = none) :
    Received T s₀ (packets ++ reads.map fun r => r.1.data) (s.readAll T reads) := by
  induction reads generalizing packets s with
  | nil => rwa [List.map_nil, List.append_nil]
  | cons r reads ih =>
    rw [List.map_cons, List.append_cons] at hall ⊢
    have hsound : (digest (s₀.receiver.decoder.feed packets).1 s₀).1 = none := by
      by_contra hf
      rw [List.append_assoc, Decoder.feed_append, digest_append, if_neg hf] at hall
      exact hf hall
    have hnext := (hr.link r.2).absorb hsound (hfull r List.mem_cons_self)
    exact ih hnext (fun r hm => hfull r (List.mem_cons_of_mem _ hm)) hall

structure HasReceived (frames : List Frame) (s s' : Session σ) : Prop where
  journal : s'.journal = (frames.map Entry.routed).reverse ++ s.journal
  received : s'.stats.framesReceived = s.stats.framesReceived + frames.length
  checksums : s'.stats.checksumFailures = s.stats.checksumFailures
  malformed : s'.stats.malformedFrames = s.stats.malformedFrames
  phase : s'.phase = s.phase

theorem hasReceived_receive (s : Session σ) (f : Frame) : HasReceived [f] s (s.receive f) := by
  have hj : (s.receive f).journal = .routed f :: s.journal := journal_route _ f
  obtain ⟨n, hs⟩ := stats_route ({ s with receiver := { s.receiver with strikes := 0 } }.updateStats
    fun st => { st with framesReceived := st.framesReceived + 1 }) f
  change (s.receive f).stats = _ at hs
  exact ⟨hj, by rw [hs]; rfl, by rw [hs]; rfl, by rw [hs]; rfl, (sameReader_receive s f).phase⟩

theorem hasReceived_frames (frames : List Frame) (s : Session σ) :
    HasReceived frames s (frames.foldl receive s) := by
  induction frames generalizing s with
  | nil => exact ⟨rfl, rfl, rfl, rfl, rfl⟩
  | cons f frames ih =>
    have hf := hasReceived_receive s f
    have hr := ih (s.receive f)
    constructor
    · rw [List.foldl_cons, hr.journal, hf.journal]
      simp
    · rw [List.foldl_cons, hr.received, hf.received]
      simp only [List.length_cons, List.length_nil]
      omega
    · exact hr.checksums.trans hf.checksums
    · exact hr.malformed.trans hf.malformed
    · exact hr.phase.trans hf.phase

theorem HasReceived.of_outward {s' s'' : Session σ} (h : HasReceived frames s s')
    (ho : s''.outward = s'.outward) : HasReceived frames s s'' where
  journal := (congrArg Session.journal ho).trans h.journal
  received := (congrArg (fun t => t.stats.framesReceived) ho).trans h.received
  checksums := (congrArg (fun t => t.stats.checksumFailures) ho).trans h.checksums
  malformed := (congrArg (fun t => t.stats.malformedFrames) ho).trans h.malformed
  phase := (congrArg Session.phase ho).trans h.phase

/-- Frames may follow with any noise between them, in any number and any transfers: the session
takes them all, nothing else comes of them, and it holds nothing afterwards. -/
structure Clear (T : Transport σ) (s : Session σ) : Prop where
  ready : s.phase = .ready
  takes : ∀ (sent : List Sent) (reads : List (Packet × σ)),
    (∀ m ∈ sent, m.Intact s.settings.codec) → (∀ r ∈ reads, r.1.data ≠ []) →
    (reads.map fun r => r.1.data).flatten = sent.flatMap Sent.wire →
      (s.readAll T reads).outward = ((sent.map Sent.frame).foldl receive s).outward ∧
      HasReceived (sent.map Sent.frame) s (s.readAll T reads) ∧
      (s.readAll T reads).stats.resyncBytes =
        s.stats.resyncBytes + (sent.flatMap Sent.noise).length ∧
      (s.readAll T reads).receiver.decoder.buffer = []

/-- A session that holds nothing takes whatever comes. -/
theorem Tuned.clear (ht : s.Tuned) (hp : s.phase = .ready) (hb : s.receiver.decoder.buffer = [])
    (T : Transport σ) : Clear T s := by
  refine ⟨hp, fun sent reads hsent hfull hwire => ?_⟩
  have hskipped : s.receiver.decoder.skipped = 0 := ht.counted (by rw [hp]; rfl)
  have hdecoder : s.receiver.decoder = ⟨s.settings.codec, [], 0⟩ := by
    rw [← ht.codec, ← hb, ← hskipped]
  have hfeed := Decoder.feed_sent (k := 0) hsent hwire
  have hdigest := digest_sent (k := 0) hsent hwire s
  rw [← hdecoder] at hfeed hdigest
  have hnone : (digest (s.receiver.decoder.feed (reads.map fun r => r.1.data)).1 s).1 = none := by
    rw [hdigest]
  have hr : Received T s (reads.map fun r => r.1.data) (s.readAll T reads) :=
    (Received.refl T s).readAll hfull hnone
  have houtward := hr.outward_of_sound hnone
  rw [hdigest] at houtward
  obtain ⟨n, hheld, hresync, hn⟩ := hr.held hnone
  have hn0 : n = 0 := by rw [hn, hskipped, ite_self]
  subst hn0
  rw [hfeed, Nat.zero_add] at hresync
  rw [hfeed] at hheld
  have hreceived := (hasReceived_frames (sent.map Sent.frame) s).of_outward houtward
  exact ⟨houtward, hreceived, hresync, by rw [hheld]⟩

/-- A session that is ready, in the middle of a call or not, and a read that brings nothing. If
the last bytes came too recently nothing changes. Otherwise nothing is held any more: if something
was held its bytes are counted as thrown away and as one malformed frame, and if not nothing
changes either. Unless that was one anomaly too many the session is ready, and clear for all that
follows. -/
theorem Met.clear_of_silence (hT : T.Tracks isOpen) (hs : Met T isOpen s) (hp : s.phase = .ready)
    {outcome : Except TransportError Packet} (ho : Idle outcome) :
    let held := s.receiver.decoder.buffer
    let s' := s.absorb T outcome
    let exceeded := held ≠ [] ∧ 0 < s.settings.errorLimit ∧
      s.settings.errorLimit < s.receiver.strikes + 1
    (s.receiver.silence s.clock < s.settings.partialTimeout → s' = s) ∧
    (¬ s.receiver.silence s.clock < s.settings.partialTimeout →
      s'.receiver.decoder.buffer = [] ∧ (held = [] → s' = s) ∧
      (held ≠ [] → s'.stats = { s.stats with
        resyncBytes := s.stats.resyncBytes + held.length
        malformedFrames := s.stats.malformedFrames + 1 }) ∧
      (¬ exceeded → Clear T s')) := by
  intro held s' exceeded
  have ht := hs.tuned hT
  have hskipped : s.receiver.decoder.skipped = 0 := ht.counted (by rw [hp]; rfl)
  have he : s' = _ := absorb_idle T s ho
  refine ⟨fun hyoung => he.trans (if_pos (.inr hyoung)), fun hstale => ?_⟩
  by_cases hb : held = []
  · have hsame : s' = s := he.trans (if_pos (.inl hb))
    rw [hsame]
    exact ⟨hb, fun _ => rfl, fun hne => absurd hb hne, fun _ => ht.clear hp hb T⟩
  rw [if_neg (not_or.mpr ⟨hb, hstale⟩)] at he
  have hstats : s.discard.stats = { s.stats with
      resyncBytes := s.stats.resyncBytes + held.length
      malformedFrames := s.stats.malformedFrames + 1 } := by
    rw [discard, hskipped, Nat.zero_add]
  by_cases hover : 0 < s.settings.errorLimit ∧ s.settings.errorLimit < s.receiver.strikes + 1
  · rw [if_pos hover, fault_of_live (s := s.discard) (by rw [discard, hp]; rfl), failAll_eq] at he
    refine ⟨?_, fun hnil => absurd hnil hb, fun _ => ?_, fun hnot => absurd ⟨hb, hover⟩ hnot⟩
    · rw [he]
      rfl
    · rw [he]
      exact hstats
  · rw [if_neg hover] at he
    rw [he]
    have htuned : s.discard.Tuned := ⟨ht.codec, fun _ => rfl⟩
    exact ⟨rfl, fun hnil => absurd hnil hb, fun _ => hstats, fun _ => htuned.clear hp rfl T⟩

/-- A session that has read noise and a start of a frame which came 300 ms ago, while a request
waits. -/
def stalled : Session Bench :=
  (Client.run Bench.transport
    { session := Session.new .standard .standard .stepped (.new SessionSettings.standard.codec) }
    [.connect, .send Opcode.request [0x61],
      .device (·.act (.raw [0x13, 0x7E, 0, 0x7E, 0x81] (.ofMillis 300))), .read 4]).session

/-- What it holds is given up at the next timeout, and the answer comes through in two pieces. -/
theorem Met.clear_of_silence_stalled :
    let s' := stalled.absorb Bench.transport (.error .timeout)
    let reads : List (Packet × Bench) := [(⟨[0x7E, 0, 4, 0xFB, 0], ⟨0⟩⟩, stalled.link),
      (⟨[1, 2, 0x62, 0xC8, 0xBE], ⟨0⟩⟩, stalled.link)]
    stalled.phase = .ready ∧ stalled.receiver.decoder.buffer = [0x7E, 0, 0x7E, 0x81] ∧
      s'.stats = { stalled.stats with
        resyncBytes := stalled.stats.resyncBytes + 4
        malformedFrames := stalled.stats.malformedFrames + 1 } ∧
      HasReceived [⟨1, 2, [0x62]⟩] s' (s'.readAll Bench.transport reads) := by
  intro s' reads
  have hmet : Met Bench.transport (fun b => b.device.isOpen) stalled :=
    ⟨_, _, _, _, _, rfl, by simp [Call.Sole, Bench.isOpen_act], .refl⟩
  have hfacts : stalled.phase = .ready ∧
      stalled.receiver.decoder.buffer = [0x7E, 0, 0x7E, 0x81] ∧
      ¬ stalled.receiver.silence stalled.clock < stalled.settings.partialTimeout ∧
      ¬ stalled.settings.errorLimit < stalled.receiver.strikes + 1 ∧
      s'.settings.codec.encode ⟨1, 2, [0x62]⟩ =
        .ok [0x7E, 0, 4, 0xFB, 0, 1, 2, 0x62, 0xC8, 0xBE] := by decide +kernel
  obtain ⟨hready, hheld, hstale, hfew, hencode⟩ := hfacts
  have hidle : Idle (.error .timeout) := rfl
  obtain ⟨-, hsilent⟩ := Met.clear_of_silence Bench.transport_tracks hmet hready hidle
  obtain ⟨-, -, hcounted, hclear⟩ := hsilent hstale
  rw [hheld] at hcounted
  have hsent : ∀ m ∈ [Sent.mk ⟨1, 2, [0x62]⟩ [0x7E, 0, 4, 0xFB, 0, 1, 2, 0x62, 0xC8, 0xBE] []],
      m.Intact s'.settings.codec := by
    intro m hm
    rw [List.mem_singleton.mp hm]
    exact ⟨hencode, List.not_mem_nil⟩
  have htakes := (hclear fun h => hfew h.2.2).takes _ reads hsent (by simp [reads]) rfl
  exact ⟨hready, hheld, hcounted (List.cons_ne_nil _ _), htakes.2.1⟩

end Session
end FrameLink
