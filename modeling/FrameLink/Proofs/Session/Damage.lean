import FrameLink.Proofs.Decoder.Damage
import FrameLink.Proofs.Session.Silence
import FrameLink.Proofs.Session.Turns

namespace FrameLink

theorem Stats.framingErrors_countAnomaly (e : ProtocolError) (st : Stats) :
    (st.countAnomaly e).framingErrors = st.framingErrors + 1 := by
  cases e <;> simp only [Stats.countAnomaly, Stats.framingErrors] <;> omega

namespace Session

variable {σ : Type} {T : Transport σ} {isOpen : σ → Bool} {s s' : Session σ} {f g : Frame}
  {bytes follow : Bytes} {i : Nat} {flip : UInt8} {e : ProtocolError}

/-- One anomaly has been counted and one frame received behind it. The frame is the only one that
was routed, and nothing is left of the other bytes but their number. -/
structure Overcomes (g : Frame) (skipped : Nat) (s s' : Session σ) : Prop where
  phase : s'.phase = s.phase
  errors : s'.stats.framingErrors = s.stats.framingErrors + 1
  journal : s'.journal = .routed g :: s.journal
  received : s'.stats.framesReceived = s.stats.framesReceived + 1
  resynced : s'.stats.resyncBytes = s.stats.resyncBytes + skipped
  strikes : s'.receiver.strikes = 0
  buffer : s'.receiver.decoder.buffer = []

theorem digest_error_ok (hfirst : s.receiver.strikes = 0) (hlimit : 0 < s.settings.errorLimit)
    (e : ProtocolError) (g : Frame) :
    digest [.error e, .ok g] s = (none, (s.strike e).2.receive g) := by
  have hfew : ¬ s.settings.errorLimit < s.receiver.strikes + 1 := by
    rw [hfirst, UInt32.not_lt]
    exact UInt32.le_iff_toNat_le.mpr (UInt32.lt_iff_toNat_lt.mp hlimit)
  obtain ⟨s', hs, -⟩ := strike_of_le rfl hfew e
  rw [digest, hs]
  rfl

theorem phase_readAll_take {reads : List (Packet × σ)} (hfull : ∀ r ∈ reads, r.1.data ≠ [])
    (hnone : (digest (s.receiver.decoder.feed (reads.map fun r => r.1.data)).1 s).1 = none) (n : Nat) :
    (s.readAll T (reads.take n)).phase = s.phase := by
  have hsplit : (reads.map fun r => r.1.data) =
      ((reads.take n).map fun r => r.1.data) ++ ((reads.drop n).map fun r => r.1.data) := by
    rw [← List.map_append, List.take_append_drop]
  have hsound : (digest (s.receiver.decoder.feed
      ((reads.take n).map fun r => r.1.data)).1 s).1 = none := by
    by_contra hf
    rw [hsplit, Decoder.feed_append, digest_append, if_neg hf] at hnone
    exact hf hnone
  have hfront : Received T s ((reads.take n).map fun r => r.1.data) (s.readAll T (reads.take n)) :=
    (Received.refl T s).readAll (fun r hm => hfull r (List.mem_of_mem_take hm)) hsound
  exact hfront.phase_of_sound hsound

theorem Tuned.overcomes {c : Codec} {stream : Bytes} {skipped : Nat} (ht : s.Tuned)
    (hp : s.phase = .ready) (hcodec : s.settings.codec = c)
    (hheld : s.receiver.decoder.buffer = []) (hfirst : s.receiver.strikes = 0)
    (hlimit : 0 < s.settings.errorLimit) (hne : stream ≠ [])
    (hdrain : (Decoder.mk c stream 0).drain = ([.error e, .ok g], ⟨c, [], skipped⟩))
    {reads : List (Packet × σ)} (hfull : ∀ r ∈ reads, r.1.data ≠ [])
    (hdata : (reads.map fun r => r.1.data).flatten = stream) :
    Overcomes g skipped s (s.readAll T reads) ∧ ∀ n, (s.readAll T (reads.take n)).phase = .ready := by
  have hskipped : s.receiver.decoder.skipped = 0 := ht.counted (by rw [hp]; rfl)
  have hdecoder : s.receiver.decoder = ⟨c, [], 0⟩ := by
    rw [← hcodec, ← ht.codec, ← hheld, ← hskipped]
  have hpackets : (reads.map fun r => r.1.data) ≠ [] := by
    intro hnil
    rw [hnil] at hdata
    exact hne hdata.symm
  have hfeed : s.receiver.decoder.feed (reads.map fun r => r.1.data) =
      ([.error e, .ok g], ⟨c, [], skipped⟩) := by
    rw [Decoder.feed_eq_drain _ hpackets, hdata, hdecoder]
    exact hdrain
  have hdigest := digest_error_ok hfirst hlimit e g
  have hnone : (digest (s.receiver.decoder.feed (reads.map fun r => r.1.data)).1 s).1 = none := by
    rw [hfeed, hdigest]
  have hr : Received T s (reads.map fun r => r.1.data) (s.readAll T reads) :=
    (Received.refl T s).readAll hfull hnone
  have houtward := hr.outward_of_sound hnone
  rw [hfeed, hdigest] at houtward
  obtain ⟨n, hafter, hresync, hn⟩ := hr.held hnone
  have hn0 : n = 0 := by rw [hn, if_neg hpackets]
  subst hn0
  rw [hfeed] at hafter hresync
  have hstrike := strike_snd s e
  have hframe : HasReceived [g] (s.strike e).2 (s.readAll T reads) :=
    (hasReceived_receive _ g).of_outward houtward
  have herrors : (s.readAll T reads).stats.framingErrors =
      (s.strike e).2.stats.framingErrors := by
    rw [Stats.framingErrors, hframe.checksums, hframe.malformed]
    rfl
  have hstrikes : (s.readAll T reads).receiver.strikes = ((s.strike e).2.receive g).receiver.strikes :=
    congrArg (fun t => t.receiver.strikes) houtward
  refine ⟨⟨?_, ?_, ?_, ?_, hresync, ?_, by rw [hafter]⟩,
    fun n => (phase_readAll_take hfull hnone n).trans hp⟩
  · rw [hframe.phase, hstrike]
  · rw [herrors, hstrike]
    exact Stats.framingErrors_countAnomaly e s.stats
  · rw [hframe.journal, hstrike]
    rfl
  · rw [hframe.received, hstrike]
    cases e <;> rfl
  · rw [hstrikes, strikes_receive]

/-- A damaged encoding and an intact one behind it. The damage is always the first thing that is
found, as a mismatch of check values, and what follows is what a decoder finds behind the dropped
start marker. It is the only anomaly, and the intact frame the only frame, with nothing held,
exactly when the damaged bytes hold no second start marker; otherwise the frame is still taken,
unless a frame covers its first byte or a candidate in front of it waits. Without a second start
marker a session that is ready and between two frames counts one anomaly, routes that frame alone,
and never leaves the ready phase, however the bytes are cut into reads. -/
theorem Met.overcomes_damage (hT : T.Tracks isOpen) (w : LengthWidth) (requested : Nat)
    (a : ChecksumAlgorithm) (hf : (Codec.make w requested a.checksum).encode f = .ok bytes)
    (hg : (Codec.make w requested a.checksum).encode g = .ok follow) (hpos : 1 ≤ i)
    (hi : i < bytes.length) (hflip : flip ≠ 0) :
    let c := Codec.make w requested a.checksum
    let damaged := bytes.modify i (· ^^^ flip)
    let d := (Decoder.new c).extend (damaged ++ follow)
    let behind := (Decoder.mk c (damaged.tail ++ follow) 1).drain
    let taken := StartsAt c d.segments damaged.length (.frame g)
    (∃ carried computed, carried ≠ computed ∧
      d.drain = (.error (.checksumMismatch carried computed) :: behind.1, behind.2)) ∧
    ((∃ e, d.drain.1 = [.error e, .ok g] ∧ d.drain.2.buffer = []) ↔
      startMarker ∉ damaged.tail) ∧
    (taken ∨ Covered c d.segments damaged.length ∨
      (d.segments.flatMap (Segment.bytes c)).length < damaged.length) ∧
    (startMarker ∉ damaged.tail → taken ∧ ∀ s : Session σ, Met T isOpen s → s.phase = .ready →
      s.settings.codec = c → s.receiver.decoder.buffer = [] → s.receiver.strikes = 0 →
      0 < s.settings.errorLimit → ∀ reads : List (Packet × σ), (∀ r ∈ reads, r.1.data ≠ []) →
      (reads.map fun r => r.1.data).flatten = damaged ++ follow →
        Overcomes g damaged.length s (s.readAll T reads) ∧
        ∀ n, (s.readAll T (reads.take n)).phase = .ready) := by
  obtain ⟨tail, rfl⟩ := Codec.exists_eq_cons_of_encode hf
  obtain ⟨j, rfl⟩ : ∃ j, i = j + 1 := Nat.exists_eq_add_of_le' hpos
  rw [List.modify_succ_cons]
  intro c damaged d behind taken
  have hdamaged : Damaged tail (tail.modify j (· ^^^ flip)) :=
    .of_modify (Nat.lt_of_succ_lt_succ hi) hflip
  obtain ⟨carried, computed, hne, hj⟩ := Codec.mismatched_of_damaged a.sensitive hf hdamaged
  have hreject : c.judge (damaged.tail ++ follow) = .reject (.checksumMismatch carried computed) :=
    (hj.followedBy nofun follow).judge_eq
  have hattempt := Decoder.rejected_of_judged hreject 0
  have hdrain : d.drain = (.error (.checksumMismatch carried computed) :: behind.1, behind.2) :=
    hattempt.drain_of_result rfl
  refine ⟨⟨carried, computed, hne, hdrain⟩, Decoder.drain_rejected_iff hreject hg, ?_, ?_⟩
  · refine Decoder.drain_meets (d := d) hg ?_
    exact ⟨[], by simp [d, Decoder.new, Decoder.extend]⟩
  · intro hn
    refine ⟨Decoder.startsAt_behind hreject hn hg, ?_⟩
    intro s hs hp hcodec hheld hfirst hlimit reads hfull hdata
    have hclean : (Decoder.mk c (damaged ++ follow) 0).drain =
        ([.error (.checksumMismatch carried computed), .ok g], ⟨c, [], 1 + damaged.tail.length⟩) := by
      have hbehind : behind = _ := Decoder.drain_behind hn hg 1
      rw [hbehind] at hdrain
      exact hdrain
    have hlen : damaged.length = 1 + damaged.tail.length := Nat.add_comm _ _
    rw [hlen]
    exact (hs.tuned hT).overcomes hp hcodec hheld hfirst hlimit (List.cons_ne_nil _ _) hclean hfull
      hdata

/-- Settings under which one anomaly is tolerated, and two in a row are not. -/
def wary : SessionSettings :=
  { SessionSettings.standard with codec := .make .one 200 .xor8, errorLimit := 1 }

def waryRun (calls : List (Call Bench)) : Session Bench :=
  (Client.run Bench.transport
    { session := Session.new wary .standard .stepped (.new wary.codec) } (.connect :: calls)).session

/-- The last byte of a frame is damaged, and no other start marker is about. The frame behind it
comes in three reads. -/
theorem Met.overcomes_damage_wary :
    let s := waryRun []
    let reads : List (Packet × Bench) := [(⟨[0x7E, 4, 0xFB, 0], ⟨0⟩⟩, s.link),
      (⟨[7, 1, 0x61, 0x9B, 0x7E, 3, 0xFC], ⟨0⟩⟩, s.link), (⟨[0, 9, 2, 0xF4], ⟨0⟩⟩, s.link)]
    Overcomes ⟨9, 2, []⟩ 8 s (s.readAll Bench.transport reads) ∧
      ∀ n, (s.readAll Bench.transport (reads.take n)).phase = .ready := by
  intro s reads
  have hmet : Met Bench.transport (fun b => b.device.isOpen) s :=
    ⟨_, _, _, _, _, rfl, by simp [Call.Sole], .refl⟩
  have hfacts : s.phase = .ready ∧ s.receiver.decoder.buffer = [] ∧ s.receiver.strikes = 0 ∧
      s.settings.errorLimit = 1 := by
    decide +kernel
  obtain ⟨hready, hheld, hfirst, hlimit⟩ := hfacts
  have hcodec : s.settings.codec = .make .one 200 .xor8 :=
    congrArg SessionSettings.codec (Client.settings_run Bench.transport _ _)
  have hf : (Codec.make .one 200 ChecksumAlgorithm.xor8.checksum).encode ⟨7, 1, [0x61]⟩ =
      .ok [0x7E, 4, 0xFB, 0, 7, 1, 0x61, 0x98] := rfl
  have hg : (Codec.make .one 200 ChecksumAlgorithm.xor8.checksum).encode ⟨9, 2, []⟩ =
      .ok [0x7E, 3, 0xFC, 0, 9, 2, 0xF4] := rfl
  have hflip : (3 : UInt8) ≠ 0 := by decide
  obtain ⟨-, -, -, hclean⟩ := Met.overcomes_damage (i := 7) Bench.transport_tracks .one 200 .xor8 hf
    hg (by decide) (by decide) hflip
  exact (hclean (by decide)).2 s hmet hready hcodec hheld hfirst (by rw [hlimit]; decide) reads
    (by simp [reads]) rfl

/-- The opcode of the damaged frame is a start marker, which is a candidate of its own. So there are
two anomalies before the second frame, and that is one too many for a session that tolerates one. -/
theorem damage_found_twice :
    let c := Codec.make .one 200 ChecksumAlgorithm.xor8.checksum
    let bytes : Bytes := [0x7E, 3, 0xFC, 0, 7, 0x7E, 0x86]
    let follow : Bytes := [0x7E, 3, 0xFC, 0, 9, 2, 0xF4]
    let stream := bytes.modify 6 (· ^^^ 1) ++ follow
    c.encode ⟨7, 0x7E, []⟩ = .ok bytes ∧ c.encode ⟨9, 2, []⟩ = .ok follow ∧
      ((Decoder.new c).extend stream).drain.1 = [.error (.checksumMismatch 0x87 0x86),
        .error (.checksumMismatch 0x7E 0x78), .ok ⟨9, 2, []⟩] ∧
      (¬ ∃ e, ((Decoder.new c).extend stream).drain.1 = [.error e, .ok ⟨9, 2, []⟩]) ∧
      (waryRun []).phase = .ready ∧
      (waryRun [.device (·.act (.raw stream ⟨0⟩)), .read 2]).phase = .faulted := by
  intro c bytes follow stream
  have hdrain : ((Decoder.new c).extend stream).drain.1 = [.error (.checksumMismatch 0x87 0x86),
      .error (.checksumMismatch 0x7E 0x78), .ok ⟨9, 2, []⟩] := by
    decide +kernel
  refine ⟨by decide +kernel, by decide +kernel, hdrain, ?_, by decide +kernel, by decide +kernel⟩
  rintro ⟨e, he⟩
  rw [hdrain] at he
  simp at he

end Session
end FrameLink
