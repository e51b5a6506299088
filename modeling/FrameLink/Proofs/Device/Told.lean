import FrameLink.Proofs.Device.Offer
import FrameLink.Proofs.Device.Open
import FrameLink.Proofs.Session.Sent

namespace FrameLink

variable {c : Codec} {frames : List Frame} {f : Frame} {bytes : Bytes} {e : TransportError} {n : Nat}

namespace Device

variable {d d' : Device}

/-- A device has been told these frames, each by a transfer of its own. Its decoder is as good as
new: it holds nothing, and it has never thrown anything away. -/
structure Told (c : Codec) (frames : List Frame) (d : Device) : Prop where
  heard : d.frames = frames
  writes : d.writes = frames.length
  decoder : d.decoder = .new c

namespace Told

theorem new (c : Codec) : Told c [] (Device.new c) := ⟨rfl, rfl, rfl⟩

theorem of_past (ht : d.Told c frames) (hp : d'.past = d.past) : d'.Told c frames where
  heard := (congrArg Past.frames hp).trans ht.heard
  writes := (congrArg Past.writes hp).trans ht.writes
  decoder := (congrArg Past.decoder hp).trans ht.decoder

theorem attach (ht : d.Told c frames) : d.attach.2.Told c frames := by
  rw [Device.attach]
  split
  · exact ht
  · split
    · exact ht
    · refine ⟨ht.heard, ht.writes, ?_⟩
      dsimp only
      rw [ht.decoder]
      rfl

theorem write (ht : d.Told c frames) (hf : c.encode f = .ok bytes)
    (hw : d.write bytes = (.ok n, d')) : d'.Told c (frames ++ [f]) := by
  by_cases hp : d.isGone = true
  · rw [Device.write, if_pos hp] at hw
    cases hw
  by_cases ho : d.isOpen = true
  · rw [write_frame ht.decoder (Bool.eq_false_iff.mpr hp) ho hf] at hw
    obtain ⟨-, rfl⟩ := Prod.mk.inj hw
    have hpast := past_accept { d with writes := d.writes + 1 } f
    refine ⟨?_, ?_, ?_⟩
    · exact (congrArg Past.frames hpast).trans (congrArg (· ++ [f]) ht.heard)
    · rw [List.length_append, ← ht.writes]
      exact congrArg Past.writes hpast
    · exact (congrArg Past.decoder hpast).trans ht.decoder
  · rw [Device.write, if_neg hp, if_pos ho] at hw
    cases hw

end Told

theorem eq_of_write_error (hw : d.write bytes = (.error e, d')) : d' = d := by
  rw [write] at hw
  split at hw
  · cases hw
    rfl
  · split at hw <;> cases hw
    rfl

end Device

namespace Bench

/-- A bench passes everything on to its device, so that it keeps the records which the device
keeps. -/
theorem transport_records_of {keeps : List Frame → Device → Prop}
    (attach : ∀ {frames d}, keeps frames d → keeps frames d.attach.2)
    (write : ∀ {frames d d' f bytes n}, c.encode f = .ok bytes → d.write bytes = (.ok n, d') →
      keeps frames d → keeps (frames ++ [f]) d')
    (past : ∀ {frames d d'}, d'.past = d.past → keeps frames d → keeps frames d')
    (close : ∀ {frames d}, keeps frames d → keeps frames d.close) :
    transport.Records c fun frames (b : Bench) => keeps frames b.device where
  attach := by
    intro frames b b' selector outcome hopen ht
    change b.attach = (outcome, b') at hopen
    rw [Bench.attach] at hopen
    dsimp only at hopen
    split at hopen
    · cases hopen
      exact ht
    · obtain ⟨-, rfl⟩ := Prod.mk.inj hopen
      exact attach ht
  written := by
    intro frames b b' f bytes d n hf hw ht
    change b.write bytes = (.ok n, b') at hw
    rw [Bench.write] at hw
    dsimp only at hw
    split at hw
    · cases hw
    · split at hw
      · cases hw
      · next hwrite =>
        obtain ⟨-, rfl⟩ := Prod.mk.inj hw
        exact write hf hwrite ht
  failed := by
    intro frames b b' bytes d e hw ht
    change b.write bytes = (.error e, b') at hw
    rw [Bench.write] at hw
    dsimp only at hw
    split at hw
    · cases hw
      exact ht
    · split at hw
      · next hwrite =>
        cases hw
        rwa [Device.eq_of_write_error hwrite]
      · cases hw
  drift := by
    intro frames b b' hd ht
    cases hd with
    | still => exact ht
    | polled h => exact past (past_poll h) ht
    | followed h => exact past (past_follow h) ht
  release := close

theorem transport_records (c : Codec) :
    transport.Records c fun frames (b : Bench) => b.device.Told c frames :=
  transport_records_of .attach (fun hf hw ht => ht.write hf hw) (fun hp ht => ht.of_past hp)
    fun ht => ⟨ht.heard, ht.writes, ht.decoder⟩

end Bench

namespace Client

open Session

/-- Whatever is done with a new session and a fresh device of its codec, short of writing to the
device behind the back of the session. The device has decoded the frames that were sent, in the
order in which they were sent, and nothing else: it was written to once for each of them, holds no
bytes, and has never thrown any away. As many frames have been counted as sent. The id of each of
them is the number of ids that its connection had given out before, around the circle. -/
theorem run_new_told (settings : SessionSettings) (selector : Selector) (pace : Pace) (b : Bench)
    (calls : List (Call Bench)) (hb : b.device.Told settings.codec [])
    (hact : ∀ act, .device act ∈ calls → ∀ frames (b : Bench), b.device.Told settings.codec frames →
      (act b).device.Told settings.codec frames) :
    let client : Client Bench := { session := Session.new settings selector pace b }
    let sent := client.sent Bench.transport calls
    let s := (client.run Bench.transport calls).session
    s.link.device.frames = sent.map Prod.snd ∧
    s.link.device.decoder = .new settings.codec ∧
    s.link.device.writes = sent.length ∧
    s.stats.framesSent = s.link.device.writes ∧
    (∀ h f, (h, f) ∈ sent → f.seq = h.seq ∧ .issued h ∈ s.journal) ∧
    ∀ h earlier, .issued h :: earlier <:+ s.journal →
      h.seq.toNat = registered earlier % max 2 (min settings.sequenceSpace 65536) := by
  intro client sent s
  have hpos : 0 < max 2 (min settings.sequenceSpace 65536) := by omega
  have hle : max 2 (min settings.sequenceSpace 65536) ≤ 65536 := by omega
  let holds (frames : List Frame) (b : Bench) : Prop := b.device.Told settings.codec frames
  have hfresh : HasSent settings.codec holds _ [] client.session :=
    HasSent.new holds hb selector pace
  have hs : HasSent settings.codec holds _ ([] ++ sent) s :=
    hasSent_run (Bench.transport_records settings.codec) hpos hle hact hfresh
  rw [List.nil_append] at hs
  have hwrites : s.link.device.writes = sent.length := by
    rw [hs.link.writes, List.length_map]
  exact ⟨hs.link.heard, hs.link.decoder, hwrites, hs.framesSent.trans hwrites.symm,
    fun h f hm => hs.issued (h, f) hm, hs.ids⟩

def terse : SessionSettings := { SessionSettings.standard with codec := .make .one 200 .xor8 }

/-- A payload of start markers, a write that fails and takes its id with it, and a second connection
that the device is lost on. -/
def stumbling : List (Call Bench) :=
  [.connect, .send 2 [0x7E, 0x7E], .device (fun b => { b with writeFaults := [some .timeout] }),
    .send 2 [1], .send 2 [0x61], .close, .connect, .device (·.act .disconnect), .send 2 [2]]

theorem run_new_told_stumbling :
    let client : Client Bench :=
      { session := Session.new terse .standard .stepped (.new terse.codec) }
    let s := (client.run Bench.transport stumbling).session
    s.link.device.frames = [⟨0, 0, [1, 0]⟩, ⟨1, 2, [0x7E, 0x7E]⟩, ⟨3, 2, [0x61]⟩, ⟨0, 0, [1, 0]⟩] ∧
      s.stats.framesSent = 4 := by
  intro client s
  have hact : ∀ act, .device act ∈ stumbling → ∀ frames (b : Bench),
      b.device.Told terse.codec frames → (act b).device.Told terse.codec frames := by
    intro act hm frames b ht
    simp only [stumbling, List.mem_cons, List.not_mem_nil, or_false, reduceCtorEq, false_or,
      Call.device.injEq] at hm
    obtain rfl | rfl := hm
    · exact ht
    · exact ht.of_past (b.past_act _)
  have hsent : (client.sent Bench.transport stumbling).map Prod.snd =
      [⟨0, 0, [1, 0]⟩, ⟨1, 2, [0x7E, 0x7E]⟩, ⟨3, 2, [0x61]⟩, ⟨0, 0, [1, 0]⟩] := by
    decide +kernel
  have hlength : (client.sent Bench.transport stumbling).length = 4 := by
    rw [← List.length_map Prod.snd, hsent]
    rfl
  have htold := run_new_told terse .standard .stepped (.new terse.codec) stumbling (.new _) hact
  dsimp only at htold
  obtain ⟨hframes, -, hwrites, hcount, -⟩ := htold
  dsimp only [s, client] at hsent hlength ⊢
  rw [hframes, hcount, hwrites, hsent, hlength]
  exact ⟨rfl, rfl⟩

end Client
end FrameLink
