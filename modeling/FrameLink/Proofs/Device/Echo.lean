import FrameLink.Proofs.Device.Announced
import FrameLink.Proofs.Device.Told

namespace FrameLink

variable {c : Codec} {f g : Frame} {bytes reply : Bytes} {n : Nat}

namespace Device

variable {d d' : Device} {r r' : Responder}

/-- The device speaks this codec, and its decoder is as good as new. -/
structure Speaks (c : Codec) (d : Device) : Prop where
  codec : d.codec = c
  decoder : d.decoder = .new c

namespace Speaks

theorem new (c : Codec) : Speaks c (Device.new c) := ⟨rfl, rfl⟩

theorem of_past (hd : d.Speaks c) (hp : d'.past = d.past) : d'.Speaks c where
  codec := (congrArg Past.codec hp).trans hd.codec
  decoder := (congrArg Past.decoder hp).trans hd.decoder

theorem attach (hd : d.Speaks c) : d.attach.2.Speaks c := by
  rw [Device.attach]
  split
  · exact hd
  · split
    · exact hd
    · refine ⟨hd.codec, ?_⟩
      dsimp only
      rw [hd.decoder]
      rfl

theorem write (hd : d.Speaks c) (hf : c.encode f = .ok bytes)
    (hw : d.write bytes = (.ok n, d')) : d'.Speaks c := by
  by_cases hp : d.isGone = true
  · rw [Device.write, if_pos hp] at hw
    cases hw
  by_cases ho : d.isOpen = true
  · rw [write_frame hd.decoder (Bool.eq_false_iff.mpr hp) ho hf] at hw
    obtain ⟨-, rfl⟩ := Prod.mk.inj hw
    have hpast := past_accept { d with writes := d.writes + 1 } f
    exact ⟨(congrArg Past.codec hpast).trans hd.codec, (congrArg Past.decoder hpast).trans hd.decoder⟩
  · rw [Device.write, if_neg hp, if_pos ho] at hw
    cases hw

end Speaks

theorem replies_of_responder (hh : f.opcode ≠ Opcode.handshake) (hr : d.responder = some r)
    (ha : r.answer f = ([g], r')) : d.replies f = ([g], { d with responder := some r' }) := by
  have hrespond : d.respond f = ([g], { d with responder := some r' }) := by
    simp only [respond, hr, ha]
  rw [replies]
  split
  · rw [if_neg hh]
    exact hrespond
  · exact hrespond

theorem write_answered (hd : d.Speaks c) (hp : d.isGone = false) (ho : d.isOpen = true)
    (hh : f.opcode ≠ Opcode.handshake) (hr : d.responder = some r) (ha : r.answer f = ([g], r'))
    (hf : c.encode f = .ok bytes) (hg : c.encode g = .ok reply) :
    d.write bytes = (.ok bytes.length,
      { d with
        writes := d.writes + 1
        frames := d.frames ++ [f]
        responder := some r' }.enqueue reply) := by
  have hg' : d.codec.encode g = .ok reply := hd.codec ▸ hg
  have hreplies : { d with writes := d.writes + 1, frames := d.frames ++ [f] }.replies f =
      ([g], { d with writes := d.writes + 1, frames := d.frames ++ [f], responder := some r' }) :=
    replies_of_responder hh hr ha
  rw [write_frame hd.decoder hp ho hf]
  simp only [accept, hreplies, List.foldl_cons, List.foldl_nil, enqueueFrame, hg']

end Device

namespace Bench

variable {b : Bench}

theorem transport_speaks (c : Codec) :
    transport.Records c fun _ (b : Bench) => b.device.Speaks c :=
  transport_records_of .attach (fun hf hw hd => hd.write hf hw) (fun hp hd => hd.of_past hp)
    fun hd => ⟨hd.codec, hd.decoder⟩

/-- A device has nothing for its host and answers a frame with one that has the same id and the same
payload; nothing else happens on the bench. If the device announces its messages, it has no reads
come back empty, the host fetches at all, and the answer is not too long to be announced. -/
structure Echoes (f : Frame) (b : Bench) : Prop where
  answers : ∃ r r' opcode,
    b.device.responder = some r ∧ r.answer f = ([⟨f.seq, opcode, f.payload⟩], r')
  inbound : b.device.inbound = []
  bodies : b.device.bodies = []
  present : b.device.isGone = false
  healthy : b.device.readFault = none
  writes : b.writeFaults = []
  plans : b.plans = []
  idle : b.agenda = []
  steady : b.silent = false
  announces : ∀ retries, b.device.announced = some retries → 0 < retries.toNat ∧
    b.device.misses = 0 ∧ b.device.codec.encodedLength f.payload.length < 65536

/-- The answer is there as soon as the frame has been written. -/
theorem Echoes.write (hb : b.Echoes f) (hd : b.device.Speaks c) (ho : b.device.isOpen = true)
    (hh : f.opcode ≠ Opcode.handshake) (hf : c.encode f = .ok bytes) :
    ∃ opcode reply b', c.encode ⟨f.seq, opcode, f.payload⟩ = .ok reply ∧
      b.write bytes = (.ok bytes.length, b') ∧
      (b'.device.announced = none → b'.Quiet ∧ b'.device.inbound = [reply]) ∧
      ∀ retries, b'.device.announced = some retries →
        b'.Announcing retries ⟨0, []⟩ [reply] := by
  obtain ⟨r, r', opcode, hr, ha⟩ := hb.answers
  obtain ⟨hfits, -⟩ := Codec.encode_eq_ok_iff.mp hf
  have hg : c.encode ⟨f.seq, opcode, f.payload⟩ = .ok _ := Codec.encode_eq_ok_iff.mpr ⟨hfits, rfl⟩
  generalize c.enclose (Frame.body ⟨f.seq, opcode, f.payload⟩) = reply at hg
  have hwrite := Device.write_answered hd hb.present ho hh hr ha hf hg
  have hne : reply ≠ [] := by
    obtain ⟨tail, rfl⟩ := Codec.exists_eq_cons_of_encode hg
    exact List.cons_ne_nil _ _
  generalize hanswering : ({ b.device with
    writes := b.device.writes + 1
    frames := b.device.frames ++ [f]
    responder := some r' } : Device) = d at hwrite
  have hsame : d.announced = b.device.announced ∧ d.inbound = [] ∧ d.bodies = [] ∧
      d.misses = b.device.misses := by
    subst hanswering
    exact ⟨rfl, hb.inbound, hb.bodies, rfl⟩
  obtain ⟨hannounced, hhealthy, hpresent, hopen⟩ := d.enqueue_keeps reply
  refine ⟨opcode, reply, _, hg, write_of_device hb.writes hb.plans hwrite, ?_⟩
  generalize hb' : ({ b with
    device := d.enqueue reply, attempts := b.attempts + 1, age := ⟨0⟩, dry := false } : Bench) = b'
  have hdevice : b'.device = d.enqueue reply := by rw [← hb']
  have hcalm : b'.Calm := by
    subst hb' hanswering
    exact ⟨hhealthy.trans hb.healthy, hpresent.trans hb.present, hopen.trans ho, hb.idle, hb.steady⟩
  constructor
  · intro hraw
    have hi : b'.device.inbound = [reply] := by
      rw [hdevice] at hraw ⊢
      rw [Device.inbound_enqueue hsame.2.1, hannounced.symm.trans hraw]
    refine ⟨⟨hcalm, hraw, ?_⟩, hi⟩
    rw [hi, List.mem_singleton]
    exact hne.symm
  · intro retries ha
    have ha' : d.announced = some retries := by rw [← hannounced, ← hdevice, ha]
    obtain ⟨hpatient, hmisses, hshort⟩ := hb.announces retries (hsame.1.symm.trans ha')
    have hlength : reply.length < 65536 := by
      rw [Codec.length_encode hg, ← hd.codec]
      exact hshort
    rw [Device.enqueue_of_announced ha', hsame.2.1, hsame.2.2.1, Announcement.toList_compose] at hdevice
    refine ⟨hcalm, ha, hpatient, ?_, ?_, ?_, ?_, ?_⟩
    · rw [hdevice]
      exact hsame.2.2.2.trans hmisses
    · rw [hdevice]
      rfl
    · rw [hdevice]
      rfl
    · rw [hdevice]
      exact fun hm => hne (List.mem_singleton.mp (List.mem_filter.mp hm).1).symm
    · exact fun m hm => List.mem_singleton.mp hm ▸ ⟨hne, hlength⟩

end Bench
end FrameLink
