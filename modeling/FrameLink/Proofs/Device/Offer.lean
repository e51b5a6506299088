import FrameLink.Proofs.Decoder.RoundTrip
import FrameLink.Proofs.Device.Delivery

namespace FrameLink

namespace Device

variable {d : Device} {c : Codec} {f : Frame} {bytes ack : Bytes} {k : Nat}

theorem enqueue_keeps (d : Device) (message : Bytes) :
    (d.enqueue message).announced = d.announced ∧ (d.enqueue message).readFault = d.readFault ∧
      (d.enqueue message).isGone = d.isGone ∧ (d.enqueue message).isOpen = d.isOpen := by
  rw [enqueue]
  split <;> exact ⟨rfl, rfl, rfl, rfl⟩

theorem inbound_enqueue (hd : d.inbound = []) (message : Bytes) :
    (d.enqueue message).inbound = [match d.announced with
      | none => message
      | some _ => (Announcement.compose message).1] := by
  rw [Device.enqueue]
  cases d.announced <;> simp [hd]

theorem write_frame (hd : d.decoder = ⟨c, [], k⟩) (hp : d.isGone = false) (ho : d.isOpen = true)
    (hf : c.encode f = .ok bytes) :
    d.write bytes = (.ok bytes.length, { d with writes := d.writes + 1 }.accept f) := by
  have hextend : d.decoder.extend bytes = ⟨c, bytes ++ [], k⟩ := by
    rw [hd, Decoder.extend, List.append_nil, List.nil_append]
  have hrest : (Decoder.mk c [] k).drain = ([], ⟨c, [], k⟩) :=
    Decoder.Attempt.drain_of_waiting (.exhausted List.not_mem_nil)
  have hdrain : (d.decoder.extend bytes).drain = ([.ok f], d.decoder) := by
    rw [hextend, Decoder.drain_encoded hf, hrest, hd]
  simp only [write, hp, ho, hdrain]
  rfl

theorem accept_offer {v : Version} (hh : d.handshake = some v) (hf : f.opcode = Opcode.handshake)
    (ha : d.codec.encode ⟨f.seq, Opcode.handshakeAck, v.toBytes⟩ = .ok ack) :
    d.accept f = { d with frames := d.frames ++ [f] }.enqueue ack := by
  simp only [accept, replies, hh, hf, if_true, List.foldl_cons, List.foldl_nil, enqueueFrame, ha]

theorem write_offer {v : Version} (hd : d.decoder = ⟨c, [], k⟩) (hp : d.isGone = false)
    (ho : d.isOpen = true) (hh : d.handshake = some v) (hf : f.opcode = Opcode.handshake)
    (hbytes : c.encode f = .ok bytes)
    (ha : d.codec.encode ⟨f.seq, Opcode.handshakeAck, v.toBytes⟩ = .ok ack) :
    d.write bytes =
      (.ok bytes.length,
        { d with writes := d.writes + 1, frames := d.frames ++ [f] }.enqueue ack) := by
  rw [write_frame hd hp ho hbytes]
  exact congrArg _ (accept_offer hh hf ha)

end Device

namespace Bench

variable {b : Bench} {c : Codec} {message bytes ack : Bytes} {f : Frame}

/-- A closed device that speaks this codec, has nothing for its host yet, and acknowledges
handshakes with the current version. It may deliver raw transfers or announce its messages. -/
structure Prepared (c : Codec) (b : Bench) : Prop where
  speaks : b.device.codec = c
  hears : b.device.decoder.codec = c
  answers : b.device.handshake = some .current
  empty : b.device.inbound = []
  closed : b.device.isOpen = false
  present : b.device.isGone = false
  healthy : b.device.readFault = none
  opens : b.openFault = none
  writes : b.writeFaults = []
  plans : b.plans = []
  idle : b.agenda = []
  steady : b.silent = false

structure Holds (message : Bytes) (b : Bench) : Prop extends Calm b where
  queued : b.device.inbound = [match b.device.announced with
    | none => message
    | some _ => (Announcement.compose message).1]

def opened (b : Bench) : Bench :=
  { b with
    opens := b.opens + 1
    device := { b.device with isOpen := true, decoder := b.device.decoder.reset.2 } }

theorem Prepared.attach (hb : b.Prepared c) : b.attach = (.ok (), b.opened) := by
  have hattach : b.device.attach = (.ok (), b.opened.device) := by
    rw [Device.attach, if_neg (Bool.eq_false_iff.mp hb.present),
      if_neg (Bool.eq_false_iff.mp hb.closed)]
    rfl
  rw [Bench.attach]
  dsimp only
  split
  · next e he => cases hb.opens.symm.trans he
  · rw [hattach]
    rfl

theorem write_of_device {d : Device} {n : Nat} (hf : b.writeFaults = []) (hp : b.plans = [])
    (hw : b.device.write bytes = (.ok n, d)) :
    b.write bytes = (.ok n, { b with
      device := d, attempts := b.attempts + 1, age := ⟨0⟩, dry := false }) := by
  have hfault : b.writeFaults.head?.join = none := by
    rw [hf]
    rfl
  have hplanned (number : Nat) : b.agenda ++
      (b.plans.filter (·.1 == number)).flatMap (·.2) = b.agenda := by
    rw [hp]
    exact List.append_nil _
  have htail : b.writeFaults.tail = b.writeFaults := by
    rw [hf]
    rfl
  rw [Bench.write]
  dsimp only
  rw [hfault, htail]
  dsimp only
  rw [hw]
  dsimp only
  rw [hplanned]

theorem Prepared.write (hb : b.Prepared c) (hf : f.opcode = Opcode.handshake)
    (hbytes : c.encode f = .ok bytes)
    (hack : c.encode ⟨f.seq, Opcode.handshakeAck, Version.current.toBytes⟩ = .ok ack) :
    ∃ b', b.opened.write bytes = (.ok bytes.length, b') ∧ b'.Holds ack := by
  have hdecoder : b.opened.device.decoder =
      ⟨c, [], b.device.decoder.skipped + b.device.decoder.buffer.length⟩ := by
    rw [← hb.hears]
    rfl
  have hack' : b.opened.device.codec.encode
      ⟨f.seq, Opcode.handshakeAck, Version.current.toBytes⟩ = .ok ack := hb.speaks ▸ hack
  have hwrite := Device.write_offer hdecoder hb.present rfl hb.answers hf hbytes hack'
  obtain ⟨hannounced, hhealthy, hpresent, hopen⟩ := Device.enqueue_keeps { b.opened.device with
    writes := b.opened.device.writes + 1
    frames := b.opened.device.frames ++ [f] } ack
  refine ⟨_, write_of_device hb.writes hb.plans hwrite, ⟨?_, ?_, ?_, hb.idle, hb.steady⟩, ?_⟩
  · exact hhealthy.trans hb.healthy
  · exact hpresent.trans hb.present
  · exact hopen
  · dsimp only
    rw [hannounced]
    refine Device.inbound_enqueue ?_ ack
    exact hb.empty

end Bench
end FrameLink
