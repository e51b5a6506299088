import FrameLink.Proofs.Device.Announcement
import FrameLink.Device.Bench

namespace FrameLink
namespace Bench

variable {b : Bench} {max : Nat} {bs : Bytes} {rest : List Bytes}

/-- The device can be read, and nothing else happens on the bench. -/
structure Calm (b : Bench) : Prop where
  healthy : b.device.readFault = none
  present : b.device.isGone = false
  opened : b.device.isOpen = true
  idle : b.agenda = []
  steady : b.silent = false

structure Quiet (b : Bench) : Prop extends Calm b where
  raw : b.device.announced = none
  full : [] ∉ b.device.inbound

/-- What is left of a queue when a piece has been taken from its front. -/
def remaining (max : Nat) (bs : Bytes) (rest : List Bytes) : List Bytes :=
  if (bs.drop max).isEmpty then rest else bs.drop max :: rest

def queueing (b : Bench) (inbound : List Bytes) : Bench :=
  { b with device := { b.device with inbound := inbound } }

theorem flatten_remaining (max : Nat) (bs : Bytes) (rest : List Bytes) :
    bs.take max ++ (remaining max bs rest).flatten = bs ++ rest.flatten := by
  rw [remaining]
  split
  · next hd =>
    rw [List.take_of_length_le (List.drop_eq_nil_iff.mp (List.isEmpty_iff.mp hd))]
  · rw [List.flatten_cons, ← List.append_assoc, List.take_append_drop]

theorem full_remaining (hr : [] ∉ rest) : [] ∉ remaining max bs rest := by
  rw [remaining]
  split
  · exact hr
  · next hd =>
    rw [List.mem_cons, not_or]
    exact ⟨fun he => hd (List.isEmpty_iff.mpr he.symm), hr⟩

theorem queueReads_remaining (hmax : 0 < max) (hbs : bs ≠ []) (rest : List Bytes) :
    queueReads (remaining max bs rest) < queueReads (bs :: rest) := by
  have hpos : 0 < bs.length := List.length_pos_iff.mpr hbs
  rw [remaining, queueReads]
  split
  · omega
  · rw [queueReads, List.length_drop]
    omega

theorem Calm.follow (hc : b.Calm) : b.follow = none := by
  rw [Bench.follow, hc.idle]

theorem Calm.queueing (hc : b.Calm) (inbound : List Bytes) : (b.queueing inbound).Calm :=
  ⟨hc.healthy, hc.present, hc.opened, hc.idle, hc.steady⟩

theorem Calm.poll_of_read (hc : b.Calm) {data : Bytes} {d : Device}
    (hr : b.device.read max = (.ok data, d)) :
    b.poll max = some (.ok ⟨data, b.age⟩, { b with device := d }) := by
  rw [poll, if_neg (Bool.eq_false_iff.mp hc.steady), hr]

theorem Calm.poll_dry (hc : b.Calm) {retries : UInt8} (ha : b.device.announced = some retries)
    (hi : b.device.inbound = []) :
    b.poll max = if b.dry then none else some (.error .timeout, { b with dry := true }) := by
  have hread : b.device.read max = (.error .timeout, b.device) := by
    simp [Device.read, hc.healthy, hc.present, hc.opened, hi]
  rw [poll, if_neg (Bool.eq_false_iff.mp hc.steady), hread]
  simp [ha]

theorem Calm.poll_embedded (hc : b.Calm) {retries : UInt8} (ha : b.device.announced = some retries)
    {header message : Bytes} (hi : b.device.inbound = header :: rest)
    (he : Announcement.ofHeader header = .embedded message) :
    b.poll max = some (.ok ⟨message, b.age⟩, b.queueing rest) := by
  have hread : b.device.read max = (.ok message, { b.device with inbound := rest }) := by
    simp [Device.read, hc.healthy, hc.present, hc.opened, hi, ha, Device.readAnnounced, he]
  exact hc.poll_of_read hread

namespace Quiet

theorem act (hq : b.Quiet) (hbs : bs ≠ []) (age : Duration) :
    (b.act (.raw bs age)).Quiet ∧
      (b.act (.raw bs age)).device.inbound = b.device.inbound ++ [bs] := by
  have hd : (b.act (.raw bs age)).device =
      { b.device with inbound := b.device.inbound ++ [bs] } := by
    change b.device.enqueue bs = _
    simp only [Device.enqueue, hq.raw]
  have hfull : [] ∉ b.device.inbound ++ [bs] := by
    rw [List.mem_append, List.mem_singleton, not_or]
    exact ⟨hq.full, hbs.symm⟩
  have hsteady : (b.act (.raw bs age)).silent = false := by
    rw [Bench.act, hq.steady]
    rfl
  rw [hd]
  exact ⟨⟨⟨hd ▸ hq.healthy, hd ▸ hq.present, hd ▸ hq.opened, hq.idle, hsteady⟩, hd ▸ hq.raw,
    hd ▸ hfull⟩, rfl⟩

theorem poll_nil (hq : b.Quiet) (hi : b.device.inbound = []) : b.poll max = none := by
  have hread : b.device.read max = (.error .timeout, b.device) := by
    simp [Device.read, hq.healthy, hq.present, hq.opened, hi]
  rw [poll, hq.steady, hread]
  simp [hq.raw]

theorem poll_cons (hq : b.Quiet) (hi : b.device.inbound = bs :: rest) :
    b.poll max = some (.ok ⟨bs.take max, b.age⟩, b.queueing (remaining max bs rest)) := by
  have hread : b.device.read max =
      (.ok (bs.take max), { b.device with inbound := remaining max bs rest }) := by
    simp [Device.read, hq.healthy, hq.present, hq.opened, hi, hq.raw, remaining]
  exact hq.toCalm.poll_of_read hread

theorem cons (hq : b.Quiet) (hi : b.device.inbound = bs :: rest) (max : Nat) :
    bs ≠ [] ∧ (b.queueing (remaining max bs rest)).Quiet := by
  have hfull := hq.full
  rw [hi, List.mem_cons, not_or] at hfull
  exact ⟨fun he => hfull.1 he.symm, hq.toCalm.queueing _, hq.raw, full_remaining hfull.2⟩

end Quiet
end Bench
end FrameLink
