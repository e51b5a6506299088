import FrameLink.Device.Bench
import FrameLink.Proofs.Device.Announcement
import FrameLink.Proofs.Session.Connection

namespace FrameLink

theorem view_fetchInto {σ α : Type} (view : σ → α)
    {read : Nat → σ → Except TransportError Fetched × σ}
    (hread : ∀ room s, view (read room s).2 = view s) (buffer : Bytes) (retries : Nat)
    (filled : Bytes) (s : σ) : view (fetchInto read buffer retries filled s).2 = view s :=
  fetchInto_keeps (P := fun s' => view s' = view s) (fun room s' h => (hread room s').trans h) buffer
    retries filled rfl

namespace Device

/-- What hosts have done to a device, and what it speaks. -/
structure Past where
  isOpen : Bool
  frames : List Frame
  writes : Nat
  decoder : Decoder
  codec : Codec

def past (d : Device) : Past := ⟨d.isOpen, d.frames, d.writes, d.decoder, d.codec⟩

@[simp] theorem past_enqueue (d : Device) (message : Bytes) : (d.enqueue message).past = d.past := by
  rw [enqueue]
  split <;> rfl

@[simp] theorem past_enqueueFrame (d : Device) (f : Frame) : (d.enqueueFrame f).past = d.past := by
  rw [enqueueFrame]
  split <;> simp

theorem past_replies (d : Device) (f : Frame) : (d.replies f).2.past = d.past := by
  have hrespond : (d.respond f).2.past = d.past := by
    rw [respond]
    split <;> rfl
  rw [replies]
  split
  · split
    · rfl
    · exact hrespond
  · exact hrespond

theorem past_foldl_enqueueFrame (replies : List Frame) (d : Device) :
    (replies.foldl enqueueFrame d).past = d.past := by
  induction replies generalizing d with
  | nil => rfl
  | cons f replies ih => rw [List.foldl_cons, ih, past_enqueueFrame]

/-- Whatever it replies, a frame is one frame more. -/
theorem past_accept (d : Device) (f : Frame) :
    (d.accept f).past = { d.past with frames := d.frames ++ [f] } := by
  have hr := past_replies { d with frames := d.frames ++ [f] } f
  rw [accept]
  exact (past_foldl_enqueueFrame _ _).trans hr

theorem isOpen_write (d : Device) (bs : Bytes) : (d.write bs).2.isOpen = d.isOpen := by
  have hfold (frames : List Frame) (d : Device) : (frames.foldl accept d).isOpen = d.isOpen := by
    induction frames generalizing d with
    | nil => rfl
    | cons f frames ih => exact (ih _).trans (congrArg Past.isOpen (d.past_accept f))
  rw [write]
  split
  · rfl
  · split
    · rfl
    · exact hfold _ _

theorem isOpen_attach {d d' : Device} (h : d.attach = (.ok (), d')) : d'.isOpen = true := by
  rw [attach] at h
  split at h
  · cases h
  · split at h <;> cases h
    rfl

theorem eq_of_attach_error {d d' : Device} {e : TransportError} (h : d.attach = (.error e, d')) :
    d' = d := by
  rw [attach] at h
  split at h
  · cases h
    rfl
  · split at h <;> cases h
    rfl

theorem past_fetch (room : Nat) (d : Device) : (d.fetch room).2.past = d.past := by
  rw [fetch]
  split
  · rfl
  · split <;> rfl

theorem past_read (d : Device) (max : Nat) : (d.read max).2.past = d.past := by
  rw [read]
  split
  · rfl
  · split
    · rfl
    · split
      · rfl
      · split
        · rfl
        · next header inbound retries _ _ =>
          rw [readAnnounced]
          split
          · rfl
          · exact view_fetchInto Device.past past_fetch _ _ _ _
          · rfl
        · rfl

end Device

theorem Action.past_apply (a : Action) (d : Device) : (a.apply d).past = d.past := by
  cases a with
  | frame f _ => exact d.past_enqueueFrame f
  | raw bs _ => exact d.past_enqueue bs
  | _ => rfl

namespace Bench

theorem past_act (a : Action) (b : Bench) : (b.act a).device.past = b.device.past :=
  a.past_apply b.device

theorem isOpen_act (a : Action) (b : Bench) : (b.act a).device.isOpen = b.device.isOpen :=
  congrArg Device.Past.isOpen (b.past_act a)

theorem isOpen_attach {b b' : Bench} (h : b.attach = (.ok (), b')) : b'.device.isOpen = true := by
  rw [attach] at h
  dsimp only at h
  split at h
  · cases h
  · obtain ⟨hr, rfl⟩ := Prod.mk.inj h
    exact Device.isOpen_attach (Prod.ext hr rfl)

theorem isOpen_attach_error {b b' : Bench} {e : TransportError} (h : b.attach = (.error e, b')) :
    b'.device.isOpen = b.device.isOpen := by
  rw [attach] at h
  dsimp only at h
  split at h
  · cases h
    rfl
  · obtain ⟨hr, rfl⟩ := Prod.mk.inj h
    exact congrArg Device.isOpen (Device.eq_of_attach_error (Prod.ext hr rfl))

theorem isOpen_write (b : Bench) (bs : Bytes) :
    (b.write bs).2.device.isOpen = b.device.isOpen := by
  have hd := b.device.isOpen_write bs
  rw [write]
  dsimp only
  split
  · rfl
  · split
    · next h => rwa [h] at hd
    · next h => rwa [h] at hd

theorem past_poll {b b' : Bench} {max : Nat} {outcome : Except TransportError Packet}
    (h : b.poll max = some (outcome, b')) : b'.device.past = b.device.past := by
  have hd := b.device.past_read max
  rw [poll] at h
  split at h
  · cases h
    rfl
  · split at h
    · next hread =>
      rw [hread] at hd
      split at h
      · cases h
      · split at h
        · cases h
          exact hd
        · split at h
          · cases h
          · cases h
            exact hd
    · next hread =>
      rw [hread] at hd
      cases h
      exact hd
    · next hread =>
      rw [hread] at hd
      cases h
      exact hd

theorem past_follow {b b' : Bench} (h : b.follow = some b') : b'.device.past = b.device.past := by
  rw [follow] at h
  split at h
  · cases h
  · next a agenda _ =>
    cases h
    exact past_act a _

/-- The host decides whether the device is open. -/
theorem transport_tracks : transport.Tracks fun b : Bench => b.device.isOpen where
  attached := isOpen_attach
  refused := isOpen_attach_error
  write := fun bs _ b => b.isOpen_write bs
  poll := fun h => congrArg Device.Past.isOpen (past_poll h)
  follow := fun h => congrArg Device.Past.isOpen (past_follow h)
  release := fun _ => rfl

end Bench
end FrameLink
