import FrameLink.Bytes
import FrameLink.Duration
import FrameLink.TransportError
import FrameLink.Usb.Selector

namespace FrameLink

/-- The bytes of one inbound transfer, and how long ago they arrived. -/
structure Packet where
  data : Bytes
  age : Duration := ⟨0⟩
deriving DecidableEq, Repr

/-- What a session asks of a link. Each operation gives its outcome and the link as it is
afterwards. -/
structure Transport (σ : Type) where
  /-- Opens the device that a selector names. -/
  attach : Selector → σ → Except TransportError Unit × σ
  write : Bytes → Duration → σ → Except TransportError Nat × σ
  /-- Reads at most so many bytes; `none` when the link is at rest and a read would only wait. -/
  poll : Nat → Duration → σ → Option (Except TransportError Packet × σ)
  readTime : σ → Duration
  /-- What the far side does next of its own accord once the link is at rest, if anything. -/
  follow : σ → Option σ
  release : σ → σ
  isGone : σ → Bool
  /-- No fewer than the reads and follow-ups it takes to come to rest. -/
  horizon : σ → Nat

end FrameLink
