import FrameLink.Bytes
import FrameLink.TransportError

namespace FrameLink

inductive Announcement where
  | embedded (message : Bytes)
  | extended (size : Nat)
  | ignored
deriving DecidableEq, Repr

namespace Announcement

def maxEmbedded : Nat := 15

def headerLength : Nat := 16

/-- Reads a header: the low half of its first byte tells the kind, the high half the length of an
embedded message, of which no more is taken than is there. -/
def ofHeader : Bytes → Announcement
  | [] => ignored
  | first :: rest =>
    match first.toNat % 16, rest with
    | 1, hi :: lo :: _ => if beNat [hi, lo] = 0 then ignored else extended (beNat [hi, lo])
    | 2, rest =>
      let message := rest.take (first.toNat / 16)
      if message.isEmpty then ignored else embedded message
    | _, _ => ignored

/-- The header for a message, and its body if that has to be fetched. -/
def compose (message : Bytes) : Bytes × Option Bytes :=
  if message.length ≤ maxEmbedded then
    (UInt8.ofNat (message.length * 16 + 2) :: message, none)
  else (1 :: beBytes 2 message.length, some message)

end Announcement

/-- The outcome of one read into a buffer: what was put there, and how much is said to be there. -/
structure Fetched where
  stored : Bytes
  count : Nat
deriving DecidableEq, Repr

def Fetched.exactly (bs : Bytes) : Fetched := ⟨bs, bs.length⟩

def Fetched.over (got : Fetched) (buffer : Bytes) : Bytes :=
  got.stored.take buffer.length ++ buffer.drop got.stored.length

/-- Fills the buffer that is left of a message. Each read is offered all of it; an empty read or a
timeout is a miss, and after as many misses as `retries` what has arrived has to do. What a read
claims beyond the buffer does not count. -/
def fetchInto {σ : Type} (read : Nat → σ → Except TransportError Fetched × σ) :
    (buffer : Bytes) → (retries : Nat) → (filled : Bytes) → σ → Except TransportError Bytes × σ
  | [], _, filled, s => (.ok filled, s)
  | _ :: _, 0, filled, s => (if filled.isEmpty then .error .timeout else .ok filled, s)
  | b :: bs, retries + 1, filled, s =>
    match read (bs.length + 1) s with
    | (.error .timeout, s) => fetchInto read (b :: bs) retries filled s
    | (.error e, s) => (.error e, s)
    | (.ok got, s) =>
      let buffer := got.over (b :: bs)
      if got.count = 0 then fetchInto read buffer retries filled s
      else
        fetchInto read (buffer.drop got.count) (retries + 1) (filled ++ buffer.take got.count) s
termination_by buffer retries => buffer.length + retries
decreasing_by
  · simp
  · simp [Fetched.over]; omega
  · simp [Fetched.over]; omega

def fetchMessage {σ : Type} (read : Nat → σ → Except TransportError Fetched × σ)
    (size retries : Nat) (s : σ) : Except TransportError Bytes × σ :=
  fetchInto read (List.replicate size 0) retries [] s

end FrameLink
