import FrameLink.Frame

namespace FrameLink

/-- The least power of two that is no less than `n`, and at least one. -/
def powerOfTwoAbove (n : Nat) : Nat :=
  if n ≤ 1 then 1 else 2 * powerOfTwoAbove ((n + 1) / 2)
termination_by n
decreasing_by omega

/-- Where a stream's events come from. -/
inductive EventSource where
  | live
  | over
  | ended
deriving DecidableEq, Repr, Inhabited

/-- A stream holds a bounded number of unread events. When it is full the oldest one makes room. -/
structure EventStream where
  source : EventSource
  unread : List Frame := []
  /-- How many events have made room since the stream was last read. -/
  missed : Nat := 0
deriving DecidableEq, Repr, Inhabited

inductive NextEvent where
  | event (f : Frame)
  | empty
  | ended
deriving DecidableEq, Repr

namespace EventStream

def publish (capacity : Nat) (f : Frame) (s : EventStream) : EventStream :=
  match s.source with
  | .live =>
    let unread := s.unread ++ [f]
    if unread.length ≤ capacity then { s with unread := unread }
    else { s with unread := unread.tail, missed := s.missed + 1 }
  | _ => s

def detach (s : EventStream) : EventStream :=
  match s.source with
  | .live => { s with source := .over }
  | _ => s

def next (s : EventStream) : Nat × NextEvent × EventStream :=
  match s.source, s.unread with
  | .ended, _ => (0, .ended, s)
  | _, f :: rest => (s.missed, .event f, { s with unread := rest, missed := 0 })
  | .live, [] => (s.missed, .empty, { s with missed := 0 })
  | .over, [] => (s.missed, .ended, { source := .ended })

def isEnded (s : EventStream) : Bool := s.source == .ended

end EventStream
end FrameLink
