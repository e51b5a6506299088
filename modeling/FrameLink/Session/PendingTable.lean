import FrameLink.Session.Error

namespace FrameLink

inductive Completion where
  | completed
  | timedOut
  | cancelled
deriving DecidableEq, Repr, Inhabited

def Completion.text : Completion → String
  | completed => "completed"
  | timedOut => "timed out"
  | cancelled => "cancelled"

/-- Tells one request of a session from all others, whatever their sequence ids. -/
abbrev Ticket := Nat

structure Pending where
  seq : SequenceId
  ticket : Ticket
deriving DecidableEq, Repr

/-- An id that has left the table, when and how. -/
structure Retired where
  seq : SequenceId
  since : Nat
  outcome : Completion
deriving DecidableEq, Repr

/-- Sequence ids are given out in order, around a circle, and never while they are still in use. An
id that has left is remembered for a while, so that a late response is told from an event. -/
structure PendingTable where
  space : Nat
  /-- How long a retired id is remembered. -/
  window : Duration
  next : Nat
  pending : List Pending
  retired : List Retired
  /-- Why no requests are accepted, if they are not. -/
  closed : Option SessionError

inductive Routed where
  | completed (ticket : Ticket)
  | duplicate (outcome : Completion)
  | unmatched
deriving DecidableEq, Repr

namespace PendingTable

def minSpace : Nat := 2
def maxSpace : Nat := 65536

/-- A table that accepts nothing before it is opened. -/
def new (space : Nat) (window : Duration) : PendingTable where
  space := max minSpace (min space maxSpace)
  window := window
  next := 0
  pending := []
  retired := []
  closed := some .sessionClosed

def reopen (t : PendingTable) : PendingTable :=
  { t with next := 0, pending := [], retired := [], closed := none }

def find? (t : PendingTable) (seq : SequenceId) : Option Pending :=
  t.pending.find? fun p => p.seq == seq

def isPending (t : PendingTable) (seq : SequenceId) : Bool := (t.find? seq).isSome

def awaits (t : PendingTable) (ticket : Ticket) : Bool :=
  t.pending.any fun p => p.ticket == ticket

def register (t : PendingTable) (ticket : Ticket) :
    Except SessionError (SequenceId × PendingTable) :=
  match t.closed with
  | some e => .error e
  | none =>
    let seq : SequenceId := UInt16.ofNat t.next
    if t.isPending seq then .error (.sequenceSpaceExhausted t.pending.length)
    else .ok (seq, { t with
      next := (t.next + 1) % t.space
      pending := t.pending ++ [⟨seq, ticket⟩]
      retired := t.retired.filter fun r => r.seq != seq })

def retire (t : PendingTable) (seq : SequenceId) (now : Nat) (outcome : Completion) : PendingTable :=
  { t with
    pending := t.pending.filter fun p => p.seq != seq
    retired := ⟨seq, now, outcome⟩ :: t.retired.filter fun r => r.seq != seq }

def prune (t : PendingTable) (now : Nat) : PendingTable :=
  { t with retired := t.retired.filter fun r => now - r.since ≤ t.window.nanos }

def route (t : PendingTable) (now : Nat) (seq : SequenceId) : Routed × PendingTable :=
  let t := t.prune now
  match t.find? seq with
  | some p => (.completed p.ticket, t.retire seq now .completed)
  | none =>
    match t.retired.find? fun r => r.seq == seq with
    | some r => (.duplicate r.outcome, t)
    | none => (.unmatched, t)

def finish (t : PendingTable) (now : Nat) (seq : SequenceId) (outcome : Completion) :
    Option (Ticket × PendingTable) :=
  (t.find? seq).map fun p => (p.ticket, t.retire seq now outcome)

def failAll (t : PendingTable) (e : SessionError) : List Ticket × PendingTable :=
  (t.pending.map Pending.ticket, { t with pending := [], closed := some e })

end PendingTable
end FrameLink
