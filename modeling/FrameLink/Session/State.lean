import FrameLink.Decoder
import FrameLink.Session.EventStream
import FrameLink.Session.PendingTable
import FrameLink.Session.Settings
import FrameLink.Session.Stats
import FrameLink.Transport

namespace FrameLink

/-- Where a session is in its life:

    disconnected → handshaking → ready → closing → disconnected
                        ↓          ↓
                     faulted    faulted
-/
inductive Phase where
  | disconnected
  | handshaking
  | ready
  | closing
  | faulted
deriving DecidableEq, Repr, Inhabited

namespace Phase

def text : Phase → String
  | disconnected => "disconnected"
  | handshaking => "handshaking"
  | ready => "ready"
  | closing => "closing"
  | faulted => "faulted"

def isLive : Phase → Bool
  | handshaking => true
  | ready => true
  | _ => false

end Phase

/-- How time passes for callers that wait. -/
inductive Pace where
  /-- A wait takes no time: what has not happened when it starts does not happen. -/
  | stepped
  /-- A wait lasts, and the link is silent meanwhile. -/
  | lasting
deriving DecidableEq, Repr, Inhabited

/-- The reading side of a connection. -/
structure Receiver where
  decoder : Decoder
  strikes : UInt32 := 0
  heardAt : Nat
  heardAge : Duration := ⟨0⟩

def Receiver.silence (r : Receiver) (now : Nat) : Duration := ⟨now - r.heardAt + r.heardAge.nanos⟩

abbrev Reply := Except SessionError Frame

/-- What a caller holds of a request that it has sent. -/
structure Handle where
  seq : SequenceId
  ticket : Ticket
deriving DecidableEq, Repr, Inhabited

def Handle.describe (h : Handle) : String :=
  "ResponseHandle \x7b seq: " ++ toString h.seq.toNat ++ ", finished: false \x7d"

/-- What the journal of a session tells. -/
inductive Entry where
  | connected
  | issued (h : Handle)
  | routed (f : Frame)
  /-- A request has left the table by a timeout, without an answer. -/
  | lapsed (ticket : Ticket)
deriving DecidableEq, Repr

abbrev StreamId := Nat

structure Session (σ : Type) where
  settings : SessionSettings
  selector : Selector
  pace : Pace
  link : σ
  phase : Phase := .disconnected
  phaseSets : Nat := 0
  table : PendingTable
  stats : Stats := {}
  attached : Bool := false
  publishing : Bool := false
  reading : Bool := false
  receiver : Receiver
  streams : List EventStream := []
  clock : Nat := 0
  tickets : Ticket := 0
  /-- The answers given so far. -/
  answers : List (Ticket × Reply) := []
  /-- What has happened so far, the latest first. Nothing depends on it. -/
  journal : List Entry := []
  /-- The failures reported on the latest connection, the latest first. Nothing depends on it. -/
  faults : List SessionError := []

namespace Session

variable {σ : Type}

def new (settings : SessionSettings) (selector : Selector) (pace : Pace) (link : σ) :
    Session σ where
  settings := settings
  selector := selector
  pace := pace
  link := link
  table := PendingTable.new settings.sequenceSpace settings.requestTimeout
  receiver := { decoder := Decoder.new settings.codec, heardAt := 0 }

/-- Time goes on: no two events of a session happen at the same moment. -/
def tick (s : Session σ) : Session σ := { s with clock := s.clock + 1 }

def later (s : Session σ) (d : Duration) : Session σ := { s with clock := s.clock + d.nanos }

def setPhase (s : Session σ) (phase : Phase) : Session σ :=
  { s with phase := phase, phaseSets := s.phaseSets + 1 }

def updateStats (s : Session σ) (f : Stats → Stats) : Session σ := { s with stats := f s.stats }

def note (s : Session σ) (e : Entry) : Session σ := { s with journal := e :: s.journal }

def answer (s : Session σ) (ticket : Ticket) (reply : Reply) : Session σ :=
  { s with answers := s.answers ++ [(ticket, reply)] }

def answer? (s : Session σ) (ticket : Ticket) : Option Reply := s.answers.lookup ticket

def failAll (s : Session σ) (e : SessionError) : Session σ :=
  let (tickets, table) := s.table.failAll e
  tickets.foldl (fun s ticket => s.answer ticket (.error e)) { s with table := table }

/-- Whatever a caller that waits can know already: the answer, or that none will come, because the
request has left the table without one. -/
def outcome? (s : Session σ) (h : Handle) : Option Reply :=
  match s.answer? h.ticket with
  | some reply => some reply
  | none => if s.table.awaits h.ticket then none else some (.error .sessionClosed)

/-- Takes out the request that has this id, without a response; whether there was one. A cancelled
request is answered so, a request that timed out is not answered. -/
def finish (s : Session σ) (seq : SequenceId) (outcome : Completion) : Bool × Session σ :=
  let s := s.tick
  match s.table.finish s.clock seq outcome with
  | none => (false, s)
  | some (ticket, table) =>
    let s := { s with table := table }
    match outcome with
    | .cancelled => (true, s.answer ticket (.error (.cancelled seq)))
    | _ => (true, s.note (.lapsed ticket))

def endEvents (s : Session σ) : Session σ :=
  { s with publishing := false, streams := s.streams.map EventStream.detach }

def releaseLink (T : Transport σ) (s : Session σ) : Session σ :=
  let s := s.endEvents
  { s with reading := false, attached := false, link := T.release s.link }

def report (s : Session σ) (cause : SessionError) : Session σ :=
  { s with faults := cause :: s.faults }

/-- The first failure of a connection faults it: all waiting requests fail with the cause, and the
device is given back. Later ones are only recorded. -/
def fault (T : Transport σ) (s : Session σ) (cause : SessionError) : Session σ :=
  let s := s.report cause
  if s.phase.isLive then
    ((s.setPhase .faulted).failAll (.sessionFaulted cause.message)).releaseLink T
  else s

def publish (s : Session σ) (f : Frame) : Session σ :=
  if s.publishing then
    let capacity := powerOfTwoAbove s.settings.eventCapacity
    { s with streams := s.streams.map (EventStream.publish capacity f) }
  else s

end Session
end FrameLink
