import FrameLink.Session.State

namespace FrameLink
namespace Session

variable {σ : Type}

def route (s : Session σ) (f : Frame) : Session σ :=
  let s := s.tick.note (.routed f)
  match s.table.route s.clock f.seq with
  | (.completed ticket, table) => { s with table := table }.answer ticket (.ok f)
  | (.duplicate _, table) =>
    { s with table := table }.updateStats fun st =>
      { st with duplicateResponses := st.duplicateResponses + 1 }
  | (.unmatched, table) => { s with table := table }.publish f

def receive (s : Session σ) (f : Frame) : Session σ :=
  let s := { s with receiver := { s.receiver with strikes := 0 } }
  (s.updateStats fun st => { st with framesReceived := st.framesReceived + 1 }).route f

def strike (s : Session σ) (e : ProtocolError) : Option SessionError × Session σ :=
  let s := s.updateStats fun st => match e with
    | .checksumMismatch .. => { st with checksumFailures := st.checksumFailures + 1 }
    | _ => { st with malformedFrames := st.malformedFrames + 1 }
  let strikes := s.receiver.strikes + 1
  let s := { s with receiver := { s.receiver with strikes := strikes } }
  if 0 < s.settings.errorLimit ∧ s.settings.errorLimit < strikes then
    (some (.transportIo (toString strikes ++ " consecutive framing errors")), s)
  else (none, s)

def digest : List (Except ProtocolError Frame) → Session σ → Option SessionError × Session σ
  | [], s => (none, s)
  | .ok f :: rest, s => digest rest (s.receive f)
  | .error e :: rest, s =>
    match s.strike e with
    | (some cause, s) => (some cause, s)
    | (none, s) => digest rest s

def countSkipped (s : Session σ) : Session σ :=
  let (n, decoder) := s.receiver.decoder.takeSkipped
  { s with receiver := { s.receiver with decoder := decoder } }.updateStats fun st =>
    { st with resyncBytes := st.resyncBytes + n }

def ingest (s : Session σ) (p : Packet) : Option SessionError × Session σ :=
  let (results, decoder) := (s.receiver.decoder.extend p.data).drain
  let receiver := { s.receiver with decoder := decoder, heardAt := s.clock, heardAge := p.age }
  match digest results { s with receiver := receiver } with
  | (some cause, s) => (some cause, s)
  | (none, s) => (none, s.countSkipped)

def expire (s : Session σ) : Option SessionError × Session σ :=
  if s.receiver.decoder.buffer.isEmpty then (none, s)
  else if s.receiver.silence s.clock < s.settings.partialTimeout then (none, s)
  else
    let (dropped, decoder) := s.receiver.decoder.reset
    let s := { s with receiver := { s.receiver with decoder := decoder } }.countSkipped
    s.strike (.malformedFrame (.incomplete dropped))

/-- The failure that a failed read means: whatever the read itself says, a device that is gone is
disconnected. -/
def readFailure (T : Transport σ) (s : Session σ) (e : TransportError) : SessionError :=
  if T.isGone s.link then .deviceDisconnected else .ofTransport e

/-- Takes in the outcome of a read; the failure, if it is one. An empty transfer and a timeout both
mean silence. -/
def takeIn (T : Transport σ) (s : Session σ) :
    Except TransportError Packet → Option SessionError × Session σ
  | .ok p => if p.data.isEmpty then s.expire else s.ingest p
  | .error .timeout => s.expire
  | .error e => (some (s.readFailure T e), s)

def absorb (T : Transport σ) (s : Session σ) (outcome : Except TransportError Packet) :
    Session σ :=
  match s.takeIn T outcome with
  | (some cause, s) => s.fault T cause
  | (none, s) => s

def settleWithin (T : Transport σ) : Nat → Session σ → Session σ
  | 0, s => s
  | steps + 1, s =>
    let read := if s.reading then T.poll s.settings.maxRead s.settings.readPoll s.link else none
    match read with
    | some (outcome, link) =>
      settleWithin T steps (({ s with link := link }.later (T.readTime link)).absorb T outcome)
    | none =>
      match T.follow s.link with
      | some link => settleWithin T steps { s with link := link }
      | none => s

def settle (T : Transport σ) (s : Session σ) : Session σ :=
  settleWithin T (T.horizon s.link) s

/-- Time passes in silence. If a started frame is held, it may be given up on the way. -/
def idle (T : Transport σ) (s : Session σ) (d : Duration) : Session σ :=
  let due := s.settings.partialTimeout.nanos - (s.receiver.silence s.clock).nanos
  if s.reading ∧ ¬ s.receiver.decoder.buffer.isEmpty ∧ due ≤ d.nanos then
    let s := { s with clock := s.clock + due }.absorb T (.error .timeout)
    { s with clock := s.clock + (d.nanos - due) }
  else { s with clock := s.clock + d.nanos }

end Session
end FrameLink
