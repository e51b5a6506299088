import FrameLink.Session.Reading
import FrameLink.Version

namespace FrameLink

/-- What a connection needs of the runtime that it is made on. -/
structure Runtime where
  channelLimit : Nat
  spawnFailure : Option String := none

namespace Session

variable {σ : Type}

def withdraw (s : Session σ) (h : Handle) : Session σ := (s.finish h.seq .cancelled).2

def cancel (s : Session σ) (seq : SequenceId) : Bool × Session σ := s.finish seq .cancelled

def cancelHandle (s : Session σ) (h : Handle) : Bool × Session σ := s.finish h.seq .cancelled

def enroll (s : Session σ) : Except SessionError (Handle × Session σ) :=
  match s.table.register s.tickets with
  | .error e => .error e
  | .ok (seq, table) =>
    let h : Handle := ⟨seq, s.tickets⟩
    .ok (h, { s with table := table, tickets := s.tickets + 1 }.note (.issued h))

/-- Registers a request, writes its frame, and reads until the link is at rest. A request whose
frame could not be written is given up. -/
def transmit (T : Transport σ) (s : Session σ) (opcode : UInt8) (payload : Bytes) :
    Except SessionError Handle × Session σ :=
  match s.enroll with
  | .error e => (.error e, s)
  | .ok (h, s) =>
    match s.settings.codec.encode ⟨h.seq, opcode, payload⟩ with
    | .error e => (.error (.protocol e), s.withdraw h)
    | .ok bytes =>
      if s.attached then
        match T.write bytes s.settings.writeTimeout s.link with
        | (.error e, link) =>
          let s := { s with link := link }
          let s := if e.isFatal then s.fault T (.ofTransport e) else s
          (.error (.ofTransport e), s.withdraw h)
        | (.ok _, link) =>
          let s := { s with link := link }.settle T
          (.ok h, s.updateStats fun st => { st with framesSent := st.framesSent + 1 })
      else (.error .sessionClosed, s.withdraw h)

/-- Sends a request. A faulted session refuses it with the cause of its fault. -/
def send (T : Transport σ) (s : Session σ) (opcode : UInt8) (payload : Bytes) :
    Except SessionError Handle × Session σ :=
  match s.phase with
  | .ready => s.transmit T opcode payload
  | .faulted => s.transmit T opcode payload
  | _ => (.error .sessionClosed, s)

def linger (T : Transport σ) (s : Session σ) (h : Handle) (timeout : Duration) : Session σ :=
  match s.pace, s.outcome? h with
  | .lasting, none => s.idle T timeout
  | _, _ => s

/-- What a caller does when its timer has fired: it takes out the request that has its id. If there
is none, its own request may have been answered since the timer fired. -/
def giveUp (s : Session σ) (h : Handle) (timeout : Duration) : Reply × Session σ :=
  let late : Reply := .error (.requestTimeout h.seq timeout)
  match s.finish h.seq .timedOut with
  | (true, s) =>
    (late, s.updateStats fun st => { st with requestTimeouts := st.requestTimeouts + 1 })
  | (false, s) => ((s.answer? h.ticket).getD late, s)

/-- Waits for the answer to a request. After a timeout the request is given up, and the session goes
on. -/
def await (T : Transport σ) (s : Session σ) (h : Handle) (timeout : Duration) :
    Reply × Session σ :=
  let s := s.linger T h timeout
  match s.outcome? h with
  | some reply => (reply, s)
  | none => s.giveUp h timeout

def acceptReply (ack : Frame) : Except SessionError Version :=
  if ack.isHandshakeAck then
    match Version.ofBytes ack.payload with
    | .error e => .error (.protocol e)
    | .ok version =>
      match version.validate with
      | .error e => .error (.protocol e)
      | .ok () => .ok version
  else .error (.handshakeFailed ("unexpected opcode " ++ Text.hexMarked 2 ack.opcode.toNat ++
    " in handshake reply"))

def handshake (T : Transport σ) (s : Session σ) : Except SessionError Version × Session σ :=
  let timeout := s.settings.handshakeTimeout
  match s.transmit T Opcode.handshake Version.current.toBytes with
  | (.error e, s) => (.error e, s)
  | (.ok h, s) =>
    match s.await T h timeout with
    | (.ok ack, s) => (acceptReply ack, s)
    | (.error (.requestTimeout ..), s) =>
      (.error (.handshakeFailed ("no acknowledgement within " ++ timeout.text)), s)
    | (.error e, s) => (.error e, s)

def handshakeFailure : SessionError → SessionError
  | .handshakeFailed why => .handshakeFailed why
  | e => .handshakeFailed e.message

def openFailure (selector : Selector) : TransportError → SessionError
  | .notFound => .deviceNotFound selector.text
  | e => .ofTransport e

def attachLink (s : Session σ) (link : σ) : Session σ :=
  { s with
    link := link
    table := s.table.reopen
    attached := true
    publishing := true
    reading := true
    receiver := { decoder := Decoder.new s.settings.codec, heardAt := s.clock }
    journal := .connected :: s.journal
    faults := [] }

/-- Opens the device and shakes hands. A device that cannot be opened leaves the session
disconnected, a failed handshake leaves it faulted. The runtime makes the channel for the events and
the thread that reads. -/
def connect (T : Transport σ) (s : Session σ) : Except SessionError Version × Session σ :=
  if s.phase.isLive then (.error .alreadyConnected, s)
  else
    let s := s.setPhase .handshaking
    match T.attach s.selector s.link with
    | (.error e, link) =>
      (.error (openFailure s.selector e), { s with link := link }.setPhase .disconnected)
    | (.ok (), link) =>
      match (s.attachLink link).handshake T with
      | (.ok version, s) =>
        if s.phase = .handshaking then (.ok version, s.setPhase .ready)
        else
          let e := SessionError.handshakeFailed "session faulted during handshake"
          (.error e, s.fault T e)
      | (.error e, s) => (.error (handshakeFailure e), s.fault T (handshakeFailure e))

/-- Connects on a runtime that may fail to do its part once the device is open. A channel of a size
that it cannot make ends the call in a panic, and then there is no outcome. A thread that it cannot
start faults the session. -/
def connectOn (R : Runtime) (T : Transport σ) (s : Session σ) :
    Option (Except SessionError Version × Session σ) :=
  match s.phase.isLive, T.attach s.selector s.link with
  | false, (.ok (), link) =>
    if R.channelLimit < s.settings.eventCapacity then none
    else match R.spawnFailure with
      | some why =>
        let cause := SessionError.transportIo ("failed to spawn read loop: " ++ why)
        some (.error cause, ((s.setPhase .handshaking).attachLink link).fault T cause)
      | none => some (s.connect T)
  | _, _ => some (s.connect T)

def close (T : Transport σ) (s : Session σ) : Session σ :=
  if s.phase = .disconnected then s
  else (((s.setPhase .closing).failAll .sessionClosed).releaseLink T).setPhase .disconnected

/-- What is left when a session is dropped without being closed: nobody waits, and the device is
given back as soon as its reading side ends. -/
def abandon (T : Transport σ) (s : Session σ) : Session σ :=
  (s.failAll .sessionClosed).releaseLink T

def subscribe (s : Session σ) : StreamId × Session σ :=
  let stream : EventStream := { source := if s.publishing then .live else .ended }
  (s.streams.length, { s with streams := s.streams ++ [stream] })

def nextEvent (s : Session σ) (id : StreamId) : NextEvent × Session σ :=
  match s.streams[id]? with
  | none => (.ended, s)
  | some stream =>
    let (missed, found, stream) := stream.next
    let delivered := match found with
      | .event _ => 1
      | _ => 0
    (found, { s with streams := s.streams.set id stream }.updateStats fun st =>
      { st with
        eventsDelivered := st.eventsDelivered + delivered
        eventsDropped := st.eventsDropped + missed })

def isEnded (s : Session σ) (id : StreamId) : Bool :=
  match s.streams[id]? with
  | none => true
  | some stream => stream.isEnded

def unsubscribe (s : Session σ) (id : StreamId) : Session σ :=
  { s with streams := s.streams.set id { source := .ended } }

end Session
end FrameLink
