import FrameLink.Announcement
import FrameLink.Usb.Endpoints
import FrameLink.Usb.Handle

namespace FrameLink
namespace Usb

structure Link where
  handle : Option Handle
  endpoints : Endpoints
  path : BusPath
  detached : Bool
  gone : Bool := false
deriving Repr, Inhabited

namespace Link

/-- Takes the interface from a kernel driver, if one holds it and lets go; failures do not
matter. -/
def detachDriver (h : Handle) (interface : UInt8) : BusM Bool := do
  match ← h.driverActive interface with
  | .ok true => return (← h.detach interface).isOk
  | _ => return false

/-- Opens a device and claims the interface. If the claim fails, all is given back. -/
def make (context : ContextId) (endpoints : Endpoints) (d : Nat) :
    BusM (Except TransportError Link) := do
  let path := (← Bus.device d).path
  match ← Handle.make context d with
  | .error e => return .error e.toTransport
  | .ok h =>
    let detached ← detachDriver h endpoints.interface
    match ← h.claim endpoints.interface with
    | (.error e, h) =>
      if detached then
        let _ ← h.attach endpoints.interface
      h.drop
      return .error e.toTransport
    | (.ok (), h) =>
      return .ok { handle := some h, endpoints := endpoints, path := path, detached := detached }

def close (l : Link) : BusM Link := do
  match l.handle with
  | none => return l
  | some h =>
    let (_, h) ← h.release l.endpoints.interface
    if l.detached then
      let _ ← h.attach l.endpoints.interface
    h.drop
    return { l with handle := none }

def note {α : Type} (l : Link) (outcome : Except TransportError α) : Link :=
  match outcome with
  | .error .disconnected => { l with gone := true }
  | _ => l

def complete (length : Nat) (outcome : Except UsbError Nat) : Except TransportError Nat :=
  match outcome with
  | .error e => .error e.toTransport
  | .ok taken =>
    if taken < length then
      .error (.io ("short write: " ++ toString taken ++ " of " ++ toString length ++ " bytes"))
    else .ok taken

def write (l : Link) (data : Bytes) (timeout : Duration) :
    BusM (Except TransportError Nat × Link) := do
  match l.handle with
  | none => return (.error .closed, l)
  | some h =>
    let outcome := complete data.length (← h.writeBulk l.endpoints.output data timeout)
    return (outcome, l.note outcome)

def fetchTimeout : Duration := .ofMillis 1000

def fetch (h : Handle) (endpoint : UInt8) (room : Nat) : BusM (Except TransportError Fetched) := do
  match ← h.readBulk endpoint room fetchTimeout with
  | .error e => return .error e.toTransport
  | .ok data => return .ok (.exactly data)

def readAnnounced (h : Handle) (e : Endpoints) (timeout : Duration) :
    BusM (Except TransportError Bytes) := do
  match ← h.readInterrupt e.announce Announcement.headerLength timeout with
  | .error e => return .error e.toTransport
  | .ok header =>
    match Announcement.ofHeader header with
    | .embedded message => return .ok message
    | .extended size => fetchMessage (fetch h e.input) size e.retries.toNat
    | .ignored => return .ok []

def receive (h : Handle) (e : Endpoints) (max : Nat) (timeout : Duration) :
    BusM (Except TransportError Bytes) := do
  match e.transfer with
  | .announced => readAnnounced h e timeout
  | .bulk => return (← h.readBulk e.input max timeout).mapError UsbError.toTransport
  | .interrupt => return (← h.readInterrupt e.input max timeout).mapError UsbError.toTransport

def read (l : Link) (max : Nat) (timeout : Duration) :
    BusM (Except TransportError Bytes × Link) := do
  match l.handle with
  | none => return (.error .closed, l)
  | some h =>
    let outcome ← receive h l.endpoints max timeout
    return (outcome, l.note outcome)

end Link
end Usb
end FrameLink
