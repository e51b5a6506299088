import FrameLink.Device
import FrameLink.Transport

namespace FrameLink

inductive Action where
  | frame (f : Frame) (age : Duration)
  | raw (bs : Bytes) (age : Duration)
  | announcement (header : Bytes)
  | disconnect
  | unplug (e : TransportError)
  | silence
deriving DecidableEq, Repr

namespace Action

def age? : Action → Option Duration
  | frame _ age => some age
  | raw _ age => some age
  | announcement _ => some ⟨0⟩
  | _ => none

def apply : Action → Device → Device
  | frame f _, d => d.enqueueFrame f
  | raw bs _, d => d.enqueue bs
  | announcement header, d => d.enqueueHeader header
  | disconnect, d => d.disconnect
  | unplug e, d => d.unplug e
  | silence, d => d

end Action

/-- A device on a test bench, which can refuse to open it, make single writes fail, and act on it:
at once, or after a certain write. -/
structure Bench where
  device : Device
  openFault : Option TransportError := none
  opens : Nat := 0
  writeFaults : List (Option TransportError) := []
  plans : List (Nat × List Action) := []
  attempts : Nat := 0
  /-- What to do once the link is at rest. -/
  agenda : List Action := []
  age : Duration := ⟨0⟩
  silent : Bool := false
  /-- Whether a reader of announced messages has been told that there are none. -/
  dry : Bool := false
  readTime : Duration := ⟨1000⟩

namespace Bench

def new (codec : Codec) : Bench := { device := .new codec }

def act (b : Bench) (a : Action) : Bench :=
  { b with
    device := a.apply b.device
    age := a.age?.getD b.age
    silent := b.silent || a == .silence
    dry := false }

def attach (b : Bench) : Except TransportError Unit × Bench :=
  let b := { b with opens := b.opens + 1 }
  match b.openFault with
  | some e => (.error e, b)
  | none => let (outcome, device) := b.device.attach; (outcome, { b with device := device })

def write (b : Bench) (bs : Bytes) : Except TransportError Nat × Bench :=
  let number := b.attempts
  let fault := b.writeFaults.head?.join
  let b := { b with attempts := number + 1, writeFaults := b.writeFaults.tail }
  match fault with
  | some e => (.error e, b)
  | none =>
    match b.device.write bs with
    | (.error e, device) => (.error e, { b with device := device })
    | (.ok n, device) =>
      let planned := (b.plans.filter (·.1 == number)).flatMap (·.2)
      (.ok n, { b with
        device := device, age := ⟨0⟩, dry := false, agenda := b.agenda ++ planned })

/-- Reads while there is something to read. Timeouts come when the bench makes one, when an
announced message is lost, and once when no more messages are announced. -/
def poll (b : Bench) (max : Nat) : Option (Except TransportError Packet × Bench) :=
  if b.silent then some (.error .timeout, { b with silent := false })
  else match b.device.read max with
    | (.error .timeout, device) =>
      if device.announced.isNone then none
      else if device.inbound.length < b.device.inbound.length then
        some (.error .timeout, { b with device := device })
      else if b.dry then none
      else some (.error .timeout, { b with device := device, dry := true })
    | (.error e, device) => some (.error e, { b with device := device })
    | (.ok data, device) => some (.ok ⟨data, b.age⟩, { b with device := device })

def follow (b : Bench) : Option Bench :=
  match b.agenda with
  | [] => none
  | a :: agenda => some ({ b with agenda := agenda }.act a)

def queueReads : List Bytes → Nat
  | [] => 0
  | bs :: rest => bs.length + 1 + queueReads rest

def actionReads (codec : Codec) : Action → Nat
  | .frame f _ => codec.encodedLength f.payload.length + 4
  | .raw bs _ => bs.length + 4
  | .announcement header => header.length + 4
  | _ => 4

def agendaReads (codec : Codec) : List Action → Nat
  | [] => 0
  | a :: rest => actionReads codec a + agendaReads codec rest

def horizon (b : Bench) : Nat :=
  queueReads b.device.inbound + agendaReads b.device.codec b.agenda + 4

def transport : Transport Bench where
  attach _ b := b.attach
  write bs _ b := b.write bs
  poll max _ b := b.poll max
  readTime := readTime
  follow := follow
  release b := { b with device := b.device.close }
  isGone b := b.device.isGone
  horizon := horizon

end Bench
end FrameLink
