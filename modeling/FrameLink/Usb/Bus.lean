import FrameLink.Bytes
import FrameLink.Text.HexDump
import FrameLink.Usb.Error
import FrameLink.Usb.Selector

namespace FrameLink
namespace Usb

inductive FaultPoint where
  | descriptor
  | opening
  | claim
  | release
  | driverActive
  | detach
  | attach
deriving DecidableEq, Repr

inductive StringDescriptor where
  | absent
  | content (bs : Bytes)
  | unreadable (e : UsbError)
deriving Repr, Inhabited

/-- One inbound transfer: its bytes, and the failure that comes with the last of them. -/
structure Inbound where
  data : Bytes
  fault : Option UsbError
deriving Repr, Inhabited

/-- What becomes of one outbound transfer: how many bytes are taken at most, and how it fails. -/
structure Outbound where
  taken : Option Nat
  fault : Option UsbError
deriving Repr, Inhabited

structure Device where
  vendor : UInt16
  product : UInt16
  path : BusPath
  manufacturerName : StringDescriptor := .absent
  productName : StringDescriptor := .absent
  serial : StringDescriptor := .absent
  kernelDriver : Bool := false
  /-- The outcomes of the next calls: `none` lets one pass. -/
  faults : List (FaultPoint × Option UsbError) := []
  inbound : List (UInt8 × Inbound) := []
  outbound : List Outbound := []
  answers : List (List (UInt8 × Inbound)) := []
deriving Repr, Inhabited

/-- A call on the bus. Devices go by their place in the enumeration. -/
inductive Call where
  | init
  | exit
  | enumerate
  | openDevice (device : Nat)
  | closeDevice (device : Nat)
  | readString (device index : Nat)
  | driverActive (device : Nat) (interface : UInt8)
  | detach (device : Nat) (interface : UInt8)
  | attach (device : Nat) (interface : UInt8)
  | claim (device : Nat) (interface : UInt8)
  | release (device : Nat) (interface : UInt8)
  | bulkOut (device : Nat) (endpoint : UInt8) (timeout : Nat) (data : Bytes)
  | bulkIn (device : Nat) (endpoint : UInt8) (length timeout : Nat)
  | interruptIn (device : Nat) (endpoint : UInt8) (length timeout : Nat)
deriving DecidableEq, Repr

namespace Call

def line (name : String) (arguments : List String) : String := " ".intercalate (name :: arguments)

def text : Call → String
  | init => "init"
  | exit => "exit"
  | enumerate => "list"
  | openDevice d => line "open" [toString d]
  | closeDevice d => line "close" [toString d]
  | readString d index => line "string" [toString d, toString index]
  | driverActive d i => line "kernel_driver_active" [toString d, toString i.toNat]
  | detach d i => line "detach" [toString d, toString i.toNat]
  | attach d i => line "attach" [toString d, toString i.toNat]
  | claim d i => line "claim" [toString d, toString i.toNat]
  | release d i => line "release" [toString d, toString i.toNat]
  | bulkOut d endpoint timeout data =>
    line "bulk_out" [toString d, Text.hexMarked 2 endpoint.toNat, toString timeout,
      Text.hexRun data]
  | bulkIn d endpoint length timeout =>
    line "bulk_in" [toString d, Text.hexMarked 2 endpoint.toNat, toString length, toString timeout]
  | interruptIn d endpoint length timeout =>
    line "interrupt_in" [toString d, Text.hexMarked 2 endpoint.toNat, toString length,
      toString timeout]

def isInbound : Call → Bool
  | bulkIn .. => true
  | interruptIn .. => true
  | _ => false

end Call

structure Attempt where
  call : Call
  ok : Bool
deriving DecidableEq, Repr

abbrev ContextId := Nat

/-- A bus held in memory, with a log of all calls made on its devices, failed ones included. -/
structure Bus where
  initFault : Option UsbError := none
  listFault : Option UsbError := none
  devices : List Device := []
  calls : List Call := []
  holders : List Nat := []
  history : List Attempt := []
deriving Repr, Inhabited

abbrev BusM := StateM Bus

namespace Bus

def log (c : Call) (ok : Bool) : BusM Unit :=
  modify fun b => { b with calls := b.calls ++ [c], history := b.history ++ [⟨c, ok⟩] }

def device (d : Nat) : BusM Device := return (← get).devices[d]?.getD default

def updateDevice (d : Nat) (f : Device → Device) : BusM Unit :=
  modify fun b => { b with devices := b.devices.modify d f }

def firstFault (p : FaultPoint) :
    List (FaultPoint × Option UsbError) → Option UsbError × List (FaultPoint × Option UsbError)
  | [] => (none, [])
  | (q, outcome) :: rest =>
    if q = p then (outcome, rest)
    else
      let (found, rest) := firstFault p rest
      (found, (q, outcome) :: rest)

def outcome (d : Nat) (p : FaultPoint) : BusM (Except UsbError Unit) := do
  let (fault, rest) := firstFault p (← device d).faults
  updateDevice d fun device => { device with faults := rest }
  match fault with
  | some e => return .error e
  | none => return .ok ()

def call (c : Call) (d : Nat) (p : FaultPoint) : BusM (Except UsbError Unit) := do
  let r ← outcome d p
  log c r.isOk
  return r

def init : BusM (Except UsbError ContextId) := do
  log .init (← get).initFault.isNone
  let b ← get
  match b.initFault with
  | some e => return .error e
  | none =>
    set { b with holders := b.holders ++ [1] }
    return .ok b.holders.length

def hold (context : ContextId) : BusM Unit :=
  modify fun b => { b with holders := b.holders.modify context (· + 1) }

def letGo (context : ContextId) : BusM Unit := do
  modify fun b => { b with holders := b.holders.modify context (· - 1) }
  if (← get).holders[context]? = some 0 then log .exit true

def enumerate : BusM (Except UsbError (List Nat)) := do
  log .enumerate (← get).listFault.isNone
  let b ← get
  match b.listFault with
  | some e => return .error e
  | none => return .ok (List.range b.devices.length)

def readDescriptor (d : Nat) : BusM (Except UsbError Unit) := outcome d .descriptor

/-- The next inbound transfer of an endpoint, cut to the room for it. What does not fit stays, and
the failure with it. Without a transfer the wait for one times out. -/
def firstInbound (endpoint : UInt8) (room : Nat) :
    List (UInt8 × Inbound) → (Bytes × Option UsbError) × List (UInt8 × Inbound)
  | [] => (([], some .timeout), [])
  | (e, entry) :: rest =>
    if e = endpoint then
      if room < entry.data.length then
        ((entry.data.take room, none),
          (e, { entry with data := entry.data.drop room }) :: rest)
      else ((entry.data, entry.fault), rest)
    else
      let (found, rest) := firstInbound endpoint room rest
      (found, (e, entry) :: rest)

def receive (d : Nat) (endpoint : UInt8) (room : Nat) : BusM (Bytes × Option UsbError) := do
  let (found, rest) := firstInbound endpoint room (← device d).inbound
  updateDevice d fun device => { device with inbound := rest }
  return found

/-- Hands bytes to a device, which may answer whatever becomes of them. -/
def deliver (d : Nat) (data : Bytes) : BusM (Nat × Option UsbError) := do
  let device ← device d
  updateDevice d fun device =>
    { device with
      outbound := device.outbound.tail
      inbound := device.inbound ++ device.answers.headD []
      answers := device.answers.tail }
  match device.outbound with
  | [] => return (data.length, none)
  | o :: _ => return (Nat.min (o.taken.getD data.length) data.length, o.fault)

end Bus
end Usb
end FrameLink
