import FrameLink.Usb.Link

namespace FrameLink
namespace Usb

structure Summary where
  vendor : UInt16
  product : UInt16
  path : BusPath
  manufacturerName : Option String := none
  productName : Option String := none
  serial : Option String := none
deriving DecidableEq, Repr, Inhabited

/-- The library as opened by a host, and the endpoints it uses. -/
structure Connector where
  context : ContextId
  endpoints : Endpoints
deriving Repr, Inhabited

namespace Connector

def make (endpoints : Endpoints) : BusM (Except TransportError Connector) := do
  match ← Bus.init with
  | .error e => return .error e.toTransport
  | .ok context => return .ok { context := context, endpoints := endpoints }

def drop (c : Connector) : BusM Unit := Bus.letGo c.context

def manufacturerIndex : Nat := 1
def productIndex : Nat := 2
def serialIndex : Nat := 3

def readSerial (c : Connector) (d : Nat) : BusM (Option String) := do
  let device ← Bus.device d
  match ← Handle.make c.context d with
  | .error _ => return none
  | .ok h =>
    let serial ← h.readString serialIndex device.serial
    h.drop
    return serial

/-- Whether a device matches: ids and path first, and then, if one is wanted, the serial number. -/
def isMatch (c : Connector) (s : Selector) (d : Nat) : BusM Bool := do
  let device ← Bus.device d
  if s.matchesIds device.vendor device.product ∧ s.matchesPath device.path then
    if s.serial.isSome then return s.matchesSerial (← c.readSerial d)
    else return true
  else return false

def findAmong (c : Connector) (s : Selector) : List Nat → BusM (Option Nat)
  | [] => return none
  | d :: rest => do
    match ← Bus.readDescriptor d with
    | .error _ => findAmong c s rest
    | .ok () => if ← c.isMatch s d then return some d else findAmong c s rest

def find (c : Connector) (s : Selector) : BusM (Except TransportError Nat) := do
  match ← Bus.enumerate with
  | .error e => return .error e.toTransport
  | .ok places =>
    match ← c.findAmong s places with
    | some d => return .ok d
    | none => return .error .notFound

def summarize (c : Connector) (d : Nat) : BusM Summary := do
  let device ← Bus.device d
  let summary : Summary :=
    { vendor := device.vendor, product := device.product, path := device.path }
  match ← Handle.make c.context d with
  | .error _ => return summary
  | .ok h =>
    let manufacturerName ← h.readString manufacturerIndex device.manufacturerName
    let productName ← h.readString productIndex device.productName
    let serial ← h.readString serialIndex device.serial
    h.drop
    return { summary with
      manufacturerName := manufacturerName, productName := productName, serial := serial }

def summarizeAll (c : Connector) : List Nat → BusM (List Summary)
  | [] => return []
  | d :: rest => do
    match ← Bus.readDescriptor d with
    | .error _ => c.summarizeAll rest
    | .ok () =>
      let summary ← c.summarize d
      return summary :: (← c.summarizeAll rest)

def list (c : Connector) : BusM (Except TransportError (List Summary)) := do
  match ← Bus.enumerate with
  | .error e => return .error e.toTransport
  | .ok places => return .ok (← c.summarizeAll places)

def connect (c : Connector) (s : Selector) : BusM (Except TransportError Link) := do
  match ← c.find s with
  | .error e => return .error e
  | .ok d => Link.make c.context c.endpoints d

end Connector
end Usb
end FrameLink
