import FrameLink.Transport
import FrameLink.Usb.Discovery

namespace FrameLink
namespace Usb

structure Connection where
  bus : Bus
  connector : Connector
  link : Option Link := none

namespace Connection

def act {α : Type} (c : Connection) (activity : BusM α) : α × Connection :=
  let (a, bus) := activity.run c.bus
  (a, { c with bus := bus })

def attach (s : Selector) (c : Connection) : Except TransportError Unit × Connection :=
  match c.act (c.connector.connect s) with
  | (.error e, c) => (.error e, c)
  | (.ok link, c) => (.ok (), { c with link := some link })

def onLink {α : Type} (c : Connection) (activity : Link → BusM (Except TransportError α × Link)) :
    Except TransportError α × Connection :=
  match c.link with
  | none => (.error .closed, c)
  | some link =>
    let ((outcome, link), c) := c.act (activity link)
    (outcome, { c with link := some link })

def listening (e : Endpoints) : UInt8 :=
  match e.transfer with
  | .announced => e.announce
  | _ => e.input

/-- Whether a read would only wait: nothing has arrived on an open and usable endpoint. -/
def isQuiet (c : Connection) : Bool :=
  match c.link with
  | some { handle := some h, endpoints, .. } =>
    let endpoint := listening endpoints
    let device := c.bus.devices[h.device]?.getD default
    Handle.leadsIn endpoint && ¬ device.inbound.any (·.1 == endpoint)
  | _ => false

def poll (max : Nat) (timeout : Duration) (c : Connection) :
    Option (Except TransportError Packet × Connection) :=
  if c.isQuiet then none
  else
    let (outcome, c) := c.onLink fun link => link.read max timeout
    some (outcome.map fun data => { data := data }, c)

def close (c : Connection) : Connection :=
  match c.link with
  | none => c
  | some link =>
    let (link, c) := c.act link.close
    { c with link := some link }

def inboundReads : List (UInt8 × Inbound) → Nat
  | [] => 0
  | (_, entry) :: rest => entry.data.length + 1 + inboundReads rest

def horizon (c : Connection) : Nat :=
  inboundReads (c.bus.devices.flatMap Device.inbound) + 2

def transport : Transport Connection where
  attach := attach
  write data timeout c := c.onLink fun link => link.write data timeout
  poll := poll
  readTime _ := ⟨0⟩
  follow _ := none
  release := close
  isGone c := c.link.any (·.gone)
  horizon := horizon

end Connection
end Usb
end FrameLink
