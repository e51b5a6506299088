import FrameLink.Duration
import FrameLink.Usb.Bus

namespace FrameLink
namespace Usb

structure Handle where
  context : ContextId
  device : Nat
  claimed : List UInt8 := []
deriving DecidableEq, Repr, Inhabited

namespace Handle

open Bus

def make (context : ContextId) (d : Nat) : BusM (Except UsbError Handle) := do
  match ← call (.openDevice d) d .opening with
  | .error e => return .error e
  | .ok () =>
    hold context
    return .ok { context := context, device := d }

def releaseAll (d : Nat) : List UInt8 → BusM Unit
  | [] => return
  | i :: rest => do
    let _ ← call (.release d i) d .release
    releaseAll d rest

def drop (h : Handle) : BusM Unit := do
  releaseAll h.device h.claimed
  log (.closeDevice h.device) true
  letGo h.context

def claim (h : Handle) (interface : UInt8) : BusM (Except UsbError Unit × Handle) := do
  match ← call (.claim h.device interface) h.device .claim with
  | .error e => return (.error e, h)
  | .ok () => return (.ok (), { h with claimed := h.claimed ++ [interface] })

def release (h : Handle) (interface : UInt8) : BusM (Except UsbError Unit × Handle) := do
  match ← call (.release h.device interface) h.device .release with
  | .error e => return (.error e, h)
  | .ok () => return (.ok (), { h with claimed := h.claimed.filter (· != interface) })

def driverActive (h : Handle) (interface : UInt8) : BusM (Except UsbError Bool) := do
  match ← call (.driverActive h.device interface) h.device .driverActive with
  | .error e => return .error e
  | .ok () => return .ok (← Bus.device h.device).kernelDriver

def detach (h : Handle) (interface : UInt8) : BusM (Except UsbError Unit) := do
  match ← call (.detach h.device interface) h.device .detach with
  | .error e => return .error e
  | .ok () =>
    updateDevice h.device fun device => { device with kernelDriver := false }
    return .ok ()

def attach (h : Handle) (interface : UInt8) : BusM (Except UsbError Unit) := do
  match ← call (.attach h.device interface) h.device .attach with
  | .error e => return .error e
  | .ok () =>
    updateDevice h.device fun device => { device with kernelDriver := true }
    return .ok ()

def maxString : Nat := 255

def readString (h : Handle) (index : Nat) (s : StringDescriptor) :
    BusM (Option String) := do
  match s with
  | .absent => return none
  | .unreadable _ =>
    log (.readString h.device index) false
    return none
  | .content bs =>
    log (.readString h.device index) true
    return String.fromUTF8? ⟨(bs.take maxString).toArray⟩

def leadsIn (endpoint : UInt8) : Bool := endpoint &&& 0x80 != 0

def timeoutWord (timeout : Duration) : Nat := timeout.nanos / 1000000 % wordCount 4

/-- The outcome of a transfer: some failures do not count once bytes have moved. -/
def settled {α : Type} (excused : List UsbError) (moved : Nat) (fault : Option UsbError) (a : α) :
    Except UsbError α :=
  match fault with
  | none => .ok a
  | some e => if excused.contains e ∧ 0 < moved then .ok a else .error e

def writeBulk (h : Handle) (endpoint : UInt8) (data : Bytes) (timeout : Duration) :
    BusM (Except UsbError Nat) := do
  if leadsIn endpoint then return .error .invalidParam
  else
    let (taken, fault) ← deliver h.device data
    let r := settled [.timeout, .interrupted] taken fault taken
    log (.bulkOut h.device endpoint (timeoutWord timeout) data) r.isOk
    return r

def readBulk (h : Handle) (endpoint : UInt8) (room : Nat) (timeout : Duration) :
    BusM (Except UsbError Bytes) := do
  if ¬ leadsIn endpoint then return .error .invalidParam
  else
    let (data, fault) ← receive h.device endpoint room
    let r := settled [.timeout, .interrupted] data.length fault data
    log (.bulkIn h.device endpoint room (timeoutWord timeout)) r.isOk
    return r

def readInterrupt (h : Handle) (endpoint : UInt8) (room : Nat) (timeout : Duration) :
    BusM (Except UsbError Bytes) := do
  if ¬ leadsIn endpoint then return .error .invalidParam
  else
    let (data, fault) ← receive h.device endpoint room
    let r := settled [.interrupted] data.length fault data
    log (.interruptIn h.device endpoint room (timeoutWord timeout)) r.isOk
    return r

end Handle
end Usb
end FrameLink
