import FrameLink.Checksum
import FrameLink.Codec
import FrameLink.Document
import FrameLink.Usb.Endpoints
import FrameLink.Usb.Selector
import FrameLink.Version

namespace FrameLink

open Document

def Version.fieldNames : List String := ["major", "minor"]

def Version.toDocument (v : Version) : Document :=
  table [("major", int v.major.toNat), ("minor", int v.minor.toNat)]

def Version.ofDocument : Reader Version := fun d doc => do
  let fields ← record fieldNames d doc
  return {
    major := ← required d fields "major" uint8
    minor := ← required d fields "minor" uint8 }

def BusPath.fieldNames : List String := ["bus", "address"]

def BusPath.toDocument (p : BusPath) : Document :=
  table [("bus", int p.bus.toNat), ("address", int p.address.toNat)]

def BusPath.ofDocument : Reader BusPath := fun d doc => do
  let fields ← record fieldNames d doc
  return {
    bus := ← required d fields "bus" uint8
    address := ← required d fields "address" uint8 }

def Selector.fieldNames : List String := ["vendor_id", "product_id", "serial", "path"]

def Selector.toDocument (s : Selector) : Document :=
  table <|
    [("vendor_id", int s.vendor.toNat), ("product_id", int s.product.toNat)] ++
    present "serial" (s.serial.map Document.text) ++
    present "path" (s.path.map BusPath.toDocument)

def Selector.ofDocument : Reader Selector := fun d doc => do
  let fields ← record fieldNames d doc
  return {
    vendor := ← required d fields "vendor_id" uint16
    product := ← required d fields "product_id" uint16
    serial := ← defaulted d fields "serial" (optional string) none
    path := ← defaulted d fields "path" (optional BusPath.ofDocument) none }

def InTransfer.toDocument (t : InTransfer) : Document := .text t.name

def InTransfer.ofDocument : Reader InTransfer := fun d doc => do
  let name ← choice d doc
  all.find? (·.name == name)

def ChecksumAlgorithm.toDocument (a : ChecksumAlgorithm) : Document := .text a.name

def ChecksumAlgorithm.ofDocument : Reader ChecksumAlgorithm := fun d doc => do
  let name ← choice d doc
  all.find? (·.name == name)

def LengthWidth.toDocument (w : LengthWidth) : Document := .int w.bytes

def LengthWidth.ofDocument : Reader LengthWidth := fun d doc => do
  let bytes ← uint8 d doc
  (ofBytes bytes.toNat).toOption

namespace Endpoints

def fieldNames : List String :=
  ["interface", "out_endpoint", "in_endpoint", "in_transfer", "announce_endpoint",
    "extended_retries"]

def toFields (e : Endpoints) : List (String × Document) :=
  [("interface", int e.interface.toNat), ("out_endpoint", int e.output.toNat),
    ("in_endpoint", int e.input.toNat), ("in_transfer", e.transfer.toDocument),
    ("announce_endpoint", int e.announce.toNat), ("extended_retries", int e.retries.toNat)]

def toDocument (e : Endpoints) : Document := table e.toFields

/-- Interface and endpoints have to be there, how they are read need not. -/
def ofDocument : Reader Endpoints := fun d doc => do
  let fields ← record fieldNames d doc
  let standard : Endpoints := {}
  return {
    interface := ← required d fields "interface" uint8
    output := ← required d fields "out_endpoint" uint8
    input := ← required d fields "in_endpoint" uint8
    transfer := ← defaulted d fields "in_transfer" InTransfer.ofDocument standard.transfer
    announce := ← defaulted d fields "announce_endpoint" uint8 standard.announce
    retries := ← defaulted d fields "extended_retries" uint8 standard.retries }

end Endpoints
end FrameLink
