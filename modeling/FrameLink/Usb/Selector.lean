import FrameLink.Config.Error
import FrameLink.Text.Blank

namespace FrameLink

structure BusPath where
  bus : UInt8
  address : UInt8
deriving DecidableEq, Repr, Inhabited

namespace BusPath

def text (p : BusPath) : String :=
  Text.decimal 3 p.bus.toNat ++ ":" ++ Text.decimal 3 p.address.toNat

def part? (cs : List Char) : Option UInt8 :=
  (Text.readNumeral 10 255 (Text.trim cs)).map UInt8.ofNat

def ofString (s : String) : Except ConfigError BusPath :=
  match Text.splitOnce ':' s.toList with
  | none => .error (.pathForm s)
  | some (bus, address) =>
    match part? bus, part? address with
    | some bus, some address => .ok ⟨bus, address⟩
    | _, _ => .error (.pathNumber s)

end BusPath

/-- What a device has to match; an absent serial number or path matches any. -/
structure Selector where
  vendor : UInt16
  product : UInt16
  serial : Option String
  path : Option BusPath
deriving DecidableEq, Repr

namespace Selector

def ofIds (vendor product : UInt16) : Selector := ⟨vendor, product, none, none⟩

def standard : Selector := ofIds 0x0ffc 0x0002

instance : Inhabited Selector := ⟨standard⟩

def text (s : Selector) : String :=
  let ids := Text.hex 4 s.vendor.toNat ++ ":" ++ Text.hex 4 s.product.toNat
  let serial := match s.serial with
    | some serial => " serial=" ++ serial
    | none => ""
  let path := match s.path with
    | some path => " path=" ++ path.text
    | none => ""
  ids ++ serial ++ path

def matchesIds (s : Selector) (vendor product : UInt16) : Bool :=
  s.vendor == vendor && s.product == product

def matchesPath (s : Selector) (path : BusPath) : Bool :=
  match s.path with
  | some wanted => wanted == path
  | none => true

def matchesSerial (s : Selector) (serial : Option String) : Bool :=
  match s.serial with
  | some wanted => serial == some wanted
  | none => true

def id? (cs : List Char) : Option UInt16 :=
  let digits := match cs with
    | '0' :: 'x' :: rest => rest
    | '0' :: 'X' :: rest => rest
    | _ => cs
  if 4 < digits.length then none else (Text.readNumeral 16 0xFFFF digits).map UInt16.ofNat

/-- Reads vendor and product around the only colon, blanks around the whole allowed. -/
def ofString (s : String) : Except ConfigError Selector :=
  match Text.splitWhere (· == ':') (Text.trim s.toList) with
  | [vendor, product] =>
    match id? vendor, id? product with
    | some vendor, some product => .ok (ofIds vendor product)
    | _, _ => .error (.selector s)
  | _ => .error (.selector s)

end Selector
end FrameLink
