import FrameLink.Bytes

namespace FrameLink

/-- One bit of a 16-bit register that shifts to the left, under the polynomial x¹⁶ + x¹² + x⁵ +
1. -/
def crc16Bit (crc : UInt16) : UInt16 :=
  if crc &&& 0x8000 ≠ 0 then (crc <<< 1) ^^^ 0x1021 else crc <<< 1

def crc16Shift (crc : UInt16) : UInt16 :=
  crc16Bit (crc16Bit (crc16Bit (crc16Bit (crc16Bit (crc16Bit (crc16Bit (crc16Bit crc)))))))

/-- CRC-16/XMODEM a bit at a time: each byte enters at the top of the register, which starts at
zero. -/
def crc16Bitwise (data : Bytes) : UInt16 :=
  data.foldl (fun crc b => crc16Shift (crc ^^^ b.toUInt16 <<< (8 : UInt16))) 0

def crc16Table : Vector UInt16 256 :=
  Vector.ofFn fun i => crc16Shift (UInt16.ofNat i <<< 8)

def crc16 (data : Bytes) : UInt16 :=
  data.foldl (fun crc b => (crc <<< 8) ^^^ crc16Table.get ((crc >>> 8).toUInt8 ^^^ b).toFin) 0

/-- One bit of a 32-bit register that shifts to the right, under the reflected IEEE polynomial. -/
def crc32Bit (crc : UInt32) : UInt32 :=
  if crc &&& 1 ≠ 0 then (crc >>> 1) ^^^ 0xEDB88320 else crc >>> 1

def crc32Shift (crc : UInt32) : UInt32 :=
  crc32Bit (crc32Bit (crc32Bit (crc32Bit (crc32Bit (crc32Bit (crc32Bit (crc32Bit crc)))))))

def crc32Table : Vector UInt32 256 :=
  Vector.ofFn fun i => crc32Shift (UInt32.ofNat i)

/-- CRC-32/IEEE: the register starts at all ones, and its complement is the answer. -/
def crc32 (data : Bytes) : UInt32 :=
  ~~~ data.foldl (fun crc b => (crc >>> 8) ^^^ crc32Table.get (crc.toUInt8 ^^^ b).toFin) 0xFFFFFFFF

end FrameLink
