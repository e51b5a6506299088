import FrameLink.Checksum.Crc
import FrameLink.Text.Blank

namespace FrameLink

/-- A function over the covered bytes of a frame; only its `width` low bytes travel. -/
structure Checksum where
  label : String
  width : Nat
  compute : Bytes → UInt32
  width_pos : 0 < width
  width_le : width ≤ 4

namespace Checksum

def clip (c : Checksum) (value : UInt32) : Nat := value.toNat % wordCount c.width

def value (c : Checksum) (data : Bytes) : Nat := c.clip (c.compute data)

def verify (c : Checksum) (data : Bytes) (expected : UInt32) : Bool :=
  c.value data == c.clip expected

theorem value_lt (c : Checksum) (data : Bytes) : c.value data < wordCount c.width :=
  Nat.mod_lt _ (wordCount_pos _)

def crc16Xmodem : Checksum where
  label := "Crc16Xmodem"
  width := 2
  compute data := (crc16 data).toUInt32
  width_pos := by decide
  width_le := by decide

def crc32Ieee : Checksum where
  label := "Crc32"
  width := 4
  compute := crc32
  width_pos := by decide
  width_le := by decide

def xor8 : Checksum where
  label := "Xor8"
  width := 1
  compute data := (xorAll data).toUInt32
  width_pos := by decide
  width_le := by decide

/-- A polynomial hash in wrapping arithmetic, of any width that travels: a checksum of a caller's
own. -/
def poly31 (width : Nat) (hpos : 0 < width) (hle : width ≤ 4) : Checksum where
  label := "Poly31(" ++ toString width ++ ")"
  width := width
  compute data := data.foldl (fun acc b => acc * 31 + b.toUInt32) 7
  width_pos := hpos
  width_le := hle

end Checksum

inductive ChecksumAlgorithm where
  | crc16
  | crc32
  | xor8
deriving DecidableEq, Repr, Inhabited

namespace ChecksumAlgorithm

def all : List ChecksumAlgorithm := [crc16, crc32, xor8]

def name : ChecksumAlgorithm → String
  | crc16 => "crc16"
  | crc32 => "crc32"
  | xor8 => "xor8"

def checksum : ChecksumAlgorithm → Checksum
  | crc16 => .crc16Xmodem
  | crc32 => .crc32Ieee
  | xor8 => .xor8

def aliases : List (String × ChecksumAlgorithm) :=
  [("crc16", crc16), ("crc16-xmodem", crc16), ("crc32", crc32), ("xor8", xor8), ("xor", xor8)]

def normalize (typed : String) : String :=
  String.ofList ((Text.trim typed.toList).map Char.toLower)

def ofName (typed : String) : Except String ChecksumAlgorithm :=
  let name := normalize typed
  match aliases.lookup name with
  | some a => .ok a
  | none => .error name

end ChecksumAlgorithm
end FrameLink
