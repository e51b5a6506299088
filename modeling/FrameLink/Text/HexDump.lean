import FrameLink.Bytes
import FrameLink.Text.Numeral

namespace FrameLink.Text

def hexRun (bs : Bytes) : String :=
  String.join (bs.map fun b => hex 2 b.toNat)

def hexSpaced (bs : Bytes) : String :=
  " ".intercalate (bs.map fun b => hex 2 b.toNat)

def printable (b : UInt8) : Char :=
  if 0x20 ≤ b ∧ b ≤ 0x7E then Char.ofNat b.toNat else '.'

def dumpColumns : Nat := 47

def dumpRow (bs : Bytes) : String :=
  let digits := hexSpaced bs
  digits ++ String.ofList (List.replicate (dumpColumns - digits.length) ' ') ++ "  " ++
    String.ofList (bs.map printable) ++ "\n"

/-- Rows of sixteen bytes: their digits, then their characters. -/
def hexDump (bs : Bytes) : String :=
  String.join ((pieces 16 bs).map dumpRow)

end FrameLink.Text
