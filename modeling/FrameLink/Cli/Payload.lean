import FrameLink.Bytes
import FrameLink.Text.Blank
import FrameLink.Text.Numeral

namespace FrameLink

inductive PayloadError where
  | notAscii (text : String)
  | oddLength (text : String)
  | notByte (pair : String)
deriving DecidableEq, Repr

def PayloadError.causes : PayloadError → List String
  | notAscii text => ["non-hex characters in '" ++ text ++ "'"]
  | oddLength text => ["odd number of hex digits in '" ++ text ++ "'"]
  | notByte pair => ["'" ++ pair ++ "' is not a hex byte", "invalid digit found in string"]

namespace Payload

def separates (c : Char) : Bool := Text.isBlank c || c == ','

/-- Drops all marks `0x` in front, where `x` is the given letter. -/
def dropMarks (letter : Char) : List Char → List Char
  | '0' :: c :: rest => if c = letter then dropMarks letter rest else '0' :: c :: rest
  | cs => cs

/-- A token without the marks in front of it, those in lower case first. -/
def unmarked (token : List Char) : List Char := dropMarks 'X' (dropMarks 'x' token)

def digits (cs : List Char) : List Char := ((Text.splitWhere separates cs).map unmarked).flatten

def readPairs : List Char → Except PayloadError Bytes
  | a :: b :: rest =>
    match Text.readNumeral 16 0xFF [a, b] with
    | none => .error (.notByte (String.ofList [a, b]))
    | some n => (readPairs rest).map (UInt8.ofNat n :: ·)
  | _ => .ok []

def ofString (s : String) : Except PayloadError Bytes :=
  let cs := digits s.toList
  if cs.any fun c => 0x80 ≤ c.toNat then .error (.notAscii s)
  else if cs.length % 2 ≠ 0 then .error (.oddLength s)
  else readPairs cs

end Payload
end FrameLink
