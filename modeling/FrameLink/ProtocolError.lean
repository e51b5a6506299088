import FrameLink.Text.Numeral

namespace FrameLink

inductive Malformation where
  | lengthExceedsMax (declared max : Nat)
  | lengthBelowMinimum (declared min : Nat)
  | incomplete (buffered : Nat)
deriving DecidableEq, Repr

namespace Malformation

def message : Malformation → String
  | lengthExceedsMax declared max =>
    "declared length " ++ toString declared ++ " exceeds maximum " ++ toString max
  | lengthBelowMinimum declared min =>
    "declared length " ++ toString declared ++ " is below minimum " ++ toString min
  | incomplete buffered =>
    "incomplete frame abandoned with " ++ toString buffered ++ " bytes buffered"

end Malformation

inductive ProtocolError where
  | checksumMismatch (expected computed : Nat)
  | malformedFrame (why : Malformation)
  | frameTooLarge (size max : Nat)
  | incompatibleVersion (major minor expectedMajor expectedMinor : Nat)
  | invalidVersionPayload (length : Nat)
  | unsupportedLengthWidth (width : Nat)
  | unknownChecksum (name : String)
deriving DecidableEq, Repr

namespace ProtocolError

def message : ProtocolError → String
  | checksumMismatch expected computed =>
    "Checksum mismatch: frame carries " ++ Text.hexMarked 1 expected ++ ", computed " ++
      Text.hexMarked 1 computed
  | malformedFrame why => "Malformed frame: " ++ why.message
  | frameTooLarge size max =>
    "Frame too large: " ++ toString size ++ " bytes (max: " ++ toString max ++ ")"
  | incompatibleVersion major minor expectedMajor expectedMinor =>
    "Incompatible protocol version: " ++ toString major ++ "." ++ toString minor ++
      " (expected " ++ toString expectedMajor ++ "." ++ toString expectedMinor ++ ")"
  | invalidVersionPayload length =>
    "Invalid version payload: expected 2 bytes, got " ++ toString length
  | unsupportedLengthWidth width =>
    "Unsupported length width: " ++ toString width ++ " (expected 1, 2 or 4)"
  | unknownChecksum name => "Unknown checksum algorithm: " ++ name

/-- Whether a receiver recovers by searching for the next start marker. -/
def isFramingAnomaly : ProtocolError → Bool
  | checksumMismatch .. => true
  | malformedFrame _ => true
  | _ => false

end ProtocolError
end FrameLink
