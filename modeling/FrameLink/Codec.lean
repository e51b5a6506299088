import FrameLink.Checksum
import FrameLink.Frame
import FrameLink.ProtocolError

namespace FrameLink

inductive LengthWidth where
  | one
  | two
  | four
deriving DecidableEq, Repr, Inhabited

namespace LengthWidth

def bytes : LengthWidth → Nat
  | one => 1
  | two => 2
  | four => 4

def label : LengthWidth → String
  | one => "One"
  | two => "Two"
  | four => "Four"

def maxBody (w : LengthWidth) : Nat := wordCount w.bytes - 1

def ofBytes : Nat → Except ProtocolError LengthWidth
  | 1 => .ok one
  | 2 => .ok two
  | 4 => .ok four
  | n => .error (.unsupportedLengthWidth n)

end LengthWidth

def startMarker : UInt8 := 0x7E

def headerCheck (length : Bytes) : UInt8 := ~~~ xorAll length

/-- What both ends agree on before they exchange frames, which are written so:

    7E | length | check of the length | sequence id | opcode | payload | checksum

The length counts sequence id, opcode and payload. The check of the length is the complement of the
exclusive or of its bytes. The checksum covers all that lies between the start marker and itself. -/
structure Codec where
  lengthWidth : LengthWidth
  maxBody : Nat
  checksum : Checksum
  maxBody_le : maxBody ≤ lengthWidth.maxBody

namespace Codec

/-- A codec whose bodies are as long as `requested`, but no longer than the length field can say. -/
def make (lengthWidth : LengthWidth) (requested : Nat) (checksum : Checksum) : Codec where
  lengthWidth := lengthWidth
  maxBody := min requested lengthWidth.maxBody
  checksum := checksum
  maxBody_le := Nat.min_le_right _ _

def defaultMaxBody : Nat := 4096

def standard : Codec := make .two defaultMaxBody .crc16Xmodem

instance : Inhabited Codec := ⟨standard⟩

def headerLength (c : Codec) : Nat := 1 + c.lengthWidth.bytes + 1

def encodedLength (c : Codec) (payload : Nat) : Nat :=
  c.headerLength + Frame.minBody + payload + c.checksum.width

def covered (c : Codec) (body : Bytes) : Bytes :=
  let length := beBytes c.lengthWidth.bytes body.length
  length ++ headerCheck length :: body

def enclose (c : Codec) (body : Bytes) : Bytes :=
  startMarker :: (c.covered body ++ beBytes c.checksum.width (c.checksum.value (c.covered body)))

def encode (c : Codec) (f : Frame) : Except ProtocolError Bytes :=
  if c.maxBody < f.bodyLength then .error (.frameTooLarge f.bodyLength c.maxBody)
  else .ok (c.enclose f.body)

def describe (c : Codec) : String :=
  "FrameCodec \x7b length_width: " ++ c.lengthWidth.label ++ ", max_frame_length: " ++
    toString c.maxBody ++ ", checksum: " ++ c.checksum.label ++ " \x7d"

theorem length_enclose (c : Codec) (body : Bytes) :
    (c.enclose body).length = c.headerLength + body.length + c.checksum.width := by
  simp [enclose, covered, headerLength]; omega

theorem length_encode {c : Codec} {f : Frame} {bs : Bytes} (h : c.encode f = .ok bs) :
    bs.length = c.encodedLength f.payload.length := by
  unfold encode at h
  split at h
  · cases h
  · cases h
    rw [length_enclose, Frame.length_body, encodedLength, Frame.bodyLength]
    omega

end Codec
end FrameLink
