import FrameLink.Frame

namespace FrameLink

structure ReplyTemplate where
  seq : Option SequenceId := none
  shift : Int := 0
  opcode : Option UInt8 := none
  payload : Option Bytes := none
deriving DecidableEq, Repr, Inhabited

def ReplyTemplate.fill (t : ReplyTemplate) (f : Frame) : Frame where
  seq := t.seq.getD (f.seq + UInt16.ofInt t.shift)
  opcode := t.opcode.getD f.opcode
  payload := t.payload.getD f.payload

/-- Replies for the first frames one by one, and for all frames after them. -/
structure Responder where
  script : List (List ReplyTemplate) := []
  afterwards : List ReplyTemplate := []
deriving DecidableEq, Repr, Inhabited

namespace Responder

def echo : Responder := { afterwards := [{}] }

def answer (r : Responder) (f : Frame) : List Frame × Responder :=
  match r.script with
  | [] => (r.afterwards.map (·.fill f), r)
  | replies :: script => (replies.map (·.fill f), { r with script := script })

end Responder
end FrameLink
