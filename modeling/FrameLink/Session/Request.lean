import FrameLink.Session.Lifecycle

namespace FrameLink
namespace Session

variable {σ : Type}

def requestFrame (T : Transport σ) (s : Session σ) (opcode : UInt8) (payload : Bytes)
    (timeout : Duration) : Reply × Session σ :=
  match s.send T opcode payload with
  | (.error e, s) => (.error e, s)
  | (.ok h, s) => s.await T h timeout

def request (T : Transport σ) (s : Session σ) (payload : Bytes) (timeout : Duration) :
    Except SessionError Bytes × Session σ :=
  let (reply, s) := s.requestFrame T Opcode.request payload timeout
  (reply.map Frame.payload, s)

def requestDefault (T : Transport σ) (s : Session σ) (payload : Bytes) :
    Except SessionError Bytes × Session σ :=
  s.request T payload s.settings.requestTimeout

end Session
end FrameLink
