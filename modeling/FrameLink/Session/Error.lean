import FrameLink.Duration
import FrameLink.Frame
import FrameLink.ProtocolError
import FrameLink.TransportError

namespace FrameLink

inductive SessionError where
  | deviceNotFound (what : String)
  | deviceBusy
  | deviceDisconnected
  | transportTimeout
  | transportIo (text : String)
  | permissionDenied
  | handshakeFailed (why : String)
  | requestTimeout (seq : SequenceId) (timeout : Duration)
  | sessionClosed
  | sessionFaulted (cause : String)
  | sequenceSpaceExhausted (pending : Nat)
  | cancelled (seq : SequenceId)
  | alreadyConnected
  | protocol (e : ProtocolError)
deriving DecidableEq, Repr

namespace SessionError

def message : SessionError → String
  | deviceNotFound what => "Device not found: " ++ what
  | deviceBusy => "Device is busy"
  | deviceDisconnected => "Device disconnected"
  | transportTimeout => "USB transfer timed out"
  | transportIo text => "USB transport error: " ++ text
  | permissionDenied => "Permission denied opening device"
  | handshakeFailed why => "Handshake failed: " ++ why
  | requestTimeout seq timeout =>
    "Request " ++ toString seq.toNat ++ " timed out after " ++ timeout.text
  | sessionClosed => "Session closed"
  | sessionFaulted cause => "Session faulted: " ++ cause
  | sequenceSpaceExhausted pending =>
    "No free sequence id: " ++ toString pending ++ " requests outstanding"
  | cancelled seq => "Request " ++ toString seq.toNat ++ " cancelled"
  | alreadyConnected => "Session is already connected"
  | protocol e => "Protocol error: " ++ e.message

def isRetryable : SessionError → Bool
  | transportTimeout => true
  | requestTimeout .. => true
  | sequenceSpaceExhausted _ => true
  | deviceBusy => true
  | _ => false

def requiresReconnect : SessionError → Bool
  | deviceDisconnected => true
  | transportIo _ => true
  | sessionFaulted _ => true
  | handshakeFailed _ => true
  | _ => false

def causes : SessionError → List String
  | protocol e => [message (protocol e), e.message]
  | e => [e.message]

def ofTransport : TransportError → SessionError
  | .notFound => deviceNotFound "no matching device"
  | .busy => deviceBusy
  | .disconnected => deviceDisconnected
  | .timeout => transportTimeout
  | .permissionDenied => permissionDenied
  | .closed => sessionClosed
  | .io text => transportIo text

end SessionError
end FrameLink
