import FrameLink.TransportError

namespace FrameLink

inductive UsbError where
  | io
  | invalidParam
  | access
  | noDevice
  | notFound
  | busy
  | timeout
  | overflow
  | pipe
  | interrupted
  | noMem
  | notSupported
  | badDescriptor
  | other
deriving DecidableEq, Repr, Inhabited

namespace UsbError

def text : UsbError → String
  | io => "Input/Output Error"
  | invalidParam => "Invalid parameter"
  | access => "Access denied (insufficient permissions)"
  | noDevice => "No such device (it may have been disconnected)"
  | notFound => "Entity not found"
  | busy => "Resource busy"
  | timeout => "Operation timed out"
  | overflow => "Overflow"
  | pipe => "Pipe error"
  | interrupted => "System call interrupted (perhaps due to signal)"
  | noMem => "Insufficient memory"
  | notSupported => "Operation not supported or unimplemented on this platform"
  | badDescriptor => "Malformed descriptor"
  | other => "Other error"

def toTransport : UsbError → TransportError
  | timeout => .timeout
  | noDevice => .disconnected
  | busy => .busy
  | notFound => .notFound
  | access => .permissionDenied
  | e => .io e.text

end UsbError
end FrameLink
