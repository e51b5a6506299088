namespace FrameLink

inductive TransportError where
  | notFound
  | busy
  | disconnected
  | timeout
  | permissionDenied
  | closed
  | io (text : String)
deriving DecidableEq, Repr, Inhabited

namespace TransportError

def message : TransportError → String
  | notFound => "No device matches the selector"
  | busy => "Device or interface is busy"
  | disconnected => "Device disconnected"
  | timeout => "Transfer timed out"
  | permissionDenied => "Permission denied"
  | closed => "Transport is closed"
  | io text => "I/O error: " ++ text

def isFatal : TransportError → Bool
  | disconnected => true
  | closed => true
  | io _ => true
  | _ => false

end TransportError
end FrameLink
