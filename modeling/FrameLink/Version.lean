import FrameLink.Bytes
import FrameLink.ProtocolError

namespace FrameLink

structure Version where
  major : UInt8
  minor : UInt8
deriving DecidableEq, Repr, Inhabited

namespace Version

def current : Version := ⟨1, 0⟩

def text (v : Version) : String :=
  toString v.major.toNat ++ "." ++ toString v.minor.toNat

def toBytes (v : Version) : Bytes := [v.major, v.minor]

/-- Reads a handshake payload; bytes behind the version are ignored. -/
def ofBytes : Bytes → Except ProtocolError Version
  | major :: minor :: _ => .ok ⟨major, minor⟩
  | bs => .error (.invalidVersionPayload bs.length)

def includes (v w : Version) : Bool := v.major == w.major && w.minor ≤ v.minor

def validate (peer : Version) : Except ProtocolError Unit :=
  if peer.major = current.major then .ok ()
  else .error (.incompatibleVersion peer.major.toNat peer.minor.toNat current.major.toNat
    current.minor.toNat)

theorem ofBytes_toBytes_append (v : Version) (bs : Bytes) : ofBytes (v.toBytes ++ bs) = .ok v := rfl

end Version
end FrameLink
