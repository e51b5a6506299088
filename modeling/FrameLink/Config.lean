import FrameLink.Codec
import FrameLink.Duration
import FrameLink.Usb.Endpoints
import FrameLink.Usb.Selector

namespace FrameLink

structure LoggingConfig where
  level : String := "info"
deriving DecidableEq, Repr, Inhabited

structure DeviceConfig where
  selector : String := Selector.standard.text
  serial : Option String := none
  path : Option String := none
  endpoints : Endpoints := {}
deriving DecidableEq, Repr, Inhabited

/-- Times in milliseconds, sizes in bytes, events or errors. -/
structure SessionConfig where
  handshakeTimeout : UInt64 := 500
  requestTimeout : UInt64 := 1000
  writeTimeout : UInt64 := 1000
  readPoll : UInt64 := 50
  maxRead : UInt64 := 4096
  partialTimeout : UInt64 := 250
  eventCapacity : UInt64 := 64
  errorLimit : UInt32 := 16
  sequenceSpace : UInt32 := 65536
deriving DecidableEq, Repr, Inhabited

structure FramingConfig where
  maxBody : UInt64 := 4096
  lengthWidth : LengthWidth := .two
  checksum : ChecksumAlgorithm := .crc16
deriving DecidableEq, Repr, Inhabited

structure HostConfig where
  logging : LoggingConfig := {}
  device : DeviceConfig := {}
  session : SessionConfig := {}
  framing : FramingConfig := {}
deriving DecidableEq, Repr, Inhabited

namespace DeviceConfig

def fullSelector (d : DeviceConfig) : Except ConfigError Selector := do
  let ids ← Selector.ofString d.selector
  let path ← match d.path with
    | some path => (BusPath.ofString path).map some
    | none => .ok none
  return { ids with serial := d.serial, path := path }

def validate (d : DeviceConfig) : Except ConfigError Unit := do
  let _ ← d.fullSelector
  if d.endpoints.transfer = .announced ∧ d.endpoints.retries = 0 then .error .noRetries

end DeviceConfig

namespace SessionConfig

def minSpace : Nat := 2
def maxSpace : Nat := 65536

def positives (s : SessionConfig) : List (String × UInt64) :=
  [("handshake_timeout_ms", s.handshakeTimeout), ("request_timeout_ms", s.requestTimeout),
    ("write_timeout_ms", s.writeTimeout), ("read_poll_ms", s.readPoll),
    ("partial_frame_timeout_ms", s.partialTimeout), ("max_read_size", s.maxRead),
    ("event_queue_capacity", s.eventCapacity)]

def validate (s : SessionConfig) : Except ConfigError Unit :=
  match s.positives.find? fun p => p.2 == 0 with
  | some (name, _) => .error (.zero name)
  | none =>
    let space := s.sequenceSpace.toNat
    if space < minSpace ∨ maxSpace < space then .error (.sequenceSpace space) else .ok ()

end SessionConfig

namespace FramingConfig

def codec (f : FramingConfig) : Codec :=
  Codec.make f.lengthWidth f.maxBody.toNat f.checksum.checksum

def validate (f : FramingConfig) : Except ConfigError Unit :=
  if f.maxBody.toNat < Frame.minBody then .error (.bodyTooShort Frame.minBody)
  else if f.lengthWidth.maxBody < f.maxBody.toNat then
    .error (.bodyTooLong f.maxBody.toNat f.lengthWidth.bytes)
  else .ok ()

end FramingConfig

namespace LoggingConfig

def validate (l : LoggingConfig) : Except ConfigError Unit :=
  if ConfigError.logLevels.contains l.level then .ok () else .error (.logLevel l.level)

end LoggingConfig

namespace HostConfig

/-- Checks the sections in order; the first complaint counts. -/
def validate (c : HostConfig) : Except ConfigError Unit := do
  c.logging.validate
  c.device.validate
  c.session.validate
  c.framing.validate

end HostConfig
end FrameLink
