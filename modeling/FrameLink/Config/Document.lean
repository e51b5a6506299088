import FrameLink.Config
import FrameLink.Document.Record

namespace FrameLink

open Document

namespace LoggingConfig

def toDocument (l : LoggingConfig) : Document := table [("level", text l.level)]

def ofDocument : Reader LoggingConfig := fun d doc => do
  let fields ← record ["level"] d doc
  let standard : LoggingConfig := {}
  return { level := ← defaulted d fields "level" string standard.level }

end LoggingConfig

namespace DeviceConfig

def fieldNames : List String := ["selector", "serial", "path"] ++ Endpoints.fieldNames

/-- An absent serial number or path is left out. -/
def toDocument (c : DeviceConfig) : Document :=
  table <|
    [("selector", text c.selector)] ++ present "serial" (c.serial.map text) ++
    present "path" (c.path.map text) ++ c.endpoints.toFields

def ofDocument : Reader DeviceConfig := fun d doc => do
  let fields ← record fieldNames d doc
  let standard : DeviceConfig := {}
  return {
    selector := ← defaulted d fields "selector" string standard.selector
    serial := ← defaulted d fields "serial" (optional string) none
    path := ← defaulted d fields "path" (optional string) none
    endpoints := {
      interface := ← defaulted d fields "interface" uint8 standard.endpoints.interface
      output := ← defaulted d fields "out_endpoint" uint8 standard.endpoints.output
      input := ← defaulted d fields "in_endpoint" uint8 standard.endpoints.input
      transfer := ← defaulted d fields "in_transfer" InTransfer.ofDocument
        standard.endpoints.transfer
      announce := ← defaulted d fields "announce_endpoint" uint8 standard.endpoints.announce
      retries := ← defaulted d fields "extended_retries" uint8 standard.endpoints.retries } }

end DeviceConfig

namespace SessionConfig

def fieldNames : List String :=
  ["handshake_timeout_ms", "request_timeout_ms", "write_timeout_ms", "read_poll_ms",
    "max_read_size", "partial_frame_timeout_ms", "event_queue_capacity",
    "max_consecutive_frame_errors", "sequence_space"]

def toDocument (c : SessionConfig) : Document :=
  table [("handshake_timeout_ms", int c.handshakeTimeout.toNat),
    ("request_timeout_ms", int c.requestTimeout.toNat),
    ("write_timeout_ms", int c.writeTimeout.toNat),
    ("read_poll_ms", int c.readPoll.toNat),
    ("max_read_size", int c.maxRead.toNat),
    ("partial_frame_timeout_ms", int c.partialTimeout.toNat),
    ("event_queue_capacity", int c.eventCapacity.toNat),
    ("max_consecutive_frame_errors", int c.errorLimit.toNat),
    ("sequence_space", int c.sequenceSpace.toNat)]

def ofDocument : Reader SessionConfig := fun d doc => do
  let fields ← record fieldNames d doc
  let standard : SessionConfig := {}
  return {
    handshakeTimeout := ← defaulted d fields "handshake_timeout_ms" uint64 standard.handshakeTimeout
    requestTimeout := ← defaulted d fields "request_timeout_ms" uint64 standard.requestTimeout
    writeTimeout := ← defaulted d fields "write_timeout_ms" uint64 standard.writeTimeout
    readPoll := ← defaulted d fields "read_poll_ms" uint64 standard.readPoll
    maxRead := ← defaulted d fields "max_read_size" uint64 standard.maxRead
    partialTimeout := ← defaulted d fields "partial_frame_timeout_ms" uint64 standard.partialTimeout
    eventCapacity := ← defaulted d fields "event_queue_capacity" uint64 standard.eventCapacity
    errorLimit := ← defaulted d fields "max_consecutive_frame_errors" uint32 standard.errorLimit
    sequenceSpace := ← defaulted d fields "sequence_space" uint32 standard.sequenceSpace }

end SessionConfig

namespace FramingConfig

def fieldNames : List String := ["max_frame_length", "length_width", "checksum_algorithm"]

def toDocument (c : FramingConfig) : Document :=
  table [("max_frame_length", int c.maxBody.toNat), ("length_width", c.lengthWidth.toDocument),
    ("checksum_algorithm", c.checksum.toDocument)]

def ofDocument : Reader FramingConfig := fun d doc => do
  let fields ← record fieldNames d doc
  let standard : FramingConfig := {}
  return {
    maxBody := ← defaulted d fields "max_frame_length" uint64 standard.maxBody
    lengthWidth := ← defaulted d fields "length_width" LengthWidth.ofDocument standard.lengthWidth
    checksum := ← defaulted d fields "checksum_algorithm" ChecksumAlgorithm.ofDocument
      standard.checksum }

end FramingConfig

namespace HostConfig

def fieldNames : List String := ["logging", "device", "session", "framing"]

def toDocument (c : HostConfig) : Document :=
  table [("logging", c.logging.toDocument), ("device", c.device.toDocument),
    ("session", c.session.toDocument), ("framing", c.framing.toDocument)]

def ofDocument : Reader HostConfig := fun d doc => do
  let fields ← record fieldNames d doc
  return {
    logging := ← defaulted d fields "logging" LoggingConfig.ofDocument {}
    device := ← defaulted d fields "device" DeviceConfig.ofDocument {}
    session := ← defaulted d fields "session" SessionConfig.ofDocument {}
    framing := ← defaulted d fields "framing" FramingConfig.ofDocument {} }

end HostConfig
end FrameLink
