import FrameLink.Config

namespace FrameLink

structure SessionSettings where
  handshakeTimeout : Duration
  /-- How long a request may take by default, and how long a used sequence id is remembered. -/
  requestTimeout : Duration
  writeTimeout : Duration
  readPoll : Duration
  maxRead : Nat
  partialTimeout : Duration
  eventCapacity : Nat
  /-- How many framing anomalies in a row are tolerated; zero tolerates any number. -/
  errorLimit : UInt32
  sequenceSpace : Nat
  codec : Codec

namespace SessionSettings

def ofConfig (c : HostConfig) : SessionSettings where
  handshakeTimeout := .ofMillis c.session.handshakeTimeout.toNat
  requestTimeout := .ofMillis c.session.requestTimeout.toNat
  writeTimeout := .ofMillis c.session.writeTimeout.toNat
  readPoll := .ofMillis c.session.readPoll.toNat
  maxRead := max 1 c.session.maxRead.toNat
  partialTimeout := .ofMillis c.session.partialTimeout.toNat
  eventCapacity := max 1 c.session.eventCapacity.toNat
  errorLimit := c.session.errorLimit
  sequenceSpace := c.session.sequenceSpace.toNat
  codec := c.framing.codec

def standard : SessionSettings := ofConfig {}

instance : Inhabited SessionSettings := ⟨standard⟩

def describe (s : SessionSettings) : String :=
  "SessionConfig \x7b handshake_timeout: " ++ s.handshakeTimeout.text ++
    ", request_timeout: " ++ s.requestTimeout.text ++
    ", write_timeout: " ++ s.writeTimeout.text ++
    ", read_poll: " ++ s.readPoll.text ++
    ", max_read_size: " ++ toString s.maxRead ++
    ", partial_frame_timeout: " ++ s.partialTimeout.text ++
    ", event_queue_capacity: " ++ toString s.eventCapacity ++
    ", max_consecutive_frame_errors: " ++ toString s.errorLimit ++
    ", sequence_space: " ++ toString s.sequenceSpace ++
    ", codec: " ++ s.codec.describe ++ " \x7d"

end SessionSettings
end FrameLink
