import FrameLink.Announcement
import FrameLink.Decoder
import FrameLink.Device.Responder
import FrameLink.Version

namespace FrameLink

/-- A device held in memory. It decodes what the host writes, and queues what the host is to read:
raw transfers, or announcements with the bodies they announce. -/
structure Device where
  codec : Codec
  inbound : List Bytes := []
  bodies : List Bytes := []
  /-- Whether messages are announced, and if so, how many misses a fetch may have. -/
  announced : Option UInt8 := none
  /-- How many of the next fetches come back empty. -/
  misses : Nat := 0
  readFault : Option TransportError := none
  writes : Nat := 0
  frames : List Frame := []
  decoder : Decoder
  responder : Option Responder := none
  handshake : Option Version := some .current
  isOpen : Bool := false
  isGone : Bool := false

namespace Device

def new (codec : Codec) : Device := { codec := codec, decoder := .new codec }

instance : Inhabited Device := ⟨new .standard⟩

def attach (d : Device) : Except TransportError Unit × Device :=
  if d.isGone then (.error .notFound, d)
  else if d.isOpen then (.error .busy, d)
  else (.ok (), { d with isOpen := true, decoder := d.decoder.reset.2 })

def close (d : Device) : Device := { d with isOpen := false }

def disconnect (d : Device) : Device := { d with isGone := true }

def unplug (d : Device) (e : TransportError) : Device :=
  { d with isGone := true, readFault := some e }

def enqueue (d : Device) (message : Bytes) : Device :=
  match d.announced with
  | none => { d with inbound := d.inbound ++ [message] }
  | some _ =>
    let (header, body) := Announcement.compose message
    { d with inbound := d.inbound ++ [header], bodies := d.bodies ++ body.toList }

def enqueueHeader (d : Device) (header : Bytes) : Device :=
  { d with inbound := d.inbound ++ [header] }

def enqueueFrame (d : Device) (f : Frame) : Device :=
  match d.codec.encode f with
  | .ok bytes => d.enqueue bytes
  | .error _ => d

def respond (d : Device) (f : Frame) : List Frame × Device :=
  match d.responder with
  | some r => let (replies, r) := r.answer f; (replies, { d with responder := some r })
  | none => ([], d)

/-- The replies to a frame: a handshake is acknowledged, all else is the responder's. -/
def replies (d : Device) (f : Frame) : List Frame × Device :=
  match d.handshake with
  | some version =>
    if f.opcode = Opcode.handshake then ([⟨f.seq, Opcode.handshakeAck, version.toBytes⟩], d)
    else d.respond f
  | none => d.respond f

def accept (d : Device) (f : Frame) : Device :=
  let (replies, d) := { d with frames := d.frames ++ [f] }.replies f
  replies.foldl enqueueFrame d

def write (d : Device) (bs : Bytes) : Except TransportError Nat × Device :=
  if d.isGone then (.error .disconnected, d)
  else if ¬ d.isOpen then (.error .closed, d)
  else
    let (results, decoder) := (d.decoder.extend bs).drain
    let d := { d with writes := d.writes + 1, decoder := decoder }
    (.ok bs.length, (results.filterMap Except.toOption).foldl accept d)

def fetch (room : Nat) (d : Device) : Except TransportError Fetched × Device :=
  if 0 < d.misses then (.ok (.exactly []), { d with misses := d.misses - 1 })
  else match d.bodies with
    | [] => (.error .timeout, d)
    | body :: bodies =>
      let rest := body.drop room
      (.ok (.exactly (body.take room)),
        { d with bodies := if rest.isEmpty then bodies else rest :: bodies })

def readAnnounced (d : Device) (retries : Nat) (header : Bytes) :
    Except TransportError Bytes × Device :=
  match Announcement.ofHeader header with
  | .embedded message => (.ok message, d)
  | .extended size => fetchMessage fetch size retries d
  | .ignored => (.ok [], d)

/-- Reads what is next for the host: a whole announced message, or at most `max` bytes of a raw
transfer. -/
def read (d : Device) (max : Nat) : Except TransportError Bytes × Device :=
  match d.readFault with
  | some e => (.error e, d)
  | none =>
    if d.isGone then (.error .disconnected, d)
    else if ¬ d.isOpen then (.error .closed, d)
    else match d.inbound, d.announced with
      | [], _ => (.error .timeout, d)
      | header :: inbound, some retries =>
        { d with inbound := inbound }.readAnnounced retries.toNat header
      | transfer :: inbound, none =>
        let rest := transfer.drop max
        (.ok (transfer.take max),
          { d with inbound := if rest.isEmpty then inbound else rest :: inbound })

end Device
end FrameLink
