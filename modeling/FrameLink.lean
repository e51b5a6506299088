import FrameLink.Device.Bench
import FrameLink.Main
import FrameLink.Proofs.Decoder.Calls
import FrameLink.Proofs.Decoder.Chunks
import FrameLink.Proofs.Decoder.Resync
import FrameLink.Proofs.Decoder.RoundTrip
import FrameLink.Proofs.Checksum.Damage
import FrameLink.Proofs.Codec.Corruption
import FrameLink.Proofs.PendingTable.Calls
import FrameLink.Proofs.Session.Steps
import FrameLink.Proofs.Session.Books
import FrameLink.Proofs.Session.Growth
import FrameLink.Proofs.Session.Lifecycle
import FrameLink.Proofs.Session.Client
import FrameLink.Proofs.Session.Isolation
import FrameLink.Proofs.Session.Moves
import FrameLink.Proofs.Device.Open
import FrameLink.Proofs.Session.AtRest
import FrameLink.Proofs.Session.Closing
import FrameLink.Proofs.Session.Faults
import FrameLink.Proofs.Session.Handshake
import FrameLink.Proofs.Session.Connecting
import FrameLink.Proofs.Session.Met
import FrameLink.Proofs.Session.Transfers
import FrameLink.Proofs.Session.Silence
import FrameLink.Proofs.Device.Offer
import FrameLink.Proofs.Session.Talk
import FrameLink.Proofs.Device.Announced
import FrameLink.Proofs.Session.Losses
import FrameLink.Proofs.Decoder.Damage
import FrameLink.Proofs.Session.Damage
import FrameLink.Proofs.PendingTable.Marks
import FrameLink.Proofs.Session.Correlation
import FrameLink.Proofs.Session.EventStream
import FrameLink.Proofs.Session.History
import FrameLink.Proofs.Session.Turns
import FrameLink.Proofs.Session.Events
import FrameLink.Proofs.Session.Sent
import FrameLink.Proofs.Device.Told
import FrameLink.Proofs.PendingTable.Past
import FrameLink.Proofs.Session.Routing
import FrameLink.Proofs.Session.Threshold
import FrameLink.Proofs.Device.Echo
import FrameLink.Proofs.Session.Request
import FrameLink.Proofs.Session.Linkage
import FrameLink.Proofs.Usb.Balance
import FrameLink.Proofs.Usb.Connection
import FrameLink.Proofs.Device.Fetching
import FrameLink.Proofs.Device.Messages
import FrameLink.Proofs.Session.Unsent
import FrameLink.Proofs.Session.Resync
import FrameLink.Proofs.Decoder.Waiting
import FrameLink.Proofs.Checksum.Polynomial
import FrameLink.Proofs.Usb.Discovery
import FrameLink.Proofs.Config.File
import FrameLink.Proofs.Cli.Rendering
import FrameLink.Proofs.Usb.Selector
