import FrameLink.Cli.Payload
import FrameLink.Config.Error
import FrameLink.Session.Error
import FrameLink.TransportError
import FrameLink.Usb.Selector

namespace FrameLink

inductive CliError where
  | save (e : ConfigError)
  | load (e : ConfigError)
  | logging (e : ConfigError)
  | bus (e : TransportError)
  | enumerate (e : TransportError)
  | selector (e : ConfigError)
  | payload (e : PayloadError)
  | connect (selector : Selector) (e : SessionError)
  | request (e : SessionError)
deriving DecidableEq, Repr

namespace CliError

def causes : CliError → List String
  | save e => ["Failed to save configuration", e.message]
  | load e => ["Failed to load configuration", e.message]
  | logging e => ["Failed to setup logging", e.message]
  | bus e => ["Failed to initialise libusb", e.message]
  | enumerate e => ["Failed to enumerate devices", e.message]
  | selector e => ["Invalid device selector in configuration", e.message]
  | payload e => "Invalid --payload" :: e.causes
  | connect s e => ("Failed to connect to " ++ s.text) :: e.causes
  | request e => "Request failed" :: e.causes

def joinCauses (causes : List String) : String := ": ".intercalate causes

def message (e : CliError) : String := joinCauses e.causes

end CliError
end FrameLink
