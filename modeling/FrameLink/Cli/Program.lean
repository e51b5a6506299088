import FrameLink.Cli.Arguments
import FrameLink.Cli.Conversation
import FrameLink.Cli.Listing
import FrameLink.Config.File
import FrameLink.LogFilter
import FrameLink.Usb.Connection

namespace FrameLink.Cli

structure World where
  files : FileTree := .machine
  bus : Usb.Bus := {}
  logFilter : Option String := none

structure Outcome where
  printed : List String := []
  error : Option CliError := none
  world : World

def saveDefault (w : World) : Outcome :=
  match ({} : HostConfig).save w.files HostConfig.defaultPath with
  | (.ok (), files) =>
    { printed := ["Configuration saved to: " ++ HostConfig.defaultPath]
      world := { w with files := files } }
  | (.error e, files) => { error := some (.save e), world := { w with files := files } }

/-- The configuration to go by. Only one that is asked for has to be there. -/
def chooseConfig (a : Arguments) (files : FileTree) : Except CliError HostConfig :=
  match a.config with
  | some path => (HostConfig.load files (some path)).mapError .load
  | none => .ok (HostConfig.loadOrDefault files none)

def chooseSelector (a : Arguments) (c : HostConfig) : Except CliError Selector :=
  match a.device with
  | some s => .ok s
  | none => c.device.fullSelector.mapError .selector

def chooseTask (a : Arguments) (c : HostConfig) : Except CliError (Selector × Bytes) := do
  let s ← chooseSelector a c
  let payload ← (Payload.ofString (a.payload.getD "")).mapError .payload
  return (s, payload)

def runSession (c : HostConfig) (s : Selector) (payload : Bytes) (streaming : Bool)
    (connection : Usb.Connection) : List String × Option CliError × Usb.Bus :=
  let T := Usb.Connection.transport
  let session := Session.new (SessionSettings.ofConfig c) s .lasting connection
  let talk := converse T session payload streaming
  let closed := talk.session.close T
  let error := match talk.ending with
    | .failed e => some e
    | _ => none
  (talk.printed ++ [closed.stats.text], error, closed.link.bus)

def useBus (a : Arguments) (c : HostConfig) (connector : Usb.Connector) :
    Usb.BusM (List String × Option CliError) := do
  if a.listDevices then list connector
  else match chooseTask a c with
    | .error e => return ([], some e)
    | .ok (s, payload) =>
      let connection : Usb.Connection := { bus := ← get, connector := connector }
      let (printed, error, bus) := runSession c s payload (¬ a.noEvents) connection
      set bus
      return (printed, error)

def withBus (a : Arguments) (c : HostConfig) : Usb.BusM (List String × Option CliError) := do
  match ← Usb.Connector.make c.device.endpoints with
  | .error e => return ([], some (.bus e))
  | .ok connector =>
    let result ← useBus a c connector
    connector.drop
    return result

def prepare (a : Arguments) (w : World) : Except CliError HostConfig := do
  let c ← chooseConfig a w.files
  let level := a.logLevel.getD c.logging.level
  (LogFilter.install false w.logFilter level).mapError .logging
  return c

def carryOut (a : Arguments) (w : World) : Outcome :=
  if a.saveConfig then saveDefault w
  else match prepare a w with
    | .error e => { error := some e, world := w }
    | .ok c =>
      let ((printed, error), bus) := (withBus a c).run w.bus
      { printed := printed, error := error, world := { w with bus := bus } }

def Outcome.exitCode (o : Outcome) : Nat := if o.error.isSome then 1 else 0

end FrameLink.Cli
