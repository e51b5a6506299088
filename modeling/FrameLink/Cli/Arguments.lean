import FrameLink.Text.Blank
import FrameLink.Usb.Selector

namespace FrameLink.Cli

structure Arguments where
  config : Option String := none
  saveConfig : Bool := false
  listDevices : Bool := false
  device : Option Selector := none
  payload : Option String := none
  noEvents : Bool := false
  logLevel : Option String := none
deriving DecidableEq, Repr, Inhabited

inductive Halt where
  | help
  | version
  | unknownWord
  | unwantedValue
  | missingValue
  | badDevice
  | repeated
deriving DecidableEq, Repr

def Halt.exitCode : Halt → Nat
  | help => 0
  | version => 0
  | _ => 2

inductive Setting where
  | config
  | device
  | payload
  | logLevel
deriving DecidableEq, Repr

inductive Switch where
  | saveConfig
  | listDevices
  | noEvents
  | help
  | version
deriving DecidableEq, Repr

inductive Key where
  | setting (s : Setting)
  | switch (s : Switch)
deriving DecidableEq, Repr

def longKeys : List (String × Key) :=
  [("config", .setting .config), ("device", .setting .device), ("payload", .setting .payload),
    ("log-level", .setting .logLevel), ("save-config", .switch .saveConfig),
    ("list-devices", .switch .listDevices), ("no-events", .switch .noEvents),
    ("help", .switch .help), ("version", .switch .version)]

def shortKeys : List (Char × Key) :=
  [('c', .setting .config), ('d', .setting .device), ('p', .setting .payload),
    ('l', .setting .logLevel), ('h', .switch .help), ('V', .switch .version)]

inductive Word where
  | separator
  | key (k : Key) (value : Option String)
  | unknown
  | plain (text : String)
deriving DecidableEq, Repr

namespace Word

def ofLong (cs : List Char) : Word :=
  let (name, value) := match Text.splitOnce '=' cs with
    | some (name, value) => (name, some (String.ofList value))
    | none => (cs, none)
  match longKeys.lookup (String.ofList name) with
  | some k => .key k value
  | none => .unknown

/-- A short key. Behind a setting stands its value, possibly after an equals sign; what stands
behind a switch does not matter, since all short switches end the reading. -/
def ofShort (letter : Char) (rest : List Char) : Word :=
  match shortKeys.lookup letter with
  | some (.switch s) => .key (.switch s) none
  | some (.setting s) =>
    .key (.setting s) <| match rest with
      | [] => none
      | '=' :: value => some (String.ofList value)
      | value => some (String.ofList value)
  | none => .unknown

def ofString (s : String) : Word :=
  match s.toList with
  | ['-', '-'] => .separator
  | '-' :: '-' :: cs => ofLong cs
  | '-' :: letter :: rest => ofShort letter rest
  | _ => .plain s

end Word

namespace Arguments

def set (a : Arguments) (s : Setting) (value : String) : Except Halt Arguments :=
  match s with
  | .config =>
    if a.config.isSome then .error .repeated
    else if value.isEmpty then .error .missingValue
    else .ok { a with config := some value }
  | .device =>
    if a.device.isSome then .error .repeated
    else match Selector.ofString value with
      | .error _ => .error .badDevice
      | .ok s => .ok { a with device := some s }
  | .payload =>
    if a.payload.isSome then .error .repeated else .ok { a with payload := some value }
  | .logLevel =>
    if a.logLevel.isSome then .error .repeated else .ok { a with logLevel := some value }

def turnOn (a : Arguments) : Switch → Except Halt Arguments
  | .saveConfig =>
    if a.saveConfig then .error .repeated else .ok { a with saveConfig := true }
  | .listDevices =>
    if a.listDevices then .error .repeated else .ok { a with listDevices := true }
  | .noEvents => if a.noEvents then .error .repeated else .ok { a with noEvents := true }
  | .help => .error .help
  | .version => .error .version

end Arguments

/-- The arguments read so far, and the setting read last if its value has not been looked at. -/
structure Reading where
  arguments : Arguments := {}
  pending : Option (Setting × Option String) := none
deriving DecidableEq, Repr

namespace Reading

def resolve (r : Reading) : Except Halt Arguments :=
  match r.pending with
  | none => .ok r.arguments
  | some (_, none) => .error .missingValue
  | some (s, some value) => r.arguments.set s value

def step (r : Reading) : Word → Except Halt Reading
  | .key (.switch _) (some _) => .error .unwantedValue
  | .key (.switch s) none => do return { arguments := ← (← r.resolve).turnOn s }
  | .key (.setting s) (some value) => do return { arguments := ← (← r.resolve).set s value }
  | .key (.setting s) none => do return { arguments := ← r.resolve, pending := some (s, none) }
  | .plain text =>
    match r.pending with
    | some (s, none) => .ok { r with pending := some (s, some text) }
    | _ => .error .unknownWord
  | _ => .error .unknownWord

def finish (r : Reading) : List String → Except Halt Arguments
  | [] => r.resolve
  | text :: rest =>
    match Word.ofString text with
    | .separator => if rest.isEmpty then r.resolve else .error .unknownWord
    | word => do (← r.step word).finish rest

end Reading

def Arguments.ofWords (words : List String) : Except Halt Arguments := ({} : Reading).finish words

end FrameLink.Cli
