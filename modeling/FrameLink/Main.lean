import FrameLink.Cli.Program

namespace FrameLink.Cli

def filterVariable : String := "RUST_LOG"

def configPaths (a : Arguments) : List String :=
  match a.config with
  | some path => [path]
  | none => HostConfig.standardPaths

def systemPath (home : String) (p : Place) : String :=
  match p.origin with
  | .home => "/".intercalate (home :: p.names.reverse)
  | .root => "/" ++ "/".intercalate p.names.reverse

def spelledOut (home path : String) : String :=
  match path.toList with
  | '~' :: '/' :: rest => home ++ "/" ++ String.ofList rest
  | _ => path

def addFile (home : String) (t : FileTree) (path : String) : IO FileTree := do
  match Path.ofString path with
  | none => return t
  | some p =>
    try
      let content ← IO.FS.readBinFile (spelledOut home path)
      return (t.writeDeep p content.toList).2
    catch _ => return t

def writeChanges (home : String) (before after : FileTree) : IO Unit :=
  for (place, entry) in after.entries.reverse do
    if before.get? place ≠ some entry then
      match entry with
      | .directory => IO.FS.createDirAll (systemPath home place)
      | .file content => IO.FS.writeBinFile (systemPath home place) ⟨content.toArray⟩
      | .void => pure ()

def haltLine : Halt → String
  | .help => "Usage: g2-usb [OPTIONS]"
  | .version => "g2-usb"
  | _ => "error: unusable arguments"

def run (a : Arguments) : IO Nat := do
  let home := (← IO.getEnv "HOME").getD "."
  let files ← (configPaths a).foldlM (addFile home) .machine
  let outcome := carryOut a { files := files, logFilter := ← IO.getEnv filterVariable }
  writeChanges home files outcome.world.files
  for line in outcome.printed do IO.println line
  if let some e := outcome.error then IO.eprintln ("Error: " ++ e.message)
  return outcome.exitCode

def start (words : List String) : IO Nat := do
  match Arguments.ofWords words with
  | .error halt =>
    IO.println (haltLine halt)
    return halt.exitCode
  | .ok arguments => run arguments

end FrameLink.Cli

def main (words : List String) : IO UInt32 := do
  return (← FrameLink.Cli.start words).toUInt32
