import FrameLink.Config.Document
import FrameLink.FileTree
import FrameLink.Toml.Writer

namespace FrameLink
namespace HostConfig

def defaultPath : String := "~/.config/g2-usb/host.toml"

def standardPaths : List String := [defaultPath, "/etc/g2-usb/host.toml"]

def ofContent (content : Bytes) (F : Format := Toml.format) : Except ConfigError HostConfig :=
  match String.fromUTF8? ⟨content.toArray⟩ with
  | none => .error .io
  | some s =>
    match (F.read s).bind (ofDocument .file) with
    | none => .error .parse
    | some c => c.validate.map fun _ => c

def toContent (c : HostConfig) (F : Format := Toml.format) : Option Bytes :=
  (F.write c.toDocument).map fun s => s.toUTF8.toList

def findStandard (t : FileTree) : Except ConfigError String :=
  match standardPaths.find? fun s => (Path.ofString s).any t.has with
  | some s => .ok s
  | none => .error .noFile

def load (t : FileTree) (path : Option String) (F : Format := Toml.format) :
    Except ConfigError HostConfig := do
  let path ← match path with
    | some path => .ok path
    | none => findStandard t
  match (Path.ofString path).bind t.read with
  | none => .error .io
  | some content => ofContent content F

def loadOrDefault (t : FileTree) (path : Option String) (F : Format := Toml.format) : HostConfig :=
  match load t path F with
  | .ok c => c
  | .error _ => {}

/-- Saves a configuration, and makes the directories for it. One that has no written form leaves all
files and directories as they are. -/
def save (c : HostConfig) (t : FileTree) (path : String) (F : Format := Toml.format) :
    Except ConfigError Unit × FileTree :=
  match c.toContent F with
  | none => (.error .unwritable, t)
  | some content =>
    match Path.ofString path with
    | none => (.error .io, t)
    | some p =>
      match t.writeDeep p content with
      | (true, t) => (.ok (), t)
      | (false, t) => (.error .io, t)

end HostConfig
end FrameLink
