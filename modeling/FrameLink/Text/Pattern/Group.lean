import FrameLink.Text.Alphanumeric
import FrameLink.Text.Pattern.Mode

namespace FrameLink.Text.Pattern

inductive Opening where
  | flags (m : Mode)
  | group (m : Mode) (name : Option (List Char))
deriving DecidableEq, Repr

def isGroupName : List Char → Bool
  | [] => false
  | c :: rest =>
    (c == '_' || isAlphabetic c) &&
      rest.all fun c => ['_', '.', '[', ']'].contains c || isAlphanumeric c

/-- Reads flags up to a colon or a parenthesis, none of them twice. A hyphen in front of some turns
them off. -/
def readFlags (seen : List Char) (m : Mode) : List Char → Option (Mode × List Char)
  | [] => none
  | c :: rest =>
    if c = ':' ∨ c = ')' then if seen.head? = some '-' then none else some (m, c :: rest)
    else if seen.contains c then none
    else if c = '-' ∨ Mode.flags.contains c then
      readFlags (c :: seen) (m.set (¬ seen.contains '-') c) rest
    else none

def namedHead (m : Mode) (cs : List Char) : Option (Opening × List Char) :=
  match splitOnce '>' cs with
  | some (name, rest) => if isGroupName name then some (.group m (some name), rest) else none
  | none => none

def opening (m : Mode) (cs : List Char) : Option (Opening × List Char) :=
  match m.skip cs with
  | '?' :: '<' :: rest => namedHead m rest
  | '?' :: 'P' :: '<' :: rest => namedHead m rest
  | '?' :: ')' :: _ => none
  | '?' :: rest =>
    match readFlags [] m rest with
    | some (m, ':' :: rest) => some (.group m none, rest)
    | some (m, _ :: rest) => some (.flags m, rest)
    | _ => none
  | rest => some (.group m none, rest)

end FrameLink.Text.Pattern
