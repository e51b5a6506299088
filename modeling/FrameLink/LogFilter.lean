import FrameLink.Config.Error
import FrameLink.Text.Alphanumeric
import FrameLink.Text.Blank
import FrameLink.Text.Numeral

namespace FrameLink.LogFilter

def levels : List String := ["off", "error", "warn", "info", "debug", "trace"]

def isLevel (cs : List Char) : Bool :=
  match Text.readNumeral 10 0xFFFFFFFFFFFFFFFF cs with
  | some n => n < levels.length
  | none => levels.contains (String.ofList (cs.map Char.toLower))

/-- Checks a field: a name, and behind an equals sign a number or a pattern for what it may hold.
What stands behind a second equals sign does not count. -/
def checkField (cs : List Char) : Except LogFilterError Unit :=
  match (Text.splitWhere (· == '=') cs).tail with
  | [] => .ok ()
  | value :: _ =>
    if Text.isDecimal value then .ok () else (Text.Pattern.check value).mapError .field

def dropBytes : Nat → List Char → Option (List Char)
  | 0, cs => some cs
  | _, [] => none
  | n + 1, c :: cs => if c.utf8Size ≤ n + 1 then dropBytes (n + 1 - c.utf8Size) cs else none

def slice (start stop : Nat) (cs : List Char) : Option (List Char) := do
  let tail ← dropBytes start cs
  let rest ← dropBytes stop cs
  return tail.take (tail.length - rest.length)

/-- Where in a directive a reader stands. -/
inductive Part where
  | start
  | word
  | span
  /-- In a field of a span, which begins at an offset. -/
  | field (begin : Nat)
  | fields
  | target
  /-- Behind the equals sign, up to which the directive is so many bytes long. -/
  | level (offset : Nat)
deriving DecidableEq, Repr

/-- The part of a directive after one more character, which stands at an offset. Offsets are counted
in bytes of the directive without the blanks in front, and what they lead to is taken from the
directive with them. -/
def Part.next (directive : List Char) (offset : Nat) : Part → Char → Except LogFilterError Part
  | start, '[' => .ok span
  | start, c =>
    if ['-', ':', '_'].contains c || Text.isAlphanumeric c then .ok word else .error .directive
  | word, '=' => .ok (level (offset + 1))
  | word, '[' => .ok span
  | word, _ => .ok word
  | span, ']' => .ok target
  | span, '\x7b' => .ok (field (offset + 1))
  | span, _ => .ok span
  | field begin, '\x7d' =>
    if begin = offset then .error .directive
    else (checkField ((slice begin offset directive).getD [])).map fun _ => fields
  | field begin, _ => .ok (field begin)
  | fields, ']' => .ok target
  | fields, _ => .error .directive
  | target, '=' => .ok (level (offset + 1))
  | target, _ => .error .directive
  | level n, _ => .ok (level n)

def lastPart (directive : List Char) : (offset : Nat) → Part → List Char →
    Except LogFilterError Part
  | _, p, [] => .ok p
  | offset, p, c :: cs =>
    match p.next directive offset c with
    | .ok p => lastPart directive (offset + c.utf8Size) p cs
    | .error e => .error e

def checkDirective (cs : List Char) : Except LogFilterError Unit :=
  match lastPart cs 0 .start (Text.trim cs) with
  | .ok .word => .ok ()
  | .ok .target => .ok ()
  | .ok (.level offset) =>
    match dropBytes offset cs with
    | some [] => .ok ()
    | some level => if isLevel level then .ok () else .error .level
    | none => .error .level
  | .ok _ => .error .directive
  | .error e => .error e

def check (cs : List Char) : Except LogFilterError Unit :=
  ((Text.splitWhere (· == ',') cs).filter fun part => ¬ part.isEmpty).forM checkDirective

def select (environment : Option String) (given : String) : Except ConfigError Unit :=
  let isUsable (s : String) : Bool := (check s.toList).isOk
  if environment.any isUsable then .ok ()
  else (check given.toList).mapError .logFilter

/-- A filter is in force once for all: where there is one, no other can be set up. -/
def install (installed : Bool) (environment : Option String) (given : String) :
    Except ConfigError Unit := do
  select environment given
  if installed then .error .loggingAlready

end FrameLink.LogFilter
