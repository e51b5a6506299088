import FrameLink.Toml

namespace FrameLink.Toml

def needsEscape (c : Char) : Bool := ¬ isPlain c && c != '\n'

def hasRun (q : Char) (most : Nat) : (run : Nat) → List Char → Bool
  | _, [] => false
  | run, c :: cs =>
    if c = q then most ≤ run || hasRun q most (run + 1) cs else hasRun q most 0 cs

inductive QuoteForm where
  | basic
  | literal
  | longBasic
  | longLiteral
deriving DecidableEq, Repr

/-- The first form that holds the text without an escape; failing that a form that can escape. -/
def QuoteForm.choose (cs : List Char) : QuoteForm :=
  let controls := cs.any needsEscape
  let backslash := cs.contains '\\'
  let newline := cs.contains '\n'
  if ¬ controls ∧ ¬ backslash ∧ ¬ newline ∧ ¬ hasRun '\x22' 0 0 cs then basic
  else if ¬ controls ∧ ¬ newline ∧ ¬ hasRun '\x27' 0 0 cs then literal
  else if ¬ controls ∧ ¬ backslash ∧ ¬ hasRun '\x22' 2 0 cs then longBasic
  else if ¬ controls ∧ ¬ hasRun '\x27' 2 0 cs then longLiteral
  else if newline then longBasic
  else basic

def codeDigits (code : Nat) : List Char :=
  (Text.padLeft '0' 4 (Nat.toDigits 16 code)).map Char.toUpper

def escapeChar : Char → List Char
  | '\x08' => ['\\', 'b']
  | '\t' => ['\\', 't']
  | '\n' => ['\\', 'n']
  | '\x0c' => ['\\', 'f']
  | '\r' => ['\\', 'r']
  | '\x22' => ['\\', '\x22']
  | '\\' => ['\\', '\\']
  | c => if needsEscape c then '\\' :: 'u' :: codeDigits c.toNat else [c]

/-- Escapes all but line feeds, and of the double quotes only every third in a row. -/
def escapeLong : (run : Nat) → List Char → List Char
  | _, [] => []
  | run, c :: cs =>
    if c = '\x22' then
      if run < 2 then c :: escapeLong (run + 1) cs else escapeChar c ++ escapeLong 0 cs
    else if c = '\n' then c :: escapeLong 0 cs
    else escapeChar c ++ escapeLong 0 cs

def encloseLong (q : Char) (cs inner : List Char) : List Char :=
  let quotes := [q, q, q]
  quotes ++ (if cs.contains '\n' then ['\n'] else []) ++ inner ++ quotes

def QuoteForm.write (cs : List Char) : QuoteForm → List Char
  | basic => '\x22' :: (cs.flatMap escapeChar ++ ['\x22'])
  | literal => '\x27' :: (cs ++ ['\x27'])
  | longBasic => encloseLong '\x22' cs (escapeLong 0 cs)
  | longLiteral => encloseLong '\x27' cs cs

def writeText (cs : List Char) : List Char := (QuoteForm.choose cs).write cs

def writeName (name : String) : Option (List Char) :=
  if ¬ name.isEmpty ∧ name.toList.all isBareKeyChar then some name.toList else none

def writeValue : Document → Option (List Char)
  | .bool b => some (toString b).toList
  | .int n =>
    if -(maxInteger + 1 : Int) ≤ n ∧ n ≤ maxInteger then some (toString n).toList else none
  | .text s => some (writeText s.toList)
  | _ => none

def writePairs : List (String × Document) → Option (List Char)
  | [] => some []
  | (name, doc) :: rest => do
    return (← writeName name) ++ " = ".toList ++ (← writeValue doc) ++ '\n' :: (← writePairs rest)

def writeSection : String × Document → Option (List Char)
  | (name, .table fields) => do
    return '[' :: (← writeName name) ++ "]\n".toList ++ (← writePairs fields)
  | _ => none

def writeSections : List (String × Document) → Option (List Char)
  | [] => some []
  | [s] => writeSection s
  | s :: rest => do return (← writeSection s) ++ '\n' :: (← writeSections rest)

def write : Document → Option (List Char)
  | .table sections => writeSections sections
  | _ => none

def format : Format where
  write doc := (write doc).map String.ofList
  read s := read s.toList

end FrameLink.Toml
