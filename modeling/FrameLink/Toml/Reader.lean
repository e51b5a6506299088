namespace FrameLink.Toml

abbrev Reader (α : Type) := List Char → Option (α × List Char)

/-- One round of a collection: what it adds, and whether it was the last round. -/
structure Round (α : Type) where
  added : List α
  last : Bool

def collectWithin {α : Type} (round : Reader (Round α)) (bound : List Char) :
    Reader (List α) := fun cs =>
  match round cs with
  | none => none
  | some (⟨added, true⟩, rest) => some (added, rest)
  | some (⟨added, false⟩, rest) =>
    match bound with
    | [] => none
    | _ :: bound => (collectWithin round bound rest).map fun (more, rest) => (added ++ more, rest)

/-- Collects what the rounds add up to the last one. Every round but the last takes a character. -/
def collect {α : Type} (round : Reader (Round α)) : Reader (List α) := fun cs =>
  collectWithin round cs cs

def word : List Char → Reader Unit
  | [], cs => some ((), cs)
  | c :: w, d :: cs => if c = d then word w cs else none
  | _ :: _, [] => none

def isBlank (c : Char) : Bool := c == ' ' || c == '\t'

def skipBlanks (cs : List Char) : List Char := cs.dropWhile isBlank

def newline? : List Char → Option (List Char)
  | '\n' :: rest => some rest
  | '\r' :: '\n' :: rest => some rest
  | _ => none

def isPlain (c : Char) : Bool := c == '\t' || (0x20 ≤ c.toNat && c.toNat != 0x7F)

def skipComment : List Char → List Char
  | '#' :: rest => rest.dropWhile isPlain
  | cs => cs

def lineEnd? (cs : List Char) : Option (List Char) :=
  match skipComment (skipBlanks cs) with
  | [] => some []
  | cs => newline? cs

def skipGapsWithin (bound cs : List Char) : List Char :=
  let cs := skipBlanks cs
  match newline? (skipComment cs), bound with
  | some rest, _ :: bound => skipGapsWithin bound rest
  | _, _ => cs

def skipGaps (cs : List Char) : List Char := skipGapsWithin cs cs

end FrameLink.Toml
