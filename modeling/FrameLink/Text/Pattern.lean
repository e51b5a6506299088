import FrameLink.Text.Pattern.CharSet
import FrameLink.Text.Pattern.Group

namespace FrameLink.Text

/-- Why a text is no pattern for which there is an automaton. -/
inductive PatternError where
  | malformed
  | wordBoundary
deriving DecidableEq, Repr

def PatternError.message : PatternError → String
  | malformed => "error building NFA"
  | wordBoundary => "unsupported regex feature for DFAs: cannot build DFAs for regexes with Unicode " ++
      "word boundaries; switch to ASCII word boundaries, or heuristically enable Unicode word " ++
      "boundaries or use a different regex engine"

namespace Pattern

/-- What has been read of a branch: flags, or something that can be repeated, nested so deeply. -/
inductive Piece where
  | flags
  | unit (depth : Nat)
deriving DecidableEq, Repr

def Piece.depth : Piece → Nat
  | flags => 0
  | unit depth => depth

structure Memory where
  mode : Mode := {}
  names : List (List Char) := []
  needsWords : Bool := false
deriving DecidableEq, Repr

def Memory.enter (s : Memory) (m : Mode) : Option (List Char) → Option Memory
  | none => some { s with mode := m }
  | some name =>
    if s.names.contains name then none
    else some { s with mode := m, names := name :: s.names }

/-- Reads one character, or what its backslash makes of the characters behind it. -/
def single (s : Memory) : List Char → Option (Memory × List Char)
  | [] => none
  | '\x7b' :: _ => none
  | '^' :: rest => some (s, rest)
  | '$' :: rest => some (s, rest)
  | '.' :: rest => if s.mode.byCharacter then some (s, rest) else none
  | '\\' :: rest =>
    match escape s.mode rest with
    | none => none
    | some (.literal c asByte, rest) => if s.mode.admits c asByte then some (s, rest) else none
    | some (.kind others, rest) => if s.mode.admitsKind others then some (s, rest) else none
    | some (.place byWords, rest) =>
      some ({ s with needsWords := s.needsWords || (byWords && s.mode.byCharacter) }, rest)
  | c :: rest => if s.mode.admits c false then some (s, rest) else none

def behindLazy : List Char → List Char
  | '?' :: rest => rest
  | rest => rest

def withBranch (pieces : List Piece) (branches : List Nat) : List Nat :=
  joined (pieces.map Piece.depth) :: branches

/-- Reads a group up to its end, in at most as many steps as `bound` is long: how deeply it is
nested, what is remembered, and the text from its end on. Flags hold up to the end of the group they
stand in. -/
def readWithin : (bound : List Char) → Memory → (branches : List Nat) → List Piece → List Char →
    Option (Nat × Memory × List Char)
  | [], _, _, _, _ => none
  | _ :: steps, s, branches, pieces, cs =>
    match s.mode.skip cs with
    | [] => some (joined (withBranch pieces branches), s, [])
    | ')' :: rest => some (joined (withBranch pieces branches), s, ')' :: rest)
    | '|' :: rest => readWithin steps s (withBranch pieces branches) [] rest
    | '(' :: rest =>
      match opening s.mode rest with
      | none => none
      | some (.flags m, rest) =>
        readWithin steps { s with mode := m } branches (.flags :: pieces) rest
      | some (.group m name, rest) => do
        let inside ← s.enter m name
        let (depth, inside, rest) ← readWithin steps inside [] [] rest
        match rest with
        | ')' :: rest =>
          let pieces := .unit (depth + 1) :: pieces
          readWithin steps { inside with mode := s.mode } branches pieces rest
        | _ => none
    | '[' :: rest => do
      let (depth, rest) ← charSet s.mode rest
      readWithin steps s branches (.unit depth :: pieces) rest
    | c :: rest =>
      if ['?', '*', '+'].contains c then
        match pieces with
        | .unit depth :: pieces =>
          readWithin steps s branches (.unit (depth + 1) :: pieces) (behindLazy rest)
        | _ => none
      else do
        let (s, rest) ← single s (c :: rest)
        readWithin steps s branches (.unit 0 :: pieces) rest

def maxNesting : Nat := 250

/-- Checks a pattern. Every step takes a character, and one more step finds the end. -/
def check (cs : List Char) : Except PatternError Unit :=
  match readWithin (' ' :: cs) {} [] [] cs with
  | some (depth, s, []) =>
    if maxNesting < depth then .error .malformed
    else if s.needsWords then .error .wordBoundary
    else .ok ()
  | _ => .error .malformed

end Pattern
end FrameLink.Text
