import FrameLink.Text.Pattern.Escape

namespace FrameLink.Text.Pattern

def joined : List Nat → Nat
  | [] => 0
  | [depth] => depth
  | depth :: rest => rest.foldl Nat.max depth + 1

def combined : (left : Option Nat) → Nat → Nat
  | none, depth => depth
  | some left, depth => Nat.max left depth + 1

def setNames : List String :=
  ["alnum", "alpha", "ascii", "blank", "cntrl", "digit", "graph", "lower", "print", "punct",
    "space", "upper", "word", "xdigit"]

def namedSet? : List Char → Option (Bool × List Char)
  | ':' :: rest =>
    let (others, rest) := match rest with
      | '^' :: rest => (true, rest)
      | rest => (false, rest)
    match splitOnce ':' rest with
    | some (name, ']' :: rest) =>
      if setNames.contains (String.ofList name) then some (others, rest) else none
    | _ => none
  | _ => none

def behindCaret (m : Mode) (cs : List Char) : Option (List Char) :=
  match m.skip cs with
  | '^' :: rest => if m.byCharacter then some rest else none
  | rest => some rest

def operator? : List Char → Option (List Char)
  | '&' :: '&' :: rest => some rest
  | '-' :: '-' :: rest => some rest
  | '~' :: '~' :: rest => some rest
  | _ => none

def member (m : Mode) : List Char → Option (Escape × List Char)
  | [] => none
  | '\\' :: rest => escape m rest
  | c :: rest => some (.literal c false, rest)

def Mode.admitsPart (m : Mode) : Escape → Bool
  | .literal c _ => m.admitsMember c
  | .kind others => m.admitsKind others
  | .place _ => false

/-- The text behind a member or a range. A hyphen makes a range unless a bracket or another hyphen
follows it. -/
def behindRange (m : Mode) (cs : List Char) : Option (List Char) := do
  let (first, rest) ← member m cs
  match m.skip rest with
  | [] => none
  | '-' :: after =>
    if [some ']', some '-'].contains (m.peek after) then
      if m.admitsPart first then some ('-' :: after) else none
    else do
      let (last, rest) ← member m (m.skip after)
      match first, last with
      | .literal a _, .literal b _ =>
        if a ≤ b ∧ m.admitsMember a ∧ m.admitsMember b then some rest else none
      | _, _ => none
  | rest => if m.admitsPart first then some rest else none

/-- Reads a set up to its end, in at most as many steps as `bound` is long. In the leading place
hyphens are members, and so is a bracket in the first place. -/
def setWithin : (bound : List Char) → Mode → (leading : Bool) → (left : Option Nat) →
    (parts : List Nat) → List Char → Option (Nat × List Char)
  | [], _, _, _, _, _ => none
  | _ :: steps, m, leading, left, parts, cs =>
    match m.skip cs with
    | [] => none
    | c :: rest =>
      if leading && (c == '-' || (c == ']' && parts.isEmpty)) then
        if m.admitsMember c then setWithin steps m (c == '-') left (0 :: parts) rest else none
      else if c = ']' then some (combined left (joined parts) + 1, rest)
      else if c = '[' then
        match namedSet? rest with
        | some (others, rest) =>
          if m.admitsNamed others then setWithin steps m false left (0 :: parts) rest else none
        | none => do
          let rest ← behindCaret m rest
          let (depth, rest) ← setWithin steps m true none [] rest
          setWithin steps m false left (depth :: parts) rest
      else
        match operator? (c :: rest) with
        | some rest => setWithin steps m false (some (combined left (joined parts))) [] rest
        | none => do
          let rest ← behindRange m (c :: rest)
          setWithin steps m false left (0 :: parts) rest

def charSet (m : Mode) (cs : List Char) : Option (Nat × List Char) := do
  let rest ← behindCaret m cs
  setWithin rest m true none [] rest

end FrameLink.Text.Pattern
