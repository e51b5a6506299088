import FrameLink.Text.Numeral
import FrameLink.Text.Pattern.Mode

namespace FrameLink.Text.Pattern

inductive Escape where
  | literal (c : Char) (asByte : Bool)
  | kind (others : Bool)
  | place (byWords : Bool)
deriving DecidableEq, Repr

def hexDigits (m : Mode) : (count n : Nat) → List Char → Option (Nat × List Char)
  | 0, n, cs => some (n, cs)
  | count + 1, n, cs =>
    match m.skip cs with
    | [] => none
    | c :: rest => (digit? 16 c).bind fun d => hexDigits m count (n * 16 + d) rest

def hexLiteral (m : Mode) (count : Nat) (cs : List Char) : Option (Escape × List Char) :=
  (hexDigits m count 0 cs).bind fun (n, rest) =>
    if n.isValidChar then some (.literal (Char.ofNat n) (count == 2), rest) else none

def controls : List (Char × Char) :=
  [('a', '\x07'), ('f', '\x0c'), ('n', '\n'), ('r', '\r'), ('t', '\t'), ('v', '\x0b')]

def escape (m : Mode) : List Char → Option (Escape × List Char)
  | [] => none
  | 'x' :: rest => hexLiteral m 2 rest
  | 'u' :: rest => hexLiteral m 4 rest
  | 'U' :: rest => hexLiteral m 8 rest
  | c :: rest =>
    if ['d', 's', 'w'].contains c then some (.kind false, rest)
    else if ['D', 'S', 'W'].contains c then some (.kind true, rest)
    else if ['A', 'z'].contains c then some (.place false, rest)
    else if ['b', 'B', '<', '>'].contains c then some (.place true, rest)
    else match controls.lookup c with
      | some control => some (.literal control false, rest)
      | none => if c.isAlphanum ∨ 0x7F < c.toNat then none else some (.literal c false, rest)

end FrameLink.Text.Pattern
