import FrameLink.Text.Blank

namespace FrameLink.Text.Pattern

structure Mode where
  foldsCase : Bool := false
  /-- Characters are matched, and not bytes. -/
  byCharacter : Bool := true
  spaced : Bool := false
deriving DecidableEq, Repr

def skipIdle : (inComment : Bool) → List Char → List Char
  | _, [] => []
  | true, c :: cs => skipIdle (c != '\n') cs
  | false, c :: cs =>
    if isBlank c then skipIdle false cs
    else if c = '#' then skipIdle true cs
    else c :: cs

namespace Mode

def skip (m : Mode) (cs : List Char) : List Char := if m.spaced then skipIdle false cs else cs

/-- The character that a hyphen is judged by: behind blanks and one number sign, if there is any. -/
def peek (m : Mode) (cs : List Char) : Option Char :=
  if m.spaced then
    let seen := match cs.dropWhile isBlank with
      | '#' :: rest => rest.dropWhile isBlank
      | rest => rest
    (seen ++ cs).head?
  else cs.head?

def flags : List Char := ['i', 'm', 's', 'U', 'u', 'R', 'x']

def set (m : Mode) (on : Bool) : Char → Mode
  | 'i' => { m with foldsCase := on }
  | 'u' => { m with byCharacter := on }
  | 'x' => { m with spaced := on }
  | _ => m

/-- Whether a character can be matched. Cases are known of bytes only, and a byte by its number has
to be a character. -/
def admits (m : Mode) (c : Char) (asByte : Bool) : Bool :=
  if m.byCharacter then ¬ m.foldsCase else ¬ asByte || c.toNat ≤ 0x7F

def admitsMember (m : Mode) (c : Char) : Bool :=
  if m.byCharacter then ¬ m.foldsCase else c.toNat ≤ 0x7F

def admitsNamed (m : Mode) (others : Bool) : Bool :=
  if m.byCharacter then ¬ m.foldsCase else ¬ others

def admitsKind (m : Mode) (others : Bool) : Bool := ¬ m.byCharacter && ¬ others

end Mode
end FrameLink.Text.Pattern
