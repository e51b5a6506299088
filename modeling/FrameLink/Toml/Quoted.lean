import FrameLink.Text.Numeral
import FrameLink.Toml.Reader

namespace FrameLink.Toml

def scalar? (code : Nat) : Option Char :=
  if code.isValidChar then some (Char.ofNat code) else none

def unicode? (digits : List Char) : Option Char := (Text.readDigits 16 0 digits).bind scalar?

def escaped? : Char → Option Char
  | 'b' => some '\x08'
  | 't' => some '\t'
  | 'n' => some '\n'
  | 'f' => some '\x0c'
  | 'r' => some '\r'
  | '\x22' => some '\x22'
  | '\\' => some '\\'
  | _ => none

def push (c : Char) : Option (List Char × List Char) → Option (List Char × List Char)
  | some (cs, rest) => some (c :: cs, rest)
  | none => none

def push? : Option Char → Option (List Char × List Char) → Option (List Char × List Char)
  | some c, read => push c read
  | none, _ => none

def basicBody : List Char → Option (List Char × List Char)
  | [] => none
  | '\x22' :: rest => some ([], rest)
  | '\\' :: 'u' :: a :: b :: c :: d :: rest => push? (unicode? [a, b, c, d]) (basicBody rest)
  | '\\' :: 'U' :: a :: b :: c :: d :: e :: f :: g :: h :: rest =>
    push? (unicode? [a, b, c, d, e, f, g, h]) (basicBody rest)
  | '\\' :: c :: rest => push? (escaped? c) (basicBody rest)
  | c :: rest => if isPlain c ∧ c ≠ '\\' then push c (basicBody rest) else none

def literalBody : List Char → Option (List Char × List Char)
  | [] => none
  | '\x27' :: rest => some ([], rest)
  | c :: rest => if isPlain c then push c (literalBody rest) else none

/-- Up to two more quotes that stand in front of the closing ones belong to the text. -/
def extraQuotes (q : Char) : List Char → List Char × List Char
  | a :: b :: rest =>
    if a = q ∧ b = q then ([q, q], rest) else if a = q then ([q], b :: rest) else ([], a :: b :: rest)
  | [a] => if a = q then ([q], []) else ([], [a])
  | [] => ([], [])

def endsLine (cs : List Char) : Bool := (newline? (skipBlanks cs)).isSome

/-- Reads up to three double quotes. A backslash at the end of a line skips to the next character
that is neither blank nor a line break; `gap` tells whether that is going on. -/
def longBasicBody : (gap : Bool) → List Char → Option (List Char × List Char)
  | _, [] => none
  | true, ' ' :: rest => longBasicBody true rest
  | true, '\t' :: rest => longBasicBody true rest
  | true, '\n' :: rest => longBasicBody true rest
  | true, '\r' :: '\n' :: rest => longBasicBody true rest
  | _, '\x22' :: '\x22' :: '\x22' :: rest => some (extraQuotes '\x22' rest)
  | _, '\x22' :: rest => push '\x22' (longBasicBody false rest)
  | _, '\\' :: 'u' :: a :: b :: c :: d :: rest =>
    push? (unicode? [a, b, c, d]) (longBasicBody false rest)
  | _, '\\' :: 'U' :: a :: b :: c :: d :: e :: f :: g :: h :: rest =>
    push? (unicode? [a, b, c, d, e, f, g, h]) (longBasicBody false rest)
  | _, '\\' :: c :: rest =>
    if endsLine (c :: rest) then longBasicBody true (c :: rest)
    else push? (escaped? c) (longBasicBody false rest)
  | _, '\r' :: '\n' :: rest => push '\n' (longBasicBody false rest)
  | _, c :: rest =>
    if (isPlain c ∧ c ≠ '\\') ∨ c = '\n' then push c (longBasicBody false rest) else none

def longLiteralBody : List Char → Option (List Char × List Char)
  | [] => none
  | '\x27' :: '\x27' :: '\x27' :: rest => some (extraQuotes '\x27' rest)
  | '\r' :: '\n' :: rest => push '\n' (longLiteralBody rest)
  | c :: rest => if isPlain c ∨ c = '\n' then push c (longLiteralBody rest) else none

def skipNewline (cs : List Char) : List Char := (newline? cs).getD cs

def shortQuoted : Reader (List Char)
  | '\x22' :: rest => basicBody rest
  | '\x27' :: rest => literalBody rest
  | _ => none

def quoted : Reader (List Char)
  | '\x22' :: '\x22' :: '\x22' :: rest => longBasicBody false (skipNewline rest)
  | '\x27' :: '\x27' :: '\x27' :: rest => longLiteralBody (skipNewline rest)
  | cs => shortQuoted cs

end FrameLink.Toml
