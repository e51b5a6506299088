import FrameLink.Document
import FrameLink.Text.Numeral
import FrameLink.Toml.Reader

namespace FrameLink.Toml

open Text (digit? readDigits readBounded)

def isDigit (radix : Nat) (c : Char) : Bool := (digit? radix c).isSome

def moreDigits (radix : Nat) : List Char → List Char × List Char
  | [] => ([], [])
  | '_' :: c :: rest =>
    if isDigit radix c then
      let (ds, rest) := moreDigits radix rest
      (c :: ds, rest)
    else ([], '_' :: c :: rest)
  | c :: rest =>
    if isDigit radix c then
      let (ds, rest) := moreDigits radix rest
      (c :: ds, rest)
    else ([], c :: rest)

def digits (radix : Nat) : Reader (List Char)
  | [] => none
  | c :: rest =>
    if isDigit radix c then
      let (ds, rest) := moreDigits radix rest
      some (c :: ds, rest)
    else none

def sign : List Char → Bool × List Char
  | '+' :: rest => (false, rest)
  | '-' :: rest => (true, rest)
  | cs => (false, cs)

def whole : Reader (Bool × List Char) := fun cs =>
  let (negative, cs) := sign cs
  match cs with
  | '0' :: rest => some ((negative, ['0']), rest)
  | cs => (digits 10 cs).map fun (ds, rest) => ((negative, ds), rest)

def maxInteger : Nat := 0x7FFFFFFFFFFFFFFF

def integerOf (radix : Nat) (negative : Bool) (ds : List Char) : Option Int :=
  if negative then (readBounded radix (maxInteger + 1) 0 ds).map fun n => -n
  else (readBounded radix maxInteger 0 ds).map fun n => n

def marked (radix : Nat) : Reader Int := fun cs => do
  let (ds, rest) ← digits radix cs
  return (← integerOf radix false ds, rest)

def integer : Reader Int
  | '0' :: 'x' :: rest => marked 16 rest
  | '0' :: 'o' :: rest => marked 8 rest
  | '0' :: 'b' :: rest => marked 2 rest
  | cs => do
    let ((negative, ds), rest) ← whole cs
    return (← integerOf 10 negative ds, rest)

def fraction : Reader (List Char)
  | '.' :: rest => digits 10 rest
  | _ => none

def significant (ds : List Char) : List Char := ds.dropWhile (· == '0')

/-- How many digits of an exponent count: where there are more, no text is long enough to make up
for the power of ten, whatever they are. -/
def exponentDigits : Nat := 19

def exponent : Reader Int
  | c :: rest => do
    if c = 'e' ∨ c = 'E' then
      let (negative, rest) := sign rest
      let (ds, rest) ← digits 10 rest
      let n ← readDigits 10 0 ((significant ds).take exponentDigits)
      return (if negative then -n else n, rest)
    else none
  | [] => none

/-- The number half way between the largest of double precision and the power of two above it: from
here on a number is rounded to infinity. -/
def overflow : Nat := 0x3FFFFFFFFFFFFF <<< 970

/-- Whether digits, read as an integer times a power of ten, are too large for double precision. The
number of places settles all but the close cases, and in those the digits in front of the point, as
the bound is an integer. -/
def overflows (ds : List Char) (power : Int) : Bool :=
  let ds := significant ds
  let places := ds.length + power
  if ds.isEmpty ∨ places < 300 then false
  else if 320 < places then true
  else
    let front := ds.take places.toNat
    (readDigits 10 0 front).any fun n =>
      overflow ≤ n * Nat.pow 10 (places.toNat - front.length)

/-- A number with a fraction or an exponent, or with both. A number too large is refused, unless it
is negative. -/
def fractional : Reader Unit := fun cs => do
  let ((negative, ds), rest) ← whole cs
  match fraction rest with
  | none =>
    let (power, rest) ← exponent rest
    if ¬ negative ∧ overflows ds power then none else some ((), rest)
  | some (part, rest) =>
    let (power, rest) := (exponent rest).getD (0, rest)
    if ¬ negative ∧ overflows (ds ++ part) (power - part.length) then none else some ((), rest)

def special : Reader Unit := fun cs =>
  let (_, cs) := sign cs
  (word "inf".toList cs).or (word "nan".toList cs)

def field (width least most : Nat) : Reader Nat := fun cs => do
  let ds := cs.take width
  if ds.length < width then none
  else
    let n ← readDigits 10 0 ds
    if least ≤ n ∧ n ≤ most then some (n, cs.drop width) else none

def isLeapYear (year : Nat) : Bool := year % 4 == 0 && (year % 100 != 0 || year % 400 == 0)

def daysIn (year month : Nat) : Nat :=
  if month = 2 then if isLeapYear year then 29 else 28
  else if month = 4 ∨ month = 6 ∨ month = 9 ∨ month = 11 then 30
  else 31

def date : Reader Unit := fun cs => do
  let (year, cs) ← field 4 0 9999 cs
  let (_, cs) ← word ['-'] cs
  let (month, cs) ← field 2 1 12 cs
  let (_, cs) ← word ['-'] cs
  let (_, cs) ← field 2 1 (daysIn year month) cs
  return ((), cs)

def time : Reader Unit := fun cs => do
  let (_, cs) ← field 2 0 23 cs
  let (_, cs) ← word [':'] cs
  let (_, cs) ← field 2 0 59 cs
  let (_, cs) ← word [':'] cs
  let (_, cs) ← field 2 0 60 cs
  match cs with
  | '.' :: rest =>
    if (rest.takeWhile (isDigit 10)).isEmpty then some ((), cs)
    else some ((), rest.dropWhile (isDigit 10))
  | _ => some ((), cs)

def zone : Reader Unit
  | 'Z' :: rest => some ((), rest)
  | 'z' :: rest => some ((), rest)
  | c :: rest => do
    if c = '+' ∨ c = '-' then
      let (_, rest) ← field 2 0 23 rest
      let (_, rest) ← word [':'] rest
      let (_, rest) ← field 2 0 59 rest
      return ((), rest)
    else none
  | [] => none

def timeOfDay : List Char → List Char
  | c :: rest =>
    if c = 'T' ∨ c = 't' ∨ c = ' ' then
      match time rest with
      | none => c :: rest
      | some (_, rest) => match zone rest with
        | none => rest
        | some (_, rest) => rest
    else c :: rest
  | [] => []

def stamp : Reader Unit := fun cs =>
  match date cs with
  | some (_, rest) => some ((), timeOfDay rest)
  | none => time cs

def number : Reader Document := fun cs =>
  match stamp cs with
  | some (_, rest) => some (.stamp, rest)
  | none =>
    match (fractional cs).or (special cs) with
    | some (_, rest) => some (.fractional, rest)
    | none => (integer cs).map fun (n, rest) => (.int n, rest)

end FrameLink.Toml
