namespace FrameLink.Text

def digitValue (c : Char) : Option Nat :=
  if '0' ≤ c ∧ c ≤ '9' then some (c.toNat - '0'.toNat)
  else if 'a' ≤ c ∧ c ≤ 'z' then some (c.toNat - 'a'.toNat + 10)
  else if 'A' ≤ c ∧ c ≤ 'Z' then some (c.toNat - 'A'.toNat + 10)
  else none

def digit? (radix : Nat) (c : Char) : Option Nat :=
  (digitValue c).filter (· < radix)

def readDigits (radix : Nat) : Nat → List Char → Option Nat
  | n, [] => some n
  | n, c :: cs => (digit? radix c).bind fun d => readDigits radix (n * radix + d) cs

def readBounded (radix limit : Nat) : Nat → List Char → Option Nat
  | n, [] => some n
  | n, c :: cs =>
    match digit? radix c with
    | none => none
    | some d => if n * radix + d ≤ limit then readBounded radix limit (n * radix + d) cs else none

/-- Reads a numeral of at least one digit, with an optional plus sign, no greater than `limit`. -/
def readNumeral (radix limit : Nat) (cs : List Char) : Option Nat :=
  let digits := match cs with
    | '+' :: rest => rest
    | _ => cs
  if digits.isEmpty then none else readBounded radix limit 0 digits

theorem le_readDigits {radix n m : Nat} {cs : List Char} (hr : 0 < radix)
    (h : readDigits radix n cs = some m) : n ≤ m := by
  induction cs generalizing n with
  | nil => simp only [readDigits, Option.some.injEq] at h; omega
  | cons c cs ih =>
    simp only [readDigits, Option.bind_eq_some_iff] at h
    obtain ⟨d, -, h⟩ := h
    exact Nat.le_trans (Nat.le_trans (Nat.le_mul_of_pos_right n hr) (Nat.le_add_right _ d)) (ih h)

theorem readBounded_eq {radix limit n : Nat} {cs : List Char} (hr : 0 < radix) (hn : n ≤ limit) :
    readBounded radix limit n cs = (readDigits radix n cs).filter (· ≤ limit) := by
  induction cs generalizing n with
  | nil => simp [readBounded, readDigits, Option.filter, hn]
  | cons c cs ih =>
    simp only [readBounded, readDigits]
    cases digit? radix c with
    | none => rfl
    | some d =>
      by_cases h : n * radix + d ≤ limit
      · simp only [h, if_true, Option.bind_some]; exact ih h
      · simp only [h, if_false, Option.bind_some]
        cases hm : readDigits radix (n * radix + d) cs with
        | none => rfl
        | some m =>
          have := le_readDigits hr hm
          have : ¬ m ≤ limit := by omega
          simp [Option.filter, this]

def unsigned : List Char → List Char
  | '+' :: rest => rest
  | '-' :: rest => rest
  | cs => cs

def isExponent : List Char → Bool
  | [] => true
  | c :: rest =>
    let digits := unsigned rest
    (c == 'e' || c == 'E') && ¬ digits.isEmpty && digits.all Char.isDigit

/-- Whether a text is a decimal with an optional sign, point and exponent, or a word for what no
digits can say. -/
def isDecimal (cs : List Char) : Bool :=
  let cs := unsigned cs
  let (fraction, rest) := match cs.dropWhile Char.isDigit with
    | '.' :: rest => (rest.takeWhile Char.isDigit, rest.dropWhile Char.isDigit)
    | rest => ([], rest)
  ["inf", "infinity", "nan"].contains (String.ofList (cs.map Char.toLower)) ||
    (¬ (cs.takeWhile Char.isDigit ++ fraction).isEmpty && isExponent rest)

def padLeft (fill : Char) (width : Nat) (cs : List Char) : List Char :=
  List.replicate (width - cs.length) fill ++ cs

def decimal (width n : Nat) : String :=
  String.ofList (padLeft '0' width (Nat.toDigits 10 n))

def hex (width n : Nat) : String :=
  String.ofList (padLeft '0' width (Nat.toDigits 16 n))

def hexMarked (width n : Nat) : String :=
  "0x" ++ hex width n

end FrameLink.Text
