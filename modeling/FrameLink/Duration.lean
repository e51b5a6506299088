import FrameLink.Text.Numeral

namespace FrameLink

structure Duration where
  nanos : Nat
deriving DecidableEq, Repr, Inhabited

namespace Duration

def ofMillis (ms : Nat) : Duration := ⟨ms * 1000000⟩

instance : LE Duration := ⟨fun a b => a.nanos ≤ b.nanos⟩
instance : LT Duration := ⟨fun a b => a.nanos < b.nanos⟩
instance (a b : Duration) : Decidable (a ≤ b) := inferInstanceAs (Decidable (a.nanos ≤ b.nanos))
instance (a b : Duration) : Decidable (a < b) := inferInstanceAs (Decidable (a.nanos < b.nanos))

def decimalText (whole part places : Nat) : String :=
  let digits := (Text.padLeft '0' places (Nat.toDigits 10 part)).reverse.dropWhile (· == '0')
  let fraction := digits.reverse
  if fraction.isEmpty then toString whole else toString whole ++ "." ++ String.ofList fraction

/-- Seconds from one second on, else milliseconds, microseconds or nanoseconds, whichever is the
largest unit that fits once. -/
def text (d : Duration) : String :=
  let n := d.nanos
  if 1000000000 ≤ n then decimalText (n / 1000000000) (n % 1000000000) 9 ++ "s"
  else if 1000000 ≤ n then decimalText (n / 1000000) (n % 1000000) 6 ++ "ms"
  else if 1000 ≤ n then decimalText (n / 1000) (n % 1000) 3 ++ "µs"
  else toString n ++ "ns"

def ceilMillis (d : Duration) : Nat := (d.nanos + 999999) / 1000000

def timerMillis : Nat := 30 * 365 * 24 * 60 * 60 * 1000

/-- What becomes of `work` milliseconds of work under a limit: work that fits is done, work that is
ready at once always fits, and what no timer can tell apart fits too. -/
def bounded (limit : Duration) (work : Nat) : Except Duration Nat :=
  if Nat.min work timerMillis ≤ limit.ceilMillis then .ok work else .error limit

def exceededMessage (limit : Duration) : String :=
  "Test timed out after " ++ limit.text

end Duration
end FrameLink
