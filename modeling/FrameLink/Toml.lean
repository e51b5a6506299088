import FrameLink.Toml.Value

namespace FrameLink.Toml

inductive Line where
  | blank
  | pair (p : Fields.Pair)
  | header (path : List String) (name : String)
  | item (path : List String) (name : String)

def content : Reader Line
  | [] => some (.blank, [])
  | '#' :: rest => some (.blank, '#' :: rest)
  | '\n' :: rest => some (.blank, '\n' :: rest)
  | '\r' :: rest => some (.blank, '\r' :: rest)
  | '[' :: '[' :: rest => do
    let ((path, name), rest) ← key rest
    let (_, rest) ← word [']', ']'] rest
    return (.item path name, rest)
  | '[' :: rest => do
    let ((path, name), rest) ← key rest
    let (_, rest) ← word [']'] rest
    return (.header path name, rest)
  | cs => do
    let (p, rest) ← pair (value maxDepth) cs
    return (.pair p, rest)

def lineRound : Reader (Round Line)
  | [] => some (⟨[], true⟩, [])
  | cs => do
    let (line, rest) ← content (skipBlanks cs)
    let rest ← lineEnd? rest
    return (⟨[line], false⟩, rest)

def leadingPairs : List Line → List Fields.Pair × List Line
  | .blank :: rest => leadingPairs rest
  | .pair p :: rest => let (ps, rest) := leadingPairs rest; (p :: ps, rest)
  | rest => ([], rest)

theorem length_leadingPairs_le (lines : List Line) :
    (leadingPairs lines).2.length ≤ lines.length := by
  induction lines with
  | nil => simp [leadingPairs]
  | cons l rest ih => cases l <;> simp [leadingPairs] <;> omega

def addTables : List Line → Fields → Option Fields
  | [], fields => some fields
  | .header path name :: rest, fields => do
    let fields ← Fields.openTable path name (Fields.insertAll (leadingPairs rest).1) fields
    addTables (leadingPairs rest).2 fields
  | .item path name :: rest, fields => do
    let fields ← Fields.openItem path name (Fields.insertAll (leadingPairs rest).1) fields
    addTables (leadingPairs rest).2 fields
  | .blank :: rest, fields => addTables rest fields
  | .pair _ :: rest, fields => addTables rest fields
termination_by lines => lines.length
decreasing_by
  all_goals
    have := length_leadingPairs_le rest
    simp only [List.length_cons]
    omega

def ofLines (lines : List Line) : Option Document := do
  let (pairs, rest) := leadingPairs lines
  let fields ← Fields.insertAll pairs []
  return .table (fieldDocuments (← addTables rest fields))

def skipMark : List Char → List Char
  | '\ufeff' :: rest => rest
  | cs => cs

def read (cs : List Char) : Option Document := do
  let (lines, _) ← collect lineRound (skipMark cs)
  ofLines lines

end FrameLink.Toml
