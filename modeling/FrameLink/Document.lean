namespace FrameLink

inductive Document where
  | null
  | bool (b : Bool)
  | int (n : Int)
  /-- A number with a fraction or an exponent. No setting is one, so its value is not kept. -/
  | fractional
  | text (s : String)
  | stamp
  | list (items : List Document)
  | table (fields : List (String × Document))
deriving Repr, Inhabited

/-- How documents are written as text, if they can be, and read from it. -/
structure Format where
  write : Document → Option String
  read : String → Option Document

/-- Where a document comes from decides what it may put in the place of a record or a choice. -/
inductive Dialect where
  | exchange
  | file
deriving DecidableEq, Repr

namespace Document

abbrev Reader (α : Type) := Dialect → Document → Option α

def nat (limit : Nat) : Reader Nat
  | _, int n => if 0 ≤ n ∧ n ≤ limit then some n.toNat else none
  | _, _ => none

def uint8 : Reader UInt8 := fun d doc => (nat 0xFF d doc).map UInt8.ofNat

def uint16 : Reader UInt16 := fun d doc => (nat 0xFFFF d doc).map UInt16.ofNat

def uint32 : Reader UInt32 := fun d doc => (nat 0xFFFFFFFF d doc).map UInt32.ofNat

def uint64 : Reader UInt64 := fun d doc => (nat 0xFFFFFFFFFFFFFFFF d doc).map UInt64.ofNat

def string : Reader String
  | _, text s => some s
  | _, _ => none

def optional {α : Type} (read : Reader α) : Reader (Option α)
  | _, null => some none
  | d, doc => (read d doc).map some

def isBare : Dialect → Document → Bool
  | .exchange, null => true
  | .file, list [] => true
  | .file, table [] => true
  | _, _ => false

def choice : Reader String
  | _, text s => some s
  | d, table [(name, doc)] => if isBare d doc then some name else none
  | _, _ => none

/-- The fields of a record by name. A list gives the fields in their order, possibly not all of
them; only a file may list more. A date in a file is a record without any of the fields. -/
def record (names : List String) : Reader (List (String × Document))
  | _, table fields => some fields
  | .exchange, list items => if items.length ≤ names.length then some (names.zip items) else none
  | .file, list items => some (names.zip items)
  | .file, stamp => some []
  | _, _ => none

def field {α : Type} (d : Dialect) (fields : List (String × Document)) (name : String)
    (read : Reader α) (absent : Option α) : Option α :=
  match fields.lookup name with
  | some doc => read d doc
  | none => absent

def required {α : Type} (d : Dialect) (fields : List (String × Document)) (name : String)
    (read : Reader α) : Option α :=
  field d fields name read none

def defaulted {α : Type} (d : Dialect) (fields : List (String × Document)) (name : String)
    (read : Reader α) (absent : α) : Option α :=
  field d fields name read (some absent)

def present (name : String) : Option Document → List (String × Document)
  | some doc => [(name, doc)]
  | none => []

end Document
end FrameLink
