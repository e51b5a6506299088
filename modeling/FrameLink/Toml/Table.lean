import FrameLink.Document

namespace FrameLink.Toml

inductive Origin where
  | header
  | implied
  | dotted
deriving DecidableEq, Repr

/-- A table can be opened once by a header and never by a header and by dotted keys both, so each
remembers how it came to be. -/
inductive Node where
  | leaf (doc : Document)
  | table (origin : Origin) (fields : List (String × Node))
  /-- Tables that go by one header each, under one name, the last one first. -/
  | series (tables : List (List (String × Node)))

abbrev Fields := List (String × Node)

mutual

def Node.toDocument : Node → Document
  | .leaf doc => doc
  | .table _ fields => .table (fieldDocuments fields)
  | .series tables => .list (tableDocuments tables).reverse

def fieldDocuments : List (String × Node) → List (String × Document)
  | [] => []
  | (name, node) :: rest => (name, node.toDocument) :: fieldDocuments rest

def tableDocuments : List (List (String × Node)) → List Document
  | [] => []
  | fields :: rest => .table (fieldDocuments fields) :: tableDocuments rest

end

namespace Fields

def replace (name : String) (node : Node) (fields : Fields) : Fields :=
  fields.map fun field => if field.1 == name then (name, node) else field

def remove (name : String) (fields : Fields) : Fields := fields.filter fun field => field.1 != name

/-- Changes the table that a path leads to. Missing tables on the way are made; a value on the way
is an obstacle, and so is, for a dotted key, a table with a header of its own. -/
def within (dotted : Bool) (change : Origin → Fields → Option Fields) :
    List String → Origin → Fields → Option Fields
  | [], origin, fields => change origin fields
  | name :: path, _, fields =>
    match fields.lookup name with
    | none => do
      let origin := if dotted then Origin.dotted else .implied
      let inner ← within dotted change path origin []
      return fields ++ [(name, .table origin inner)]
    | some (.leaf _) => none
    | some (.table origin inner) =>
      if dotted ∧ origin = .header then none
      else do
        let inner ← within dotted change path origin inner
        return replace name (.table origin inner) fields
    | some (.series []) => none
    | some (.series (inner :: before)) => do
      let inner ← within dotted change path .header inner
      return replace name (.series (inner :: before)) fields

def insert (path : List String) (name : String) (doc : Document) (fields : Fields) :
    Option Fields :=
  within true (fun origin fields =>
    if (origin == .dotted) == path.isEmpty then none
    else if (fields.lookup name).isSome then none
    else some (fields ++ [(name, .leaf doc)])) path .header fields

/-- Adds a table under a header. It may complete a table that was only implied. -/
def openTable (path : List String) (name : String) (fill : Fields → Option Fields)
    (fields : Fields) : Option Fields :=
  within false (fun _ fields =>
    match fields.lookup name with
    | none => do
      let inner ← fill []
      return fields ++ [(name, .table .header inner)]
    | some (.table .implied inner) => do
      let inner ← fill inner
      return remove name fields ++ [(name, .table .header inner)]
    | some _ => none) path .header fields

def openItem (path : List String) (name : String) (fill : Fields → Option Fields)
    (fields : Fields) : Option Fields :=
  within false (fun _ fields =>
    match fields.lookup name with
    | none => do
      let inner ← fill []
      return fields ++ [(name, .series [inner])]
    | some (.series tables) => do
      let inner ← fill []
      return replace name (.series (inner :: tables)) fields
    | some _ => none) path .header fields

structure Pair where
  path : List String
  name : String
  value : Document

def insertAll : List Pair → Fields → Option Fields
  | [], fields => some fields
  | p :: rest, fields => do insertAll rest (← insert p.path p.name p.value fields)

end Fields
end FrameLink.Toml
