import FrameLink.Toml.Number
import FrameLink.Toml.Quoted
import FrameLink.Toml.Table

namespace FrameLink.Toml

def maxDepth : Nat := 79

def isBareKeyChar (c : Char) : Bool :=
  c.isAlphanum || c == '-' || c == '_'

def keyPart : Reader String
  | '\x22' :: rest => (basicBody rest).map fun (cs, rest) => (String.ofList cs, rest)
  | '\x27' :: rest => (literalBody rest).map fun (cs, rest) => (String.ofList cs, rest)
  | cs =>
    let name := cs.takeWhile isBareKeyChar
    if name.isEmpty then none else some (String.ofList name, cs.dropWhile isBareKeyChar)

def keyRound : Reader (Round String) := fun cs => do
  let (name, rest) ← keyPart (skipBlanks cs)
  match skipBlanks rest with
  | '.' :: rest => return (⟨[name], false⟩, rest)
  | rest => return (⟨[name], true⟩, rest)

def key : Reader (List String × String) := fun cs => do
  let (parts, rest) ← collect keyRound cs
  if maxDepth < parts.length then none
  else return ((parts.dropLast, ← parts.getLast?), rest)

def pair (value : Reader Document) : Reader Fields.Pair := fun cs => do
  let ((path, name), rest) ← key cs
  let (_, rest) ← word ['='] rest
  let (doc, rest) ← value (skipBlanks rest)
  return (⟨path, name, doc⟩, rest)

def itemRound (value : Reader Document) : Reader (Round Document) := fun cs =>
  match skipGaps cs with
  | ']' :: rest => some (⟨[], true⟩, rest)
  | cs => do
    let (doc, rest) ← value cs
    match skipGaps rest with
    | ']' :: rest => return (⟨[doc], true⟩, rest)
    | ',' :: rest => return (⟨[doc], false⟩, rest)
    | _ => none

def fieldRound (value : Reader Document) : Reader (Round Fields.Pair) := fun cs => do
  let (p, rest) ← pair value cs
  match skipBlanks rest with
  | '}' :: rest => return (⟨[p], true⟩, rest)
  | ',' :: rest => return (⟨[p], false⟩, rest)
  | _ => none

def inlineFields (value : Reader Document) : Reader (List Fields.Pair) := fun cs =>
  match skipBlanks cs with
  | '}' :: rest => some ([], rest)
  | _ => collect (fieldRound value) cs

def value : (depth : Nat) → Reader Document
  | depth, cs =>
    match cs with
    | '\x22' :: _ => (quoted cs).map fun (s, rest) => (.text (String.ofList s), rest)
    | '\x27' :: _ => (quoted cs).map fun (s, rest) => (.text (String.ofList s), rest)
    | '[' :: rest =>
      match depth with
      | 0 => none
      | depth + 1 => (collect (itemRound (value depth)) rest).map fun (docs, rest) =>
        (.list docs, rest)
    | '{' :: rest =>
      match depth with
      | 0 => none
      | depth + 1 => do
        let (pairs, rest) ← inlineFields (value depth) rest
        let fields ← Fields.insertAll pairs []
        return (.table (fieldDocuments fields), rest)
    | 't' :: _ => (word "true".toList cs).map fun (_, rest) => (.bool true, rest)
    | 'f' :: _ => (word "false".toList cs).map fun (_, rest) => (.bool false, rest)
    | cs => number cs

end FrameLink.Toml
