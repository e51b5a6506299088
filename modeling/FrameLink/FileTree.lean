import FrameLink.Bytes
import FrameLink.Text.Blank

namespace FrameLink

inductive Path.Origin where
  | home
  | root
deriving DecidableEq, Repr

structure Path where
  origin : Path.Origin
  names : List String
  forDirectory : Bool
  length : Nat
  parentLength : Nat
deriving DecidableEq, Repr

namespace Path

def isIdle (name : String) : Bool := name == "" || name == "."

def byteLength (names : List String) : Nat := ("/".intercalate names).utf8ByteSize

def dropLastName (names : List String) : List String :=
  ((names.reverse.dropWhile isIdle).tail.dropWhile isIdle).reverse

def ofNames (origin : Path.Origin) (lead : Nat) (cs : List Char) : Path :=
  let names := (Text.splitWhere (· == '/') cs).map String.ofList
  { origin := origin
    names := names.filter fun name => ¬ isIdle name
    forDirectory := names.getLast?.all isIdle
    length := lead + byteLength names
    parentLength := lead + byteLength (dropLastName names) }

/-- Reads a path. A slash in front of it means the root, and a tilde home. There is no empty
path. -/
def ofString (s : String) : Option Path :=
  match s.toList with
  | [] => none
  | '/' :: rest => some (ofNames .root 1 rest)
  | ['~'] => some (ofNames .home 1 [])
  | '~' :: '/' :: rest => some (ofNames .home 2 rest)
  | cs => some (ofNames .home 0 cs)

def parent (p : Path) : Path :=
  { p with
    names := p.names.dropLast
    forDirectory := true
    length := p.parentLength
    parentLength := 0 }

def maxLength : Nat := 4095

def isUsable (p : Path) : Bool :=
  p.length ≤ maxLength && ¬ p.names.any fun name => name.toList.contains '\x00'

end Path

/-- Where something stands. Above home the names are `..`. Places at different depths are told apart
by their depths. -/
structure Place where
  origin : Path.Origin
  depth : Nat
  names : List String
  depth_eq : depth = names.length
deriving DecidableEq, Repr

namespace Place

def ofNames (origin : Path.Origin) (names : List String) : Place :=
  ⟨origin, names.length, names, rfl⟩

def isAbove (p : Place) : Bool := p.names.all (· == "..")

def below (here : Place) (name : String) : Place :=
  ⟨here.origin, here.depth + 1, name :: here.names, congrArg (· + 1) here.depth_eq⟩

def step (here : Place) (name : String) : Place :=
  if name = ".." then
    match here.origin, here.names with
    | .root, names => ofNames .root names.tail
    | .home, [] => here.below ".."
    | .home, last :: up => if last = ".." then here.below ".." else ofNames .home up
  else here.below name

end Place

inductive FileEntry where
  | directory
  | file (content : Bytes)
  /-- Takes whatever is written, and is always read as empty. -/
  | void
deriving DecidableEq, Repr

/-- Paths start at the root, or at the home directory, which is also the working directory. -/
structure FileTree where
  entries : List (Place × FileEntry) := []
deriving DecidableEq, Repr, Inhabited

namespace FileTree

def rootNames : List String :=
  ["bin", "boot", "dev", "etc", "home", "lib", "media", "mnt", "opt", "proc", "root", "run", "sbin",
    "srv", "sys", "tmp", "usr", "var"]

def machine : FileTree :=
  { entries := (.ofNames .root ["null", "dev"], .void) ::
      rootNames.map fun name => (.ofNames .root [name], .directory) }

def get? (t : FileTree) (here : Place) : Option FileEntry :=
  if here.isAbove then some .directory else t.entries.lookup here

def put (t : FileTree) (here : Place) (e : FileEntry) : FileTree :=
  { t with entries := (here, e) :: t.entries.filter fun p => p.1 != here }

def maxName : Nat := 255

def isName (name : String) : Bool := name.utf8ByteSize ≤ maxName

def follow (t : FileTree) : Place → List String → Option Place
  | here, [] => some here
  | here, name :: rest =>
    match t.get? here with
    | some .directory => if isName name then t.follow (here.step name) rest else none
    | _ => none

def place? (t : FileTree) (p : Path) : Option Place :=
  if p.isUsable then t.follow (.ofNames p.origin []) p.names else none

def filePlace? (t : FileTree) (p : Path) : Option Place :=
  if p.forDirectory then none else t.place? p

def read (t : FileTree) (p : Path) : Option Bytes :=
  match (t.filePlace? p).bind t.get? with
  | some (.file content) => some content
  | some .void => some []
  | _ => none

def has (t : FileTree) (p : Path) : Bool :=
  match (t.place? p).bind t.get? with
  | some .directory => true
  | some _ => ¬ p.forDirectory
  | none => false

/-- Makes the directories that are missing on the way. Where something else is in the way, those
made before stay. -/
def makeFrom (t : FileTree) : Place → List String → Bool × FileTree
  | _, [] => (true, t)
  | here, name :: rest =>
    if isName name then
      let there := here.step name
      match t.get? there with
      | some .directory => t.makeFrom there rest
      | some _ => (false, t)
      | none => (t.put there .directory).makeFrom there rest
    else (false, t)

def makeDirectories (t : FileTree) (p : Path) : Bool × FileTree :=
  if p.isUsable then t.makeFrom (.ofNames p.origin []) p.names else (false, t)

def write (t : FileTree) (p : Path) (content : Bytes) : Bool × FileTree :=
  match t.filePlace? p with
  | none => (false, t)
  | some here =>
    match t.get? here with
    | some .directory => (false, t)
    | some .void => (true, t)
    | _ => (true, t.put here (.file content))

def writeDeep (t : FileTree) (p : Path) (content : Bytes) : Bool × FileTree :=
  match t.makeDirectories p.parent with
  | (false, t) => (false, t)
  | (true, t) => t.write p content

def shown : Place × FileEntry → Option String
  | (here, e) =>
    if here.origin = .root ∨ here.names.contains ".." then none
    else
      let path := "/".intercalate here.names.reverse
      match e with
      | .directory => some (path ++ "/")
      | _ => some path

def listing (t : FileTree) : List String := (t.entries.filterMap shown).mergeSort fun a b => a ≤ b

theorem lookup_filter_ne {here there : Place} (h : there ≠ here)
    (entries : List (Place × FileEntry)) :
    (entries.filter fun p => p.1 != here).lookup there = entries.lookup there := by
  induction entries with
  | nil => rfl
  | cons p rest ih =>
    obtain ⟨q, e⟩ := p
    by_cases hq : q = here
    · subst hq
      have hne : (there == q) = false := beq_false_of_ne h
      simp [List.lookup_cons, hne, ih]
    · simp [List.lookup_cons, hq, ih]

theorem get?_put_ne {here there : Place} (h : there ≠ here) (t : FileTree) (e : FileEntry) :
    (t.put here e).get? there = t.get? there := by
  have hne : (there == here) = false := beq_false_of_ne h
  simp [get?, put, List.lookup_cons, hne, lookup_filter_ne h]

theorem get?_put {here : Place} (h : here.isAbove = false) (t : FileTree) (e : FileEntry) :
    (t.put here e).get? here = some e := by
  simp [get?, put, h]

theorem follow_put {t : FileTree} {here there : Place} (e : FileEntry)
    (hfree : t.get? here ≠ some .directory) {start : Place} {names : List String}
    (h : t.follow start names = some there) : (t.put here e).follow start names = some there := by
  induction names generalizing start with
  | nil => simpa [follow] using h
  | cons name rest ih =>
    simp only [follow] at h ⊢
    split at h
    · next hdir =>
      have hne : start ≠ here := fun he => hfree (he ▸ hdir)
      rw [get?_put_ne hne, hdir]
      split at h
      · next hname => simp only [hname, if_true]; exact ih h
      · simp at h
    · simp at h

theorem read_write {t t' : FileTree} {p : Path} {content : Bytes}
    (hvoid : (t.filePlace? p).bind t.get? ≠ some .void)
    (h : t.write p content = (true, t')) : t'.read p = some content := by
  unfold write at h
  split at h
  · simp at h
  · next here hplace =>
    split at h
    · simp at h
    · next hv => exact absurd (by simpa [hplace] using hv) hvoid
    · next hfree _ =>
      obtain ⟨-, rfl⟩ := Prod.mk.injEq .. ▸ h
      have habove : here.isAbove = false := by
        cases ha : here.isAbove with
        | false => rfl
        | true => exact absurd (by simp [get?, ha]) hfree
      have hkeep : (t.put here (.file content)).filePlace? p = some here := by
        unfold filePlace? place? at hplace ⊢
        split at hplace
        · simp at hplace
        · next hp =>
          split at hplace
          · next hu => simp only [hp, hu, if_true]; exact follow_put _ hfree hplace
          · simp at hplace
      simp [read, hkeep, get?_put habove]

end FileTree
end FrameLink
