import WikiCasing.Storage.Path
import WikiCasing.Text.Utf8

/-!
# File trees

A file tree says what is at each location: a file with its bytes, a directory, or nothing. The
root is always a directory. Every operation here works on one location and says why it fails;
`Tree.locate` finds the location of a path, and needs the directories on the way to exist.
Names, and the paths that are followed, have a greatest length.
-/

namespace WikiCasing

/-- What is at a location. -/
inductive Entry where
  | file (bytes : Bytes)
  | directory
deriving DecidableEq, Repr

/-- Why an operation on files fails. -/
inductive FileError where
  | notFound
  /-- The directory above is to be replaced. -/
  | busy
  | alreadyExists
  | notADirectory
  | isADirectory
  | nameTooLong
  /-- A name holds the character that ends names on the disk. -/
  | nullInName
deriving DecidableEq, Repr

namespace FileError

/-- The number of an error; a name that no file can have has none. -/
def number? : FileError → Option Nat
  | notFound => some 2
  | busy => some 16
  | alreadyExists => some 17
  | notADirectory => some 20
  | isADirectory => some 21
  | nameTooLong => some 36
  | nullInName => none

/-- The words for an error. -/
def message : FileError → Text
  | notFound => "No such file or directory".toList
  | busy => "Device or resource busy".toList
  | alreadyExists => "File exists".toList
  | notADirectory => "Not a directory".toList
  | isADirectory => "Is a directory".toList
  | nameTooLong => "File name too long".toList
  | nullInName => "embedded null byte".toList

end FileError

/-- The most bytes of a name. -/
def maxNameBytes : Nat := 255

/-- The most bytes of a path that is followed. -/
def maxPathBytes : Nat := 4095

/-- A name has no more bytes than a name can have. -/
def nameFits (name : Text) : Bool := (Utf8.encode name).length ≤ maxNameBytes

/-- The location is the root, or its last name is not too long. -/
def Location.fits (l : Location) : Bool := (l.getLast?.map nameFits).getD true

/-- Why a path cannot be followed, whatever the tree, if so. -/
def Path.refusal? (p : Path) : Option FileError :=
  if p.toText.contains '\x00' then some .nullInName
  else if maxPathBytes < (Utf8.encode p.toText).length then some .nameTooLong
  else none

/-- A file tree, as a list of locations and what is there. -/
structure Tree where
  entries : List (Location × Entry) := []
deriving Repr

namespace Tree

/-- What is at a location. -/
def get? (t : Tree) (l : Location) : Option Entry :=
  if l = [] then some .directory else t.entries.lookup l

/-- The tree with nothing at a location. -/
def erase (t : Tree) (l : Location) : Tree := ⟨t.entries.filter (·.1 != l)⟩

/-- The tree with something at a location, in place of what was there. -/
def put (t : Tree) (l : Location) (e : Entry) : Tree := ⟨(l, e) :: (t.erase l).entries⟩

/-- A directory is at the location. -/
def isDirectory (t : Tree) (l : Location) : Bool := t.get? l = some .directory

/-- The tree with something at the end of some names that lead on from a location, and
directories on the way where there was nothing. -/
def plantFrom (t : Tree) (l : Location) (e : Entry) : List Text → Tree
  | [] => t
  | [name] => t.put (l ++ [name]) e
  | name :: rest =>
    let next := l ++ [name]
    plantFrom (if t.get? next = none then t.put next .directory else t) next e rest

/-- The tree with something at a location and directories above it where there was nothing. -/
def plant (t : Tree) (l : Location) (e : Entry) : Tree := t.plantFrom [] e l

/-! ## Operations at a location -/

/-- The bytes of a file. -/
def read (t : Tree) (l : Location) : Except FileError Bytes :=
  match t.get? l with
  | some (.file bytes) => .ok bytes
  | some .directory => .error .isADirectory
  | none => .error .notFound

/-- The tree with a file written, whether or not there was one. -/
def write (t : Tree) (l : Location) (bytes : Bytes) : Except FileError Tree :=
  match t.get? l with
  | some .directory => .error .isADirectory
  | _ => if l.fits then .ok (t.put l (.file bytes)) else .error .nameTooLong

/-- The tree with bytes added at the end of a file. -/
def append (t : Tree) (l : Location) (bytes : Bytes) : Except FileError Tree :=
  match t.get? l with
  | some (.file old) => t.write l (old ++ bytes)
  | _ => t.write l bytes

/-- The tree without a file. -/
def remove (t : Tree) (l : Location) : Except FileError Tree :=
  match t.get? l with
  | some (.file _) => .ok (t.erase l)
  | some .directory => .error .isADirectory
  | none => .error .notFound

/-- The tree with a file moved over another location, which must hold no directory. -/
def rename (t : Tree) (source target : Location) : Except FileError Tree :=
  match t.read source with
  | .error e => .error e
  | .ok bytes =>
    match t.get? target with
    | some .directory => .error .isADirectory
    | _ => .ok ((t.erase source).put target (.file bytes))

/-- The tree with a new directory. -/
def makeDirectory (t : Tree) (l : Location) : Except FileError Tree :=
  match t.get? l with
  | some _ => .error .alreadyExists
  | none => .ok (t.put l .directory)

/-! ## Operations at a path -/

/-- The directory reached from a directory by following names, each of which must lead to a
directory. -/
def walk (t : Tree) (l : Location) : List Text → Except FileError Location
  | [] => .ok l
  | name :: rest =>
    if name = twoDots then walk t l.parent rest
    else if !nameFits name then .error .nameTooLong
    else
      match t.get? (l ++ [name]) with
      | some .directory => walk t (l ++ [name]) rest
      | some (.file _) => .error .notADirectory
      | none => .error .notFound

/-- The location of a path. The directories on the way must exist; what the last name leads to
need not. -/
def locate (t : Tree) (workingDirectory : Location) (p : Path) : Except FileError Location :=
  match p.refusal?, t.walk (p.origin workingDirectory) p.parts.dropLast with
  | some e, _ => .error e
  | none, .error e => .error e
  | none, .ok l =>
    match p.parts.getLast? with
    | none => .ok l
    | some name =>
      if name = twoDots then .ok l.parent
      else if nameFits name then .ok (l ++ [name])
      else .error .nameTooLong

/-- What a path leads to. Nothing is where the way to it does not exist; only a name that is too
long is a failure. -/
def look (t : Tree) (workingDirectory : Location) (p : Path) : Except FileError (Option Entry) :=
  match t.locate workingDirectory p with
  | .ok l => .ok (t.get? l)
  | .error .nameTooLong => .error .nameTooLong
  | .error _ => .ok none

/-- The location of a path, handed to an operation. -/
def onPath {α : Type} (t : Tree) (workingDirectory : Location) (p : Path)
    (operation : Location → Except FileError α) : Except FileError α :=
  match t.locate workingDirectory p with
  | .ok l => operation l
  | .error e => .error e

/-- The tree with the directory of a path that has `depth` names, and the directories above it,
made where they are missing. What was made before a failure stays. -/
def makeDirectories (t : Tree) (workingDirectory : Location) (p : Path) :
    (depth : Nat) → Tree × Except FileError Unit
  | 0 => (t, .ok ())
  | depth + 1 =>
    let make (t : Tree) : Tree × Except FileError Unit :=
      match t.onPath workingDirectory p t.makeDirectory with
      | .ok t => (t, .ok ())
      | .error e =>
        match t.look workingDirectory p with
        | .ok (some .directory) => (t, .ok ())
        | _ => (t, .error e)
    match t.onPath workingDirectory p t.makeDirectory with
    | .error .notFound =>
      match makeDirectories t workingDirectory p.parent depth with
      | (t, .ok ()) => make t
      | (t, .error e) => (t, .error e)
    | _ => make t

/-! ## Listings -/

/-- The entries below a location, each by its names from there, in order of these names. -/
def below (t : Tree) (l : Location) : List (Location × Entry) :=
  let inside := t.entries.filterMap fun (m, e) =>
    if l.isPrefixOf m && l.length < m.length then some (m.drop l.length, e) else none
  inside.mergeSort fun a b => !decide (b.1 < a.1)

end Tree

end WikiCasing
