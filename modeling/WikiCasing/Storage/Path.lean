import WikiCasing.Text.Basic

/-!
# Paths

A path is a spelling: whether it starts at the root or at the working directory, and the names on
the way. A location is a place in a file tree: the names on the way from the root, none of them
a dot or two dots. Empty names and single dots are dropped when a path is read; two dots stay,
since what they mean depends on the tree.
-/

namespace WikiCasing

/-- A place in a file tree: the names on the way from its root. -/
abbrev Location := List Text

/-- The directory that a location is in; that of the root is the root. -/
def Location.parent (l : Location) : Location := l.dropLast

/-- The name of the directory above. -/
def twoDots : Text := ['.', '.']

/-- A way to a place: how many slashes it begins with, at most two, and the names it passes. -/
structure Path where
  slashes : Nat
  parts : List Text
deriving DecidableEq, Repr

namespace Path

/-- The slashes that the root of a spelling counts for: two if it has exactly two, else one. -/
def rootSlashes (t : Text) : Nat :=
  match (t.takeWhile (· = '/')).length with
  | 0 => 0
  | 2 => 2
  | _ => 1

/-- The path that a text spells. -/
def ofText (t : Text) : Path :=
  ⟨rootSlashes t, (t.cutAt '/').filter fun name => !(name.isEmpty || name = ['.'])⟩

/-- The path starts at the root. -/
def isAbsolute (p : Path) : Bool := p.slashes != 0

/-- The text of a path; a path without names from the working directory is a dot. -/
def toText (p : Path) : Text :=
  if p.slashes = 0 && p.parts.isEmpty then ['.']
  else List.replicate p.slashes '/' ++ Text.joinWith '/' p.parts

/-- The path from the root to a location. -/
def ofLocation (l : Location) : Path := ⟨1, l⟩

/-- The path without its last name. -/
def parent (p : Path) : Path := { p with parts := p.parts.dropLast }

/-- The last name; empty if there is none. -/
def name (p : Path) : Text := p.parts.getLast?.getD []

/-- The path one name further. -/
def child (p : Path) (name : Text) : Path := { p with parts := p.parts ++ [name] }

/-- The path with another last name. -/
def withName (p : Path) (name : Text) : Path := p.parent.child name

/-- The location reached by following names one after the other, two dots going up. -/
def follow (l : Location) : List Text → Location
  | [] => l
  | name :: rest => follow (if name = twoDots then l.parent else l ++ [name]) rest

/-- The location where a path starts. -/
def origin (workingDirectory : Location) (p : Path) : Location :=
  if p.isAbsolute then [] else workingDirectory

/-- The location that a path leads to, by its names alone. -/
def resolve (workingDirectory : Location) (p : Path) : Location :=
  follow (p.origin workingDirectory) p.parts

/-- The locations that a path passes, where it starts and where it ends included. -/
def stops (workingDirectory : Location) (p : Path) : List Location :=
  (List.range (p.parts.length + 1)).map fun n =>
    follow (p.origin workingDirectory) (p.parts.take n)

end Path

end WikiCasing
