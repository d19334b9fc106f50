import WikiCasing.Storage.Tree
import WikiCasing.Text.Quoted

/-!
# Replacing a file

A file is replaced by writing a temporary file beside it and moving that over it, so that the
file is at no time half written. If the move fails, the temporary file stays.
-/

namespace WikiCasing

/-- An operation that failed, with the path it was about and the path it should have led to. -/
structure FileFailure where
  error : FileError
  path : Path
  target : Option Path := none
deriving DecidableEq, Repr

/-- The words for a failed operation: the number and the words of the error, and the paths. An
error without a number stands for itself. -/
def FileFailure.message (f : FileFailure) : Text :=
  let about := match f.target with
    | none => f.path.toText.quoted
    | some target => f.path.toText.quoted ++ " -> ".toList ++ target.toText.quoted
  match f.error.number? with
  | some n =>
    "[Errno ".toList ++ Text.ofNat n ++ "] ".toList ++ f.error.message ++ ": ".toList ++ about
  | none => f.error.message

/-- The name of the temporary file beside a file. -/
def temporaryName (name : Text) : Text := '.' :: (name ++ ".lctmp".toList)

/-- The path of the temporary file beside a file. -/
def Path.temporary (p : Path) : Path := p.withName (temporaryName p.name)

/-- The location of the temporary file beside a file. -/
def Location.temporary (l : Location) : Location :=
  l.parent ++ [temporaryName (l.getLast?.getD [])]

namespace Tree

/-- A file at a location replaced. -/
def replace (t : Tree) (l : Location) (bytes : Bytes) : Tree × Except FileError Unit :=
  match t.write l.temporary bytes with
  | .error e => (t, .error e)
  | .ok t =>
    match t.rename l.temporary l with
    | .error e => (t, .error e)
    | .ok t => (t, .ok ())

/-- A file at a path replaced. What two dots lead to is never replaced. -/
def replaceAt (t : Tree) (workingDirectory : Location) (p : Path) (bytes : Bytes) :
    Tree × Except FileFailure Unit :=
  match t.onPath workingDirectory p.temporary fun l => t.write l bytes with
  | .error e => (t, .error ⟨e, p.temporary, none⟩)
  | .ok t =>
    match t.locate workingDirectory p.temporary, t.locate workingDirectory p with
    | .ok source, .ok target =>
      match if p.name = twoDots then .error .busy else t.rename source target with
      | .ok t => (t, .ok ())
      | .error e => (t, .error ⟨e, p.temporary, some p⟩)
    | .error e, _ => (t, .error ⟨e, p.temporary, some p⟩)
    | _, .error e => (t, .error ⟨e, p.temporary, some p⟩)

end Tree

end WikiCasing
