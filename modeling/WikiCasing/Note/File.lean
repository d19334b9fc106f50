import WikiCasing.Markup.Recase
import WikiCasing.Note.FrontMatter
import WikiCasing.Storage.Replace

/-!
# Recasing a note in its file

The body of a note is recased and its front matter kept. A file is written only if its body
changes.
-/

namespace WikiCasing

/-- Why a note cannot be recased. -/
inductive NoteError where
  | file (error : FileError)
  | undecodable
deriving DecidableEq, Repr

/-- A note with its body recased, and the number of links replaced in it. -/
def Note.recase (s : Settings) (note : Note) : Note × Nat :=
  let body := recaseCounted s note.body
  (⟨note.header, body.text⟩, body.count)

/-- The bytes of a note with its body recased and the number of links replaced; `none` if the
body stays as it is. -/
def Note.revise? (s : Settings) (content : Text) : Option (Bytes × Nat) :=
  let note := Note.split content
  let (revised, count) := note.recase s
  if revised.body = note.body then none else some (Utf8.encode revised.content, count)

/-- The note at a location recased, and the number of links replaced in it. A dry run counts
and writes nothing. -/
def Tree.recaseNote (s : Settings) (dryRun : Bool) (t : Tree) (l : Location) :
    Tree × Except NoteError Nat :=
  match t.read l with
  | .error e => (t, .error (.file e))
  | .ok bytes =>
    match Utf8.decode bytes with
    | none => (t, .error .undecodable)
    | some content =>
      match Note.revise? s content with
      | none => (t, .ok 0)
      | some (revised, count) =>
        if dryRun then (t, .ok count)
        else
          match t.replace l revised with
          | (t, .ok ()) => (t, .ok count)
          | (t, .error e) => (t, .error (.file e))

end WikiCasing
