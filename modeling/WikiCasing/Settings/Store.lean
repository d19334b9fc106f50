import WikiCasing.Log.Notice
import WikiCasing.Settings.Home
import WikiCasing.Storage.Replace

/-!
# The settings file

Settings are loaded from and saved to one file. A file that does not exist gives the standard
settings, and so does one that cannot be read as settings, with a notice; only one that is nested
too deep is a failure. Saving makes the directories that are missing on the way and replaces the
file as a whole.
-/

namespace WikiCasing

/-- Why settings cannot be loaded or saved. -/
inductive StoreError where
  | home (error : HomeError)
  | file (failure : FileFailure)
  /-- The path has no last name. -/
  | unnamed (path : Path)
  /-- What the file holds is nested too deep. -/
  | tooDeep (container : Json.Container)
deriving DecidableEq, Repr

/-- The words for settings that cannot be loaded or saved. -/
def StoreError.message : StoreError → Text
  | home e => e.message
  | file f => f.message
  | unnamed p => "PosixPath(".toList ++ p.toText.quoted ++ ") has an empty name".toList
  | tooDeep container => (Settings.Problem.tooDeep container).message

namespace Settings

/-- Settings as they are stored. -/
def toText (s : Settings) : Text :=
  "\x7b\n  \"lowercaseFirstWordOnly\": ".toList ++
    (if s.firstWordOnly then "true" else "false").toList ++ "\n\x7d".toList

/-- The settings at a path, and what there is to report about them. -/
def loadAt (t : Tree) (env : Environment) (p : Path) :
    Except StoreError (Settings × List Notice) :=
  match t.look env.workingDirectory p with
  | .error e => .error (.file ⟨e, p, none⟩)
  | .ok none => .ok (.standard, [])
  | .ok (some .directory) => .error (.file ⟨.isADirectory, p, none⟩)
  | .ok (some (.file bytes)) =>
    match ofBytes bytes with
    | .ok s => .ok (s, [])
    | .error (.tooDeep container) => .error (.tooDeep container)
    | .error problem => .ok (.standard, [.unreadableSettings problem])

/-- Settings written to a path. -/
def saveAt (t : Tree) (env : Environment) (p : Path) (s : Settings) :
    Tree × Except StoreError Unit :=
  match t.makeDirectories env.workingDirectory p.parent p.parent.parts.length with
  | (t, .error e) => (t, .error (.file ⟨e, p.parent, none⟩))
  | (t, .ok ()) =>
    if p.name.isEmpty then (t, .error (.unnamed p))
    else
      match t.replaceAt env.workingDirectory p (Utf8.encode s.toText) with
      | (t, .ok ()) => (t, .ok ())
      | (t, .error f) => (t, .error (.file f))

end Settings

/-- A place for settings: a path of its own, or the file that the environment gives. -/
structure Store where
  path? : Option Path := none

namespace Store

/-- The path of a store, looked up at each use. -/
def path (store : Store) (env : Environment) : Except HomeError Path :=
  match store.path? with
  | some p => .ok p
  | none => env.settingsPath

/-- The settings in a store. -/
def load (store : Store) (t : Tree) (env : Environment) :
    Except StoreError (Settings × List Notice) :=
  match store.path env with
  | .error e => .error (.home e)
  | .ok p => Settings.loadAt t env p

/-- Settings put into a store. -/
def save (store : Store) (t : Tree) (env : Environment) (s : Settings) :
    Tree × Except StoreError Unit :=
  match store.path env with
  | .error e => (t, .error (.home e))
  | .ok p => Settings.saveAt t env p s

/-- The setting changed in a store, which is reported once it is saved. -/
def setFirstWordOnly (store : Store) (t : Tree) (env : Environment) (enabled : Bool) :
    Tree × Except StoreError (List Notice) :=
  match store.save t env ⟨enabled⟩ with
  | (t, .ok ()) => (t, .ok [.firstWordOnlySet enabled])
  | (t, .error e) => (t, .error e)

end Store

end WikiCasing
