import WikiCasing.Storage.Path

/-!
# Where settings are kept

Settings are in one file of a home directory, which the environment may choose.
-/

namespace WikiCasing

/-- What the program finds around it: the directory it runs in, the user's home directory, the
home directories of other users by name, and a home for settings if one is chosen. -/
structure Environment where
  workingDirectory : Location
  userHome : Text
  accounts : List (Text × Text) := []
  settingsHome? : Option Text := none

/-- A home directory cannot be told: the user is not known, or the home that is known begins with
a tilde itself. -/
inductive HomeError where
  | undetermined
deriving DecidableEq, Repr

/-- The words for a home directory that cannot be told. -/
def HomeError.message : HomeError → Text
  | .undetermined => "Could not determine home directory.".toList

/-- A text without the slashes it ends with. -/
def dropFinalSlashes (t : Text) : Text := (t.reverse.dropWhile (· = '/')).reverse

/-- The path of a home directory. -/
def homePath (home : Text) : Except HomeError Path :=
  if home.head? = some '~' then .error .undetermined
  else .ok (Path.ofText (dropFinalSlashes home ++ ['/']))

namespace Environment

/-- The home directory that a first name with a tilde stands for. -/
def homeOf? (env : Environment) (name : Text) : Option Text :=
  match name with
  | ['~'] => some env.userHome
  | '~' :: user => env.accounts.lookup user
  | _ => none

/-- A path with the home directory that its first name stands for written out. -/
def expandUser (env : Environment) (p : Path) : Except HomeError Path :=
  match p.slashes, p.parts with
  | 0, ('~' :: user) :: rest =>
    match env.homeOf? ('~' :: user) with
    | none => .error .undetermined
    | some home =>
      match homePath home with
      | .ok p => .ok { p with parts := p.parts ++ rest }
      | .error e => .error e
  | _, _ => .ok p

/-- The directory that holds the settings: the chosen one, an empty choice counting as none, or a
hidden directory in the user's home. -/
def settingsHome (env : Environment) : Except HomeError Path :=
  match env.settingsHome? with
  | some (c :: cs) =>
    match env.expandUser (Path.ofText (c :: cs)) with
    | .ok p => .ok (Path.ofLocation (p.resolve env.workingDirectory))
    | .error e => .error e
  | _ =>
    match homePath env.userHome with
    | .ok p => .ok (p.child ".linkcase".toList)
    | .error e => .error e

/-- The file that holds the settings. -/
def settingsPath (env : Environment) : Except HomeError Path :=
  match env.settingsHome with
  | .ok home => .ok (home.child "data.json".toList)
  | .error e => .error e

end Environment

end WikiCasing
