import WikiCasing.CommandLine.Arguments
import WikiCasing.Text.Integer

/-!
# Requests

What a command line asks for: to recase one document, to recase a vault, to show or change the
settings, or to open the prompt. A command line that asks for none of these is refused.
-/

namespace WikiCasing.CommandLine

/-- How to recase one document. -/
structure RecaseRequest where
  /-- The file, or a hyphen for standard input. -/
  file : Text := ['-']
  caret? : Option Int := none
  inPlace : Bool := false
  asJson : Bool := false
  checkOnly : Bool := false
deriving DecidableEq, Repr

/-- What a command line asks for. -/
inductive Request where
  | recase (how : RecaseRequest)
  | vault (path : Text) (dryRun : Bool)
  | showSettings (asJson : Bool)
  | setSettings (firstWordOnly? : Option Bool)
  | openPrompt (file? : Option Text)
deriving DecidableEq, Repr

/-- The files and directories that a request names; a hyphen stands for standard input. -/
def Request.files : Request → List Text
  | .recase how => [how.file]
  | .vault path _ => [path]
  | .showSettings _ | .setSettings _ => []
  | .openPrompt file? => file?.toList

/-- The only argument, or a standard one if there is none; `none` if there are several. -/
def onlyArgument? (standard : Text) : List Text → Option Text
  | [] => some standard
  | [a] => some a
  | _ => none

/-- The options of a request to recase one document. -/
def recaseOptions : List Known :=
  [{ name := "--caret".toList, takesValue := true },
    { name := "--in-place".toList, short? := some 'i' },
    { name := "--json".toList },
    { name := "--check".toList }]

/-- A request to recase one document. -/
def readRecase? (words : List Text) : Option Request := do
  let w ← readWords? recaseOptions none words
  let file ← onlyArgument? ['-'] w.arguments
  let how : RecaseRequest :=
    { file := file, inPlace := w.has "--in-place".toList, asJson := w.has "--json".toList,
      checkOnly := w.has "--check".toList }
  match w.last? "--caret".toList with
  | none => return .recase how
  | some value =>
    let caret ← value.toInt?
    return .recase { how with caret? := some caret }

/-- A request to recase a vault. Whether every change is told on the way makes no difference to
what is done. -/
def readVault? (words : List Text) : Option Request := do
  let w ← readWords? [{ name := "--dry-run".toList }, { name := "--debug".toList }] none words
  let path ← onlyArgument? ['.'] w.arguments
  return .vault path (w.has "--dry-run".toList)

/-- The option that limits lowering to the first word. -/
def limitOption : Text := "--lowercase-first-word-only".toList

/-- The option that lifts the limit. -/
def liftOption : Text := "--no-lowercase-first-word-only".toList

/-- A request about the settings. -/
def readSettings? : List Text → Option Request
  | [] => none
  | command :: words =>
    if command = "show".toList then do
      let w ← readWords? [{ name := "--json".toList }] none words
      if w.arguments.isEmpty then return .showSettings (w.has "--json".toList) else none
    else if command = "set".toList then do
      let w ← readWords? [{ name := limitOption }, { name := liftOption }] none words
      if w.arguments.isEmpty then
        return .setSettings (w.options.getLast?.map fun g => g.name = limitOption)
      else none
    else none

/-- A request to open the prompt. -/
def readPrompt? (words : List Text) : Option Request := do
  let known : Known := { name := "--file".toList, short? := some 'f', takesValue := true }
  let w ← readWords? [known] none words
  if w.arguments.isEmpty then return .openPrompt (w.last? "--file".toList) else none

/-- The words behind the options of the program itself, of which there are none. -/
def skipOwnOptions? : List Text → Option (List Text)
  | [] => none
  | w :: ws =>
    if w = ['-', '-'] then some ws
    else if isOption w then none
    else some (w :: ws)

/-- What a command line asks for. -/
def read? (words : List Text) : Option Request := do
  match ← skipOwnOptions? words with
  | [] => none
  | command :: rest =>
    if command = "rewrite".toList then readRecase? rest
    else if command = "vault".toList then readVault? rest
    else if command = "settings".toList then
      match ← skipOwnOptions? rest with
      | words => readSettings? words
    else if command = "tui".toList then readPrompt? rest
    else none

end WikiCasing.CommandLine
