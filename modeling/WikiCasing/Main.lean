import WikiCasing.Program

/-!
# The command line

The outer layer. It takes from the disk what a request can touch, hands this part of the file
tree to `Program.perform`, and writes back what has changed. At the prompt it does so after every
line. It decides nothing itself.
-/

namespace WikiCasing.Disk

/-- What the disk holds at a location, put into a tree. -/
def load (t : Tree) (l : Location) : IO Tree := do
  if l.isEmpty then return t
  let place := (← IO.currentDir) / String.ofList (Path.ofLocation l).toText
  if ← place.isDir then return t.put l .directory
  if ← place.pathExists then return t.put l (.file (← IO.FS.readBinFile place).toList)
  return t

/-- The directories and the notes below a location, put into a tree. -/
partial def loadNotes (t : Tree) (l : Location) : IO Tree := do
  let place := (← IO.currentDir) / String.ofList (Path.ofLocation l).toText
  unless ← place.isDir do return t
  let mut t := t
  for entry in ← place.readDir do
    let next := l ++ [entry.fileName.toList]
    let isLink := (← entry.path.symlinkMetadata).type matches .symlink
    if (← entry.path.isDir) && !isLink then t ← loadNotes (t.put next .directory) next
    else if isMarkdownName entry.fileName.toList then t ← load t next
  return t

/-- What the disk holds at the paths that a run can touch. A path that cannot be told is left to
the run to complain about. -/
def tree (env : Environment) (r : CommandLine.Request) : IO Tree := do
  let files := (r.files.map Path.ofText).filterMap fun p => (env.expandUser p).toOption
  let paths := env.settingsPath.toOption.toList ++ files
  let mut t : Tree := {}
  for p in paths do
    for l in p.stops env.workingDirectory do
      t ← load t l
    t ← load t (p.temporary.resolve env.workingDirectory)
  if let .vault .. := r then
    for p in files do
      t ← loadNotes t (p.resolve env.workingDirectory)
  return t

/-- A file written: first beside its place, then moved over it. -/
def write (l : Location) (bytes : Bytes) : IO Unit := do
  let here ← IO.currentDir
  let place (l : Location) := here / String.ofList (Path.ofLocation l).toText
  IO.FS.writeBinFile (place l.temporary) ⟨bytes.toArray⟩
  IO.FS.rename (place l.temporary) (place l)

/-- The changes between two trees made on the disk. -/
def save (old new : Tree) : IO Unit := do
  let here ← IO.currentDir
  for (l, e) in new.below [] do
    if old.get? l ≠ some e then
      match e with
      | .directory => IO.FS.createDirAll (here / String.ofList (Path.ofLocation l).toText)
      | .file bytes => write l bytes
  for (l, _) in old.below [] do
    if new.get? l = none then
      IO.FS.removeFile (here / String.ofList (Path.ofLocation l).toText)

/-- The home directories of the users of this machine. -/
def accounts : IO (List (Text × Text)) := do
  let place := (← IO.currentDir) / "/etc/passwd"
  unless ← place.pathExists do return []
  let lines := Text.cutAt '\n' (← IO.FS.readFile place).toList
  return lines.filterMap fun l =>
    match Text.cutAt ':' l with
    | name :: rest => (rest[4]?).map fun home => (name, home)
    | [] => none

/-- What the program finds around it. -/
def environment : IO Environment := do
  let here := Path.ofText (← IO.currentDir).toString.toList
  let known ← accounts
  let home := (← IO.getEnv "HOME").map String.toList
  return {
    workingDirectory := here.resolve []
    userHome := home.getD ((known.lookup "root".toList).getD ['/'])
    accounts := known
    settingsHome? := (← IO.getEnv "LINKCASE_HOME").map String.toList }

/-- The keys of one line after the other pressed, until the prompt is left. -/
partial def prompt (env : Environment) (st : Prompt.State) : IO Prompt.State := do
  if st.status?.isSome then return st
  let line ← (← IO.getStdin).getLine
  let keys := if line.isEmpty then [.leave] else line.toList.map Prompt.Key.ofChar
  let next := keys.foldl (Prompt.State.press env) st
  IO.print (String.ofList (next.output.drop st.output.length))
  save st.tree next.tree
  prompt env next

/-- The end of a run: what it writes, and its status. -/
def finish (old : Tree) (r : CommandLine.Result) : IO UInt32 := do
  save old r.tree
  IO.print (String.ofList r.output)
  IO.eprint (String.ofList r.errors)
  if let some reason := r.breakdown? then IO.eprintln (String.ofList reason.message)
  return UInt32.ofNat r.status

/-- Standard input, if the request is about it; `none` if it is no text. -/
def stdin? (r : CommandLine.Request) : IO (Option Text) := do
  if r.files.contains ['-'] then
    return Utf8.decode (← (← IO.getStdin).readBinToEnd).toList
  return some []

end WikiCasing.Disk

open WikiCasing in
/-- The program. -/
def main (args : List String) : IO UInt32 := do
  let env ← Disk.environment
  match CommandLine.read? (args.map String.toList) with
  | none =>
    IO.eprintln "Usage: linkcase COMMAND [ARGS]..."
    return 2
  | some r =>
    let t ← Disk.tree env r
    match r with
    | .openPrompt file? =>
      let st ← Disk.prompt env (Prompt.start t env file?)
      Disk.finish st.tree { st.result with output := [] }
    | _ =>
      match ← Disk.stdin? r with
      | none =>
        IO.eprintln "standard input is not UTF-8"
        return 1
      | some stdin => Disk.finish t (Program.perform t env stdin r)
