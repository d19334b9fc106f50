import WikiCasing.CommandLine.Run
import WikiCasing.Editor.Session

/-!
# The prompt

The prompt is an editor for one line after the other. While a line is typed its links are
recased. A line that is accepted is shown and, if there is a file for it, added to the file.
One key switches the setting and saves it. The words `quit` and `exit` leave, and so do two keys.
-/

namespace WikiCasing.Prompt

/-- A key. -/
inductive Key where
  | character (c : Char)
  | enter
  | left
  | right
  | lineStart
  | lineEnd
  | backspace
  /-- Deletes the character behind the caret, or leaves if the line is empty. -/
  | deleteOrLeave
  | leave
  | switchSetting
deriving DecidableEq, Repr

/-- The key that sends a character. -/
def Key.ofChar (c : Char) : Key :=
  match c.toNat with
  | 0x01 => .lineStart
  | 0x02 => .left
  | 0x03 => .leave
  | 0x04 => .deleteOrLeave
  | 0x05 => .lineEnd
  | 0x06 => .right
  | 0x08 => .backspace
  | 0x0A => .enter
  | 0x0D => .enter
  | 0x14 => .switchSetting
  | 0x7F => .backspace
  | _ => .character c

/-- A prompt that is running. -/
structure State where
  line : Editor
  tree : Tree
  /-- The file that accepted lines are added to. -/
  file? : Option Path := none
  output : Text := []
  /-- The status to end with, once the prompt has been left. -/
  status? : Option Nat := none
  breakdown? : Option CommandLine.Breakdown := none

/-- The line that a prompt begins with, with one controller that listens to it. -/
def emptyLine (s : Settings) : Editor :=
  { kind := .quiet, text := [], caret := 0, listeners := [.controller 0],
    controllers := [{ settings := s }] }

namespace State

/-- The prompt left. -/
def left (st : State) (status : Nat) : State := { st with status? := some status }

/-- The prompt broken down. -/
def broken (st : State) (reason : CommandLine.Breakdown) : State :=
  { st with status? := some 1, breakdown? := some reason }

/-- Something written. -/
def write (st : State) (t : Text) : State := { st with output := st.output ++ t }

/-- A line added to the end of a file. -/
def addToFile (env : Environment) (file : Path) (text : Text) (st : State) : State :=
  let added := st.tree.onPath env.workingDirectory file fun l =>
    st.tree.append l (Utf8.encode (CommandLine.line text))
  match added with
  | .ok t => { st with tree := t }
  | .error e =>
    let failure : FileFailure := ⟨e, file, none⟩
    let message := "[red]Could not write ".toList ++ file.toText ++ ":[/red] ".toList ++
      failure.message
    if e = .nullInName then st.broken (.file failure)
    else
      match Console.display message with
      | .ok shown => st.write (CommandLine.line shown)
      | .error e => st.broken (.markup e)

/-- The line accepted, and an empty one begun. -/
def accept (env : Environment) (st : State) : State :=
  let text := st.line.text
  let word := text.trim
  if word = "quit".toList ∨ word = "exit".toList then st.left 0
  else
    let st := { st with line := { st.line with text := [], caret := 0 } }
    let st := st.write (CommandLine.line (Console.verbatim text))
    match st.file? with
    | some file => st.addToFile env file text
    | none => st

/-- The setting switched and saved. -/
def switch (env : Environment) (st : State) : State :=
  let enabled := match st.line.controllers with
    | c :: _ => !c.settings.firstWordOnly
    | [] => true
  let line := st.line.updateController 0 fun c => { c with settings := ⟨enabled⟩ }
  match ({} : Store).setFirstWordOnly st.tree env enabled with
  | (t, .ok _) => { st with line := line, tree := t }
  | (t, .error e) => { st with line := line, tree := t }.broken (.store e)

/-- The line changed by an operation of the editor; none of its listeners fails. -/
def edit {α : Type} (st : State) (outcome : Outcome α) : State := { st with line := outcome.1 }

/-- The caret moved by some characters. -/
def move (st : State) (distance : Int) : State :=
  { st with line := st.line.placeCaret (st.line.caret + distance) }

/-- One key. -/
def press (env : Environment) (st : State) (key : Key) : State :=
  if st.status?.isSome then st
  else
    match key with
    | .character c => st.edit (st.line.type [c])
    | .enter => st.accept env
    | .left => st.move (-1)
    | .right => st.move 1
    | .lineStart => { st with line := st.line.placeCaret 0 }
    | .lineEnd => { st with line := st.line.placeCaret st.line.text.length }
    | .backspace => st.edit st.line.backspace
    | .deleteOrLeave =>
      if st.line.text.isEmpty then (st.write ['\n']).left 0 else st.edit st.line.delete
    | .leave => (st.write ['\n']).left 0
    | .switchSetting => st.switch env

/-- What a prompt leaves behind. One that has not been left ends with success. -/
def result (st : State) : CommandLine.Result :=
  { tree := st.tree, status := st.status?.getD 0, output := st.output, breakdown? := st.breakdown? }

end State

/-- A prompt opened, with a file to add the accepted lines to. An empty name stands for no
file. -/
def start (t : Tree) (env : Environment) (file? : Option Text) : State :=
  let state (file? : Option Path) : State :=
    match ({} : Store).load t env with
    | .ok (s, _) => { line := emptyLine s, tree := t, file? := file? }
    | .error e =>
      { line := emptyLine .standard, tree := t : State }.broken (.store e)
  match file? with
  | some (c :: cs) =>
    match env.expandUser (Path.ofText (c :: cs)) with
    | .ok p => state (some p)
    | .error e => { line := emptyLine .standard, tree := t : State }.broken (.home e)
  | _ => state none

/-- A prompt opened, some keys typed, and what it leaves behind. -/
def run (t : Tree) (env : Environment) (file? : Option Text) (keys : Text) :
    CommandLine.Result :=
  ((keys.map Key.ofChar).foldl (State.press env) (start t env file?)).result

end WikiCasing.Prompt
