import WikiCasing.CommandLine.Request
import WikiCasing.CommandLine.Result
import WikiCasing.Console.Line
import WikiCasing.Json.Syntax
import WikiCasing.Markup.Plan
import WikiCasing.Text.Basic
import WikiCasing.Vault.Recase

/-!
# Carrying out requests

Each request turns a file tree into another one and says what to write to the two output streams
and with which status to end: 0 for success, 1 where a check finds something to recase or the
program breaks down, 2 where the request cannot be carried out.
-/

namespace WikiCasing.CommandLine

/-! ## One document -/

/-- The words for bytes that are no text. -/
def undecodableMessage : Text := "'utf-8' codec can't decode".toList

/-- Why a document cannot be read, as a message, or as something the program breaks down over. -/
inductive SourceError where
  | message (text : Text)
  | breakdown (reason : Breakdown)

/-- A document whose path is known cannot be read. -/
def unreadable (p : Path) (reason : Text) : SourceError :=
  .message ("[red]Error: Could not read ".toList ++ Console.escape p.toText ++ ": ".toList ++
    Console.escape reason ++ "[/red]".toList)

/-- The text of a document. -/
def readSource (t : Tree) (env : Environment) (stdin : Text) (file : Text) :
    Except SourceError Text :=
  if file = ['-'] then .ok stdin.universalNewlines
  else
    match env.expandUser (Path.ofText file) with
    | .error e => .error (.breakdown (.home e))
    | .ok p =>
      match t.look env.workingDirectory p with
      | .error e => .error (.breakdown (.file ⟨e, p, none⟩))
      | .ok none =>
        .error (.message (around "[red]Error: File not found: " (Console.escape p.toText) "[/red]"))
      | .ok (some .directory) =>
        .error (unreadable p (FileFailure.message ⟨.isADirectory, p, none⟩))
      | .ok (some (.file bytes)) =>
        match Utf8.decode bytes with
        | some text => .ok text
        | none => .error (unreadable p undecodableMessage)

/-- A document recased: the text, whether it changed, and where a caret went. -/
structure Recasing where
  text : Text
  changed : Bool
  caret : Option Nat

/-- A document recased, under a caret or not. -/
def recasing (s : Settings) (text : Text) (caret? : Option Int) : Recasing :=
  match caret? with
  | some caret =>
    let p := plan s text caret
    ⟨p.text, p.changed, p.caret⟩
  | none =>
    let output := (recaseCounted s text).text
    ⟨output, output ≠ text, none⟩

/-- A recased document as JSON. -/
def Recasing.toJson (r : Recasing) : Text :=
  let caret := match r.caret with
    | some n => Text.ofNat n
    | none => "null".toList
  "\x7b\"text\": ".toList ++ Json.writeText r.text ++ ", \"caret\": ".toList ++ caret ++
    ", \"changed\": ".toList ++ Json.writeBool r.changed ++ ['\x7d']

/-- What is printed of a recased document: JSON, or what the console writes of the text itself. -/
def Recasing.print (echo : Text → Text) (r : Recasing) (asJson : Bool) : Text :=
  if asJson then line r.toJson else echo r.text

/-- A changed document put back into its file. -/
def putBack (t : Tree) (env : Environment) (file : Text) (r : Recasing) :
    Tree × Except SourceError Unit :=
  if r.changed then
    match env.expandUser (Path.ofText file) with
    | .error e => (t, .error (.breakdown (.home e)))
    | .ok p =>
      match t.replaceAt env.workingDirectory p (Utf8.encode r.text) with
      | (t, .ok ()) => (t, .ok ())
      | (t, .error f) =>
        (t, .error (.message (around "[red]Error: Could not write " (Console.escape p.toText)
          (String.ofList (": ".toList ++ Console.escape f.message ++ "[/red]".toList)))))
  else (t, .ok ())

/-- The end of a run over a document that could not be read or written. -/
def SourceError.result (t : Tree) : SourceError → Result
  | .message text => .complain t 2 text
  | .breakdown reason => .broken t reason

/-- One document recased and put back into its file. -/
def recaseInPlace (t : Tree) (env : Environment) (how : RecaseRequest) (r : Recasing) :
    Result :=
  match putBack t env how.file r with
  | (t, .error e) => e.result t
  | (t, .ok ()) =>
    if how.asJson then { tree := t, output := line r.toJson }
    else
      let status := if r.changed then "[green][OK] Rewrote[/green] " else "[dim]Unchanged:[/dim] "
      .say t 0 (status.toList ++ Console.escape how.file)

/-- A document that has been read and is to be recased. -/
def recaseText (echo : Text → Text) (t : Tree) (env : Environment) (how : RecaseRequest)
    (text : Text) : Result :=
  match ({} : Store).load t env with
  | .error e => .complain t 2 (around "[red]Error: " e.message "[/red]")
  | .ok (s, _) =>
    let r := recasing s text how.caret?
    if how.checkOnly then
      if r.changed then
        .complain t 1 ("[yellow]Would rewrite:[/yellow] ".toList ++ Console.escape how.file)
      else { tree := t }
    else if how.inPlace then recaseInPlace t env how r
    else { tree := t, output := r.print echo how.asJson }

/-- The caret, if there is one, lies in the text. -/
def caretFits (text : Text) : Option Int → Bool
  | none => true
  | some caret => 0 ≤ caret && caret ≤ text.length

/-- One document recased, with a console that writes so much of a plain text. -/
def runRecase (echo : Text → Text) (t : Tree) (env : Environment) (stdin : Text)
    (how : RecaseRequest) : Result :=
  if how.inPlace && how.file = ['-'] then
    .complain t 2 "[red]Error: --in-place needs a FILE, not stdin[/red]".toList
  else
    match readSource t env stdin how.file with
    | .error e => e.result t
    | .ok text =>
      if caretFits text how.caret? then recaseText echo t env how text
      else
        .complain t 2 ("[red]Error: caret ".toList ++ Text.ofInt (how.caret?.getD 0) ++
          " outside 0..".toList ++ Text.ofNat text.length ++ "[/red]".toList)

/-! ## Vaults -/

/-- The changed files of a report as a table. -/
def Report.table (r : Report) : Console.Table :=
  { names := ("File".toList, "Links".toList)
    rows := r.changes.map fun (file, links) => (Console.cell file, Text.ofNat links) }

/-- The report of a run over a vault. -/
def Report.print (dryRun : Bool) (r : Report) : Text :=
  line ("Vault Rewrite".toList ++ if dryRun then " (dry run)".toList else []) ++
    line ("Files changed: ".toList ++ Text.ofNat r.filesChanged ++
      "   Links rewritten: ".toList ++ Text.ofNat r.linksRecased) ++
    if r.changes.isEmpty then line "No changes.".toList else (Report.table r).lines.flatMap line

/-- A vault recased. -/
def runVault (t : Tree) (env : Environment) (path : Text) (dryRun : Bool) : Result :=
  match env.expandUser (Path.ofText path) with
  | .error e => .broken t (.home e)
  | .ok p =>
    match t.look env.workingDirectory p with
    | .error e => .broken t (.file ⟨e, p, none⟩)
    | .ok (some .directory) =>
      match ({} : Store).load t env with
      | .error e => .say t 2 (around "[red]Error: " e.message "[/red]")
      | .ok (s, _) =>
        let run : VaultRun := { settings := s, dryRun := dryRun }
        let done := t.recaseVault run (p.resolve env.workingDirectory)
        { tree := done.tree, output := Report.print dryRun done.report }
    | .ok _ =>
      .say t 2 (around "[red]Error: Vault not found at " (Console.escape p.toText) "[/red]")

/-! ## Settings -/

/-- Settings as a table. -/
def settingsTable (s : Settings) : Console.Table :=
  { names := ("Setting".toList, "Value".toList)
    rows := [(Settings.storedName, Json.writeBool s.firstWordOnly)] }

/-- The settings shown, and the path of the file that holds them. -/
def runShow (t : Tree) (env : Environment) (asJson : Bool) : Result :=
  match ({} : Store).load t env, env.settingsPath with
  | .error e, _ => .broken t (.store e)
  | _, .error e => .broken t (.home e)
  | .ok (s, _), .ok p =>
    if asJson then { tree := t, output := line s.toText }
    else
      let path := Result.say t 0 (around "[dim]" (Console.escape p.toText) "[/dim]")
      { path with output := (settingsTable s).lines.flatMap line ++ path.output }

/-- Settings that cannot be loaded or saved: a failure of the file is told, and the program breaks
down over anything else. -/
def unsaved (t : Tree) : StoreError → Result
  | .file f =>
    if f.error = .nullInName then .broken t (.file f)
    else .say t 2 ("[red]Could not save settings:[/red] ".toList ++ f.message)
  | e => .broken t (.store e)

/-- The setting changed. -/
def runSet (t : Tree) (env : Environment) (firstWordOnly? : Option Bool) : Result :=
  match firstWordOnly? with
  | none =>
    .say t 2 ("[yellow]Nothing to change.[/yellow] Pass --lowercase-first-word-only or ".toList ++
      "--no-lowercase-first-word-only".toList)
  | some enabled =>
    let store : Store := {}
    match store.load t env with
    | .error e => unsaved t e
    | .ok _ =>
      match store.save t env ⟨enabled⟩ with
      | (t, .error e) => unsaved t e
      | (t, .ok ()) =>
        .say t 0 ("[green][OK][/green] lowercaseFirstWordOnly: ".toList ++
          (if enabled then "[bold]on[/bold]" else "[bold]off[/bold]").toList)

end WikiCasing.CommandLine
