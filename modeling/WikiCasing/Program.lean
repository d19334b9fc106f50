import WikiCasing.Console.Sequence
import WikiCasing.Prompt.Basic

/-!
# The program

A run of the program is told by its command line, the file tree and what comes in on standard
input. A command line that asks for nothing the program does is refused and changes nothing.
-/

namespace WikiCasing.Program

open CommandLine

/-- What comes in: the words of the command line, and the text on standard input. -/
structure Input where
  words : List Text
  stdin : Text := []

/-- A request carried out. At the prompt, standard input is what is typed. What is printed plain
does not go to a terminal. -/
def perform (t : Tree) (env : Environment) (stdin : Text) : Request → Result
  | .recase how => runRecase Console.withoutSequences t env stdin how
  | .vault path dryRun => runVault t env path dryRun
  | .showSettings asJson => runShow t env asJson
  | .setSettings firstWordOnly? => runSet t env firstWordOnly?
  | .openPrompt file? => Prompt.run t env file? stdin

/-- A run of the program; `none` if the command line is refused. -/
def run? (t : Tree) (env : Environment) (i : Input) : Option Result :=
  (read? i.words).map (perform t env i.stdin)

end WikiCasing.Program
