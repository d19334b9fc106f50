import WikiCasing.Console.Markup
import WikiCasing.Settings.Store

/-!
# Results

What a run leaves behind: a file tree, what it wrote to the two output streams, and the status it
ends with. A run that meets something it has no message for breaks down over it.
-/

namespace WikiCasing.CommandLine

/-- What the program breaks down over. -/
inductive Breakdown where
  | home (error : HomeError)
  | file (failure : FileFailure)
  | store (error : StoreError)
  /-- A message whose markup is wrong, as the name of a file in it can make it. -/
  | markup (error : Console.MarkupError)
deriving DecidableEq, Repr

/-- The words for what the program breaks down over. -/
def Breakdown.message : Breakdown → Text
  | home e => e.message
  | file f => f.message
  | store e => e.message
  | markup e => e.message

/-- What a run leaves behind. -/
structure Result where
  tree : Tree
  status : Nat := 0
  output : Text := []
  errors : Text := []
  /-- What the program broke down over, if it did. -/
  breakdown? : Option Breakdown := none

/-- A line. -/
def line (t : Text) : Text := t ++ ['\n']

/-- Words around a text. -/
def around (before : String) (t : Text) (after : String) : Text :=
  before.toList ++ t ++ after.toList

namespace Result

/-- A run that breaks down. -/
def broken (t : Tree) (reason : Breakdown) : Result :=
  { tree := t, status := 1, breakdown? := some reason }

/-- A run that ends with a message on the error stream. -/
def complain (t : Tree) (status : Nat) (message : Text) : Result :=
  match Console.display message with
  | .ok shown => { tree := t, status := status, errors := line shown }
  | .error e => broken t (.markup e)

/-- A run that ends with a message on the output stream. -/
def say (t : Tree) (status : Nat) (message : Text) : Result :=
  match Console.display message with
  | .ok shown => { tree := t, status := status, output := line shown }
  | .error e => broken t (.markup e)

end Result

end WikiCasing.CommandLine
