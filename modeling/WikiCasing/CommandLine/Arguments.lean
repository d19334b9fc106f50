import WikiCasing.Text.Basic

/-!
# Options and arguments

The words of a command line are options and arguments, in any order. A long option begins with
two hyphens and may take its value from the same word, behind an equals sign; short options are
single letters, several of which may share a word behind one hyphen. An option that needs a value
takes the rest of its word or the next word, whatever that is. Behind a word of two hyphens all
words are arguments, and a lone hyphen always is one.
-/

namespace WikiCasing.CommandLine

/-- An option that a command knows. -/
structure Known where
  name : Text
  short? : Option Char := none
  takesValue : Bool := false

/-- An option as it was given, by its long name, with the value that was given to it. -/
structure Given where
  name : Text
  value : Text := []

/-- The options and arguments of a command line, in the order in which they were given. -/
structure Words where
  options : List Given := []
  arguments : List Text := []

/-- The words with one more option in front. -/
def Words.addOption (w : Words) (g : Given) : Words := { w with options := g :: w.options }

/-- The words with one more argument in front. -/
def Words.addArgument (w : Words) (a : Text) : Words := { w with arguments := a :: w.arguments }

/-- What a word of short options gives: the options, and the one that still needs the next word
for its value. -/
def readShort? (known : List Known) : Text → Option (List Given × Option Text)
  | [] => some ([], none)
  | c :: cs =>
    match known.find? (·.short? = some c) with
    | none => none
    | some k =>
      if k.takesValue then
        if cs.isEmpty then some ([], some k.name) else some ([⟨k.name, cs⟩], none)
      else (readShort? known cs).map fun (gs, needy) => (⟨k.name, []⟩ :: gs, needy)

/-- What a long option gives. -/
def readLong? (known : List Known) (word : Text) : Option (List Given × Option Text) :=
  let name := word.takeWhile (· ≠ '=')
  match known.find? (·.name = name), word.dropWhile (· ≠ '=') with
  | none, _ => none
  | some k, [] => if k.takesValue then some ([], some name) else some ([⟨name, []⟩], none)
  | some k, _ :: value => if k.takesValue then some ([⟨name, value⟩], none) else none

/-- What a word that begins with a hyphen gives. -/
def readOption? (known : List Known) : Text → Option (List Given × Option Text)
  | '-' :: '-' :: cs => readLong? known ('-' :: '-' :: cs)
  | '-' :: cs => readShort? known cs
  | _ => none

/-- The word is an option, not an argument. -/
def isOption : Text → Bool
  | '-' :: _ :: _ => true
  | _ => false

/-- The options and arguments of some words, where `needy?` is an option that takes the first of
them as its value; `none` if there is an option that is not known or has no value. -/
def readWords? (known : List Known) : (needy? : Option Text) → List Text → Option Words
  | some _, [] => none
  | none, [] => some {}
  | some name, w :: ws => (readWords? known none ws).map (·.addOption ⟨name, w⟩)
  | none, w :: ws =>
    if w = ['-', '-'] then some { arguments := ws }
    else if isOption w then
      match readOption? known w with
      | none => none
      | some (given, needy?) =>
        (readWords? known needy? ws).map fun words =>
          { words with options := given ++ words.options }
    else (readWords? known none ws).map (·.addArgument w)

namespace Words

/-- An option was given. -/
def has (w : Words) (name : Text) : Bool := w.options.any (·.name = name)

/-- The value given last to an option. -/
def last? (w : Words) (name : Text) : Option Text :=
  (w.options.reverse.find? (·.name = name)).map (·.value)

end Words

end WikiCasing.CommandLine
