import WikiCasing.Text.Basic

/-!
# Casing commands

A casing command is one of four letters that stands after a backslash in link markup. How the
first of them is carried out is for the user to set.
-/

namespace WikiCasing

/-- What a casing command asks for. -/
inductive Command where
  | lower
  | upper
  | title
  | capital
deriving DecidableEq, Repr

namespace Command

/-- The four commands. -/
def all : List Command := [lower, upper, title, capital]

/-- The letter that stands for a command. -/
def letter : Command → Char
  | lower => 'l'
  | upper => 'u'
  | title => 't'
  | capital => 'c'

/-- The command that a letter stands for; no other letter, and no capital one, is a command. -/
def ofLetter? (c : Char) : Option Command :=
  if c = 'l' then some lower
  else if c = 'u' then some upper
  else if c = 't' then some title
  else if c = 'c' then some capital
  else none

@[simp] theorem ofLetter?_letter (x : Command) : ofLetter? x.letter = some x := by
  cases x <;> rfl

theorem ofLetter?_eq_some_iff {c : Char} {x : Command} : ofLetter? c = some x ↔ c = x.letter := by
  constructor
  · intro h
    cases x <;> grind [ofLetter?, letter]
  · rintro rfl
    exact ofLetter?_letter x

/-- The command that a text names: the one that its only letter stands for. -/
def ofText? : Text → Option Command
  | [c] => ofLetter? c
  | _ => none

end Command

/-- What a user has set: whether the lower command lowers a whole text or its first word. Unless
told otherwise, lowering is not limited to the first word. -/
structure Settings where
  firstWordOnly : Bool := false
deriving DecidableEq, Repr

/-- The settings in force before any are made. -/
def Settings.standard : Settings := {}

end WikiCasing
