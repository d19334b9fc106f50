import WikiCasing.Casing.Command

/-!
# The four forms of a casing command

A casing command is written in one of four forms, each a spelling of a target, an optional alias
and a command letter:

* postfix alias: `[[target|alias]]\x`
* postfix link: `[[target]]\x`
* inline alias: `[[target|alias\x]]`
* inline link: `[[target\x]]`

A form says which characters a target and an alias may hold. `Form.spell` writes a link,
`Form.read?` reads the link whose spelling a text begins with. Where a text begins with a
spelling at all it begins with one only, since a target ends at the first character that the form
excludes, and so does an alias.

`Form.segments` cuts a text, left to right, into the links of one form and single characters
between them: at each place it takes the link that is spelled there, or else one character. So
the links are those found by scanning for the leftmost spelling and going on behind it, and
writing the segments out again gives the text back.
-/

namespace WikiCasing

/-- A form of markup, in order of precedence. -/
inductive Form where
  | postfixAlias
  | postfixLink
  | inlineAlias
  | inlineLink
deriving DecidableEq, Repr

/-- What an occurrence of a form says: a target, an alias if the form has one, and a command. -/
structure Link where
  target : Text
  alias? : Option Text
  command : Command
deriving DecidableEq, Repr

namespace Form

/-- The forms in order of precedence. -/
def all : List Form := [postfixAlias, postfixLink, inlineAlias, inlineLink]

/-- The name of a form. -/
def name : Form → Text
  | postfixAlias => "postfix_alias".toList
  | postfixLink => "postfix_link".toList
  | inlineAlias => "inline_alias".toList
  | inlineLink => "inline_link".toList

/-- The form of a name. -/
def ofName? (t : Text) : Option Form := all.find? (·.name = t)

/-- The command stands behind the closing brackets. -/
def isPostfix : Form → Bool
  | postfixAlias | postfixLink => true
  | inlineAlias | inlineLink => false

/-- The form spells an alias. -/
def hasAlias : Form → Bool
  | postfixAlias | inlineAlias => true
  | postfixLink | inlineLink => false

/-- A character that a target may hold: no closing bracket and no bar, and, where no bar ends the
target, no backslash. -/
def targetChar (f : Form) (c : Char) : Bool :=
  c != ']' && c != '|' && (f.hasAlias || c != '\\')

/-- A character that an alias may hold: no closing bracket and, where the command stands inside
the brackets, no backslash. -/
def aliasChar (f : Form) (c : Char) : Bool :=
  c != ']' && (f.isPostfix || c != '\\')

/-- What follows the target or the alias: the closing brackets and the command. -/
def closing (f : Form) (x : Command) : Text :=
  if f.isPostfix then [']', ']', '\\', x.letter] else ['\\', x.letter, ']', ']']

/-- The spelling of a link. A form without an alias ignores the alias. -/
def spell (f : Form) (l : Link) : Text :=
  if f.hasAlias then
    '[' :: '[' :: (l.target ++ '|' :: (l.alias?.getD [] ++ f.closing l.command))
  else '[' :: '[' :: (l.target ++ f.closing l.command)

/-- The command of a closing that a text begins with. -/
def readClosing? (f : Form) (text : Text) : Option Command :=
  if f.isPostfix then
    match text with
    | ']' :: ']' :: '\\' :: x :: _ => Command.ofLetter? x
    | _ => none
  else
    match text with
    | '\\' :: x :: ']' :: ']' :: _ => Command.ofLetter? x
    | _ => none

/-- A text up to the first character that is not allowed, which must not be the first of all, and
what follows. -/
def readRun? (allowed : Char → Bool) (text : Text) : Option (Text × Text) :=
  match text.span allowed with
  | ([], _) => none
  | (run, rest) => some (run, rest)

/-- The link whose spelling a text begins with. -/
def read? (f : Form) (text : Text) : Option Link :=
  match text with
  | '[' :: '[' :: rest =>
    match readRun? f.targetChar rest with
    | none => none
    | some (target, rest) =>
      if f.hasAlias then
        match rest with
        | '|' :: rest =>
          match readRun? f.aliasChar rest with
          | none => none
          | some (shown, rest) => (f.readClosing? rest).map (⟨target, some shown, ·⟩)
        | _ => none
      else (f.readClosing? rest).map (⟨target, none, ·⟩)
  | _ => none

end Form

/-! ## A text cut at the links of one form -/

/-- A piece of a text: a character, or a link of the form under consideration. -/
inductive Segment where
  | plain (c : Char)
  | link (l : Link)
deriving DecidableEq, Repr

/-- The text of a segment. -/
def Segment.spell (f : Form) : Segment → Text
  | .plain c => [c]
  | .link l => f.spell l

namespace Form

/-- The segments of what is left of a text once `skip` characters have been passed over. -/
def segmentsAfter (f : Form) : (skip : Nat) → Text → List Segment
  | _, [] => []
  | skip + 1, _ :: cs => segmentsAfter f skip cs
  | 0, c :: cs =>
    match f.read? (c :: cs) with
    | some l => .link l :: segmentsAfter f ((f.spell l).length - 1) cs
    | none => .plain c :: segmentsAfter f 0 cs

/-- A text as links of the form and single characters between them. -/
def segments (f : Form) (text : Text) : List Segment := f.segmentsAfter 0 text

end Form

end WikiCasing
