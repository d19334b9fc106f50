import WikiCasing.Text.Basic

/-!
# Regular expressions

Expressions whose parts stand one behind the other, and a matcher for them that goes back. A part
can often pass over a text in several ways. It tries them in an order of its own, and keeps to the
first that lets the parts behind it pass over what is left.
-/

namespace WikiCasing

/-- A part of an expression. -/
inductive Part where
  /-- One character. -/
  | one (c : Char)
  /-- One character or nothing, the character being tried first. -/
  | optional (c : Char)
  /-- Characters of a kind, as many as there are being tried first. -/
  | most (kind : Char → Bool)
  /-- Any characters, none being tried first. -/
  | fewest

/-- A regular expression, part by part. -/
abbrev Expression := List Part

variable {α : Type}

/-- What comes next, tried behind all characters of a kind that a text begins with, and then with
one after the other given back, from the right. -/
def passMost (kind : Char → Bool) (next : Text → Option α) : Text → Option α
  | [] => next []
  | c :: cs => (if kind c then passMost kind next cs else none) <|> next (c :: cs)

/-- What comes next, tried with one character more passed over each time. -/
def passFewest (next : Text → Option α) : Text → Option α
  | [] => next []
  | c :: cs => next (c :: cs) <|> passFewest next cs

/-- What comes next, tried behind one character. -/
def passOne (c : Char) (next : Text → Option α) : Text → Option α
  | [] => none
  | d :: ds => if d = c then next ds else none

/-- A part of an expression passed over, and what comes next tried on what is left of the text. -/
def Part.pass : Part → (Text → Option α) → Text → Option α
  | one c, next, t => passOne c next t
  | optional c, next, t => passOne c next t <|> next t
  | most kind, next, t => passMost kind next t
  | fewest, next, t => passFewest next t

namespace Expression

/-- An expression passed over, and what comes next tried on what is left of the text. -/
def pass : Expression → (Text → Option α) → Text → Option α
  | [], next, t => next t
  | p :: ps, next, t => p.pass (pass ps next) t

/-- What an expression leaves of a text that it matches at its start. -/
def rest? (e : Expression) (t : Text) : Option Text := e.pass some t

/-- The expression for a given text. -/
def literal (t : Text) : Expression := t.map .one

end Expression

end WikiCasing
