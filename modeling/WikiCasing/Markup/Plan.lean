import WikiCasing.Markup.Recase

/-!
# Carets

An occurrence is a link of a form at its place in a text. Of those that a caret stands in, the
first encloses it, form by form and from left to right.

A plan is one recasing of a text in which a caret stands, and where the caret goes: right behind
the closing brackets of the link that replaces the one it stood in. A caret that stands in no
link is left to the editor, and so is every caret of a text that does not change.
-/

namespace WikiCasing

/-! ## Where links occur -/

/-- An offset lies in a span, both ends included. -/
def Span.within (start stop offset : Int) : Bool := start ≤ offset && offset ≤ stop

/-- A link of a form at a place in a text. -/
structure Occurrence where
  form : Form
  /-- The offset of the first character. -/
  start : Nat
  /-- The offset behind the last character. -/
  stop : Nat
  link : Link
deriving DecidableEq, Repr

/-- A caret is in an occurrence also where it stands right before it or right behind it. -/
def Occurrence.contains (o : Occurrence) (caret : Int) : Bool := Span.within o.start o.stop caret

namespace Form

/-- The links of a list of segments that begins at an offset. -/
def locate (f : Form) : (start : Nat) → List Segment → List Occurrence
  | _, [] => []
  | start, .plain _ :: rest => locate f (start + 1) rest
  | start, .link l :: rest =>
    ⟨f, start, start + (f.spell l).length, l⟩ :: locate f (start + (f.spell l).length) rest

/-- The occurrences of a form in a text, from left to right. No two of them overlap. -/
def occurrences (f : Form) (text : Text) : List Occurrence := f.locate 0 (f.segments text)

end Form

/-- The first of some occurrences, in order of their offsets, that a caret is in. -/
def firstAround? (caret : Int) : List Occurrence → Option Occurrence
  | [] => none
  | o :: os =>
    if o.contains caret then some o
    else if caret < o.start then none
    else firstAround? caret os

/-- The occurrence that a caret is in: that of the first form that has one there, and the leftmost
of this form. -/
def enclosing? (text : Text) (caret : Int) : Option Occurrence :=
  Form.all.findSome? fun f => firstAround? caret (f.occurrences text)

/-! ## Recasing under a caret -/

/-- The outcome of recasing a text under a caret. -/
structure Plan where
  text : Text
  /-- Where the caret goes; `none` leaves it to the editor. -/
  caret : Option Nat
  changed : Bool
  /-- The link that the caret stood in. -/
  occurrence : Option Occurrence
deriving DecidableEq, Repr

/-- Where the caret goes that stood in an occurrence: what stands before the occurrence is
recased on its own, and the replacement of the occurrence follows. -/
def Occurrence.landing (s : Settings) (text : Text) (o : Occurrence) : Nat :=
  (recase s (text.take o.start)).length + (o.link.render s).length

/-- The recasing of a text in which a caret stands. -/
def plan (s : Settings) (text : Text) (caret : Int) : Plan :=
  let occurrence := enclosing? text caret
  let output := recase s text
  if output = text then ⟨text, none, false, none⟩
  else ⟨output, occurrence.map (·.landing s text), true, occurrence⟩

end WikiCasing
