import WikiCasing.Text.Expression
import WikiCasing.Unicode.Basic

/-!
# Front matter

A note may begin with a block between two fences of three hyphens, which is kept as it is. An
expression finds it: a fence at the very start, white space, a line end, any text, a line end and
a fence, and white space. Line feeds are white space too, and nothing is asked of the line that the
second fence stands on, so that what the expression takes for front matter is settled by the order
in which its parts are tried.
-/

namespace WikiCasing

/-- A note, cut behind its front matter. -/
structure Note where
  header : Text
  body : Text
deriving DecidableEq, Repr

/-- All of a note. -/
def Note.content (note : Note) : Text := note.header ++ note.body

/-- Three hyphens. -/
def fence : Text := ['-', '-', '-']

/-- The expression for front matter. -/
def frontMatter : Expression :=
  Expression.literal fence ++
    [.most Unicode.isSpace, .optional '\r', .one '\n', .fewest, .optional '\r', .one '\n'] ++
    Expression.literal fence ++ [.most Unicode.isSpace, .optional '\r', .optional '\n']

/-- The cut behind the front matter of a content, if it has any. -/
def Note.withHeader? (content : Text) : Option Note :=
  (frontMatter.rest? content).map fun rest =>
    ⟨content.take (content.length - rest.length), rest⟩

/-- A content cut behind its front matter; without any, all of it is body. -/
def Note.split (content : Text) : Note := (Note.withHeader? content).getD ⟨[], content⟩

end WikiCasing
