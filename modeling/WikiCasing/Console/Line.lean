import WikiCasing.Console.Width
import WikiCasing.Unicode.Basic

/-!
# Lines and tables on a console

Tabs are shown as blanks up to the next tab stop of their line. A line that is too wide for its
place is broken before a word; what then still sticks out loses the blanks at its end, and is cut
off with an ellipsis if that does not do.

A table has two columns under their names. The first column is as wide as its widest line, where
tabs do not count and every separator of lines counts as one; its cells are laid out on lines of
that width, and the second column stands beside the first of them.
-/

namespace WikiCasing.Console

/-! ## Tabs -/

/-- The number of cells between tab stops. -/
def tabWidth : Nat := 8

/-- The blanks in place of a tab behind a text that begins at a tab stop: one, and as many more as
it takes to come to the next stop. -/
def tabBlanks (before : Text) : Text :=
  let taken := cells (before ++ [' '])
  List.replicate (1 + (tabWidth - taken % tabWidth) % tabWidth) ' '

/-- Texts between tabs, with blanks in place of the tabs. -/
def joinTabbed : List Text → Text
  | [] => []
  | [t] => t
  | t :: ts => t ++ tabBlanks t ++ joinTabbed ts

/-- A line with blanks in place of its tabs. -/
def expandLine (t : Text) : Text := joinTabbed (t.cutAt '\t')

/-- A text with blanks in place of its tabs. -/
def expandTabs (t : Text) : Text := Text.joinWith '\n' ((t.cutAt '\n').map expandLine)

/-! ## Breaking lines -/

/-- A line cut where a blank stands before something that is not blank. -/
def cutBeforeWords : Text → List Text
  | [] => []
  | c :: cs =>
    match cutBeforeWords cs with
    | [] => [[c]]
    | w :: ws =>
      if Unicode.isSpace c && !w.head?.any Unicode.isSpace then [c] :: w :: ws
      else (c :: w) :: ws

/-- The words of a line, each with the blanks behind it, and the first also with the blanks that
the line begins with. -/
def splitWords (t : Text) : List Text :=
  match cutBeforeWords t with
  | w :: v :: rest => if w.all Unicode.isSpace then (w ++ v) :: rest else w :: v :: rest
  | words => words

/-- A text without the white space at its end. -/
def dropFinalBlanks (t : Text) : Text := (t.reverse.dropWhile Unicode.isSpace).reverse

/-- Words put on lines of `width` cells, the line that is being filled being `line`, with `taken`
cells taken. A line breaks before a word that does not fit, unless that is the first word. -/
def fillLines (width : Nat) : (taken : Nat) → (line : Text) → List Text → List Text
  | _, line, [] => [line]
  | taken, line, w :: ws =>
    if taken + cells (dropFinalBlanks w) ≤ width then
      fillLines width (taken + cells w) (line ++ w) ws
    else if line.isEmpty then fillLines width (cells w) w ws
    else line :: fillLines width (cells w) w ws

/-! ## Cutting lines off -/

/-- A line without the blanks at its end, as far as it has more than `width` characters. -/
def trimTo (width : Nat) (t : Text) : Text :=
  let blanks := t.length - (dropFinalBlanks t).length
  t.take (t.length - min blanks (t.length - width))

/-- The glyphs that fit into some cells. Where only half of a glyph has room a blank takes its
place. -/
def takeGlyphs : (room : Nat) → List Glyph → Text
  | _, [] => []
  | room, g :: gs =>
    if room = 0 then []
    else if g.cells ≤ room then g.text ++ takeGlyphs (room - g.cells) gs
    else [' ']

/-- A line cut off with an ellipsis if it takes more than `width` cells. -/
def crop (width : Nat) (t : Text) : Text :=
  if cells t ≤ width then t else takeGlyphs (width - 1) (toGlyphs t) ++ ['…']

/-- A text laid out on lines of `width` cells. -/
def layOut (width : Nat) (t : Text) : List Text :=
  (t.cutAt '\n').flatMap fun l =>
    (fillLines width 0 [] (splitWords (expandLine l))).map fun l => crop width (trimTo width l)

/-! ## Tables -/

/-- A character that ends a line when the width of a text is taken. -/
def endsLine (c : Char) : Bool :=
  c = '\n' || (0x1C ≤ c.toNat && c.toNat ≤ 0x1E) || c = '\u0085' || c = '\u2028' || c = '\u2029'

/-- The cells of the widest line of a text. -/
def widest (t : Text) : Nat := ((t.cutWhere endsLine).map cells).foldl max 0

/-- A table of two columns. -/
structure Table where
  names : Text × Text
  rows : List (Text × Text)

namespace Table

/-- The width of the first column. -/
def width (t : Table) : Nat :=
  ((t.names :: t.rows).map fun (left, _) => widest left).foldl max 0

/-- The lines of a row. -/
def rowLines (width : Nat) (left right : Text) : List Text :=
  match layOut width left with
  | [] => [right]
  | first :: more => (first ++ List.replicate (width - cells first + 2) ' ' ++ right) :: more

/-- The lines of a table. -/
def lines (t : Table) : List Text :=
  (t.names :: t.rows).flatMap fun (left, right) => rowLines t.width left right

end Table

end WikiCasing.Console
