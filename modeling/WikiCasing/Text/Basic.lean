/-!
# Text

A text is a list of Unicode code points. Every offset, caret and length of this library counts
code points, so that the length of a text is the length of the list and a caret is a number of
characters.
-/

namespace WikiCasing

/-- A text, one character a code point. -/
abbrev Text := List Char

namespace Text

/-- A text cut at every character of some kind: the pieces between them, one more than there
are. -/
def cutWhere (ends : Char → Bool) : Text → List Text
  | [] => [[]]
  | c :: cs =>
    if ends c then [] :: cutWhere ends cs
    else
      match cutWhere ends cs with
      | piece :: pieces => (c :: piece) :: pieces
      | [] => [[c]]

/-- A text cut at every occurrence of a sign. -/
def cutAt (sign : Char) (t : Text) : List Text := t.cutWhere (· = sign)

/-- Texts joined by a sign. -/
def joinWith (sign : Char) : List Text → Text
  | [] => []
  | [t] => t
  | t :: ts => t ++ sign :: joinWith sign ts

/-- A text without the characters of some kind at its ends. -/
def trimOf (blank : Char → Bool) (t : Text) : Text :=
  ((t.dropWhile blank).reverse.dropWhile blank).reverse

/-- A text with every line end turned into a line feed: a carriage return followed by a line feed,
and a carriage return alone. -/
def universalNewlines : Text → Text
  | [] => []
  | '\r' :: '\n' :: cs => '\n' :: universalNewlines cs
  | '\r' :: cs => '\n' :: universalNewlines cs
  | c :: cs => c :: universalNewlines cs

/-- The decimal digits of a number. -/
def ofNat (n : Nat) : Text := Nat.toDigits 10 n

/-- The decimal digits of an integer, after a minus sign if it is negative. -/
def ofInt (i : Int) : Text := if i < 0 then '-' :: ofNat i.natAbs else ofNat i.natAbs

end Text

end WikiCasing
