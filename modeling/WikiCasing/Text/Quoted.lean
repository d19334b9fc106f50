import WikiCasing.Json.Value
import WikiCasing.Unicode.Printable

/-!
# Values shown in messages

A message shows a text between quotes, in which a backslash, the quote, and every character that
has no glyph of its own are escaped; the other values are shown by their usual names.
-/

namespace WikiCasing

namespace Text

/-- The digit of a number below sixteen. -/
def hexDigit (n : Nat) : Char := Char.ofNat (if n < 10 then 48 + n else 87 + n)

/-- The last `width` hexadecimal digits of a number. -/
def hex : (width : Nat) → Nat → Text
  | 0, _ => []
  | width + 1, n => hex width (n / 16) ++ [hexDigit (n % 16)]

/-- One character of a quoted text. -/
def quoteChar (mark c : Char) : Text :=
  if c = mark || c = '\\' then ['\\', c]
  else if c = '\n' then ['\\', 'n']
  else if c = '\r' then ['\\', 'r']
  else if c = '\t' then ['\\', 't']
  else if Unicode.isPrintable c then [c]
  else if c.toNat < 0x100 then '\\' :: 'x' :: hex 2 c.toNat
  else if c.toNat < 0x10000 then '\\' :: 'u' :: hex 4 c.toNat
  else '\\' :: 'U' :: hex 8 c.toNat

/-- The quote around a text: double if the text holds single quotes and no double one. -/
def quoteMark (t : Text) : Char := if t.contains '\'' && !t.contains '"' then '"' else '\''

/-- A text between quotes. -/
def quoted (t : Text) : Text :=
  let mark := quoteMark t
  mark :: (t.flatMap (quoteChar mark) ++ [mark])

end Text

/-! ## Numbers -/

/-- The digits of a decimal without the zeros at their end, and where the point stands among
them: how many digits are before it, less the zeros between the point and the first digit. -/
def Decimal.pointed (d : Decimal) : Text × Int :=
  ((Text.ofNat d.digits).reverse.dropWhile (· = '0') |>.reverse, d.places)

/-- Digits with a point among them. -/
def showPositional (digits : Text) (point : Int) : Text :=
  let zeros (n : Int) : Text := List.replicate n.toNat '0'
  if point ≤ 0 then '0' :: '.' :: (zeros (-point) ++ digits)
  else if digits.length ≤ point then digits ++ zeros (point - digits.length) ++ ['.', '0']
  else digits.take point.toNat ++ '.' :: digits.drop point.toNat

/-- Digits with the point behind the first, and the power of ten in two digits or more. -/
def showScientific (digits : Text) (point : Int) : Text :=
  let power := point - 1
  let size := Text.ofNat power.natAbs
  digits.take 1 ++ (if digits.length ≤ 1 then [] else '.' :: digits.drop 1) ++
    ['e', if power < 0 then '-' else '+'] ++
      (if size.length < 2 then '0' :: size else size)

/-- The size of a number, in as few digits as stand for it: with a point among them from `0.0001`
up to sixteen places before the point, and with a power of ten beyond. -/
def Double.shown (x : Double) : Text :=
  if x = .zero then ['0', '.', '0']
  else
    match x.shortest? with
    | none => "inf".toList
    | some d =>
      let (digits, point) := d.pointed
      if -4 < point ∧ point ≤ 16 then showPositional digits point
      else showScientific digits point

/-- A real number as a message shows it. -/
def Real.shown : Real → Text
  | .decimal d => (if d.negative then ['-'] else []) ++ d.nearest.shown
  | .infinite negative => (if negative then ['-'] else []) ++ Double.infinite.shown
  | .undefined => "nan".toList

/-! ## Values -/

mutual

/-- A value as a message shows it. -/
def Json.shown : Json → Text
  | .null => "None".toList
  | .bool true => "True".toList
  | .bool false => "False".toList
  | .int i => Text.ofInt i
  | .real r => r.shown
  | .text t => t.quoted
  | .list items => '[' :: (Json.shownItems items ++ [']'])
  | .object members => '\x7b' :: (Json.shownMembers members ++ ['\x7d'])

/-- The items of a list, with commas between them. -/
def Json.shownItems : List Json → Text
  | [] => []
  | [v] => v.shown
  | v :: vs => v.shown ++ ',' :: ' ' :: Json.shownItems vs

/-- The members of an object, with commas between them. -/
def Json.shownMembers : List (Text × Json) → Text
  | [] => []
  | [(k, v)] => k.quoted ++ ':' :: ' ' :: v.shown
  | (k, v) :: ms => k.quoted ++ ':' :: ' ' :: (v.shown ++ ',' :: ' ' :: Json.shownMembers ms)

end

end WikiCasing
