import WikiCasing.Unicode.Basic

/-!
# Reading an integer

The plain form of an integer is a zero, or decimal digits that do not begin with one, with a
minus sign before them or not. A text may depart from the plain form in a few ways: there may be
white space around it, a plus sign, zeros in front of the first other digit or of the minus sign,
single underscores between the digits, and a point with nothing but zeros behind it. `tidy?`
undoes these one after the other, and `toInt?` reads what is left.
-/

namespace WikiCasing.Text

/-- A decimal digit. -/
def isDigit (c : Char) : Bool := '0' ≤ c && c ≤ '9'

/-- The number that some decimal digits write. -/
def digitsValue (digits : Text) : Nat := digits.foldl (fun n c => n * 10 + (c.toNat - 48)) 0

/-! ## The plain form -/

/-- The number that plain digits write. -/
def plainNat? (digits : Text) : Option Nat :=
  match digits with
  | [] => none
  | ['0'] => some 0
  | c :: _ => if c ≠ '0' ∧ digits.all isDigit then some (digitsValue digits) else none

/-- The most characters of an integer, its sign included. -/
def maxIntegerLength : Nat := 4300

/-- The integer that a text writes in the plain form. -/
def plainInt? (t : Text) : Option Int :=
  if maxIntegerLength < t.length then none
  else
    match t with
    | '-' :: digits => (plainNat? digits).map fun n => -(n : Int)
    | digits => (plainNat? digits).map Int.ofNat

/-! ## Other forms -/

/-- White space that may stand around an integer: all but the four information separators. -/
def isMargin (c : Char) : Bool := Unicode.isSpace c && !(0x1C ≤ c.toNat && c.toNat ≤ 0x1F)

/-- A text without the plus sign it begins with, which no minus sign may follow. -/
def dropPlus? : Text → Option Text
  | '+' :: '-' :: _ => none
  | '+' :: cs => some cs
  | cs => some cs

/-- What is left of a text behind a zero when the zeros and underscores that follow it are passed
over. The last of them stays where no digit follows, that is, at the end and before a point. A
minus sign may stand behind them. -/
def dropZerosAfter? (last : Char) : Text → Option Text
  | [] => some [last]
  | c :: cs =>
    if c = '0' ∨ c = '_' then dropZerosAfter? c cs
    else if c = '.' then some (last :: c :: cs)
    else if isDigit c ∨ c = '-' then some (c :: cs)
    else none

/-- A text that begins with a digit, without needless zeros in front. -/
def dropZeros? : Text → Option Text
  | [] => none
  | c :: cs =>
    if c = '0' then dropZerosAfter? c cs
    else if isDigit c then some (c :: cs)
    else none

/-- A text without needless zeros behind the minus sign it may begin with. -/
def dropSignedZeros? : Text → Option Text
  | '-' :: cs => (dropZeros? cs).map ('-' :: ·)
  | cs => dropZeros? cs

/-- A text without the point and the zeros at its end. -/
def dropDecimals (t : Text) : Text :=
  match t.dropWhile (· ≠ '.') with
  | _ :: c :: cs => if (c :: cs).all (· = '0') then t.takeWhile (· ≠ '.') else t
  | _ => t

/-- Two underscores stand next to each other. -/
def hasGap : Text → Bool
  | '_' :: '_' :: _ => true
  | _ :: cs => hasGap cs
  | [] => false

/-- A text without its underscores, if they are single and none is first or last. -/
def dropUnderscores (t : Text) : Text :=
  if t.head? = some '_' ∨ t.getLast? = some '_' ∨ hasGap t then t else t.filter (· ≠ '_')

/-- A text without what may depart from the plain form. -/
def tidy? (t : Text) : Option Text := do
  let unsigned ← dropPlus? (t.trimOf isMargin)
  let short ← dropSignedZeros? unsigned
  return dropUnderscores (dropDecimals short)

/-- The integer that a text writes. -/
def toInt? (t : Text) : Option Int := t.tidy?.bind plainInt?

end WikiCasing.Text
