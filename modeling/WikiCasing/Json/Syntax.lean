import WikiCasing.Json.Value
import WikiCasing.Text.Quoted

/-!
# Reading and writing JSON

The grammar of JSON with three more numbers, `NaN`, `Infinity` and `-Infinity`. White space is
the space, the tab, the line feed and the carriage return. A text between quotes holds no raw
control character. A whole number has at most 4300 digits; a number with a point or an exponent
may have any number of them. An escaped half of a surrogate pair that stands alone is read as the
replacement character. Lists and objects may be limited in how deep they are nested.

Texts are written in printable ASCII: a character beyond it is escaped, by a letter of its own or
by the four digits of each of its UTF-16 units.
-/

namespace WikiCasing.Json

/-! ## Reading -/

/-- White space between the parts of a value. -/
def isBlank (c : Char) : Bool := c = ' ' || c = '\t' || c = '\n' || c = '\r'

/-- A text without the white space it begins with. -/
def skipBlank (t : Text) : Text := t.dropWhile isBlank

/-- The rest of a text behind a word it begins with. -/
def after? (word : Text) (t : Text) : Option Text :=
  if word.isPrefixOf t then some (t.drop word.length) else none

/-! ## Texts between quotes -/

/-- The value of a hexadecimal digit. -/
def hexValue? (c : Char) : Option Nat :=
  if '0' ≤ c ∧ c ≤ '9' then some (c.toNat - 48)
  else if 'a' ≤ c ∧ c ≤ 'f' then some (c.toNat - 87)
  else if 'A' ≤ c ∧ c ≤ 'F' then some (c.toNat - 55)
  else none

/-- The number of four hexadecimal digits that a text begins with. -/
def hexFour? : Text → Option Nat
  | a :: b :: c :: d :: _ => do
    let a ← hexValue? a
    let b ← hexValue? b
    let c ← hexValue? c
    let d ← hexValue? d
    return ((a * 16 + b) * 16 + c) * 16 + d
  | _ => none

/-- The first half of a surrogate pair. -/
def isHighSurrogate (n : Nat) : Bool := 0xD800 ≤ n && n < 0xDC00

/-- The second half of a surrogate pair. -/
def isLowSurrogate (n : Nat) : Bool := 0xDC00 ≤ n && n < 0xE000

/-- The code point of a surrogate pair. -/
def joinSurrogates (high low : Nat) : Nat := 0x10000 + (high - 0xD800) * 0x400 + (low - 0xDC00)

/-- The character of a number; the replacement character for half a pair. -/
def charOf (n : Nat) : Char := if n.isValidChar then Char.ofNat n else '\ufffd'

/-- The character of a one-letter escape. -/
def escapedChar? (c : Char) : Option Char :=
  if c = '"' || c = '\\' || c = '/' then some c
  else if c = 'b' then some '\x08'
  else if c = 'f' then some '\x0c'
  else if c = 'n' then some '\n'
  else if c = 'r' then some '\r'
  else if c = 't' then some '\t'
  else none

/-- The character that an escape stands for, where a text goes on behind the backslash, and the
number of characters of the escape without its backslash. -/
def readEscape? : Text → Option (Char × Nat)
  | 'u' :: rest => do
    let n ← hexFour? rest
    if isHighSurrogate n then
      match rest.drop 4 with
      | '\\' :: 'u' :: more =>
        let m ← hexFour? more
        if isLowSurrogate m then return (charOf (joinSurrogates n m), 11)
        else return (charOf n, 5)
      | _ => return (charOf n, 5)
    else return (charOf n, 5)
  | c :: _ => (escapedChar? c).map (·, 1)
  | [] => none

/-- The characters up to the closing quote, and what follows it, once `skip` characters have been
passed over. -/
def readTextAfter : (skip : Nat) → Text → Option (Text × Text)
  | _, [] => none
  | skip + 1, _ :: cs => readTextAfter skip cs
  | 0, c :: cs =>
    if c = '"' then some ([], cs)
    else if c = '\\' then
      match readEscape? cs with
      | some (e, width) => (readTextAfter width cs).map fun (t, rest) => (e :: t, rest)
      | none => none
    else if c.toNat < 0x20 then none
    else (readTextAfter 0 cs).map fun (t, rest) => (c :: t, rest)

/-- A text whose opening quote has been read, and what follows the closing one. -/
def readText? (t : Text) : Option (Text × Text) := readTextAfter 0 t

/-! ## Numbers -/

/-- A decimal digit. -/
def isDigit (c : Char) : Bool := '0' ≤ c && c ≤ '9'

/-- The number that some decimal digits write. -/
def digitsValue (ds : Text) : Nat := ds.foldl (fun n c => n * 10 + (c.toNat - 48)) 0

/-- Digits behind a point, if there is a point with a digit behind it. -/
def readFraction : Text → Text × Text
  | '.' :: rest =>
    let ds := rest.takeWhile isDigit
    if ds.isEmpty then ([], '.' :: rest) else (ds, rest.dropWhile isDigit)
  | t => ([], t)

/-- An exponent, if there is one with a digit in it. -/
def readExponent (t : Text) : Option Int × Text :=
  match t with
  | e :: rest =>
    if e = 'e' || e = 'E' then
      let (negative, rest) := match rest with
        | '-' :: more => (true, more)
        | '+' :: more => (false, more)
        | more => (false, more)
      let ds := rest.takeWhile isDigit
      if ds.isEmpty then (none, t)
      else
        let n : Int := digitsValue ds
        (some (if negative then -n else n), rest.dropWhile isDigit)
    else (none, t)
  | [] => (none, t)

/-- The most digits of a whole number. -/
def maxDigits : Nat := 4300

/-- The digits before a point: a zero alone, or digits that do not begin with a zero. -/
def readWhole? : Text → Option (Text × Text)
  | [] => none
  | c :: cs =>
    if c = '0' then some (['0'], cs)
    else if isDigit c then some ((c :: cs).takeWhile isDigit, (c :: cs).dropWhile isDigit)
    else none

/-- A number without its sign. -/
def readUnsigned? (negative : Bool) (t : Text) : Option (Json × Text) :=
  match readWhole? t with
  | none => none
  | some (whole, rest) =>
    let (fraction, rest) := readFraction rest
    let (exponent, rest) := readExponent rest
    if fraction.isEmpty && exponent.isNone then
      if whole.length ≤ maxDigits then
        let n : Int := digitsValue whole
        some (.int (if negative then -n else n), rest)
      else none
    else
      let value := ⟨negative, digitsValue (whole ++ fraction), exponent.getD 0 - fraction.length⟩
      some (.real (.decimal value), rest)

/-- A number, or one of the words for a number. -/
def readNumber? (t : Text) : Option (Json × Text) :=
  match after? "NaN".toList t with
  | some rest => some (.real .undefined, rest)
  | none =>
  match after? "Infinity".toList t with
  | some rest => some (.real (.infinite false), rest)
  | none =>
  match after? "-Infinity".toList t with
  | some rest => some (.real (.infinite true), rest)
  | none =>
  match t with
  | '-' :: rest => readUnsigned? true rest
  | _ => readUnsigned? false t

/-- One of the three words, or a number. -/
def readWord? (t : Text) : Option (Json × Text) :=
  match after? "null".toList t with
  | some rest => some (.null, rest)
  | none =>
  match after? "true".toList t with
  | some rest => some (.bool true, rest)
  | none =>
  match after? "false".toList t with
  | some rest => some (.bool false, rest)
  | none => readNumber? t

/-! ## Values -/

/-- What values are nested in. -/
inductive Container where
  | list
  | object
deriving DecidableEq, Repr

/-- The name of a container in messages. -/
def Container.name : Container → Text
  | list => "array".toList
  | object => "object".toList

/-- Why a text is not read as a value. -/
inductive ReadError where
  | malformed
  /-- A container stands deeper in others than is allowed. -/
  | tooDeep (container : Container)
deriving DecidableEq, Repr

/-- Something read from the beginning of a text, and what follows it. -/
abbrev Reading (α : Type) := α × Text

/-- What was read, or the complaint that the text is malformed. -/
def orMalformed {α : Type} : Option α → Except ReadError α
  | some a => .ok a
  | none => .error .malformed

mutual

/-- A value that a text begins with, and what follows it, where `depth` containers may still be
opened inside each other. Each step uses up some of the text, so `fuel` beyond the length of the
text changes nothing. -/
def readValue : (fuel depth : Nat) → Text → Except ReadError (Reading Json)
  | 0, _, _ => .error .malformed
  | _ + 1, _, '"' :: rest => do
    let (t, rest) ← orMalformed (readText? rest)
    return (.text t, rest)
  | _ + 1, 0, '\x7b' :: _ => .error (.tooDeep .object)
  | fuel + 1, depth + 1, '\x7b' :: rest =>
    match skipBlank rest with
    | '\x7d' :: rest => .ok (.object [], rest)
    | rest => do
      let (members, rest) ← readMembers fuel depth rest
      return (.object members, rest)
  | _ + 1, 0, '[' :: _ => .error (.tooDeep .list)
  | fuel + 1, depth + 1, '[' :: rest =>
    match skipBlank rest with
    | ']' :: rest => .ok (.list [], rest)
    | rest => do
      let (items, rest) ← readItems fuel depth rest
      return (.list items, rest)
  | _ + 1, _, t => orMalformed (readWord? t)

/-- The members of an object up to its closing brace. -/
def readMembers : (fuel depth : Nat) → Text → Except ReadError (Reading (List (Text × Json)))
  | 0, _, _ => .error .malformed
  | fuel + 1, depth, '"' :: rest => do
    let (key, rest) ← orMalformed (readText? rest)
    match skipBlank rest with
    | ':' :: rest =>
      let (value, rest) ← readValue fuel depth (skipBlank rest)
      match skipBlank rest with
      | '\x7d' :: rest => return ([(key, value)], rest)
      | ',' :: rest =>
        let (more, rest) ← readMembers fuel depth (skipBlank rest)
        return ((key, value) :: more, rest)
      | _ => .error .malformed
    | _ => .error .malformed
  | _ + 1, _, _ => .error .malformed

/-- The items of a list up to its closing bracket. -/
def readItems : (fuel depth : Nat) → Text → Except ReadError (Reading (List Json))
  | 0, _, _ => .error .malformed
  | fuel + 1, depth, t => do
    let (value, rest) ← readValue fuel depth t
    match skipBlank rest with
    | ']' :: rest => return ([value], rest)
    | ',' :: rest =>
      let (more, rest) ← readItems fuel depth (skipBlank rest)
      return (value :: more, rest)
    | _ => .error .malformed

end

/-- The value that a text is, white space around it allowed, with no more than `maxDepth`
containers inside each other. -/
def parse (maxDepth : Nat) (t : Text) : Except ReadError Json :=
  match readValue (t.length + 1) maxDepth (skipBlank t) with
  | .ok (value, rest) => if (skipBlank rest).isEmpty then .ok value else .error .malformed
  | .error e => .error e

/-! ## Writing -/

/-- The UTF-16 units of a character. -/
def units (c : Char) : List Nat :=
  if c.toNat < 0x10000 then [c.toNat]
  else [0xD800 + (c.toNat - 0x10000) / 0x400, 0xDC00 + (c.toNat - 0x10000) % 0x400]

/-- One character of a written text. -/
def writeChar (c : Char) : Text :=
  if c = '"' || c = '\\' then ['\\', c]
  else if c = '\n' then ['\\', 'n']
  else if c = '\r' then ['\\', 'r']
  else if c = '\t' then ['\\', 't']
  else if c = '\x08' then ['\\', 'b']
  else if c = '\x0c' then ['\\', 'f']
  else if 0x20 ≤ c.toNat ∧ c.toNat < 0x7F then [c]
  else (units c).flatMap fun n => '\\' :: 'u' :: Text.hex 4 n

/-- A text between quotes. -/
def writeText (t : Text) : Text := '"' :: (t.flatMap writeChar ++ ['"'])

/-- A truth value. -/
def writeBool (b : Bool) : Text := if b then "true".toList else "false".toList

end WikiCasing.Json
