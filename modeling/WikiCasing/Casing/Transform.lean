import WikiCasing.Casing.Command
import WikiCasing.Unicode.CaseMap
import WikiCasing.Unicode.Cased
import WikiCasing.Unicode.Category

/-!
# Casing transforms

The transforms behind the four commands, on texts of any script.

* `lower` lowers a whole text, a capital sigma by its context; `lowerFirstWord` lowers the
  leading word only.
* `upper` raises a whole text.
* `capital` lowers a text and raises its first character.
* `title` lowers a text and raises the first letter of each word. A word goes on through
  letters, marks, numbers and underscores, and through an apostrophe between two of them.

Every transform is defined on every text, the empty one included.
-/

namespace WikiCasing.Casing

open Unicode

/-- The straight and the curly apostrophe. -/
def isApostrophe (c : Char) : Bool := c = '\'' || c = '’'

/-- A character that continues a word. -/
def isWordChar (c : Char) : Bool := isLetter c || isMark c || isNumber c || c = '_'

/-! ## Lower case -/

/-- The next character that the context of a sigma does not skip is cased. -/
def beforeCased (rest : Text) : Bool :=
  match rest.dropWhile isCaseIgnorable with
  | c :: _ => isCased c
  | [] => false

/-- The lower case of a capital sigma: final after a cased character and not before one. -/
def lowerSigma (afterCased : Bool) (rest : Text) : Char :=
  if afterCased && !beforeCased rest then 'ς' else 'σ'

/-- Whether the last character that the context of a sigma does not skip is cased, once `c` has
been read too. -/
def casedAfter (afterCased : Bool) (c : Char) : Bool :=
  if isCaseIgnorable c then afterCased else isCased c

/-- The lower case of a text that stands after a cased character or not. -/
def lowerFrom (afterCased : Bool) : Text → Text
  | [] => []
  | c :: cs =>
    (if c = 'Σ' then [lowerSigma afterCased cs] else lowerChar c) ++
      lowerFrom (casedAfter afterCased c) cs

/-- The lower case of a text. -/
def lower (text : Text) : Text := lowerFrom false text

/-- A character of a leading word: a letter, a mark or an apostrophe. -/
def opensText (c : Char) : Bool := isApostrophe c || isLetter c || isMark c

/-- The leading word of a text in lower case, as if it stood alone, and the rest untouched. -/
def lowerFirstWord (text : Text) : Text :=
  lower (text.takeWhile opensText) ++ text.dropWhile opensText

/-! ## Upper case, title case and capital case -/

/-- The upper case of a text. -/
def upper (text : Text) : Text := text.flatMap upperChar

/-- The lower case of a text with its first character raised. -/
def capital (text : Text) : Text :=
  match lower text with
  | [] => []
  | c :: cs => upperChar c ++ cs

/-- A letter opens a word here, where `before` is what stands before it, nearest first: it does
at the start of the text and after a character that continues no word, unless that is an
apostrophe which itself follows a word. -/
def opensWord : (before : Text) → Bool
  | [] => true
  | [p] => !isWordChar p
  | p :: q :: _ => !isWordChar p && !(isApostrophe p && isWordChar q)

/-- Each letter that opens a word raised, and all else kept. -/
def raiseWords (before : Text) : Text → Text
  | [] => []
  | c :: cs =>
    (if isLetter c && opensWord before then upperChar c else [c]) ++ raiseWords (c :: before) cs

/-- The lower case of a text with the first letter of each word raised. -/
def title (text : Text) : Text := raiseWords [] (lower text)

/-! ## The transform of a command -/

/-- What a command does to a text. `firstWordOnly` matters to `Command.lower` alone. -/
def apply (command : Command) (firstWordOnly : Bool) (text : Text) : Text :=
  match command with
  | .lower => if firstWordOnly then lowerFirstWord text else lower text
  | .upper => upper text
  | .title => title text
  | .capital => capital text

end WikiCasing.Casing
