import WikiCasing.Console.Emoji
import WikiCasing.Console.Line
import WikiCasing.Console.Style

/-!
# Marked-up messages

Messages to the console are marked up: a tag in square brackets opens a style, and a tag that
begins with a slash closes one, the last that is open if it names none. A backslash before a tag
makes it plain text, and two stand for one. What is not shown in a style, as here, is what
remains when the tags are taken out, with emoji in place of their names, blanks in place of tabs,
and without the control characters that would move the cursor or ring the bell.
-/

namespace WikiCasing.Console

/-- A character that a tag can begin with. -/
def opensTag (c : Char) : Bool :=
  ('a' ≤ c && c ≤ 'z') || c = '#' || c = '/' || c = '@'

/-- The inside of a tag up to its closing bracket, which no other opening bracket precedes, and
what follows the tag. -/
def readTag? : Text → Option (Text × Text)
  | [] => none
  | ']' :: cs => some ([], cs)
  | '[' :: _ => none
  | c :: cs => (readTag? cs).map fun (name, rest) => (c :: name, rest)

/-- The tag that a text begins with, and what follows it. -/
def tag? : Text → Option (Text × Text)
  | '[' :: c :: cs =>
    if opensTag c then (readTag? cs).map fun (name, rest) => (c :: name, rest) else none
  | _ => none

/-- A piece of a message: a character, or a tag with the backslashes before it. -/
inductive Piece where
  | plain (c : Char)
  | tag (backslashes : Nat) (name : Text)

/-- The tag that a text begins with behind any number of backslashes. -/
def escapedTag? (t : Text) : Option (Nat × Text) :=
  let backslashes := (t.takeWhile (· = '\\')).length
  (tag? (t.drop backslashes)).map fun (name, _) => (backslashes, name)

/-- The pieces of what is left of a message once `skip` characters have been passed over. -/
def piecesAfter : (skip : Nat) → Text → List Piece
  | _, [] => []
  | skip + 1, _ :: cs => piecesAfter skip cs
  | 0, c :: cs =>
    match escapedTag? (c :: cs) with
    | some (n, name) => .tag n name :: piecesAfter (n + name.length + 1) cs
    | none => .plain c :: piecesAfter 0 cs

/-- The pieces of a message. -/
def pieces (t : Text) : List Piece := piecesAfter 0 t

/-- A tag as it is written. -/
def written (name : Text) : Text := '[' :: (name ++ [']'])

/-- A text that a message shows as it is. A backslash at the very end is doubled, lest it escape
the tag that follows. -/
def escape (t : Text) : Text :=
  let escaped := (pieces t).flatMap fun
    | .plain c => [c]
    | .tag n name => List.replicate (2 * n + 1) '\\' ++ written name
  if escaped.getLast? = some '\\' && escaped.dropLast.getLast? != some '\\' then
    escaped ++ ['\\']
  else escaped

/-- Plain text between tags: a backslash before an opening bracket is not shown. -/
def unescapeBrackets : Text → Text
  | [] => []
  | '\\' :: '[' :: cs => '[' :: unescapeBrackets cs
  | c :: cs => c :: unescapeBrackets cs

/-- Why a message cannot be shown: a closing tag has nothing to close, or a tag has no meaning. -/
inductive MarkupError where
  /-- The style that the tag closes is not open. -/
  | unmatched (tag : Text) (place : Nat)
  /-- No style is open. -/
  | nothingOpen (place : Nat)
  /-- A part of a colour has no digits. -/
  | emptyPart
deriving DecidableEq, Repr

/-- The words for a message that cannot be shown. -/
def MarkupError.message : MarkupError → Text
  | unmatched tag place =>
    "closing tag '".toList ++ tag ++ "' at position ".toList ++ Text.ofNat place ++
      " doesn't match any open tag".toList
  | nothingOpen place =>
    "closing tag '[/]' at position ".toList ++ Text.ofNat place ++ " has nothing to close".toList
  | emptyPart => "invalid literal for int() with base 10: ''".toList

/-- The styles that are open behind a tag, the last one first. What is set in the tag behind an
equals sign does not count. -/
def afterTag (styles : List Text) (name : Text) (place : Nat) : Except MarkupError (List Text) :=
  match name.takeWhile (· ≠ '=') with
  | '/' :: closed =>
    if (Text.trim closed).isEmpty then
      match styles with
      | _ :: rest => .ok rest
      | [] => .error (.nothingOpen place)
    else
      match Style.normal? (Text.trim closed) with
      | none => .error .emptyPart
      | some style =>
        if styles.contains style then .ok (styles.erase style)
        else .error (.unmatched (written name) place)
  | opened =>
    match Style.normal? opened with
    | none => .error .emptyPart
    | some style => .ok (style :: styles)

/-- Plain text as it is shown. -/
def showPlain (t : Text) : Text := withEmoji (unescapeBrackets t)

/-- What is left of a message once its first `place` characters have been read, without its tags,
`pending` being the plain text since the last tag and `styles` the styles that are open. -/
def showPieces (place : Nat) (pending : Text) (styles : List Text) :
    List Piece → Except MarkupError Text
  | [] => .ok (showPlain pending)
  | .plain c :: rest => showPieces (place + 1) (pending ++ [c]) styles rest
  | .tag n name :: rest =>
    let next := place + n + (written name).length
    let before := showPlain pending ++ List.replicate (n / 2) '\\'
    if n % 2 = 1 then
      (showPieces next [] styles rest).map (before ++ showPlain (written name) ++ ·)
    else
      match afterTag styles name (place + n) with
      | .ok styles => (showPieces next [] styles rest).map (before ++ ·)
      | .error e => .error e

/-- A control character that is never shown: the bell, and what moves the cursor back or down. -/
def isHidden (c : Char) : Bool :=
  c = '\x07' || c = '\x08' || c = '\x0b' || c = '\x0c' || c = '\r'

/-- A message without its markup, with tabs as they are. -/
def unmark (message : Text) : Except MarkupError Text :=
  (showPieces 0 [] [] (pieces message)).map (·.filter (!isHidden ·))

/-- What a message shows. -/
def display (message : Text) : Except MarkupError Text := (unmark message).map expandTabs

/-- What a cell of a table shows of a text that is escaped. -/
def cell (t : Text) : Text := (unmark (escape t)).toOption.getD t

/-- What is shown of a text in which tags do not count. -/
def verbatim (t : Text) : Text := expandTabs ((withEmoji t).filter (!isHidden ·))

end WikiCasing.Console
