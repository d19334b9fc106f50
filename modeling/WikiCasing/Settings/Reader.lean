import WikiCasing.Casing.Command
import WikiCasing.Json.Syntax
import WikiCasing.Json.Value
import WikiCasing.Text.Utf8

/-!
# Reading settings

Settings are a JSON object with one member that counts, under its stored name or, failing that,
under its long name; the other members are ignored. Its value may be a truth value or something
that stands for one: the numbers zero and one, and a few words in any case.
-/

namespace WikiCasing

/-- Why a value is no truth value. -/
inductive FlagError where
  /-- A word or a whole number that stands for no truth value. -/
  | unreadable
  /-- A value of a kind that never stands for one. -/
  | wrongKind
deriving DecidableEq, Repr

/-- The name of an error. -/
def FlagError.name : FlagError → Text
  | .unreadable => "bool_parsing".toList
  | .wrongKind => "bool_type".toList

/-- The words for an error. -/
def FlagError.message : FlagError → Text
  | .unreadable => "Input should be a valid boolean, unable to interpret input".toList
  | .wrongKind => "Input should be a valid boolean".toList

/-- The words that stand for false. -/
def falseWords : List Text := ["0", "off", "f", "false", "n", "no"].map String.toList

/-- The words that stand for true. -/
def trueWords : List Text := ["1", "on", "t", "true", "y", "yes"].map String.toList

/-- A whole number that fits into 64 bits. -/
def fitsWord (i : Int) : Bool := -(Nat.pow 2 63 : Nat) ≤ i && i < (Nat.pow 2 63 : Nat)

/-- The truth value that a value stands for. Words are told apart in ASCII lower case. -/
def Json.flag : Json → Except FlagError Bool
  | .bool b => .ok b
  | .int i =>
    if i = 0 then .ok false
    else if i = 1 then .ok true
    else if fitsWord i then .error .unreadable
    else .error .wrongKind
  | .real (.decimal d) =>
    if d.isZero then .ok false else if d.isOne then .ok true else .error .wrongKind
  | .text t =>
    let word := t.map Char.toLower
    if falseWords.contains word then .ok false
    else if trueWords.contains word then .ok true
    else .error .unreadable
  | _ => .error .wrongKind

/-- The kind of a value, by name. -/
def Json.kind : Json → Text
  | .null => "NoneType".toList
  | .bool _ => "bool".toList
  | .int _ => "int".toList
  | .real _ => "float".toList
  | .text _ => "str".toList
  | .list _ => "list".toList
  | .object _ => "dict".toList

namespace Settings

/-- The name under which the setting is stored. -/
def storedName : Text := "lowercaseFirstWordOnly".toList

/-- The long name of the setting. -/
def longName : Text := "lowercase_first_word_only".toList

/-- A member that should be a truth value and is not. -/
structure MemberError where
  key : Text
  error : FlagError
deriving DecidableEq, Repr

/-- The settings that the members of an object give. -/
def ofMembers (members : List (Text × Json)) : Except MemberError Settings :=
  let read (key : Text) (value : Json) : Except MemberError Settings :=
    match value.flag with
    | .ok b => .ok ⟨b⟩
    | .error e => .error ⟨key, e⟩
  match Json.member? storedName members, Json.member? longName members with
  | some value, _ => read storedName value
  | none, some value => read longName value
  | none, none => .ok .standard

/-- The most lists and objects inside each other that stored settings may hold. -/
def maxNesting : Nat := 988

/-- Why stored settings cannot be read. -/
inductive Problem where
  | undecodable
  | malformed
  | tooDeep (container : Json.Container)
  | notAnObject (kind : Text)
  | invalid (error : MemberError)
deriving DecidableEq, Repr

/-- The words for a problem. -/
def Problem.message : Problem → Text
  | undecodable => "invalid UTF-8".toList
  | malformed => "invalid JSON".toList
  | tooDeep container =>
    "maximum recursion depth exceeded while decoding a JSON ".toList ++ container.name ++
      " from a unicode string".toList
  | notAnObject kind => "expected a JSON object, got ".toList ++ kind
  | invalid error => error.key ++ ": ".toList ++ error.error.message

/-- The settings that a file holds. -/
def ofBytes (bytes : Bytes) : Except Problem Settings :=
  match Utf8.decode bytes with
  | none => .error .undecodable
  | some t =>
    match Json.parse maxNesting t with
    | .error .malformed => .error .malformed
    | .error (.tooDeep container) => .error (.tooDeep container)
    | .ok (.object members) =>
      match ofMembers members with
      | .ok s => .ok s
      | .error e => .error (.invalid e)
    | .ok value => .error (.notAnObject value.kind)

end Settings

end WikiCasing
