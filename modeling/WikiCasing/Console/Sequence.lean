import WikiCasing.Text.Basic

/-!
# Control sequences

A control sequence tells a terminal to do something: the escape character, an opening bracket,
parameters, and a letter. What is not written to a terminal is written without them.
-/

namespace WikiCasing.Console

/-- A character of the parameters of a control sequence. -/
def isParameter (c : Char) : Bool := c = ';' || c = '?' || ('0' ≤ c && c ≤ '9')

/-- A letter that ends a control sequence. -/
def endsSequence (c : Char) : Bool := ('a' ≤ c && c ≤ 'z') || ('A' ≤ c && c ≤ 'Z')

/-- The length of the control sequence that a text begins with. -/
def sequence? : Text → Option Nat
  | '\x1b' :: '[' :: cs =>
    match cs.dropWhile isParameter with
    | c :: _ => if endsSequence c then some ((cs.takeWhile isParameter).length + 3) else none
    | [] => none
  | _ => none

/-- What is left of a text without control sequences once `skip` characters have been passed
over. -/
def withoutSequencesAfter : (skip : Nat) → Text → Text
  | _, [] => []
  | skip + 1, _ :: cs => withoutSequencesAfter skip cs
  | 0, c :: cs =>
    match sequence? (c :: cs) with
    | some length => withoutSequencesAfter (length - 1) cs
    | none => c :: withoutSequencesAfter 0 cs

/-- A text without its control sequences. -/
def withoutSequences (t : Text) : Text := withoutSequencesAfter 0 t

/-- A character that stands in no control sequence. -/
structure OutsideSequences (c : Char) : Prop where
  ne_escape : c ≠ '\x1b'
  ne_open : c ≠ '['
  not_parameter : isParameter c = false
  not_end : endsSequence c = false

/-- What is known of a console that does not write to a terminal: a text in which no control
sequence begins is written as it is, one in which some begin is made shorter, and a character that
stands in no control sequence is neither left out nor brought in. -/
structure LawfulEcho (echo : Text → Text) : Prop where
  echo_eq : ∀ t, (∀ u, u <:+ t → sequence? u = none) → echo t = t
  length_lt : ∀ t u, u <:+ t → sequence? u ≠ none → (echo t).length < t.length
  mem_iff : ∀ c t, OutsideSequences c → (c ∈ echo t ↔ c ∈ t)

end WikiCasing.Console
