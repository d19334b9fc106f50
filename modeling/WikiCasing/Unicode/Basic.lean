import WikiCasing.Text.Basic

/-!
# Sets of code points, white space and digits

A property of code points holds on runs of neighbours. A set is therefore written as the
ascending list of the code points at which membership changes: the first run begins at the first
of them and ends before the second, and so on.

White space separates words and lines: the ASCII blanks, the four information separators, and the
line, paragraph and space separators of Unicode. The decimal digits of each script are ten
neighbours in order of their values.
-/

namespace WikiCasing

namespace Unicode

/-- A set of code points, by the points at which membership changes. -/
structure CodeSet where
  changes : List Nat

/-- Membership after the changes up to `n`, when it was `inside` before the first of them. -/
def CodeSet.follow (n : Nat) : List Nat → Bool → Bool
  | [], inside => inside
  | b :: bs, inside => if n < b then inside else follow n bs (!inside)

/-- The set holds this character. -/
def CodeSet.has (s : CodeSet) (c : Char) : Bool := CodeSet.follow c.toNat s.changes false

/-- Code points of white space. -/
def spaces : CodeSet :=
  ⟨[
    0x0009, 0x000E, 0x001C, 0x0021, 0x0085, 0x0086, 0x00A0, 0x00A1, 0x1680, 0x1681, 0x2000, 0x200B,
    0x2028, 0x202A, 0x202F, 0x2030, 0x205F, 0x2060, 0x3000, 0x3001]⟩

/-- A white-space character. -/
def isSpace (c : Char) : Bool := spaces.has c

/-- The zeros of the scripts that have decimal digits, ascending. -/
def zeros : List Nat :=
  [
    0x0030, 0x0660, 0x06F0, 0x07C0, 0x0966, 0x09E6, 0x0A66, 0x0AE6, 0x0B66, 0x0BE6, 0x0C66, 0x0CE6,
    0x0D66, 0x0DE6, 0x0E50, 0x0ED0, 0x0F20, 0x1040, 0x1090, 0x17E0, 0x1810, 0x1946, 0x19D0, 0x1A80,
    0x1A90, 0x1B50, 0x1BB0, 0x1C40, 0x1C50, 0xA620, 0xA8D0, 0xA900, 0xA9D0, 0xA9F0, 0xAA50, 0xABF0,
    0xFF10, 0x104A0, 0x10D30, 0x11066, 0x110F0, 0x11136, 0x111D0, 0x112F0, 0x11450, 0x114D0,
    0x11650, 0x116C0, 0x11730, 0x118E0, 0x11950, 0x11C50, 0x11D50, 0x11DA0, 0x16A60, 0x16AC0,
    0x16B50, 0x1D7CE, 0x1D7D8, 0x1D7E2, 0x1D7EC, 0x1D7F6, 0x1E140, 0x1E2F0, 0x1E950, 0x1FBF0]

/-- The value of a decimal digit. -/
def digitValue? (c : Char) : Option Nat :=
  (zeros.find? fun first => first ≤ c.toNat && c.toNat < first + 10).map (c.toNat - ·)

end Unicode

namespace Text

/-- A text without the white space at its ends. -/
def trim (t : Text) : Text := t.trimOf Unicode.isSpace

/-- The words of a text, that is, what stands between white space. -/
def words (t : Text) : List Text := (t.cutWhere Unicode.isSpace).filter (!·.isEmpty)

end Text

end WikiCasing
