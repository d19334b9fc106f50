import WikiCasing.Text.Basic

/-!
# UTF-8

Files hold bytes. Decoding is strict: it accepts exactly the byte strings that encoding writes,
so it refuses stray and missing continuation bytes, longer forms than needed, surrogates, and
numbers beyond the last code point. A byte-order mark is a character like any other.
-/

namespace WikiCasing

/-- The contents of a file. -/
abbrev Bytes := List UInt8

namespace Utf8

/-- The bytes of one character. -/
def encodeChar (c : Char) : Bytes :=
  let n := c.toNat
  if n < 0x80 then [UInt8.ofNat n]
  else if n < 0x800 then [UInt8.ofNat (0xC0 + n / 0x40), UInt8.ofNat (0x80 + n % 0x40)]
  else if n < 0x10000 then
    [UInt8.ofNat (0xE0 + n / 0x1000), UInt8.ofNat (0x80 + n / 0x40 % 0x40),
      UInt8.ofNat (0x80 + n % 0x40)]
  else
    [UInt8.ofNat (0xF0 + n / 0x40000), UInt8.ofNat (0x80 + n / 0x1000 % 0x40),
      UInt8.ofNat (0x80 + n / 0x40 % 0x40), UInt8.ofNat (0x80 + n % 0x40)]

/-- The bytes of a text. -/
def encode (t : Text) : Bytes := t.flatMap encodeChar

/-- The value of a continuation byte. -/
def tail (b : UInt8) : Nat := b.toNat - 0x80

/-- The code point that some bytes would begin with, if they begin with a character at all. -/
def leading : Bytes → Nat
  | a :: b :: c :: d :: _ =>
    if a.toNat < 0x80 then a.toNat
    else if a.toNat < 0xE0 then (a.toNat - 0xC0) * 0x40 + tail b
    else if a.toNat < 0xF0 then (a.toNat - 0xE0) * 0x1000 + tail b * 0x40 + tail c
    else (a.toNat - 0xF0) * 0x40000 + tail b * 0x1000 + tail c * 0x40 + tail d
  | a :: b :: c :: _ =>
    if a.toNat < 0x80 then a.toNat
    else if a.toNat < 0xE0 then (a.toNat - 0xC0) * 0x40 + tail b
    else (a.toNat - 0xE0) * 0x1000 + tail b * 0x40 + tail c
  | a :: b :: _ => if a.toNat < 0x80 then a.toNat else (a.toNat - 0xC0) * 0x40 + tail b
  | a :: _ => a.toNat
  | [] => 0

/-- The character whose bytes some bytes begin with. -/
def readChar? (bytes : Bytes) : Option Char :=
  let c := Char.ofNat (leading bytes)
  if (encodeChar c).isPrefixOf bytes then some c else none

/-- The text of what is left of some bytes once `skip` of them have been passed over. -/
def decodeAfter : (skip : Nat) → Bytes → Option Text
  | _, [] => some []
  | skip + 1, _ :: bs => decodeAfter skip bs
  | 0, b :: bs =>
    match readChar? (b :: bs) with
    | some c => (decodeAfter ((encodeChar c).length - 1) bs).map (c :: ·)
    | none => none

/-- The text that some bytes encode; `none` if they encode none. -/
def decode (bytes : Bytes) : Option Text := decodeAfter 0 bytes

end Utf8

end WikiCasing
