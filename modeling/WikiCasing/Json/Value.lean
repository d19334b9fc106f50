import WikiCasing.Text.Basic

/-!
# JSON values and double-precision numbers

Whole numbers are kept apart from numbers written with a point or an exponent, since a reader of
settings tells them apart. An object keeps its members in the order in which they stand.

A decimal stands for the double-precision number nearest to it, and of two that are equally near
for the one whose significand is even. A double is a significand of at most 53 binary digits times
a power of two that is not below `2 ^ -1074`; what is too large for that is infinite. Conversely
`shortest?` finds the decimal with the fewest digits that stands for a double. All of this is
exact arithmetic on fractions.
-/

namespace WikiCasing

/-- A number written with a point or an exponent: `digits * 10 ^ exponent`, with its sign. -/
structure Decimal where
  negative : Bool
  digits : Nat
  exponent : Int
deriving DecidableEq, Repr

/-- A real number: a decimal, or one of the three values that have no decimal. -/
inductive Real where
  | decimal (value : Decimal)
  | infinite (negative : Bool)
  | undefined
deriving DecidableEq, Repr

/-- A JSON value. -/
inductive Json where
  | null
  | bool (value : Bool)
  | int (value : Int)
  | real (value : Real)
  | text (value : Text)
  | list (items : List Json)
  | object (members : List (Text × Json))
deriving Repr, Inhabited

/-- The value of a member. Of several members of one name the last counts. -/
def Json.member? (key : Text) (members : List (Text × Json)) : Option Json :=
  (members.reverse.find? (·.1 = key)).map (·.2)

/-! ## Double-precision numbers -/

/-- The size of a double-precision number: `significand * 2 ^ exponent`, or infinity. The
significand has 53 binary digits, or fewer if the exponent is the least one. -/
inductive Double where
  | finite (significand : Nat) (exponent : Int)
  | infinite
deriving DecidableEq, Repr

/-- A fraction `n / m` divided by the power `b ^ e`. -/
def scale (b : Nat) (e : Int) (n m : Nat) : Nat × Nat :=
  if 0 ≤ e then (n, m * b.pow e.toNat) else (n * b.pow (-e).toNat, m)

/-- The fraction `n / m` is nearer to the whole number below it than to the one above, or in the
middle and the one below is even. -/
def roundsDown (n m : Nat) : Bool :=
  2 * (n % m) < m || (2 * (n % m) = m && n / m % 2 = 0)

/-- The whole number nearest to the fraction `n / m`, an even one if there are two. -/
def nearestWhole (n m : Nat) : Nat := if roundsDown n m then n / m else n / m + 1

namespace Double

/-- The least exponent. -/
def minExponent : Int := -1074

/-- The greatest exponent. -/
def maxExponent : Int := 971

/-- Zero. -/
def zero : Double := finite 0 minExponent

/-- One. -/
def one : Double := finite (Nat.pow 2 52) (-52)

/-- A significand that may have just outgrown its 53 digits, and an exponent. -/
def ofParts (significand : Nat) (exponent : Int) : Double :=
  let (s, e) :=
    if significand = Nat.pow 2 53 then (Nat.pow 2 52, exponent + 1) else (significand, exponent)
  if maxExponent < e then infinite else finite s e

/-- The greatest exponent with which the fraction `n / m`, which is not zero, has a significand
of 53 binary digits before rounding, or the least exponent if that is greater. -/
def exponentOf (n m : Nat) : Int :=
  let low : Int := n.log2 - m.log2 - 53
  let (a, b) := scale 2 low n m
  max minExponent (if a < Nat.pow 2 53 * b then low else low + 1)

/-- The double nearest to the fraction `n / m`. -/
def nearest (n m : Nat) : Double :=
  if n = 0 then zero
  else
    let e := exponentOf n m
    let (a, b) := scale 2 e n m
    ofParts (nearestWhole a b) e

end Double

namespace Decimal

/-- How many places before the point the first digit has; below one for a decimal below one. -/
def places (d : Decimal) : Int := (Nat.toDigits 10 d.digits).length + d.exponent

/-- The double that a decimal stands for, signs aside. The tests on its places only save work:
`10 ^ -330` rounds to zero and `10 ^ 310` is too large. -/
def nearest (d : Decimal) : Double :=
  if d.digits = 0 ∨ d.places ≤ -330 then .zero
  else if 310 < d.places then .infinite
  else
    let (n, m) := scale 10 (-d.exponent) d.digits 1
    Double.nearest n m

/-- The decimal stands for zero. -/
def isZero (d : Decimal) : Bool := d.nearest = .zero

/-- The decimal stands for one. -/
def isOne (d : Decimal) : Bool := !d.negative && d.nearest = .one

end Decimal

namespace Double

/-- How many places before the point the first digit of the fraction `n / m` has, where `n / m`
is no negative power of ten. -/
def placesOf (n m : Nat) : Int :=
  if m ≤ n then (Nat.toDigits 10 (n / m)).length
  else 1 - ((Nat.toDigits 10 (m / n)).length : Int)

/-- The two decimals next to the fraction `n / m` that end at the place of `10 ^ e`, the nearer
one first. -/
def neighbours (e : Int) (n m : Nat) : List Decimal :=
  let (a, b) := scale 10 e n m
  let below : Decimal := ⟨false, a / b, e⟩
  let above : Decimal := ⟨false, a / b + 1, e⟩
  if roundsDown a b then [below, above] else [above, below]

/-- The decimal with the fewest digits that stands for a double, the nearest of these. Seventeen
digits are always enough. -/
def shortest? : Double → Option Decimal
  | infinite => none
  | finite significand exponent =>
    let (n, m) := scale 2 (-exponent) significand 1
    let stands (d : Decimal) : Bool := d.nearest = finite significand exponent
    (List.range 17).findSome? fun (k : Nat) =>
      (neighbours (placesOf n m - (k + 1 : Nat)) n m).find? stands

end Double

end WikiCasing
