import StepPipeline.Numeral.Binary64

/-!
The decimal form of floating-point numbers: the fewest digits that read back as the same number, or
a given count of significant digits, when they are written out positionally, when an exponent is
split off, and what stands for the numbers that have no digits. The digits are found by exact
integers; no power of ten is approximated.
-/

set_option autoImplicit false

namespace StepPipeline.Numeral

structure Decimal where
  coefficient : Nat
  exponent : Int
  deriving DecidableEq, Repr

namespace Decimal

/-- Moves the trailing zeros of a coefficient into the exponent. -/
def trim (coefficient : Nat) (exponent : Int) : Decimal :=
  if coefficient = 0 then ⟨0, 0⟩
  else if coefficient % 10 = 0 then trim (coefficient / 10) (exponent + 1)
  else ⟨coefficient, exponent⟩
termination_by coefficient

def digits (d : Decimal) : List Char :=
  (Nat.toDigits 10 d.coefficient)

/-- Where the decimal point stands, counted from the left end of the digits. -/
def point (d : Decimal) : Int :=
  d.digits.length + d.exponent

/-- Is `a * 10 ^ i ≤ b * 2 ^ j`? -/
def atMost (a : Nat) (i : Int) (b : Nat) (j : Int) : Bool :=
  a * tenTo i.toNat * twoTo (-j).toNat ≤ b * twoTo j.toNat * tenTo (-i).toNat

/-- Is `a * 10 ^ i < b * 2 ^ j`? -/
def below (a : Nat) (i : Int) (b : Nat) (j : Int) : Bool :=
  a * tenTo i.toNat * twoTo (-j).toNat < b * twoTo j.toNat * tenTo (-i).toNat

/-- The least `p` with `mantissa * 2 ^ exponent < 10 ^ p`, for a positive mantissa. -/
def magnitude (mantissa : Nat) (exponent : Int) : Int :=
  let top := (mantissa.log2 : Int) + exponent
  let guess := Int.fdiv (top * 30103) 100000 - 1
  let candidates := [guess, guess + 1, guess + 2, guess + 3]
  (candidates.find? fun p => !atMost 1 p mantissa exponent).getD (guess + 4)

/-- The integer part of `mantissa * 2 ^ exponent / 10 ^ unit`. -/
def floorAt (mantissa : Nat) (exponent unit : Int) : Nat :=
  (mantissa * twoTo exponent.toNat * tenTo (-unit).toNat) /
    (tenTo unit.toNat * twoTo (-exponent).toNat)

/-- `mantissa * 2 ^ exponent / 10 ^ unit`, rounded to the nearest integer, a tie to the even one. -/
def roundAt (mantissa : Nat) (exponent unit : Int) : Nat :=
  Binary64.roundHalfEven (mantissa * twoTo exponent.toNat * tenTo (-unit).toNat)
    (tenTo unit.toNat * twoTo (-exponent).toNat)

/--
The real numbers that round to a floating-point number: those between `low * 2 ^ exponent` and
`high * 2 ^ exponent`, with the two ends if `closed`.
-/
structure Interval where
  low : Nat
  high : Nat
  exponent : Int
  closed : Bool

/-- The interval around `mantissa * 2 ^ exponent`: below a power of two the gap is half as wide. -/
def Interval.around (mantissa : Nat) (exponent : Int) : Interval :=
  let narrow := mantissa = twoTo 52 ∧ -1074 < exponent
  ⟨4 * mantissa - (if narrow then 1 else 2), 4 * mantissa + 2, exponent - 2, mantissa % 2 = 0⟩

def Interval.contains (i : Interval) (coefficient : Nat) (unit : Int) : Bool :=
  if i.closed then
    !below coefficient unit i.low i.exponent && atMost coefficient unit i.high i.exponent
  else
    !atMost coefficient unit i.low i.exponent && below coefficient unit i.high i.exponent

/--
The multiple of `10 ^ unit` in the interval that is nearest to the number, if there is one: only
the two neighbours of the number on that grid can be.
-/
def Interval.nearest? (i : Interval) (mantissa : Nat) (exponent unit : Int) : Option Nat :=
  let down := floorAt mantissa exponent unit
  let near := roundAt mantissa exponent unit
  let far := if near = down then down + 1 else down
  if i.contains near unit then some near
  else if i.contains far unit then some far
  else none

/--
The fewest digits, at most seventeen, that round back to `mantissa * 2 ^ exponent`; among those the
nearest to it.
-/
def shortest (mantissa : Nat) (exponent : Int) : Decimal :=
  if mantissa = 0 then ⟨0, 0⟩
  else
    let around := Interval.around mantissa exponent
    let top := magnitude mantissa exponent
    let found := (List.range 17).findSome? fun n =>
      let unit := top - (n + 1 : Nat)
      (around.nearest? mantissa exponent unit).map fun c => trim c unit
    found.getD (trim (roundAt mantissa exponent (top - 17)) (top - 17))

/-- `mantissa * 2 ^ exponent` rounded to `precision` significant digits, a tie to the even one. -/
def significant (precision : Nat) (mantissa : Nat) (exponent : Int) : Decimal :=
  if mantissa = 0 then ⟨0, 0⟩
  else
    let unit := magnitude mantissa exponent - precision
    trim (roundAt mantissa exponent unit) unit

end Decimal

structure Layout where
  /-- The first power of ten that is no longer written positionally. -/
  limit : Int
  /-- Is a whole number marked by a point and a zero? -/
  marksWhole : Bool

namespace Layout

/-- Numbers in messages and values: positional below `10 ^ 16`, whole numbers end in `.0`. -/
def exact : Layout := ⟨16, true⟩

/-- Numbers rounded to a precision: positional while the digits reach the point, no final zeros. -/
def rounded (precision : Nat) : Layout := ⟨precision, false⟩

def zeros (n : Nat) : List Char :=
  List.replicate n '0'

def exponentText (e : Int) : List Char :=
  let ds := Nat.toDigits 10 e.natAbs
  (if e < 0 then '-' else '+') :: (zeros (2 - ds.length) ++ ds)

def text (layout : Layout) (d : Decimal) : List Char :=
  let ds := d.digits
  let point : Int := if d.coefficient = 0 then 1 else d.point
  if -4 < point ∧ point ≤ layout.limit then
    if point ≤ 0 then '0' :: '.' :: (zeros (-point).toNat ++ ds)
    else if (ds.length : Int) ≤ point then
      ds ++ zeros (point.toNat - ds.length) ++ (if layout.marksWhole then ['.', '0'] else [])
    else ds.take point.toNat ++ '.' :: ds.drop point.toNat
  else
    let fraction := ds.drop 1
    ds.take 1 ++ (if fraction.isEmpty then [] else '.' :: fraction) ++
      'e' :: exponentText (point - 1)

def ofFloat (layout : Layout) (choose : Nat → Int → Decimal) (x : Float) : String :=
  match Binary64.parts x with
  | .finite negative mantissa exponent =>
    let body := layout.text (choose mantissa exponent)
    String.ofList (if negative then '-' :: body else body)
  | .infinite negative => if negative then "-inf" else "inf"
  | .nan => "nan"

end Layout

/-- The text of a number with the fewest digits that read back as the same number. -/
def exactText (x : Float) : String :=
  Layout.exact.ofFloat Decimal.shortest x

def roundedText (precision : Nat) (x : Float) : String :=
  (Layout.rounded precision).ofFloat (Decimal.significant precision) x

end StepPipeline.Numeral
