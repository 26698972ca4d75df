/-!
The 64-bit binary floating-point format as exact integer arithmetic: a number is taken apart into
a mantissa and a power of two, and a quotient of natural numbers is rounded to the nearest number
of the format, a tie going to the even mantissa.
-/

set_option autoImplicit false

namespace StepPipeline.Numeral

def twoTo (exponent : Nat) : Nat :=
  Nat.pow 2 exponent

def tenTo (exponent : Nat) : Nat :=
  Nat.pow 10 exponent

end StepPipeline.Numeral

namespace StepPipeline.Numeral.Binary64

inductive Parts where
  | finite (negative : Bool) (mantissa : Nat) (exponent : Int)
  | infinite (negative : Bool)
  | nan
  deriving DecidableEq, Repr

/-- The bits of positive infinity: every smaller magnitude pattern is a finite number. -/
def infinityBits : Nat := 0x7FF0000000000000

/-- Takes a number apart; a finite one is `± mantissa * 2 ^ exponent`. -/
def parts (x : Float) : Parts :=
  let bits := x.toBits.toNat
  let negative := bits / twoTo 63 == 1
  let field : Nat := bits / twoTo 52 % 2048
  let fraction : Nat := bits % twoTo 52
  if field = 2047 then
    if fraction = 0 then .infinite negative else .nan
  else if field = 0 then .finite negative fraction (-1074)
  else .finite negative (twoTo 52 + fraction) ((field : Int) - 1075)

/-- The integer that a number is, if it is finite and has no fractional part. -/
def integer? (x : Float) : Option Int :=
  match parts x with
  | .finite negative mantissa exponent =>
    let magnitude : Option Nat :=
      if 0 ≤ exponent then some (mantissa * twoTo exponent.toNat)
      else if mantissa % twoTo (-exponent).toNat = 0 then some (mantissa / twoTo (-exponent).toNat)
      else none
    magnitude.map fun n => if negative then -(n : Int) else n
  | .infinite _ => none
  | .nan => none

/-- The exponent `e` with `2 ^ e ≤ num / den < 2 ^ (e + 1)`, for positive `num` and `den`. -/
def binaryExponent (num den : Nat) : Int :=
  let e := (num.log2 : Int) - den.log2
  let reaches : Bool :=
    if 0 ≤ e then den * twoTo e.toNat ≤ num else den ≤ num * twoTo (-e).toNat
  if reaches then e else e - 1

/-- The quotient `num / den` rounded to the nearest integer, a tie going to the even one. -/
def roundHalfEven (num den : Nat) : Nat :=
  let q := num / den
  let twice := 2 * (num % den)
  if twice < den then q
  else if den < twice then q + 1
  else if q % 2 = 0 then q else q + 1

/--
The bits of the number of the format nearest to `num / den`, a tie going to the even mantissa.
The mantissa is rounded at the unit `2 ^ unit` that leaves 53 binary digits, or at the least unit
of the format; a mantissa that reaches `2 ^ 53` carries into the exponent field by itself.
-/
def nearestBits (num den : Nat) : Nat :=
  if num = 0 then 0
  else
    let unit := max (binaryExponent num den - 52) (-1074)
    let mantissa :=
      if 0 ≤ unit then roundHalfEven num (den * twoTo unit.toNat)
      else roundHalfEven (num * twoTo (-unit).toNat) den
    (unit + 1074).toNat * twoTo 52 + mantissa

def ofMagnitude (negative : Bool) (bits : Nat) : Float :=
  let x := Float.ofBits (UInt64.ofNat bits)
  if negative then -x else x

/-- The number nearest to `± num / den`; `none` if it would lie beyond the largest finite one. -/
def ofRatio? (negative : Bool) (num den : Nat) : Option Float :=
  let bits := nearestBits num den
  if bits < infinityBits then some (ofMagnitude negative bits) else none

def infinity : Float := ofMagnitude false infinityBits

def nan : Float := 0.0 / 0.0

/-- The number nearest to an integer; `none` if the integer lies beyond the largest finite one. -/
def ofInt? (n : Int) : Option Float := ofRatio? (n < 0) n.natAbs 1

/-- The number nearest to a decimal `± coefficient * 10 ^ exponent`, infinite beyond the range. -/
def ofDecimal (negative : Bool) (coefficient : Nat) (exponent : Int) : Float :=
  let position := exponent + (coefficient.log2 : Int) / 3
  if coefficient = 0 ∨ position < -400 then ofMagnitude negative 0
  else if 400 < exponent then ofMagnitude negative infinityBits
  else
    let found :=
      if 0 ≤ exponent then ofRatio? negative (coefficient * tenTo exponent.toNat) 1
      else ofRatio? negative coefficient (tenTo (-exponent).toNat)
    found.getD (ofMagnitude negative infinityBits)

end StepPipeline.Numeral.Binary64
