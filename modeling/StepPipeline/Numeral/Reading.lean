import StepPipeline.Numeral.Binary64
import StepPipeline.Text.Characters

/-!
Reading numerals. White space around a numeral is ignored, digits of every script count, and single
underscores may stand between digits. An integer is a sign and digits; a number may also have a
point and an exponent, or be one of the names of infinity and of the number that is none.
-/

set_option autoImplicit false

namespace StepPipeline.Numeral

open StepPipeline.Text (isBlank strip digit?)

def isDigit (c : Char) : Bool :=
  '0' ≤ c && c ≤ '9'

/-- A character of a numeral, digits in ASCII; what is foreign to numerals is a question mark. -/
def plainChar (c : Char) : Char :=
  if c.toNat < 0x7F then c else ((digit? c).map fun d => Char.ofNat (0x30 + d)).getD '?'

/-- The characters of a text that may be a numeral, without the white space around them. -/
def plainChars (cs : List Char) : List Char :=
  (strip isBlank cs).map plainChar

/-- Takes out the underscores, each of which must stand between two digits. -/
def joinDigits : (before : Option Char) → List Char → Option (List Char)
  | before, [] => if before = some '_' then none else some []
  | before, c :: rest =>
    if c = '_' then
      if before.any isDigit then joinDigits (some c) rest else none
    else if before = some '_' ∧ !isDigit c then none
    else (joinDigits (some c) rest).map (c :: ·)

/-- Splits off a sign; `true` if it is a minus. -/
def splitSign : List Char → Bool × List Char
  | '-' :: rest => (true, rest)
  | '+' :: rest => (false, rest)
  | cs => (false, cs)

def naturalOf (ds : List Char) : Nat :=
  ds.foldl (fun n c => n * 10 + (c.toNat - 0x30)) 0

/-- More digits than this are refused in an integer, read or written. -/
def digitLimit : Nat := 4300

inductive IntegerFault where
  | malformed
  | tooLong (digits : Nat)
  deriving DecidableEq, Repr

/-- Reads an integer. Its digits are counted before what follows them is looked at. -/
def readInteger (cs : List Char) : Except IntegerFault Int :=
  let (negative, body) := splitSign (plainChars cs)
  let isPart (c : Char) : Bool := isDigit c || c == '_'
  match joinDigits none (body.takeWhile isPart) with
  | none => .error .malformed
  | some ds =>
    if digitLimit < ds.length then .error (.tooLong ds.length)
    else if ds.isEmpty || !(body.dropWhile isPart).isEmpty then .error .malformed
    else
      let n : Int := naturalOf ds
      .ok (if negative then -n else n)

def splitDigits (cs : List Char) : List Char × List Char :=
  (cs.takeWhile isDigit, cs.dropWhile isDigit)

/-- Reads an exponent, which is absent or an `e` with a sign and digits. -/
def readExponent? : List Char → Option Int
  | [] => some 0
  | e :: rest =>
    let (negative, ds) := splitSign rest
    if (e = 'e' ∨ e = 'E') ∧ !ds.isEmpty ∧ ds.all isDigit then
      let n : Int := naturalOf ds
      some (if negative then -n else n)
    else none

/-- Reads an unsigned number with an optional point and exponent. -/
def readDecimal? (negative : Bool) (cs : List Char) : Option Float :=
  let (whole, rest) := splitDigits cs
  let (fraction, tail) :=
    match rest with
    | '.' :: rest => splitDigits rest
    | rest => ([], rest)
  if whole.isEmpty && fraction.isEmpty then none
  else (readExponent? tail).map fun e =>
    Binary64.ofDecimal negative (naturalOf (whole ++ fraction)) (e - fraction.length)

def readNumber? (cs : List Char) : Option Float :=
  (joinDigits none (plainChars cs)).bind fun plain =>
    let (negative, body) := splitSign plain
    let name := String.ofList (body.map Char.toLower)
    if name = "inf" ∨ name = "infinity" then
      some (Binary64.ofMagnitude negative Binary64.infinityBits)
    else if name = "nan" then some Binary64.nan
    else readDecimal? negative body

end StepPipeline.Numeral
