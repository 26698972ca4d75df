import StepPipeline.Value.Shown

/-!
Values as numbers. A truth value, an integer or a floating-point number is a number; a text or an
ASCII byte string is read as a numeral; nothing else is one.
-/

set_option autoImplicit false

namespace StepPipeline.Value

open StepPipeline.Numeral (readInteger readNumber? Binary64.ofInt? Binary64.integer?)

inductive NumberFault where
  /-- A text or byte string that is no numeral, as it is shown. -/
  | unreadable (shown : String)
  /-- A value of a type that has no numeric reading. -/
  | wrongType (typeName : String)
  /-- An integer beyond the largest floating-point number. -/
  | beyondRange
  deriving DecidableEq, Repr

def NumberFault.message : NumberFault → String
  | .unreadable shown => s!"could not convert string to float: {shown}"
  | .wrongType typeName =>
    s!"float() argument must be a string or a real number, not '{typeName}'"
  | .beyondRange => "int too large to convert to float"

def asciiChars? (bs : List UInt8) : Option (List Char) :=
  bs.mapM fun b => if b.toNat < 0x80 then some (Char.ofNat b.toNat) else Option.none

def numberOfInt (n : Int) : Except NumberFault Float :=
  match Numeral.Binary64.ofInt? n with
  | some x => .ok x
  | Option.none => .error .beyondRange

def toNumber : Value → Except NumberFault Float
  | .float x => .ok x
  | .int n => numberOfInt n
  | .bool b => .ok (if b then 1.0 else 0.0)
  | .text s =>
    match readNumber? s.toList with
    | some x => .ok x
    | Option.none => .error (.unreadable (shown (.text s)))
  | .halves codes => .error (.unreadable (shown (.halves codes)))
  | .bytes bs =>
    match (asciiChars? bs).bind readNumber? with
    | some x => .ok x
    | Option.none => .error (.unreadable (shown (.bytes bs)))
  | v => .error (.wrongType v.typeName)

/-- A value as an integer: a numeral without a point, or a number that has no fractional part. -/
def toInteger? : Value → Option Int
  | .int n => some n
  | .float x => Numeral.Binary64.integer? x
  | .text s => (readInteger s.toList).toOption
  | .bytes bs => (asciiChars? bs).bind fun cs => (readInteger cs).toOption
  | _ => Option.none

end StepPipeline.Value
