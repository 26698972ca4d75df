import StepPipeline.Calendar
import StepPipeline.Numeral.Reading
import StepPipeline.Text.Quoted

/-!
Why a YAML text has no value. Almost every fault makes the text malformed; an escape for no
character, and a scalar whose tag promises a form that it does not have, are told apart. The text of
a scalar is a row of code points, for an escape may give half of a surrogate pair, which is no
character.
-/

set_option autoImplicit false

namespace StepPipeline.Yaml

/-- The characters of a row of code points, if every code point has one. -/
def chars? (codes : List Nat) : Option (List Char) :=
  codes.mapM fun n => if n.isValidChar then some (Char.ofNat n) else none

/-- Stands for half of a surrogate pair; numerals hold neither. -/
def replacement : Char := '\uFFFD'

def replacedChars (codes : List Nat) : List Char :=
  codes.map fun n => if n.isValidChar then Char.ofNat n else replacement

def codes (s : String) : List Nat :=
  s.toList.map Char.toNat

inductive Fault where
  /-- The text is against the rules of the language. -/
  | malformed
  /-- The text ends where more is needed. -/
  | unfinished
  /-- The text goes on with bytes that cannot be decoded. -/
  | undecodable
  /-- An escape gives a code that no character has. -/
  | escape (code : Nat)
  /-- A scalar tagged as a number is empty, but for a sign. -/
  | emptyNumeral
  /-- A scalar tagged as an integer is none, in the given base. -/
  | integer (base : Nat) (text : List Nat)
  /-- A scalar tagged as an integer has too many digits. -/
  | longInteger (digits : Nat)
  /-- A scalar tagged as a number is none. -/
  | number (text : List Nat)
  /-- A number written in base sixty has a place beyond the range of numbers. -/
  | beyondRange
  /-- A scalar tagged as a truth value is none. -/
  | truthValue (text : List Nat)
  /-- A scalar tagged as a moment does not have the form of one. -/
  | momentForm
  /-- A mapping is tagged as a moment. -/
  | momentOfMapping
  /-- The value that stands for a mapping is that mapping again. -/
  | endless
  /-- A scalar has the form of a moment that the calendar does not have. -/
  | moment (fault : Calendar.Fault)
  deriving DecidableEq, Repr

/-- A quoted text of at most this many characters is shown for an integer. -/
def shownIntegerLimit : Nat := 200

def Fault.message : Fault → String
  | malformed => "malformed"
  | unfinished => "unfinished"
  | undecodable => "not UTF-8"
  | escape code =>
    if code < Numeral.twoTo 31 then "chr() arg not in range(0x110000)"
    else "Python int too large to convert to C int"
  | emptyNumeral => "string index out of range"
  | integer base text =>
    let shown := (Text.quotedCodes text).toList.take shownIntegerLimit
    s!"invalid literal for int() with base {base}: " ++ String.ofList shown
  | longInteger digits =>
    s!"Exceeds the limit ({Numeral.digitLimit} digits) for integer string conversion: " ++
      s!"value has {digits} digits; use sys.set_int_max_str_digits() to increase the limit"
  | number text =>
    "could not convert string to float: " ++ Text.quotedCodes text
  | beyondRange => "int too large to convert to float"
  | truthValue text => Text.quotedCodes text
  | momentForm => "'NoneType' object has no attribute 'groupdict'"
  | momentOfMapping => "expected string or bytes-like object, got 'list'"
  | endless => "maximum recursion depth exceeded"
  | moment fault => fault.message

end StepPipeline.Yaml
