import StepPipeline.Value.Number
import StepPipeline.Value.Shown

/-!
The single checks of a configuration. Each takes a value and the place it stands at, and returns
what the value says or the fault, which names the place and, where a value has the wrong form, shows
the value.
-/

set_option autoImplicit false

namespace StepPipeline.Config

/-- A check that a configuration fails. -/
inductive Fault where
  | notMapping (place : String)
  | missing (key : Value) (place : String)
  | notNumber (place key : String) (found : Value)
  | notInteger (place key : String) (found : Value)
  | negative (name : String)
  | notPositive (name : String)
  | notList (name : String)
  | outside (place : String) (x y width height : Int)

/-- Why reading a configuration ends without one. -/
inductive Refusal where
  | invalid (fault : Fault)
  | beyondRange
  /-- A value of the given type cannot be a key. -/
  | unfitKey (typeName : String)

def tooLongToShow : String :=
  s!"Exceeds the limit ({Numeral.digitLimit} digits) for integer string conversion; " ++
    "use sys.set_int_max_str_digits() to increase the limit"

/-- A sentence that shows a value, as long as the value can be written. -/
def showing (found : Value) (sentence : String → String) : String :=
  if found.holdsLongInteger then tooLongToShow else sentence found.shown

def naming (found : Value) (sentence : String → String) : String :=
  if found.holdsLongInteger then tooLongToShow else sentence found.plain

def Fault.message : Fault → String
  | .notMapping place => s!"{place} must be a mapping."
  | .missing key place => naming key fun key => s!"Missing required key '{key}' in {place}."
  | .notNumber place key found =>
    showing found fun v => s!"{place}.{key} must be a number, got {v}."
  | .notInteger place key found =>
    showing found fun v => s!"{place}.{key} must be an integer, got {v}."
  | .negative name => s!"{name} must be >= 0."
  | .notPositive name => s!"{name} must be > 0."
  | .notList name => s!"{name} must be a list."
  | .outside place x y width height =>
    showing (.tuple [.int x, .int y]) fun v =>
      s!"{place} {v} lies outside the {width}x{height} grid."

def Refusal.message : Refusal → String
  | .invalid fault => fault.message
  | .beyondRange => "int too large to convert to float"
  | .unfitKey typeName => s!"unhashable type: '{typeName}'"

def refuse {α : Type} (fault : Fault) : Except Refusal α :=
  .error (.invalid fault)

def asDict (found : Value) (place : String) : Except Refusal (List (Value × Value)) :=
  match found with
  | .dict entries => .ok entries
  | _ => refuse (.notMapping place)

/-- The value that a dictionary or another mapping holds under a key. -/
def required (found key : Value) (place : String) : Except Refusal Value :=
  let entries? :=
    match found with
    | .dict entries => some entries
    | .mapping entries => some entries
    | _ => none
  match entries?, key.unfitForKey? with
  | none, _ => refuse (.notMapping place)
  | some _, some typeName => .error (.unfitKey typeName)
  | some entries, none =>
    match Value.lookup? key entries with
    | some v => .ok v
    | none => refuse (.missing key place)

def asNumber (found : Value) (key place : String) : Except Refusal Float :=
  match found with
  | .bool _ => refuse (.notNumber place key found)
  | _ =>
    match found.toNumber with
    | .ok x => .ok x
    | .error .beyondRange => .error .beyondRange
    | .error _ => refuse (.notNumber place key found)

/-- An integer, or a number or numeral that is one; no truth value. -/
def asInteger (found : Value) (key place : String) : Except Refusal Int :=
  match found.toInteger? with
  | some n => .ok n
  | none => refuse (.notInteger place key found)

def nonnegative (name : String) (x : Float) : Except Refusal Float :=
  if x < 0.0 then refuse (.negative name) else .ok x

def positive (name : String) (x : Float) : Except Refusal Float :=
  if x ≤ 0.0 then refuse (.notPositive name) else .ok x

/-- An integer in the range of the floating-point numbers that is above zero. -/
def positiveInteger (name : String) (n : Int) : Except Refusal Int :=
  match Numeral.Binary64.ofInt? n with
  | none => .error .beyondRange
  | some x => (positive name x).map fun _ => n

end StepPipeline.Config
