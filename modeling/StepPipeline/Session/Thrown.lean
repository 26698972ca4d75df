import StepPipeline.Call
import StepPipeline.Fault
import StepPipeline.Value.Arithmetic

/-!
The errors that the steps of a session raise: those that they are told to raise, and those that
come of what they do.
-/

set_option autoImplicit false

namespace StepPipeline.Session

inductive ErrorKind where
  | runtime
  | value
  | key
  | index
  | type
  | stopIteration
  | assertion
  | zeroDivision
  | shape
  | consumed
  | config
  | exit
  | interrupt
  | close
  deriving DecidableEq, Repr

namespace ErrorKind

def all : List ErrorKind :=
  [runtime, value, key, index, type, stopIteration, assertion, zeroDivision, shape, consumed,
    config, exit, interrupt, close]

def name : ErrorKind → String
  | runtime => "RuntimeError"
  | value => "ValueError"
  | key => "KeyError"
  | index => "IndexError"
  | type => "TypeError"
  | stopIteration => "StopIteration"
  | assertion => "AssertionError"
  | zeroDivision => "ZeroDivisionError"
  | shape => "ShapeError"
  | consumed => "PipelineConsumedError"
  | config => "ConfigError"
  | exit => "SystemExit"
  | interrupt => "KeyboardInterrupt"
  | close => "GeneratorExit"

def ofName? (name : String) : Option ErrorKind :=
  all.find? fun kind => kind.name == name

/-- Does an error of a kind ask to leave every run at once? -/
def escapes : ErrorKind → Bool
  | exit => true
  | interrupt => true
  | close => true
  | _ => false

end ErrorKind

inductive Thrown where
  /-- The step was told to. -/
  | told (kind : ErrorKind) (args : List Value)
  /-- The step is of a variant that its catalogue does not handle. -/
  | unhandled (variant shown : String)
  /-- A value has no attribute of a name. -/
  | missingAttribute (typeName member : String)
  /-- A class has no attribute of a name. -/
  | missingClassAttribute (className member : String)
  /-- The step is called with another number of contexts than it takes. -/
  | call (fault : CallFault)
  | emptyList
  /-- A mapping has no entry under a key. -/
  | missingKey (key : Value)
  /-- A value of this type has no items to be asked for. -/
  | notSubscriptable (typeName : String)
  /-- A sequence of this type is asked for an item by a text. -/
  | textIndex (typeName : String)
  /-- A value of this type does not let its items be set. -/
  | notAssignable (typeName : String)
  /-- A value of this type is to be gone through item by item. -/
  | notIterable (typeName : String)
  /-- A dictionary is not told what to give up. -/
  | noPopKey
  /-- Values that cannot be added or multiplied. -/
  | operands (fault : Value.OperandFault)
  /-- There is no pipeline of a name. -/
  | unknownName (name : String)

def argumentText (kind : ErrorKind) : List Value → String
  | [] => ""
  | [arg] => if kind = .key then arg.shown else arg.plain
  | args => (Value.tuple args).shown

def Thrown.message : Thrown → String
  | told kind args => argumentText kind args
  | unhandled variant shown => s!"Unhandled variant {variant}: {shown}"
  | missingAttribute typeName member => s!"'{typeName}' object has no attribute '{member}'"
  | missingClassAttribute className member =>
    s!"type object '{className}' has no attribute '{member}'"
  | call fault => fault.message
  | emptyList => "pop from empty list"
  | missingKey key => key.shown
  | notSubscriptable typeName => s!"'{typeName}' object is not subscriptable"
  | textIndex "str" => "string indices must be integers, not 'str'"
  | textIndex "bytes" => "byte indices must be integers or slices, not str"
  | textIndex typeName => s!"{typeName} indices must be integers or slices, not str"
  | notAssignable typeName => s!"'{typeName}' object does not support item assignment"
  | notIterable typeName => s!"'{typeName}' object is not iterable"
  | noPopKey => "pop expected at least 1 argument, got 0"
  | operands fault => fault.message
  | unknownName name => name

instance : Cause Thrown where
  message := Thrown.message
  escapes
    | .told kind _ => kind.escapes
    | _ => false

end StepPipeline.Session
