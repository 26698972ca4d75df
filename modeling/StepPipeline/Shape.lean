import StepPipeline.Value.Shown

/-!
The calling shapes. An operation commits to one of three contracts, which fix how many context
objects it is called with.
-/

set_option autoImplicit false

namespace StepPipeline

/-- The calling shape of an operation. -/
inductive Shape where
  /-- Called without context. -/
  | bare
  /-- Called with one context object. -/
  | single
  /-- Called with two context objects. -/
  | pair
  deriving DecidableEq, Repr

namespace Shape

def all : List Shape :=
  [bare, single, pair]

def name : Shape → String
  | bare => "NONE"
  | single => "WITH"
  | pair => "WITH_PAIR"

def arity : Shape → Nat
  | bare => 0
  | single => 1
  | pair => 2

/-- The name of the contract that stands for a shape. -/
def contract : Shape → String
  | bare => "Execute"
  | single => "ExecuteWith"
  | pair => "ExecuteWithPair"

def contextNames : Shape → List String
  | bare => []
  | single => ["context"]
  | pair => ["context_a", "context_b"]

def ofName? (name : String) : Option Shape :=
  all.find? fun shape => shape.name == name

def ofValue? (found : Value) : Option Shape :=
  all.find? fun shape => Value.same found (.int shape.arity)

def notAShape (found : Value) : String :=
  s!"{found.shown} is not a valid Shape"

end Shape

inductive ShapelessFault where
  | none (typeName : String)
  | several (typeName : String) (shapes : List Shape)
  deriving DecidableEq, Repr

def ShapelessFault.message : ShapelessFault → String
  | .none typeName => s!"{typeName} does not implement Execute, ExecuteWith or ExecuteWithPair."
  | .several typeName shapes =>
    let names := ", ".intercalate (shapes.map Shape.contract)
    s!"{typeName} implements more than one shape: {names}."

/-- The single shape among the contracts that an operation type fulfils. -/
def Shape.ofContracts (typeName : String) : List Shape → Except ShapelessFault Shape
  | [] => .error (.none typeName)
  | [shape] => .ok shape
  | shapes => .error (.several typeName shapes)

end StepPipeline
