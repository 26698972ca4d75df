import StepPipeline.Shape
import StepPipeline.Text.Characters

/-!
Faults of pipelines. A pipeline is refused because its items or its contexts do not fit a shape, or
because it has been executed; a run ends early because a step failed. The failure of a step carries
the fault that caused it, so that nested pipelines give a chain of failures. Main definition:
`Fault.message`, one sentence for a whole chain.
-/

set_option autoImplicit false

namespace StepPipeline

inductive ShapeFault where
  /-- The item at an index is a class. -/
  | classItem (index : Nat) (className : String)
  /-- The type of the item at an index has no single shape. -/
  | shapelessItem (index : Nat) (fault : ShapelessFault)
  /-- The item at an index has another shape than is expected. -/
  | otherShape (index : Nat) (typeName : String) (found expected : Shape)
  /-- A pipeline of a shape is given another number of contexts. -/
  | contextCount (shape : Shape) (given : Nat)
  /-- A pipeline without shape is given more contexts than any shape takes. -/
  | tooManyContexts (given : Nat)
  /-- A type on its own has no single shape. -/
  | shapeless (fault : ShapelessFault)
  deriving DecidableEq, Repr

def ShapeFault.message : ShapeFault → String
  | .classItem index className =>
    s!"steps[{index}]: {className} is a class, not an operation value."
  | .shapelessItem index fault => s!"steps[{index}]: {fault.message}"
  | .otherShape index typeName found expected =>
    s!"steps[{index}] ({typeName}) has shape {found.name}, expected {expected.name}."
  | .contextCount shape given =>
    s!"Pipeline of shape {shape.name} expects {shape.arity} context object(s), got {given}."
  | .tooManyContexts given => s!"Pipeline accepts at most 2 context objects, got {given}."
  | .shapeless fault => fault.message

structure Failure (ι ρ : Type) where
  index : Int
  step : ι
  label : String
  results : List ρ
  deriving DecidableEq, Repr

def Failure.completed {ι ρ : Type} (failure : Failure ι ρ) : Nat :=
  failure.results.length

def Failure.sentence {ι ρ : Type} (failure : Failure ι ρ) : String :=
  s!"Step {failure.index} ({failure.label}) failed."

/--
Why a pipeline or a step does not return. `ι` is the type of the steps, `ρ` that of their results
and `ε` that of the errors that steps and sources raise themselves.
-/
inductive Fault (ι ρ ε : Type) where
  | raised (error : ε)
  /-- Items or contexts do not fit. -/
  | misfit (fault : ShapeFault)
  | consumed
  /-- A step failed for no known cause. -/
  | failed (failure : Failure ι ρ)
  /-- A step failed because of another fault. -/
  | because (failure : Failure ι ρ) (cause : Fault ι ρ ε)
  deriving DecidableEq, Repr

/-- An error that can be told, and that may be a request to leave every run at once. -/
class Cause (ε : Type) where
  message : ε → String
  escapes : ε → Bool

namespace Fault

variable {ι ρ ε : Type}

/-- What a fault says: the last character of a failure's own sentence gives way to its cause. -/
def message [Cause ε] : Fault ι ρ ε → String
  | raised error => Cause.message error
  | misfit fault => fault.message
  | consumed => "Pipeline has already been executed."
  | failed failure => failure.sentence
  | because failure cause => Text.withoutLast failure.sentence ++ ": " ++ cause.message

/-- Does a fault pass through every enclosing run without being reported as a failed step? -/
def escapes [Cause ε] : Fault ι ρ ε → Bool
  | raised error => Cause.escapes error
  | _ => false

end Fault

end StepPipeline
