/-!
Log records. Every run leaves a row of them.
-/

set_option autoImplicit false

namespace StepPipeline

inductive Severity where
  | debug
  | info
  | warning
  | error
  deriving DecidableEq, Repr

namespace Severity

/-- The severities from the lowest to the highest. -/
def all : List Severity :=
  [debug, info, warning, error]

def name : Severity → String
  | debug => "DEBUG"
  | info => "INFO"
  | warning => "WARNING"
  | error => "ERROR"

def rank : Severity → Nat
  | debug => 0
  | info => 1
  | warning => 2
  | error => 3

def ofName? (name : String) : Option Severity :=
  all.find? fun severity => severity.name == name

end Severity

inductive Record where
  | executing (steps contexts : Nat)
  | finished (steps : Nat)
  | running (index : Nat) (label : String)
  | stepFailed (index : Nat) (label : String) (completed : Nat) (message : String)
  | tickDone (index : Nat) (time : String)
  deriving DecidableEq, Repr

namespace Record

def severity : Record → Severity
  | stepFailed .. => .warning
  | _ => .debug

def logger : Record → String
  | executing .. => "enum_pipeline.pipeline.container"
  | finished .. => "enum_pipeline.pipeline.container"
  | running .. => "enum_pipeline.pipeline.engine"
  | stepFailed .. => "enum_pipeline.pipeline.engine"
  | tickDone .. => "enum_pipeline.sim.runner"

def text : Record → String
  | executing steps contexts =>
    s!"Executing {steps} step(s) with {contexts} context object(s)"
  | finished steps => s!"Pipeline completed {steps} step(s)"
  | running index label => s!"Running step {index} ({label})"
  | stepFailed index label completed message =>
    s!"Step {index} ({label}) failed after {completed} completed step(s): {message}"
  | tickDone index time => s!"Tick {index} done, t={time} s"

def line (record : Record) : String :=
  s!"{record.severity.name} {record.logger}: {record.text}"

end Record

end StepPipeline
