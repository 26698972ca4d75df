import StepPipeline.CommandLine.Grammar
import StepPipeline.Numeral.Reading
import StepPipeline.Record
import StepPipeline.Text.Quoted

/-!
The commands of the program, and reading them from the words of a command line. Arguments are looked
at in the order in which they are given, so that the first that asks for help or is wrong decides.
-/

set_option autoImplicit false

namespace StepPipeline.CommandLine

inductive Command where
  | run (config : String) (ticks : Option Int)
  | selfCheck (isSmoke : Bool)
  deriving DecidableEq, Repr

/-- A part of the command line, which has a usage and a help text of its own. -/
inductive Part where
  | program
  | run
  | selfCheck
  deriving DecidableEq, Repr

inductive Refusal where
  | help (part : Part)
  | wrong (part : Part) (message : String)
  deriving DecidableEq, Repr

/-- A command, and the severity from which on records are shown, which may have been given without
a value. -/
structure Request where
  command : Command
  level : Option Severity
  deriving DecidableEq, Repr

namespace Part

def helpSwitch : Switch := ⟨["-h", "--help"], false⟩

def levelSwitch : Switch := ⟨["--log-level"], true⟩

def ticksSwitch : Switch := ⟨["--ticks"], true⟩

def noSmokeSwitch : Switch := ⟨["--no-smoke"], false⟩

def grammar : Part → Grammar
  | program => ⟨[helpSwitch, levelSwitch], some .command⟩
  | run => ⟨[helpSwitch, ticksSwitch], some .single⟩
  | selfCheck => ⟨[helpSwitch, noSmokeSwitch], none⟩

def commands : List (String × Part) :=
  [("run", run), ("selfcheck", selfCheck)]

/-- The name of the program and the words that lead to the part. -/
def title : Part → String
  | program => "enum-pipeline"
  | run => "enum-pipeline run"
  | selfCheck => "enum-pipeline selfcheck"

def usage : Part → String
  | program =>
    "usage: enum-pipeline [-h] [--log-level \x7bDEBUG,INFO,WARNING,ERROR\x7d]\n" ++
    "                     \x7brun,selfcheck\x7d ...\n"
  | run => "usage: enum-pipeline run [-h] [--ticks TICKS] config\n"
  | selfCheck => "usage: enum-pipeline selfcheck [-h] [--no-smoke]\n"

/-- What is told of a part after its usage. -/
def details : Part → String
  | program =>
    "\nRun operation pipelines over a demo grid world\n" ++
    "\npositional arguments:\n" ++
    "  \x7brun,selfcheck\x7d\n" ++
    "    run                 Run a YAML world config\n" ++
    "    selfcheck           Run dependency and smoke self-check\n" ++
    "\noptions:\n" ++
    "  -h, --help            show this help message and exit\n" ++
    "  --log-level \x7bDEBUG,INFO,WARNING,ERROR\x7d\n" ++
    "                        Logging level (default: WARNING).\n"
  | run =>
    "\npositional arguments:\n" ++
    "  config         Path to world config YAML\n" ++
    "\noptions:\n" ++
    "  -h, --help     show this help message and exit\n" ++
    "  --ticks TICKS  Number of ticks to run\n"
  | selfCheck =>
    "\noptions:\n" ++
    "  -h, --help  show this help message and exit\n" ++
    "  --no-smoke  Run import checks only (skip smoke world run).\n"

def help (part : Part) : String :=
  part.usage ++ part.details

def errorText (part : Part) (message : String) : String :=
  part.usage ++ s!"{part.title}: error: {message}\n"

end Part

def WordFault.message : WordFault → String
  | ambiguous word matching =>
    s!"ambiguous option: {word} could match " ++ ", ".intercalate matching
  | noValue switch => s!"argument {switch.title}: expected one argument"
  | ignoredValue switch value =>
    s!"argument {switch.title}: ignored explicit argument " ++
      Text.quoted (String.ofList value)

def invalidChoice (argument word : String) (choices : List String) : String :=
  s!"argument {argument}: invalid choice: {Text.quoted word} (choose from " ++
    ", ".intercalate (choices.map Text.quoted) ++ ")"

def unrecognized (words : List String) : String :=
  "unrecognized arguments: " ++ " ".intercalate words

def Part.refuse {α : Type} (part : Part) (message : String) : Except Refusal α :=
  .error (.wrong part message)

/-- Ends the arguments of a part: nothing may be wrong with its words. -/
def Part.finish (part : Part) (arguments : Arguments) : Except Refusal Unit :=
  match arguments.fault with
  | none => .ok ()
  | some fault => part.refuse fault.message

def Part.lack {α : Type} (part : Part) (name : String) : Except Refusal α :=
  part.refuse s!"the following arguments are required: {name}"

/-- The value that an option is given, unless it is two dashes alone, which stand for nothing. -/
def valueOf? (value : Option String) : Option String :=
  value.filter fun word => word ≠ "--"

structure RunArguments where
  config : Option String := none
  ticks : Option Int := some 1

def RunArguments.take (arguments : RunArguments) : Argument → Except Refusal RunArguments
  | .single word => .ok { arguments with config := some word }
  | .command _ => .ok arguments
  | .switch switch value =>
    if switch = Part.helpSwitch then .error (.help .run)
    else match valueOf? value with
      | none => .ok { arguments with ticks := none }
      | some word =>
        match Numeral.readInteger word.toList with
        | .ok ticks => .ok { arguments with ticks := some ticks }
        | .error _ =>
          Part.run.refuse s!"argument {switch.title}: invalid int value: {Text.quoted word}"

def readRun (words : List String) : Except Refusal (Command × List String) := do
  let arguments := Part.run.grammar.arguments words
  let taken ← arguments.given.foldlM RunArguments.take {}
  Part.run.finish arguments
  match taken.config with
  | some config => return (.run config taken.ticks, arguments.extras)
  | none => Part.run.lack "config"

/-- Looks at one argument of a self-check; is the small run made? -/
def takeSmoke (isSmoke : Bool) : Argument → Except Refusal Bool
  | .switch switch _ => if switch = Part.helpSwitch then .error (.help .selfCheck) else .ok false
  | _ => .ok isSmoke

def readSelfCheck (words : List String) : Except Refusal (Command × List String) := do
  let arguments := Part.selfCheck.grammar.arguments words
  let isSmoke ← arguments.given.foldlM takeSmoke true
  Part.selfCheck.finish arguments
  return (.selfCheck isSmoke, arguments.extras)

def readCommand (words : List String) : Except Refusal (Command × List String) :=
  let word := words.headD ""
  match Part.commands.find? fun entry => entry.1 == word with
  | some (_, .run) => readRun (words.drop 1)
  | some (_, _) => readSelfCheck (words.drop 1)
  | none =>
    Part.program.refuse (invalidChoice "command" word (Part.commands.map Prod.fst))

structure ProgramArguments where
  command : Option (Command × List String) := none
  level : Option Severity := some .warning

def ProgramArguments.take (arguments : ProgramArguments) :
    Argument → Except Refusal ProgramArguments
  | .single _ => .ok arguments
  | .command words => do
    let command ← readCommand words
    return { arguments with command := some command }
  | .switch switch value =>
    if switch = Part.helpSwitch then .error (.help .program)
    else match valueOf? value with
      | none => .ok { arguments with level := none }
      | some word =>
        match Severity.ofName? word with
        | some level => .ok { arguments with level := some level }
        | none =>
          Part.program.refuse (invalidChoice switch.title word (Severity.all.map Severity.name))

def Request.ofWords (words : List String) : Except Refusal Request := do
  let arguments := Part.program.grammar.arguments words
  let taken ← arguments.given.foldlM ProgramArguments.take {}
  Part.program.finish arguments
  match taken.command with
  | none => Part.program.lack "command"
  | some (command, left) =>
    let extras := arguments.extras ++ left
    if extras.isEmpty then return ⟨command, taken.level⟩
    else Part.program.refuse (unrecognized extras)

end StepPipeline.CommandLine
