import StepPipeline.CommandLine.Command
import StepPipeline.Config.File
import StepPipeline.SelfCheck

/-!
What the program does with a command line: the text it writes, the records and complaints beside it,
and how it ends.
-/

set_option autoImplicit false

namespace StepPipeline.CommandLine

inductive ProgramFault where
  | file (fault : Config.FileFault)
  | world (fault : WorldFault)
  | noLevel
  | noTicks

def ProgramFault.message : ProgramFault → String
  | file fault => fault.message
  | world fault => fault.message
  | noLevel => "attribute name must be string, not 'list'"
  | noTicks => "'<' not supported between instances of 'list' and 'int'"

inductive Ending where
  | finished (status : Nat)
  | left (status : Nat)
  | broken (fault : ProgramFault)

/-- All that the program does. -/
structure Completion where
  output : String := ""
  errors : String := ""
  ending : Ending

def success : Nat := 0

def notPassed : Nat := 1

def refused : Nat := 2

def recordLines (level : Severity) (log : Array Record) : String :=
  let shown := log.toList.filter fun record => level.rank ≤ record.severity.rank
  String.join (shown.map fun record => record.line ++ "\n")

def complain (errors message : String) : Completion :=
  { errors := errors ++ s!"Error: {message}\n", ending := .left refused }

def summary (world : World Float) : Except WorldFault String := do
  let (value, y, x) ← world.peak
  let rounded := Numeral.roundedText 6
  return s!"Done. Grid=({world.height}, {world.width}), " ++
    s!"ticks={world.ticks}, t={rounded world.time}s\n" ++
    s!"Total: {rounded world.total}\n" ++
    s!"Peak: {rounded value} at x={x}, y={y}\n"

/-- The end of a run that failed: failures of steps are told, other faults are not expected. -/
def runFailure (errors : String) (fault : Scene.RunFault Value) : Completion :=
  match fault with
  | .raised fault => { errors, ending := .broken (.world fault) }
  | _ => complain errors fault.message

def runWorld (level : Severity) (config : Config Float) (ticks : Int) : Completion :=
  let (outcome, scene?) := config.runFresh ticks
  let errors := recordLines level ((scene?.map Scene.log).getD #[])
  match outcome, scene? with
  | .error fault, _ => runFailure errors fault
  | .ok _, none => { errors, ending := .finished success }
  | .ok _, some scene =>
    match summary scene.world with
    | .ok output => { output, errors, ending := .finished success }
    | .error fault => { errors, ending := .broken (.world fault) }

abbrev Files := FilePath → Except LookupFault FileEntry

def runFile (files : Files) (level : Severity) (config : String) (ticks : Int) : Completion :=
  let path := FilePath.ofText config
  if ticks < 0 then complain "" "--ticks must be >= 0"
  else match Config.ofEntry path (files path) with
    | .ok config => runWorld level config ticks
    | .error fault =>
      if fault.isExpected then complain "" fault.message
      else { ending := .broken (.file fault) }

def checkSelf (level : Severity) (isSmoke : Bool) : Completion :=
  let (run, log) := SelfCheck.smallRun
  let row := SelfCheck.runRow (fun world => .ok world.total) run
  let report := SelfCheck.report isSmoke SelfCheck.builtIn row
  { output := report.text ++ "\n"
    errors := recordLines level (if isSmoke then log else #[])
    ending := .finished (if report.isPassed then success else notPassed) }

def Request.perform (files : Files) (request : Request) : Completion :=
  match request.level, request.command with
  | none, _ => { ending := .broken .noLevel }
  | some _, .run _ none => { ending := .broken .noTicks }
  | some level, .run config (some ticks) => runFile files level config ticks
  | some level, .selfCheck isSmoke => checkSelf level isSmoke

def perform (files : Files) (words : List String) : Completion :=
  match Request.ofWords words with
  | .ok request => request.perform files
  | .error (.help part) => { output := part.help, ending := .left success }
  | .error (.wrong part message) =>
    { errors := part.errorText message, ending := .left refused }

end StepPipeline.CommandLine
