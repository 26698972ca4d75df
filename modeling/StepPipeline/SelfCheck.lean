import StepPipeline.Config.Reading
import StepPipeline.World.Measure
import StepPipeline.World.Run

/-!
The self-check: a row for each part that a world run relies on, and a row for a small run whose
total is known beforehand.
-/

set_option autoImplicit false

namespace StepPipeline

structure CheckRow where
  name : String
  isPassed : Bool
  detail : String
  deriving DecidableEq, Repr

def CheckRow.line (row : CheckRow) : String :=
  let status := if row.isPassed then "OK" else "FAIL"
  s!"[{status}] {row.name}: {row.detail}"

inductive Dependency where
  /-- It is there; its version may be unknown. -/
  | present (version : Option String)
  | missing
  deriving DecidableEq, Repr

def Dependency.row (name : String) : Dependency → CheckRow
  | present version => ⟨name, true, "version=" ++ version.getD "unknown"⟩
  | missing => ⟨name, false, s!"import of {name} halted; None in sys.modules"⟩

structure CheckReport where
  rows : List CheckRow
  deriving DecidableEq, Repr

namespace CheckReport

def isPassed (report : CheckReport) : Bool :=
  report.rows.all CheckRow.isPassed

/-- The text of a report: a line for each check, and one for all of them. -/
def text (report : CheckReport) : String :=
  let overall := "overall: " ++ if report.isPassed then "OK" else "FAIL"
  "\n".intercalate (report.rows.map CheckRow.line ++ [overall])

end CheckReport

namespace SelfCheck

/-- The configuration of the small run: one source in the middle of the grid. -/
def payload : Value :=
  let entry (key : String) (v : Value) : Value × Value := (.text key, v)
  let source := Value.dict [entry "x" (.int 4), entry "y" (.int 4), entry "amount" (.float 1.0)]
  .dict [entry "world" (.dict
    [entry "Nx" (.int 9), entry "Ny" (.int 9), entry "dt_s" (.float 0.5),
      entry "diffusivity" (.float 0.2), entry "sources" (.list [source])])]

def ticks : Nat := 4

def expectedTotal : Float := 4.0

/-- How far the total may be off. -/
def tolerance : Float := 1e-9

/-- The small run: its world, or what is said of its failure, and its log. -/
def smallRun : Except String (World Float) × Array Record :=
  match Config.read payload with
  | .error refusal => (.error refusal.message, #[])
  | .ok config =>
    match config.runFresh ticks with
    | (.ok _, some scene) => (.ok scene.world, scene.log)
    | (.ok _, none) => (.error "", #[])
    | (.error fault, scene) => (.error fault.message, (scene.map Scene.log).getD #[])

def worldRow (world : World Float) (total : Float) : CheckRow :=
  if tolerance < (total - expectedTotal).abs then
    ⟨"smoke", false, s!"mass not conserved: {Numeral.roundedText 6 total} != 4"⟩
  else
    match world.peak with
    | .ok (value, y, x) =>
      let peak := Numeral.roundedText 4 value
      ⟨"smoke", true, s!"ticks={world.ticks}, peak={peak} at ({y}, {x})"⟩
    | .error fault => ⟨"smoke", false, fault.message⟩

/-- The check of a run, in whose world `measure` measures the total. -/
def runRow (measure : World Float → Except String Float) (run : Except String (World Float)) :
    CheckRow :=
  let row := do
    let world ← run
    let total ← measure world
    return worldRow world total
  match row with
  | .ok row => row
  | .error message => ⟨"smoke", false, message⟩

def dependencyNames : List String := ["numpy", "yaml"]

def builtIn (_ : String) : Dependency :=
  .present (some "*")

def dependencyRows (dependency : String → Dependency) : List CheckRow :=
  dependencyNames.map fun name => (dependency name).row name

/-- Is the small run made? It needs all parts. -/
def runsWorld (isSmoke : Bool) (dependency : String → Dependency) : Bool :=
  isSmoke && (dependencyRows dependency).all CheckRow.isPassed

def report (isSmoke : Bool) (dependency : String → Dependency) (run : CheckRow) : CheckReport :=
  ⟨dependencyRows dependency ++ if runsWorld isSmoke dependency then [run] else []⟩

end SelfCheck

end StepPipeline
