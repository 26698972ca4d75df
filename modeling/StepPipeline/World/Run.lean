import StepPipeline.Config.Reading
import StepPipeline.Pipeline
import StepPipeline.World.Op
import StepPipeline.World.Arithmetic

/-!
Running a world. A configuration says which operations make up a tick; they are executed as a
pipeline, once for each tick, and each tick leaves a record. A run that fails keeps what was done up
to the failure.
-/

set_option autoImplicit false

namespace StepPipeline

/-- What an operation is called with: the world that is run, or a tick. -/
inductive WorldContext (ν : Type) where
  | world
  | tick (tick : Tick ν)

structure Scene (α : Type) where
  world : World α
  log : Array Record := #[]

namespace Config

variable {ν μ : Type}

def map (f : ν → μ) (config : Config ν) : Config μ where
  width := config.width
  height := config.height
  tickLength := f config.tickLength
  diffusivity := f config.diffusivity
  halfLife := config.halfLife.map f
  sources := config.sources.map fun source => ⟨source.x, source.y, f source.amount⟩

def tickOps (isPositive : ν → Bool) (config : Config ν) : List (Op ν) :=
  (config.sources.map fun source => .deposit (.int source.x) (.int source.y) source.amount) ++
    (if isPositive config.diffusivity then [.diffuse config.diffusivity] else []) ++
    (config.halfLife.map Op.decay).toList ++ [.advance]

end Config

namespace World

variable {ν α : Type}

def sizeOf : Value → Except WorldFault Int
  | .int n => if Value.isIndex n then .ok n else .error .hugeSize
  | .bool _ => .error .truthSize
  | v => .error (.notInteger v.typeName)

/-- The bytes of a grid with further rows or columns; a size of zero is not counted. -/
def multipliedSize (bytes : Nat) (size : Int) : Except WorldFault Nat :=
  if size = 0 then .ok bytes
  else if size < 0 then .error .negativeSize
  else if bytes * size.toNat < Value.countLimit then .ok (bytes * size.toNat)
  else .error .hugeGrid

def ofSizes [OfNat α 0] (height width : Value) : Except WorldFault (World α) := do
  let height ← sizeOf height
  let width ← sizeOf width
  let bytes ← multipliedSize 8 height
  discard (multipliedSize bytes width)
  if Value.roomLimit ≤ height.toNat * width.toNat then
    throw (.noRoom height.toNat width.toNat)
  return World.ofGrid (Grid.fill 0 : Grid height.toNat width.toNat α)

def initial [OfNat α 0] (height width : Int) : Except WorldFault (World α) :=
  ofSizes (.int height) (.int width)

def tickCount : Value → Except WorldFault Int
  | .int n => .ok n
  | .bool b => .ok (if b then 1 else 0)
  | .float x =>
    if x < 0.0 then .error (.negativeTicks (Value.float x).plain) else .error (.notInteger "float")
  | v => .error (.operands (.unordered "<" v.typeName "int"))

end World

def Op.facts {ν : Type} (op : Op ν) : Facts where
  typeName := op.variant
  contracts := [.pair]

namespace Scene

variable {ν α : Type} [Add α] [Sub α] [Mul α] [OfNat α 4] [OfNat α 0]

abbrev RunFault (ν : Type) :=
  Fault (Op ν) Unit WorldFault

def note (record : Record) (scene : Scene α) : Scene α :=
  { scene with log := scene.log.push record }

def perform (dynamics : Dynamics ν α) (contexts : List (WorldContext ν)) (op : Op ν)
    (scene : Scene α) : Outcome (RunFault ν) Unit (Scene α) :=
  match contexts with
  | [.world, .tick tick] =>
    let (outcome, world) := (World.Action.ofOp dynamics tick op).run scene.world
    (outcome.mapError .raised, { scene with world })
  | contexts => (.error (.raised (.call contexts.length)), scene)

def engine (dynamics : Dynamics ν α) :
    Engine (Op ν) (WorldContext ν) Unit WorldFault (Scene α) where
  label := Op.variant
  perform := perform dynamics
  note := note

def execute (dynamics : Dynamics ν α) (ops : List (Op ν)) (tick : Tick ν) (scene : Scene α) :
    Outcome (RunFault ν) (Report Unit) (Scene α) :=
  match Pipeline.ofSource Op.facts ⟨ops, none⟩ none with
  | .error fault => (.error fault, scene)
  | .ok pipeline => pipeline.executeAlone (engine dynamics) [.world, .tick tick] scene

/-- How the operations of a tick depend on a configuration, and how a record gives the time. -/
structure Ticking (ν α : Type) where
  dynamics : Dynamics ν α
  isPositive : ν → Bool
  timeText : α → String

def tick (ticking : Ticking ν α) (config : Config ν) (scene : Scene α) :
    Outcome (RunFault ν) Unit (Scene α) :=
  let index := scene.world.ticks
  let tick : Tick ν := ⟨toString index, config.tickLength⟩
  match execute ticking.dynamics (config.tickOps ticking.isPositive) tick scene with
  | (.ok _, scene) => (.ok (), scene.note (.tickDone index (ticking.timeText scene.world.time)))
  | (.error fault, scene) => (.error fault, scene)

def runTicks (ticking : Ticking ν α) (config : Config ν) :
    Nat → Scene α → Outcome (RunFault ν) Unit (Scene α)
  | 0, scene => (.ok (), scene)
  | count + 1, scene =>
    match tick ticking config scene with
    | (.ok _, scene) => runTicks ticking config count scene
    | (.error fault, scene) => (.error fault, scene)

/-- Runs a world, or refuses a negative number of ticks. -/
def run (ticking : Ticking ν α) (config : Config ν) (count : Int) (scene : Scene α) :
    Outcome (RunFault ν) Unit (Scene α) :=
  if count < 0 then (.error (.raised (.negativeTicks (toString count))), scene)
  else runTicks ticking config count.toNat scene

def floatTicking : Ticking Value Float where
  dynamics := World.floating
  isPositive quantity := (quantity.isAbove 0.0).toOption.getD false
  timeText := Numeral.roundedText 6

end Scene

def Config.runFresh (config : Config Float) (count : Int) :
    Outcome (Scene.RunFault Value) Unit (Option (Scene Float)) :=
  if count < 0 then (.error (.raised (.negativeTicks (toString count))), none)
  else
    match World.initial config.height config.width with
    | .error fault => (.error (.raised fault), none)
    | .ok world =>
      let (outcome, scene) :=
        Scene.runTicks Scene.floatTicking (config.map .float) count.toNat { world }
      (outcome, some scene)

/-- The run of a world that is there already. -/
def Scene.continued (config : Config Float) (count : Int) (scene : Scene Float) :
    Outcome (Scene.RunFault Value) Unit (Scene Float) :=
  Scene.run Scene.floatTicking (config.map .float) count scene

end StepPipeline
