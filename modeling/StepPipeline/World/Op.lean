import StepPipeline.Grid
import StepPipeline.World.Selection

/-!
World operations. Each changes its own part of a world and leaves an event, or it fails and leaves
the world as it was. As an action an operation does so one statement after the other; what was
changed before a fault stays changed. The arithmetic is a parameter: the same operations act on
floating-point numbers and on exact ones.
-/

set_option autoImplicit false

namespace StepPipeline

/-- An operation on a world; `ν` is the type of its quantities. -/
inductive Op (ν : Type) where
  | deposit (x y : Value) (amount : ν)
  | diffuse (rate : ν)
  | decay (halfLife : ν)
  | clear
  | advance
  /-- A variant that worlds do not know. -/
  | other (variant : String)

namespace Op

variable {ν : Type}

def variant : Op ν → String
  | deposit .. => "Deposit"
  | diffuse _ => "Diffuse"
  | decay _ => "Decay"
  | clear => "Clear"
  | advance => "Advance"
  | other variant => variant

def shown (text : ν → String) : Op ν → String
  | deposit x y amount => s!"Deposit(x={x.shown}, y={y.shown}, amount={text amount})"
  | diffuse rate => s!"Diffuse(rate={text rate})"
  | decay halfLife => s!"Decay(half_life_s={text halfLife})"
  | clear => "Clear()"
  | advance => "Advance()"
  | other variant => s!"{variant}()"

end Op

/-- How quantities of type `ν` act on amounts of type `α`. -/
structure Dynamics (ν α : Type) where
  /-- A quantity as an amount for one cell. -/
  amount : ν → Except WorldFault α
  /-- A quantity as amounts for a block of cells. -/
  amounts : Extents → ν → Except WorldFault (List α)
  /-- The diffusion number of a rate in a tick, if the scheme is stable with it. -/
  diffusionNumber : (rate length : ν) → Except WorldFault α
  /-- The part of an amount that is left after a tick, for a half-life. -/
  remainder : (length halfLife : ν) → Except WorldFault α
  /-- A length of time as time. -/
  duration : ν → Except WorldFault α

namespace Grid

variable {height width : Nat} {α : Type} [Add α] [Sub α] [Mul α] [OfNat α 4]

/-- One explicit step of diffusion; nothing flows over an edge. -/
def diffused (grid : Grid height width α) (tall : 0 < height) (wide : 0 < width) (number : α) :
    Grid height width α :=
  let around := grid.padded tall wide
  let plus := zipWith fun (a b : α) => a + b
  let up := around.window 0 1
  let down := around.window 2 1
  let left := around.window 1 0
  let right := around.window 1 2
  let inflow := plus (plus (plus up down) left) right
  let outflow := grid.map fun v => 4 * v
  let change := zipWith (fun a b => a - b) inflow outflow
  plus grid (change.map fun v => number * v)

/-- The grid with amounts added to its cells at some places. Each is added to what was in the cell
before, so that of several for one cell the last one counts. -/
def added (grid : Grid height width α) (places : List (Fin height × Fin width))
    (amounts : List α) : Grid height width α :=
  (places.zip amounts).foldl
    (fun sums ((row, column), amount) => sums.set row column (grid.get row column + amount)) grid

def deposited {ν : Type} (dynamics : Dynamics ν α) (grid : Grid height width α) (amount : ν) :
    World.Selection height width → Except WorldFault (Grid height width α)
  | .cell row column => do
    let amount ← dynamics.amount amount
    return grid.set row column (grid.get row column + amount)
  | .block extents places => do
    let amounts ← dynamics.amounts extents amount
    return grid.added places amounts

/-- One step of diffusion, as long as the grid has edges to repeat. -/
def diffused? (grid : Grid height width α) (number : α) :
    Except WorldFault (Grid height width α) :=
  if tall : 0 < height then
    if wide : 0 < width then .ok (grid.diffused tall wide number) else .error (.noEdge 1)
  else .error (.noEdge 0)

end Grid

namespace World

variable {ν α : Type}

def record (world : World α) (name index : String) : World α :=
  { world with events := world.events.push s!"{name}@{index}" }

variable [Add α] [Sub α] [Mul α] [OfNat α 4] [OfNat α 0]

/-- What an operation does to a world, its event apart. -/
def changed (dynamics : Dynamics ν α) (length : ν) (world : World α) :
    Op ν → Except WorldFault (World α)
  | .deposit x y amount => do
    let selection ← select world.height world.width x y
    let grid ← world.grid.deposited dynamics amount selection
    return { world with grid }
  | .diffuse rate => do
    let number ← dynamics.diffusionNumber rate length
    let grid ← world.grid.diffused? number
    return { world with grid }
  | .decay halfLife => do
    let part ← dynamics.remainder length halfLife
    return { world with grid := world.grid.map fun v => v * part }
  | .clear => return { world with grid := Grid.fill 0 }
  | .advance => do
    let passed ← dynamics.duration length
    return { world with time := world.time + passed, ticks := world.ticks + 1 }
  | .other variant => .error (.unhandled variant)

def apply (dynamics : Dynamics ν α) (tick : Tick ν) (world : World α) (op : Op ν) :
    Except WorldFault (World α) := do
  let world ← changed dynamics tick.length world op
  return world.record op.variant tick.index

end World

end StepPipeline

namespace StepPipeline.World

/-- An action on a world, which keeps what was done before a fault. -/
abbrev Action (α : Type) :=
  ExceptT WorldFault (StateM (World α))

namespace Action

variable {ν α : Type} [Add α] [Sub α] [Mul α] [OfNat α 4] [OfNat α 0]

def effect (dynamics : Dynamics ν α) (length : ν) : Op ν → Action α Unit
  | .deposit x y amount => do
    let world ← get
    let selection ← select world.height world.width x y
    let grid ← world.grid.deposited dynamics amount selection
    set { world with grid }
  | .diffuse rate => do
    let number ← dynamics.diffusionNumber rate length
    let world ← get
    let grid ← world.grid.diffused? number
    set { world with grid }
  | .decay halfLife => do
    let part ← dynamics.remainder length halfLife
    modify fun world => { world with grid := world.grid.map fun v => v * part }
  | .clear => modify fun world => { world with grid := Grid.fill 0 }
  | .advance => do
    let passed ← dynamics.duration length
    modify fun world => { world with time := world.time + passed }
    modify fun world => { world with ticks := world.ticks + 1 }
  | .other variant => throw (.unhandled variant)

def ofOp (dynamics : Dynamics ν α) (tick : Tick ν) (op : Op ν) : Action α Unit := do
  effect dynamics tick.length op
  modify fun world => world.record op.variant tick.index

end Action

end StepPipeline.World
