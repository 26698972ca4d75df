import StepPipeline.Grid.Memory
import StepPipeline.World.Op

/-!
Diffusion on its own. The diffusion number is checked first; then the new grid is computed from
parts of a padded copy, by operations on whole grids that each store their result as a new grid.
-/

set_option autoImplicit false

namespace StepPipeline

variable {height width : Nat} {ν α : Type}

namespace Memory

/-- An action on grids in memory, which keeps what was stored before a fault. -/
abbrev Action (α : Type) :=
  ExceptT WorldFault (StateM (Memory α))

namespace Action

variable [OfNat α 0]

def combine (f : α → α → α) (a b : Patch height width) : Action α (Patch height width) :=
  modifyGet fun memory => memory.store (Grid.zipWith f (memory.load a) (memory.load b))

def transform (f : α → α) (a : Patch height width) : Action α (Patch height width) :=
  modifyGet fun memory => memory.store ((memory.load a).map f)

/-- Makes a copy of a grid with its outermost cells repeated once around it. -/
def pad (a : Patch height width) : Action α (Patch (height + 2) (width + 2)) :=
  if tall : 0 < height then
    if wide : 0 < width then
      modifyGet fun memory => memory.store ((memory.load a).padded tall wide)
    else throw (.noEdge 1)
  else throw (.noEdge 0)

variable [Add α] [Sub α] [Mul α] [OfNat α 4]

/-- One explicit step of diffusion, for the numbers that are accepted. -/
def diffuse (accept : ν → Except WorldFault α) (values : Patch height width) (number : ν) :
    Action α (Patch height width) := do
  let number ← accept number
  let padded ← pad values
  let vertical ← combine (fun a b => a + b) (padded.slice .front .middle)
    (padded.slice .back .middle)
  let further ← combine (fun a b => a + b) vertical (padded.slice .middle .front)
  let inflow ← combine (fun a b => a + b) further (padded.slice .middle .back)
  let outflow ← transform (fun v => 4 * v) values
  let change ← combine (fun a b => a - b) inflow outflow
  let flow ← transform (fun v => number * v) change
  combine (fun a b => a + b) values flow

end Action

end Memory

def Grid.diffuse [Add α] [Sub α] [Mul α] [OfNat α 4] (accept : ν → Except WorldFault α)
    (grid : Grid height width α) (number : ν) : Except WorldFault (Grid height width α) := do
  let number ← accept number
  grid.diffused? number

end StepPipeline
