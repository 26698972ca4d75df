import StepPipeline.Grid

/-!
Grids in memory. The cells of all grids stand in one row, and a grid is known by the places of its
cells, which are a grid themselves: a window of these places is a window of the grid and shares its
cells. A new grid takes up new cells behind all others.
-/

set_option autoImplicit false

namespace StepPipeline

variable {height width : Nat} {α : Type}

/-- A grid in memory: the place of each of its cells. -/
abbrev Patch (height width : Nat) := Grid height width Nat

/-- The lines that are left of an axis when two are taken away. -/
inductive Slice where
  /-- All but the last two. -/
  | front
  /-- All but the first and the last one. -/
  | middle
  /-- All but the first two. -/
  | back

namespace Slice

def skipped : Slice → Nat
  | front => 0
  | middle => 1
  | back => 2

theorem skipped_lt (slice : Slice) : slice.skipped < 3 := by
  cases slice <;> decide

def offset (slice : Slice) : Fin 3 :=
  ⟨slice.skipped, slice.skipped_lt⟩

end Slice

/-- A part of a patch, which shares its cells. -/
def Patch.slice (patch : Patch (height + 2) (width + 2)) (rows columns : Slice) :
    Patch height width :=
  patch.window rows.offset columns.offset

structure Memory (α : Type) where
  cells : Array α := #[]

namespace Memory

/-- The grid that a patch shows; a place beyond all cells would hold zero. -/
def load [OfNat α 0] (memory : Memory α) (patch : Patch height width) : Grid height width α :=
  patch.map fun place => memory.cells.getD place 0

def next (memory : Memory α) (height width : Nat) : Patch height width :=
  Grid.ofFn fun y x => memory.cells.size + Grid.place y x

def store (memory : Memory α) (grid : Grid height width α) : Patch height width × Memory α :=
  (memory.next height width, { cells := memory.cells ++ grid.cells.toArray })

end Memory

end StepPipeline
