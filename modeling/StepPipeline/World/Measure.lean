import StepPipeline.Grid
import StepPipeline.World.Op

/-!
Measures of a world: the total of its amounts and their peak. Floating-point addition depends on the
order, so the order is fixed: long rows of cells are halved at a multiple of eight, rows of up to
128 cells are added up in eight columns, and fewer than eight cells one after the other. The peak is
the first cell in the row order that no later cell beats.
-/

set_option autoImplicit false

namespace StepPipeline.Grid

section Total

variable {α : Type}

structure Columns (α : Type) where
  c₀ : α
  c₁ : α
  c₂ : α
  c₃ : α
  c₄ : α
  c₅ : α
  c₆ : α
  c₇ : α

variable [Add α]

namespace Columns

def add (s t : Columns α) : Columns α :=
  ⟨s.c₀ + t.c₀, s.c₁ + t.c₁, s.c₂ + t.c₂, s.c₃ + t.c₃, s.c₄ + t.c₄, s.c₅ + t.c₅, s.c₆ + t.c₆,
    s.c₇ + t.c₇⟩

def sum (s : Columns α) : α :=
  ((s.c₀ + s.c₁) + (s.c₂ + s.c₃)) + ((s.c₄ + s.c₅) + (s.c₆ + s.c₇))

/-- Adds all further blocks of eight cells, then the remaining cells one by one. -/
def addAll (s : Columns α) : List α → α
  | a :: b :: c :: d :: e :: f :: g :: h :: rest => (s.add ⟨a, b, c, d, e, f, g, h⟩).addAll rest
  | rest => rest.foldl (· + ·) s.sum

end Columns

def shortSum [OfNat α 0] : List α → α
  | a :: b :: c :: d :: e :: f :: g :: h :: rest =>
    (⟨a, b, c, d, e, f, g, h⟩ : Columns α).addAll rest
  | [] => 0
  | a :: rest => rest.foldl (· + ·) a

def half (n : Nat) : Nat :=
  n / 2 - n / 2 % 8

theorem half_bounds {n : Nat} (long : 128 < n) : 0 < half n ∧ half n < n := by
  unfold half
  omega

def rowSum [OfNat α 0] (cells : List α) : α :=
  if 128 < cells.length then
    rowSum (cells.take (half cells.length)) + rowSum (cells.drop (half cells.length))
  else shortSum cells
termination_by cells.length
decreasing_by
  all_goals
    have bounds : 0 < half cells.length ∧ half cells.length < cells.length :=
      half_bounds (by assumption)
    simp only [List.length_take, List.length_drop]
    omega

def total [OfNat α 0] {height width : Nat} (grid : Grid height width α) : α :=
  0 + rowSum grid.toList

end Total

section Peak

variable {height width : Nat} {α : Type}

/-- The better of the best place so far and a new one, which has to beat it. -/
def better (beats : α → α → Bool) (grid : Grid height width α)
    (best next : Fin (height * width)) : Fin (height * width) :=
  if beats grid.cells[next] grid.cells[best] then next else best

/-- The first place that no other beats; nothing if there are no cells. -/
def peakPlace? (beats : α → α → Bool) (grid : Grid height width α) :
    Option (Fin (height * width)) :=
  match List.finRange (height * width) with
  | [] => none
  | first :: rest => some (rest.foldl (grid.better beats) first)

def peak? (beats : α → α → Bool) (grid : Grid height width α) :
    Option (α × Fin height × Fin width) :=
  (grid.peakPlace? beats).map fun i => (grid.get (row i) (column i), row i, column i)

/-- A number beats a smaller one; what is not a number beats every number. -/
def numberBeats (x y : Float) : Bool :=
  !y.isNaN && (x.isNaN || y < x)

end Peak

end StepPipeline.Grid

namespace StepPipeline.World

def total (world : World Float) : Float :=
  world.grid.total

def peak (world : World Float) : Except WorldFault (Float × Nat × Nat) :=
  match world.grid.peak? Grid.numberBeats with
  | some (value, y, x) => .ok (value, y, x)
  | none => .error .noPeak

end StepPipeline.World
