import Mathlib.Algebra.BigOperators.Fin
import Mathlib.Algebra.BigOperators.Ring.Finset
import Mathlib.Tactic.LinearCombination
import StepPipeline.World.Op

/-!
One step of diffusion, cell by cell. The four windows of a padded grid show every cell its four
neighbours, where a cell at an edge is its own neighbour. So what flows into the cells of a line
from both sides is what flows out of them, the ends of the line included, and over the whole grid
nothing is gained or lost. Main results: `Grid.get_diffused`, `Grid.sum_diffused`.
-/

set_option autoImplicit false
set_option relaxedAutoImplicit false

namespace StepPipeline.Grid

variable {height width size : Nat} {α : Type}

/-! ### Neighbours -/

theorem shifted_lt (offset : Fin 3) (line : Fin size) : (offset + line : Nat) < size + 2 := by
  omega

/-- The line that a window with some offset shows for a line: the one before it, itself or the one
after it. -/
def nearby (offset : Fin 3) (line : Fin size) : Fin size :=
  inward size (Nat.zero_lt_of_lt line.isLt) ⟨offset + line, shifted_lt offset line⟩

@[simp] theorem nearby_one (line : Fin size) : nearby 1 line = line := by
  apply Fin.ext
  change min (1 + (line : Nat) - 1) (size - 1) = line
  omega

theorem nearby_zero_zero : nearby 0 (0 : Fin (size + 1)) = 0 := rfl

theorem nearby_zero_succ (line : Fin size) : nearby 0 line.succ = line.castSucc := by
  apply Fin.ext
  change min (0 + ((line : Nat) + 1) - 1) (size + 1 - 1) = line
  omega

theorem nearby_two_castSucc (line : Fin size) : nearby 2 line.castSucc = line.succ := by
  apply Fin.ext
  change min (2 + (line : Nat) - 1) (size + 1 - 1) = line + 1
  omega

theorem nearby_two_last : nearby 2 (Fin.last size) = Fin.last size := by
  apply Fin.ext
  change min (2 + size - 1) (size + 1 - 1) = size
  omega

theorem get_window_padded (grid : Grid height width α) (tall : 0 < height) (wide : 0 < width)
    (top left : Fin 3) (y : Fin height) (x : Fin width) :
    ((grid.padded tall wide).window top left).get y x =
      grid.get (nearby top y) (nearby left x) := by
  simp only [window, padded, get_ofFn, nearby]

theorem get_diffused [Add α] [Sub α] [Mul α] [OfNat α 4] (grid : Grid height width α)
    (tall : 0 < height) (wide : 0 < width) (number : α) (y : Fin height) (x : Fin width) :
    (grid.diffused tall wide number).get y x =
      grid.get y x + number * (grid.get (nearby 0 y) x + grid.get (nearby 2 y) x +
        grid.get y (nearby 0 x) + grid.get y (nearby 2 x) - 4 * grid.get y x) := by
  simp only [diffused, get_zipWith, get_map, get_window_padded, nearby_one]

/-! ### Sums -/

/-- The lines before and after the lines of an axis are these lines, each of them twice. -/
theorem sum_nearby [AddCommMonoid α] (f : Fin size → α) :
    ∑ line, f (nearby 0 line) + ∑ line, f (nearby 2 line) = ∑ line, f line + ∑ line, f line := by
  cases size with
  | zero => simp only [Fin.sum_univ_zero]
  | succ size =>
    calc ∑ line, f (nearby 0 line) + ∑ line, f (nearby 2 line)
        = (f 0 + ∑ line : Fin size, f line.castSucc) +
            (∑ line : Fin size, f line.succ + f (Fin.last size)) := by
          rw [Fin.sum_univ_succ, Fin.sum_univ_castSucc fun line => f (nearby 2 line)]
          simp only [nearby_zero_zero, nearby_zero_succ, nearby_two_castSucc, nearby_two_last]
      _ = (f 0 + ∑ line : Fin size, f line.succ) +
            (∑ line : Fin size, f line.castSucc + f (Fin.last size)) := add_add_add_comm ..
      _ = ∑ line, f line + ∑ line, f line := by
          rw [← Fin.sum_univ_succ, ← Fin.sum_univ_castSucc]

theorem sum_diffused [CommRing α] (grid : Grid height width α) (tall : 0 < height)
    (wide : 0 < width) (number : α) :
    ∑ y, ∑ x, (grid.diffused tall wide number).get y x = ∑ y, ∑ x, grid.get y x := by
  have vertical : ∑ y, ∑ x, grid.get (nearby 0 y) x + ∑ y, ∑ x, grid.get (nearby 2 y) x =
      ∑ y, ∑ x, grid.get y x + ∑ y, ∑ x, grid.get y x :=
    sum_nearby fun y => ∑ x, grid.get y x
  have horizontal : ∑ y, ∑ x, grid.get y (nearby 0 x) + ∑ y, ∑ x, grid.get y (nearby 2 x) =
      ∑ y, ∑ x, grid.get y x + ∑ y, ∑ x, grid.get y x := by
    rw [← Finset.sum_add_distrib, ← Finset.sum_add_distrib]
    exact Finset.sum_congr rfl fun y _ => sum_nearby (grid.get y)
  simp only [get_diffused, Finset.sum_add_distrib, Finset.sum_sub_distrib, ← Finset.mul_sum]
  linear_combination number * vertical + number * horizontal

end StepPipeline.Grid
