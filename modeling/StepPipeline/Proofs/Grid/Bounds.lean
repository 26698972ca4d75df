import Mathlib
import StepPipeline.Proofs.Grid.Stencil

/-!
Bounds of the cells of a grid. Up to the limit of stability a step of diffusion gives every cell a
mean of its old value and those of its neighbours, with weights that are not negative: it keeps the
order of grids, and it leaves a grid alone whose cells are all the same. So no cell leaves the
bounds of the cells around it. Main results: `Grid.get_diffused_mono`, `Grid.get_diffused_between`.
-/

set_option autoImplicit false
set_option relaxedAutoImplicit false

namespace StepPipeline.Grid

variable {height width : Nat} {α : Type}

/-- A cell is one of those around another: it itself and its four neighbours, which at an edge it is
as well. -/
inductive Around (y : Fin height) (x : Fin width) : Fin height → Fin width → Prop
  | own : Around y x y x
  | up : Around y x (nearby 0 y) x
  | down : Around y x (nearby 2 y) x
  | left : Around y x y (nearby 0 x)
  | right : Around y x y (nearby 2 x)

def Within [LE α] (low high : α) (grid : Grid height width α) : Prop :=
  ∀ y x, low ≤ grid.get y x ∧ grid.get y x ≤ high

/-- A cell is as it was, or one of some amounts has been added to it. -/
def Topped [Add α] (grid : Grid height width α) (amounts : List α) (y : Fin height)
    (x : Fin width) (after : Grid height width α) : Prop :=
  after.get y x = grid.get y x ∨ ∃ amount ∈ amounts, after.get y x = grid.get y x + amount

theorem topped_added [Add α] (grid : Grid height width α)
    (places : List (Fin height × Fin width)) (amounts : List α) (y : Fin height) (x : Fin width) :
    grid.Topped amounts y x (grid.added places amounts) := by
  -- each amount is added to what was in the cell at first, so the last one is all that is left
  refine List.foldlRecOn (motive := grid.Topped amounts y x) _ _ (.inl rfl) ?_
  rintro sums so_far ⟨⟨row, column⟩, amount⟩ among
  dsimp only
  rw [Topped, get_set]
  split
  · next here =>
    obtain ⟨rfl, rfl⟩ := here
    exact .inr ⟨amount, (List.of_mem_zip among).2, rfl⟩
  · exact so_far

variable [CommRing α]

/-- A cell after a step of diffusion is a mean of the cells around it, each with its weight. -/
theorem get_diffused_weighted (grid : Grid height width α) (tall : 0 < height) (wide : 0 < width)
    (number : α) (y : Fin height) (x : Fin width) :
    (grid.diffused tall wide number).get y x = (1 - 4 * number) * grid.get y x +
      number * (grid.get (nearby 0 y) x + grid.get (nearby 2 y) x + grid.get y (nearby 0 x) +
        grid.get y (nearby 2 x)) := by
  rw [get_diffused]
  ring

theorem diffused_fill (tall : 0 < height) (wide : 0 < width) (number v : α) :
    (fill v : Grid height width α).diffused tall wide number = fill v := by
  apply ext_get
  intro y x
  rw [get_diffused_weighted]
  simp only [get_fill]
  ring

variable [LinearOrder α] [IsStrictOrderedRing α] {number : α}

theorem get_diffused_mono (tall : 0 < height) (wide : 0 < width) (positive : 0 ≤ number)
    (stable : 4 * number ≤ 1) {a b : Grid height width α} {y : Fin height} {x : Fin width}
    (le : ∀ y' x', Around y x y' x' → a.get y' x' ≤ b.get y' x') :
    (a.diffused tall wide number).get y x ≤ (b.diffused tall wide number).get y x := by
  have kept : 0 ≤ 1 - 4 * number := sub_nonneg.mpr stable
  have own := le _ _ .own
  have up := le _ _ .up
  have down := le _ _ .down
  have left := le _ _ .left
  have right := le _ _ .right
  rw [get_diffused_weighted, get_diffused_weighted]
  gcongr

theorem get_diffused_between (tall : 0 < height) (wide : 0 < width) (positive : 0 ≤ number)
    (stable : 4 * number ≤ 1) {grid : Grid height width α} {y : Fin height} {x : Fin width}
    {low high : α}
    (bounds : ∀ y' x', Around y x y' x' → low ≤ grid.get y' x' ∧ grid.get y' x' ≤ high) :
    low ≤ (grid.diffused tall wide number).get y x ∧
      (grid.diffused tall wide number).get y x ≤ high := by
  -- the bounds are what diffusion leaves of grids whose cells are all one of them
  have above : ((fill low : Grid height width α).diffused tall wide number).get y x ≤
      (grid.diffused tall wide number).get y x :=
    get_diffused_mono tall wide positive stable fun y' x' near => by
      rw [get_fill]
      exact (bounds y' x' near).1
  have below : (grid.diffused tall wide number).get y x ≤
      ((fill high : Grid height width α).diffused tall wide number).get y x :=
    get_diffused_mono tall wide positive stable fun y' x' near => by
      rw [get_fill]
      exact (bounds y' x' near).2
  rw [diffused_fill, get_fill] at above below
  exact ⟨above, below⟩

namespace Within

variable {grid : Grid height width α} {low high amount part : α}

theorem diffused (within : grid.Within low high) (tall : 0 < height) (wide : 0 < width)
    (positive : 0 ≤ number) (stable : 4 * number ≤ 1) :
    (grid.diffused tall wide number).Within low high :=
  fun _ _ => get_diffused_between tall wide positive stable fun y' x' _ => within y' x'

theorem grows (within : grid.Within low high) (positive : 0 ≤ amount) (y : Fin height)
    (x : Fin width) :
    low ≤ grid.get y x + amount ∧ grid.get y x + amount ≤ high + amount :=
  ⟨le_add_of_le_of_nonneg (within y x).1 positive, add_le_add_left (within y x).2 amount⟩

theorem raised (within : grid.Within low high) (positive : 0 ≤ amount) :
    grid.Within low (high + amount) :=
  fun y x => ⟨(within y x).1, le_add_of_le_of_nonneg (within y x).2 positive⟩

theorem added (within : grid.Within low high) (positive : 0 ≤ amount)
    (places : List (Fin height × Fin width)) {amounts : List α}
    (equal : ∀ other ∈ amounts, other = amount) :
    (grid.added places amounts).Within low (high + amount) := by
  intro y x
  rcases grid.topped_added places amounts y x with same | ⟨other, member, more⟩
  · rw [same]
    exact within.raised positive y x
  · rw [more, equal other member]
    exact within.grows positive y x

theorem deposited (within : grid.Within low high) (positive : 0 ≤ amount) (row : Fin height)
    (column : Fin width) :
    (grid.set row column (grid.get row column + amount)).Within low (high + amount) := by
  intro y x
  rw [get_set]
  split
  · exact within.grows positive row column
  · exact within.raised positive y x

theorem scaled (within : grid.Within 0 high) (positive : 0 ≤ part) (whole : part ≤ 1) :
    (grid.map fun v => v * part).Within 0 high := by
  intro y x
  obtain ⟨above, below⟩ := within y x
  rw [get_map]
  exact ⟨mul_nonneg above positive, (mul_le_of_le_one_right above whole).trans below⟩

omit [IsStrictOrderedRing α] in
theorem cleared (within : grid.Within 0 high) : (fill 0 : Grid height width α).Within 0 high := by
  intro y x
  obtain ⟨above, below⟩ := within y x
  rw [get_fill]
  exact ⟨le_refl 0, above.trans below⟩

end Within

end StepPipeline.Grid
