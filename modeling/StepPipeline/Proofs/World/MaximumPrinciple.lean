import StepPipeline.World.Measure
import StepPipeline.Proofs.Grid.Bounds
import StepPipeline.Proofs.Grid.Peak
import StepPipeline.Proofs.World.Exact

/-!
The maximum principle of diffusion. With an exact diffusion number up to the limit of stability a
cell ends between the lowest and the highest amount that it and its neighbours in the grid had. So
the lowest amount of a grid never falls, its peak never rises, and a grid whose amounts are all the
same stays as it is. Main result: `Grid.diffuse_maximum_principle`.
-/

set_option autoImplicit false
set_option relaxedAutoImplicit false

namespace StepPipeline.Grid

variable {height width : Nat}

/-! ### Extremes -/

/-- A cell and the cells of the grid beside it, above it and below it. -/
def closeTo (y : Fin height) (x : Fin width) : Finset (Fin height × Fin width) :=
  {cell | ((y : ℤ) - cell.1).natAbs + ((x : ℤ) - cell.2).natAbs ≤ 1}

theorem closeTo_nonempty (y : Fin height) (x : Fin width) : (closeTo y x).Nonempty :=
  ⟨(y, x), by simp [closeTo]⟩

theorem cells_nonempty (tall : 0 < height) (wide : 0 < width) :
    (Finset.univ : Finset (Fin height × Fin width)).Nonempty :=
  ⟨(⟨0, tall⟩, ⟨0, wide⟩), Finset.mem_univ _⟩

section

variable {α : Type} [LinearOrder α] {cells : Finset (Fin height × Fin width)}

def lowest (grid : Grid height width α) (cells : Finset (Fin height × Fin width))
    (some : cells.Nonempty) : α :=
  cells.inf' some fun cell => grid.get cell.1 cell.2

def highest (grid : Grid height width α) (cells : Finset (Fin height × Fin width))
    (some : cells.Nonempty) : α :=
  cells.sup' some fun cell => grid.get cell.1 cell.2

theorem lowest_le (grid : Grid height width α) (some : cells.Nonempty) {y : Fin height}
    {x : Fin width} (among : (y, x) ∈ cells) : grid.lowest cells some ≤ grid.get y x :=
  Finset.inf'_le (fun cell : Fin height × Fin width => grid.get cell.1 cell.2) among

theorem le_highest (grid : Grid height width α) (some : cells.Nonempty) {y : Fin height}
    {x : Fin width} (among : (y, x) ∈ cells) : grid.get y x ≤ grid.highest cells some :=
  Finset.le_sup' (fun cell : Fin height × Fin width => grid.get cell.1 cell.2) among

end

theorem Around.mem_closeTo {y y' : Fin height} {x x' : Fin width} (around : Around y x y' x') :
    (y', x') ∈ closeTo y x := by
  simp only [closeTo, Finset.mem_filter, Finset.mem_univ, true_and]
  cases around with
  | own => omega
  | up =>
    rw [nearby_zero]
    simp only [lineBefore]
    omega
  | down =>
    rw [nearby_two]
    simp only [lineAfter]
    omega
  | left =>
    rw [nearby_zero]
    simp only [lineBefore]
    omega
  | right =>
    rw [nearby_two]
    simp only [lineAfter]
    omega

/-! ### Peaks -/

def exceeds (x y : ℚ) : Bool :=
  decide (y < x)

theorem exceeds_eq_false {x y : ℚ} : exceeds x y = false ↔ x ≤ y := by
  rw [exceeds, decide_eq_false_iff_not, not_lt]

theorem ranks_exceeds : Ranks exceeds where
  asymm x y beaten := by
    rw [exceeds, decide_eq_true_iff] at beaten
    exact exceeds_eq_false.mpr beaten.le
  trans x y z first second := by
    rw [exceeds_eq_false] at first second ⊢
    exact first.trans second

/-- The peak of a grid is its highest amount. -/
theorem peak?_exceeds (grid : Grid height width ℚ) (tall : 0 < height) (wide : 0 < width) :
    ∃ y x, grid.peak? exceeds =
      some (grid.highest Finset.univ (cells_nonempty tall wide), y, x) := by
  obtain ⟨y, x, found, unbeaten, _⟩ := grid.peak?_eq_some ranks_exceeds tall wide
  refine ⟨y, x, ?_⟩
  have highest : grid.highest Finset.univ (cells_nonempty tall wide) = grid.get y x := by
    apply le_antisymm
    · exact Finset.sup'_le _ _ fun cell _ => exceeds_eq_false.mp (unbeaten cell.1 cell.2)
    · exact grid.le_highest _ (Finset.mem_univ _)
  rw [found, highest]

/-! ### Diffusion -/

section

variable (grid : Grid height width ℚ) (tall : 0 < height) (wide : 0 < width) {number : ℚ}

theorem diffused_within_extremes (positive : 0 ≤ number) (stable : number ≤ 1 / 4) :
    (grid.diffused tall wide number).Within
      (grid.lowest Finset.univ (cells_nonempty tall wide))
      (grid.highest Finset.univ (cells_nonempty tall wide)) := by
  have before : grid.Within (grid.lowest Finset.univ (cells_nonempty tall wide))
      (grid.highest Finset.univ (cells_nonempty tall wide)) := fun y x =>
    ⟨grid.lowest_le _ (Finset.mem_univ _), grid.le_highest _ (Finset.mem_univ _)⟩
  exact before.diffused tall wide positive (by linarith)

theorem get_diffused_extremes (positive : 0 ≤ number) (stable : number ≤ 1 / 4)
    (y : Fin height) (x : Fin width) :
    grid.lowest (closeTo y x) (closeTo_nonempty y x) ≤ (grid.diffused tall wide number).get y x ∧
      (grid.diffused tall wide number).get y x ≤
        grid.highest (closeTo y x) (closeTo_nonempty y x) := by
  refine get_diffused_between tall wide positive (by linarith) fun y' x' around => ?_
  exact ⟨grid.lowest_le _ around.mem_closeTo, grid.le_highest _ around.mem_closeTo⟩

/--
The maximum principle. With a diffusion number from zero up to one quarter every cell ends between
the lowest and the highest amount that it and its neighbours in the grid had. The lowest amount of
the grid does not fall, its peak does not rise, and a constant grid stays as it is. With any other
number diffusion fails.
-/
theorem diffuse_maximum_principle (number : ℚ) :
    (0 ≤ number → number ≤ 1 / 4 →
      ∃ after, grid.diffuse World.exactNumber number = .ok after ∧
        (∀ y x, grid.lowest (closeTo y x) (closeTo_nonempty y x) ≤ after.get y x ∧
          after.get y x ≤ grid.highest (closeTo y x) (closeTo_nonempty y x)) ∧
        grid.lowest Finset.univ (cells_nonempty tall wide) ≤
          after.lowest Finset.univ (cells_nonempty tall wide) ∧
        (∃ old new, grid.peak? exceeds = some old ∧ after.peak? exceeds = some new ∧
          new.1 ≤ old.1) ∧
        ∀ amount, grid = fill amount → after = grid) ∧
      (number < 0 →
        ∃ text, grid.diffuse World.exactNumber number = .error (.negativeNumber text)) ∧
      (1 / 4 < number →
        ∃ text, grid.diffuse World.exactNumber number = .error (.unstable text)) := by
  refine ⟨fun positive stable => ?_, fun negative => ?_, fun unstable => ?_⟩
  · have within := grid.diffused_within_extremes tall wide positive stable
    refine ⟨_, diffuse_of_accepted (World.exactNumber_of_stable positive stable) tall wide,
      grid.get_diffused_extremes tall wide positive stable, ?_, ?_, ?_⟩
    · exact Finset.le_inf' _ _ fun cell _ => (within cell.1 cell.2).1
    · obtain ⟨_, _, old⟩ := grid.peak?_exceeds tall wide
      obtain ⟨_, _, new⟩ := (grid.diffused tall wide number).peak?_exceeds tall wide
      refine ⟨_, _, old, new, ?_⟩
      exact Finset.sup'_le (cells_nonempty tall wide) _ fun cell _ => (within cell.1 cell.2).2
    · rintro amount rfl
      exact diffused_fill tall wide number amount
  · exact ⟨_, diffuse_of_refused (World.exactNumber_of_negative negative)⟩
  · exact ⟨_, diffuse_of_refused (World.exactNumber_of_unstable unstable)⟩

end

def spill : Grid 1 4 ℚ :=
  ofFn fun _ x => if (x : Nat) = 0 then 8 else 0

theorem diffuse_maximum_principle_spill :
    (∃ after, spill.diffuse World.exactNumber (1 / 4) = .ok after ∧ after.get 0 2 = 0 ∧
      ∃ peak, after.peak? exceeds = some peak ∧ peak.1 ≤ 8) ∧
      ∃ text, spill.diffuse World.exactNumber (1 / 2) = .error (.unstable text) := by
  have peak : spill.peak? exceeds = some (8, 0, 0) := by decide +kernel
  have low : spill.lowest (closeTo 0 2) (closeTo_nonempty 0 2) = 0 := by decide +kernel
  have high : spill.highest (closeTo 0 2) (closeTo_nonempty 0 2) = 0 := by decide +kernel
  obtain ⟨spreads, _, _⟩ := spill.diffuse_maximum_principle (by decide) (by decide) (1 / 4)
  obtain ⟨_, _, refused⟩ := spill.diffuse_maximum_principle (by decide) (by decide) (1 / 2)
  obtain ⟨after, diffused, bounds, _, ⟨old, new, before, found, lower⟩, _⟩ :=
    spreads (by norm_num) (by norm_num)
  have cell := bounds 0 2
  rw [low, high] at cell
  obtain rfl := Option.some.inj (peak.symm.trans before)
  exact ⟨⟨after, diffused, le_antisymm cell.2 cell.1, new, found, lower⟩,
    refused (by norm_num)⟩

end StepPipeline.Grid
