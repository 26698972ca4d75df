import StepPipeline.Proofs.Grid.Peak
import StepPipeline.Proofs.Numeral.Order
import StepPipeline.World.Measure

/-!
The peak of a world. Floating-point numbers beat one another by their ranks, so the scan for the
peak of a grid ends at the first of the largest cells; its place in the row order is a row and a
column. Main result: `World.peak_first`.
-/

set_option autoImplicit false
set_option relaxedAutoImplicit false

namespace StepPipeline

namespace Grid

open Numeral.Binary64 (rank lt_iff_rank_lt rank_lt_of_isNaN rank_eq_of_isNaN)

theorem numberBeats_iff {x y : Float} : numberBeats x y = true ↔ rank y < rank x := by
  unfold numberBeats
  cases first : x.isNaN with
  | true =>
    cases second : y.isNaN with
    | true =>
      have tied := rank_eq_of_isNaN first second
      simp [tied]
    | false =>
      have beaten := rank_lt_of_isNaN second first
      simp [beaten]
  | false =>
    cases second : y.isNaN with
    | true =>
      have beaten := rank_lt_of_isNaN first second
      simp [beaten.le]
    | false =>
      have compares := lt_iff_rank_lt second first
      simp [compares]

theorem ranks_numberBeats : Ranks numberBeats where
  asymm x y beaten := by
    have higher := numberBeats_iff.mp beaten
    rw [← Bool.not_eq_true, numberBeats_iff]
    exact lt_asymm higher
  trans x y z first second := by
    rw [← Bool.not_eq_true, numberBeats_iff, not_lt] at first second ⊢
    exact le_trans first second

theorem place_lt_place_iff {height width : Nat} {y y' : Fin height} {x x' : Fin width} :
    place y' x' < place y x ↔ y' < y ∨ y' = y ∧ x' < x := by
  have column := x.isLt
  have column' := x'.isLt
  show y' * width + x' < y * width + x ↔ _
  rcases lt_trichotomy y' y with above | rfl | below
  · have rows : ((y' : Nat) + 1) * width ≤ y * width := Nat.mul_le_mul_right width above
    rw [Nat.add_one_mul] at rows
    simp only [above, true_or, iff_true]
    omega
  · simp
  · have rows : ((y : Nat) + 1) * width ≤ y' * width := Nat.mul_le_mul_right width below
    rw [Nat.add_one_mul] at rows
    have other := Fin.ne_of_gt below
    simp only [not_lt_of_gt below, other, false_and, or_self, iff_false]
    omega

end Grid

namespace World

open Numeral.Binary64 (lt_iff_rank_lt le_iff_rank_le beq_iff_rank_eq)

/--
A world that has cells, all of them numbers, has a peak: a cell that none exceeds and that exceeds
every cell before it in the row order. Of equal cells it is the one in the first row, and there the
one in the first column.
-/
theorem peak_first (world : World Float) (tall : 0 < world.height) (wide : 0 < world.width)
    (numbers : ∀ y x, (world.grid.get y x).isNaN = false) :
    ∃ y x, world.peak = .ok (world.grid.get y x, y, x) ∧
      (∀ y' x', world.grid.get y' x' ≤ world.grid.get y x) ∧
      (∀ y' x', y' < y ∨ y' = y ∧ x' < x → world.grid.get y' x' < world.grid.get y x) ∧
      ∀ y' x', (world.grid.get y' x' == world.grid.get y x) = true → y < y' ∨ y = y' ∧ x ≤ x' := by
  obtain ⟨y, x, found, unbeaten, first⟩ :=
    Grid.peak?_eq_some Grid.ranks_numberBeats world.grid tall wide
  have exceeds (y' : Fin world.height) (x' : Fin world.width)
      (before : y' < y ∨ y' = y ∧ x' < x) : world.grid.get y' x' < world.grid.get y x := by
    have beats := first y' x' (Grid.place_lt_place_iff.mpr before)
    rw [lt_iff_rank_lt (numbers y' x') (numbers y x)]
    exact Grid.numberBeats_iff.mp beats
  refine ⟨y, x, by rw [peak, found], ?_, exceeds, ?_⟩
  · intro y' x'
    have bounded := unbeaten y' x'
    rw [← Bool.not_eq_true, Grid.numberBeats_iff, not_lt] at bounded
    rwa [le_iff_rank_le (numbers y' x') (numbers y x)]
  · intro y' x' equal
    by_contra before
    have earlier : y' < y ∨ y' = y ∧ x' < x := by omega
    have below := exceeds y' x' earlier
    rw [lt_iff_rank_lt (numbers y' x') (numbers y x)] at below
    rw [beq_iff_rank_eq (numbers y' x') (numbers y x)] at equal
    exact absurd equal below.ne

/-- Two rows and three columns; the largest amount stands in four cells. -/
def tied : Grid 2 3 Float :=
  ⟨#v[1.0, 4.0, -0.0, 4.0, 4.0, 4.0]⟩

theorem peak_first_tied :
    (∀ y x, (tied.get y x).isNaN = false) ∧ (ofGrid tied).peak = .ok (4.0, 0, 1) ∧
      (∀ y x, tied.get y x ≤ 4.0) ∧ ∀ x, x < 1 → tied.get 0 x < 4.0 := by
  have numbers : ∀ y x, (tied.get y x).isNaN = false := by decide
  have computed : (ofGrid tied).peak = .ok (4.0, 0, 1) := rfl
  obtain ⟨(y : Fin 2), (x : Fin 3), found, largest, first, -⟩ :=
    peak_first (ofGrid tied) (by decide) (by decide) numbers
  rw [computed] at found
  have same : (4.0, 0, 1) = (tied.get y x, (y : Nat), (x : Nat)) := Except.ok.inj found
  obtain ⟨amount, row, column⟩ : 4.0 = tied.get y x ∧ 0 = (y : Nat) ∧ 1 = (x : Nat) := by
    simpa using same
  obtain rfl : y = 0 := Fin.ext row.symm
  obtain rfl : x = 1 := Fin.ext column.symm
  refine ⟨numbers, computed, fun y x => ?_, fun x before => ?_⟩
  · rw [amount]
    exact largest y x
  · rw [amount]
    exact first (0 : Fin 2) x (.inr ⟨rfl, before⟩)

end World

end StepPipeline
