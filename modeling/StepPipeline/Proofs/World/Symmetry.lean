import StepPipeline.Proofs.World.Exact

/-!
The symmetry of diffusion. Turning a grid upside down or from left to right exchanges the cells
before a cell and after it, and transposing a grid exchanges its axes; none of this makes a
difference to what flows into a cell. As a cell after a step is a sum of multiples of cells before
it, diffusion keeps linear combinations as well. Main result: `Grid.diffuse_symmetric`.
-/

set_option autoImplicit false
set_option relaxedAutoImplicit false

namespace StepPipeline.Grid

variable {height width size : Nat} {ν α : Type}

/-! ### Images of a grid -/

def flipRows (grid : Grid height width α) : Grid height width α :=
  ofFn fun y x => grid.get y.rev x

def flipColumns (grid : Grid height width α) : Grid height width α :=
  ofFn fun y x => grid.get y x.rev

def transposed (grid : Grid height width α) : Grid width height α :=
  ofFn fun y x => grid.get x y

def combined [Add α] [Mul α] (a b : α) (u v : Grid height width α) : Grid height width α :=
  zipWith (fun p q => a * p + b * q) u v

@[simp] theorem get_flipRows (grid : Grid height width α) (y : Fin height) (x : Fin width) :
    grid.flipRows.get y x = grid.get y.rev x :=
  get_ofFn ..

@[simp] theorem get_flipColumns (grid : Grid height width α) (y : Fin height) (x : Fin width) :
    grid.flipColumns.get y x = grid.get y x.rev :=
  get_ofFn ..

@[simp] theorem get_transposed (grid : Grid height width α) (y : Fin width) (x : Fin height) :
    grid.transposed.get y x = grid.get x y :=
  get_ofFn ..

@[simp] theorem get_combined [Add α] [Mul α] (a b : α) (u v : Grid height width α)
    (y : Fin height) (x : Fin width) :
    (combined a b u v).get y x = a * u.get y x + b * v.get y x :=
  get_zipWith ..

/-! ### One step -/

theorem nearby_zero_rev (line : Fin size) : nearby 0 line.rev = (nearby 2 line).rev := by
  rw [nearby_zero, nearby_two]
  apply Fin.ext
  simp only [lineBefore, lineAfter, Fin.val_rev]
  omega

theorem nearby_two_rev (line : Fin size) : nearby 2 line.rev = (nearby 0 line).rev := by
  rw [← Fin.rev_rev (nearby 2 line.rev), ← nearby_zero_rev, Fin.rev_rev]

section

variable [CommRing α] (grid u v : Grid height width α) (a b number : α)

theorem diffused_flipRows (tall : 0 < height) (wide : 0 < width) :
    grid.flipRows.diffused tall wide number = (grid.diffused tall wide number).flipRows := by
  apply ext_get
  intro y x
  simp only [get_flipRows, get_diffused, nearby_zero_rev, nearby_two_rev]
  ring

theorem diffused_flipColumns (tall : 0 < height) (wide : 0 < width) :
    grid.flipColumns.diffused tall wide number = (grid.diffused tall wide number).flipColumns := by
  apply ext_get
  intro y x
  simp only [get_flipColumns, get_diffused, nearby_zero_rev, nearby_two_rev]
  ring

theorem diffused_transposed (tall : 0 < height) (wide : 0 < width) :
    grid.transposed.diffused wide tall number = (grid.diffused tall wide number).transposed := by
  apply ext_get
  intro y x
  simp only [get_transposed, get_diffused]
  ring

theorem diffused_combined (tall : 0 < height) (wide : 0 < width) :
    (combined a b u v).diffused tall wide number =
      combined a b (u.diffused tall wide number) (v.diffused tall wide number) := by
  apply ext_get
  intro y x
  simp only [get_combined, get_diffused]
  ring

end

/-! ### Diffusion -/

section

variable [Add α] [Sub α] [Mul α] [OfNat α 4] (accept : ν → Except WorldFault α) (number : ν)

theorem diffuse_cases (height width : Nat) :
    (∃ k tall wide, ∀ grid : Grid height width α,
        grid.diffuse accept number = .ok (grid.diffused tall wide k)) ∨
      ∃ fault, ∀ grid : Grid height width α, grid.diffuse accept number = .error fault := by
  cases accepted : accept number with
  | error fault => exact .inr ⟨fault, fun _ => diffuse_of_refused accepted⟩
  | ok k =>
    by_cases tall : 0 < height
    · by_cases wide : 0 < width
      · exact .inl ⟨k, tall, wide, fun _ => diffuse_of_accepted accepted tall wide⟩
      · exact .inr ⟨_, fun _ => diffuse_of_narrow accepted tall wide⟩
    · exact .inr ⟨_, fun _ => diffuse_of_flat accepted tall⟩

/-- What commutes with every step of diffusion commutes with diffusion, its faults included. -/
theorem diffuse_of_commutes {image : Grid height width α → Grid height width α}
    (commutes : ∀ tall wide k grid,
      diffused (image grid) tall wide k = image (diffused grid tall wide k))
    (grid : Grid height width α) :
    (image grid).diffuse accept number = (grid.diffuse accept number).map image := by
  rcases diffuse_cases accept number height width with ⟨k, tall, wide, steps⟩ | ⟨fault, fails⟩
  · rw [steps, steps, commutes]
    rfl
  · rw [fails, fails]
    rfl

theorem toOption_diffuse_of_empty (empty : ¬(0 < height ∧ 0 < width))
    (grid : Grid height width α) : (grid.diffuse accept number).toOption = none := by
  rcases diffuse_cases accept number height width with ⟨_, tall, wide, _⟩ | ⟨fault, fails⟩
  · exact absurd ⟨tall, wide⟩ empty
  · rw [fails]
    rfl

end

theorem toOption_diffuse_transposed [CommRing α] (accept : ν → Except WorldFault α) (number : ν)
    (grid : Grid height width α) :
    (grid.transposed.diffuse accept number).toOption =
      (grid.diffuse accept number).toOption.map transposed := by
  by_cases cells : 0 < height ∧ 0 < width
  · obtain ⟨tall, wide⟩ := cells
    cases accepted : accept number with
    | error fault =>
      rw [diffuse_of_refused accepted, diffuse_of_refused accepted]
      rfl
    | ok k =>
      rw [diffuse_of_accepted accepted tall wide, diffuse_of_accepted accepted wide tall,
        diffused_transposed]
      rfl
  · rw [toOption_diffuse_of_empty accept number cells,
      toOption_diffuse_of_empty accept number fun found => cells found.symm]
    rfl

theorem diffuse_combined [CommRing α] (accept : ν → Except WorldFault α) (number : ν) (a b : α)
    (u v : Grid height width α) :
    (combined a b u v).diffuse accept number = do
      let u' ← u.diffuse accept number
      let v' ← v.diffuse accept number
      return combined a b u' v' := by
  rcases diffuse_cases accept number height width with ⟨k, tall, wide, steps⟩ | ⟨fault, fails⟩
  · rw [steps, steps, steps, diffused_combined]
    rfl
  · rw [fails, fails]
    rfl

/--
Exact diffusion has no preferred direction and is linear. It commutes with reversing the rows, with
reversing the columns and with transposing the grid, whatever its shape, and it keeps every linear
combination of two grids. For all numbers up to the limit of stability and all grids with cells
there is a grid after it.
-/
theorem diffuse_symmetric (grid u v : Grid height width ℚ) (a b number : ℚ) :
    let diffuse {h w : Nat} (grid : Grid h w ℚ) := grid.diffuse World.exactNumber number
    diffuse grid.flipRows = (diffuse grid).map flipRows ∧
      diffuse grid.flipColumns = (diffuse grid).map flipColumns ∧
      (diffuse grid.transposed).toOption = (diffuse grid).toOption.map transposed ∧
      (diffuse (combined a b u v) = do
        let u' ← diffuse u
        let v' ← diffuse v
        return combined a b u' v') ∧
      (0 < height → 0 < width → 0 ≤ number → number ≤ 1 / 4 →
        ∃ after, diffuse grid = .ok after) := by
  intro diffuse
  refine ⟨?_, ?_, ?_, diffuse_combined World.exactNumber number a b u v, ?_⟩
  · exact diffuse_of_commutes World.exactNumber number
      (fun tall wide k grid => grid.diffused_flipRows k tall wide) grid
  · exact diffuse_of_commutes World.exactNumber number
      (fun tall wide k grid => grid.diffused_flipColumns k tall wide) grid
  · exact toOption_diffuse_transposed World.exactNumber number grid
  · intro tall wide positive stable
    exact ⟨_, diffuse_of_accepted (World.exactNumber_of_stable positive stable) tall wide⟩

private def powers : Grid 2 3 ℚ :=
  ofFn fun y x => 3 ^ (place y x : Nat)

theorem diffuse_symmetric_powers :
    ∃ after, powers.diffuse World.exactNumber (1 / 8) = .ok after ∧
      powers.flipRows.diffuse World.exactNumber (1 / 8) = .ok after.flipRows ∧
      powers.flipColumns.diffuse World.exactNumber (1 / 8) = .ok after.flipColumns ∧
      (powers.transposed.diffuse World.exactNumber (1 / 8)).toOption = some after.transposed ∧
      (combined 2 (-1) powers powers.flipRows).diffuse World.exactNumber (1 / 8) =
        .ok (combined 2 (-1) after after.flipRows) := by
  obtain ⟨rows, columns, axes, sums, succeeds⟩ :=
    diffuse_symmetric powers powers powers.flipRows 2 (-1) (1 / 8)
  obtain ⟨after, diffused⟩ := succeeds (by decide) (by decide) (by norm_num) (by norm_num)
  rw [diffused] at rows columns axes sums
  rw [rows] at sums
  exact ⟨after, diffused, rows, columns, axes, sums⟩

end StepPipeline.Grid
