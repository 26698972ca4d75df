import StepPipeline.Proofs.Grid.Memory
import StepPipeline.Proofs.Grid.Stencil
import StepPipeline.Proofs.World.Action
import StepPipeline.World.Arithmetic
import StepPipeline.World.Diffusion

/-!
Diffusion in memory. Each operation on whole grids stores its result in new cells, so the parts of
the padded copy and all results up to then still show what they showed. In the end the new patch
shows the old grid after one step of diffusion, cell by cell a formula in the old cell and its four
neighbours. Main results: `Memory.diffuse_refines`, `Memory.diffuse_stencil`.
-/

set_option autoImplicit false
set_option relaxedAutoImplicit false

namespace StepPipeline

variable {height width size : Nat} {ν α : Type}

/-! ### Neighbours -/

namespace Grid

/-- The line before a line; the first one has itself there, as no natural number is below zero. -/
def lineBefore (line : Fin size) : Fin size :=
  ⟨(line : Nat) - 1, by omega⟩

def lineAfter (line : Fin size) : Fin size :=
  ⟨min ((line : Nat) + 1) (size - 1), by omega⟩

theorem nearby_zero (line : Fin size) : nearby 0 line = lineBefore line := by
  apply Fin.ext
  change min (0 + (line : Nat) - 1) (size - 1) = line - 1
  omega

theorem nearby_two (line : Fin size) : nearby 2 line = lineAfter line := by
  apply Fin.ext
  change min (2 + (line : Nat) - 1) (size - 1) = min ((line : Nat) + 1) (size - 1)
  omega

end Grid

/-! ### Diffusion numbers -/

namespace World

def checkedNumber [LT α] [DecidableLT α] (zero limit : α) (plain rounded : α → String)
    (number : α) : Except WorldFault α :=
  if number < zero then .error (.negativeNumber (plain number))
  else if limit < number then .error (.unstable (rounded number))
  else .ok number

theorem stableNumber_float (number : Float) :
    stableNumber (.float number) = checkedNumber 0.0 0.25 (fun number => (Value.float number).plain)
      (Numeral.roundedText 6) number := by
  have below : (Value.float number).isBelow 0.0 = .ok (decide (number < 0.0)) := rfl
  have above : (Value.float number).isAbove 0.25 = .ok (decide (0.25 < number)) := rfl
  rw [stableNumber, checkedNumber, below, above]
  by_cases negative : number < 0.0
  · rw [if_pos negative, decide_eq_true negative]
    rfl
  · rw [if_neg negative, decide_eq_false negative]
    by_cases unstable : 0.25 < number
    · rw [if_pos unstable, decide_eq_true unstable]
      rfl
    · rw [if_neg unstable, decide_eq_false unstable]
      rfl

end World

/-! ### Diffusion on its own -/

namespace Grid

variable [Add α] [Sub α] [Mul α] [OfNat α 4] {accept : ν → Except WorldFault α}
  {grid : Grid height width α} {number : ν}

theorem diffuse_eq_diffused? {k : α} (accepted : accept number = .ok k) :
    grid.diffuse accept number = grid.diffused? k := by
  rw [diffuse, accepted]
  rfl

theorem diffuse_of_accepted {k : α} (accepted : accept number = .ok k) (tall : 0 < height)
    (wide : 0 < width) : grid.diffuse accept number = .ok (grid.diffused tall wide k) := by
  rw [diffuse_eq_diffused? accepted, diffused?, dif_pos tall, dif_pos wide]

theorem diffuse_of_flat {k : α} (accepted : accept number = .ok k) (flat : ¬0 < height) :
    grid.diffuse accept number = .error (.noEdge 0) := by
  rw [diffuse_eq_diffused? accepted, diffused?, dif_neg flat]

theorem diffuse_of_narrow {k : α} (accepted : accept number = .ok k) (tall : 0 < height)
    (narrow : ¬0 < width) : grid.diffuse accept number = .error (.noEdge 1) := by
  rw [diffuse_eq_diffused? accepted, diffused?, dif_pos tall, dif_neg narrow]

theorem diffuse_of_refused {fault : WorldFault} (refused : accept number = .error fault) :
    grid.diffuse accept number = .error fault := by
  rw [diffuse, refused]
  rfl

end Grid

theorem World.changed_diffuse [Add α] [Sub α] [Mul α] [OfNat α 4] [OfNat α 0]
    (dynamics : Dynamics ν α) (length rate : ν) (world : World α) :
    world.changed dynamics length (.diffuse rate) =
      (world.grid.diffuse (fun rate => dynamics.diffusionNumber rate length) rate).map
        fun grid => { world with grid } := by
  unfold World.changed Grid.diffuse
  dsimp only
  cases dynamics.diffusionNumber rate length with
  | error fault => rfl
  | ok number =>
    change (do let grid ← world.grid.diffused? number; pure { world with grid }) =
      (world.grid.diffused? number).map fun grid => { world with grid }
    cases world.grid.diffused? number with
    | error fault => rfl
    | ok grid => rfl

/-! ### Actions that make a grid -/

namespace Memory

/-- An action stores a grid in new cells and changes none that are there. -/
def Makes [OfNat α 0] (action : Action α (Patch height width)) (memory : Memory α)
    (grid : Grid height width α) : Prop :=
  ∃ patch after, action.run memory = (.ok patch, after) ∧ memory.Grows after ∧
    after.Shows patch grid ∧ memory.Lacks patch

namespace Makes

variable [OfNat α 0] {memory : Memory α} {a b : Patch height width}
  {first second : Grid height width α}

theorem of_run {action : Action α (Patch height width)} {grid : Grid height width α}
    (ran : action.run memory = (.ok (memory.store grid).1, (memory.store grid).2)) :
    Makes action memory grid := by
  obtain ⟨shown, apart⟩ := memory.shows_store grid
  exact ⟨_, _, ran, memory.grows_store grid, shown, apart⟩

theorem combine (f : α → α → α) (left : memory.Shows a first) (right : memory.Shows b second) :
    Makes (Action.combine f a b) memory (Grid.zipWith f first second) := by
  obtain ⟨_, rfl⟩ := left
  obtain ⟨_, rfl⟩ := right
  exact of_run rfl

theorem transform (f : α → α) (operand : memory.Shows a first) :
    Makes (Action.transform f a) memory (first.map f) := by
  obtain ⟨_, rfl⟩ := operand
  exact of_run rfl

theorem pad (tall : 0 < height) (wide : 0 < width) (operand : memory.Shows a first) :
    Makes (Action.pad a) memory (first.padded tall wide) := by
  obtain ⟨_, rfl⟩ := operand
  rw [Action.pad, dif_pos tall, dif_pos wide]
  exact of_run rfl

theorem bind {h w : Nat} {action : Action α (Patch height width)}
    {next : Patch height width → Action α (Patch h w)} {grid : Grid height width α}
    {result : Grid h w α} (makes : Makes action memory grid)
    (goes_on : ∀ patch after, memory.Grows after → after.Shows patch grid →
      Makes (next patch) after result) :
    Makes (action >>= next) memory result := by
  obtain ⟨patch, middle, ran, grown, shown, _⟩ := makes
  obtain ⟨found, after, ran', grown', shown', apart⟩ := goes_on patch middle grown shown
  refine ⟨found, after, ?_, grown.trans grown', shown', fun y x => ?_⟩
  · rw [run_bind_state, ran]
    exact ran'
  · have larger : memory.cells.size ≤ middle.cells.size := grown.size_le
    have behind : middle.cells.size ≤ found.get y x := apart y x
    omega

variable [Add α] [Sub α] [Mul α] [OfNat α 4] {accept : ν → Except WorldFault α} {number : ν}

theorem diffuse {k : α} (accepted : accept number = .ok k) (tall : 0 < height) (wide : 0 < width)
    {values : Patch height width} {grid : Grid height width α}
    (shown : memory.Shows values grid) :
    Makes (Action.diffuse accept values number) memory (grid.diffused tall wide k) := by
  have run : (Action.diffuse accept values number).run memory =
      (Action.diffuse (fun _ => .ok k) values number).run memory := by
    rw [Action.diffuse, run_bind_checked, accepted, Action.diffuse, run_bind_checked]
  suffices made : Makes (Action.diffuse (fun _ => .ok k) values number) memory
      (grid.diffused tall wide k) by
    obtain ⟨patch, after, ran, rest⟩ := made
    exact ⟨patch, after, run.trans ran, rest⟩
  -- every patch made on the way is carried along to the memories after it
  refine (pad tall wide shown).bind fun padded m₁ grown₁ around₁ => ?_
  refine (combine _ (around₁.slice .front .middle) (around₁.slice .back .middle)).bind
    fun vertical m₂ grown₂ vertical₂ => ?_
  have around₂ := around₁.mono grown₂
  refine (combine _ vertical₂ (around₂.slice .middle .front)).bind
    fun further m₃ grown₃ further₃ => ?_
  have around₃ := around₂.mono grown₃
  refine (combine _ further₃ (around₃.slice .middle .back)).bind
    fun inflow m₄ grown₄ inflow₄ => ?_
  have values₄ := shown.mono (((grown₁.trans grown₂).trans grown₃).trans grown₄)
  refine (transform _ values₄).bind fun outflow m₅ grown₅ outflow₅ => ?_
  refine (combine _ (inflow₄.mono grown₅) outflow₅).bind fun change m₆ grown₆ change₆ => ?_
  refine (transform _ change₆).bind fun flow m₇ grown₇ flow₇ => ?_
  exact combine _ (values₄.mono ((grown₅.trans grown₆).trans grown₇)) flow₇

end Makes

variable [OfNat α 0] [Add α] [Sub α] [Mul α] [OfNat α 4] {accept : ν → Except WorldFault α}
  {number : ν} {memory : Memory α} {values : Patch height width}

theorem run_diffuse_of_pad {k : α} {fault : WorldFault} (accepted : accept number = .ok k)
    (fails : (Action.pad values).run memory = (.error fault, memory)) :
    (Action.diffuse accept values number).run memory = (.error fault, memory) := by
  rw [Action.diffuse, run_bind_checked, accepted]
  dsimp only
  rw [run_bind_state, fails]

/-- Diffusion in memory makes the grid that diffusion leads to, or it fails as diffusion does and has
stored nothing then. -/
theorem diffuse_refines {grid : Grid height width α} (shown : memory.Shows values grid) :
    match grid.diffuse accept number with
    | .ok after => Makes (Action.diffuse accept values number) memory after
    | .error fault => (Action.diffuse accept values number).run memory = (.error fault, memory) := by
  cases accepted : accept number with
  | error fault =>
    rw [Grid.diffuse_of_refused accepted, Action.diffuse]
    dsimp only
    rw [run_bind_checked, accepted]
  | ok k =>
    by_cases tall : 0 < height
    · by_cases wide : 0 < width
      · rw [Grid.diffuse_of_accepted accepted tall wide]
        exact Makes.diffuse accepted tall wide shown
      · rw [Grid.diffuse_of_narrow accepted tall wide]
        refine run_diffuse_of_pad accepted ?_
        rw [Action.pad, dif_pos tall, dif_neg wide]
        rfl
    · rw [Grid.diffuse_of_flat accepted tall]
      refine run_diffuse_of_pad accepted ?_
      rw [Action.pad, dif_neg tall]
      rfl

/--
Diffusion in memory makes a new grid of the same size for every number that is accepted. Each of its
cells is computed by one formula, in this order, from the old cell and its neighbours above, below,
on the left and on the right, where a cell at an edge stands in for the neighbour that it lacks. The
new grid has cells of its own, and every grid that was there, the old one included, is as before.
-/
theorem diffuse_stencil {k : α} (accepted : accept number = .ok k) (tall : 0 < height)
    (wide : 0 < width) (held : memory.Holds values) :
    ∃ result after, (Action.diffuse accept values number).run memory = (.ok result, after) ∧
      after.Holds result ∧
      (∀ (y : Fin height) (x : Fin width),
        let old := (memory.load values).get
        let v := old y x
        let up := old (Grid.lineBefore y) x
        let down := old (Grid.lineAfter y) x
        let left := old y (Grid.lineBefore x)
        let right := old y (Grid.lineAfter x)
        (after.load result).get y x = v + k * (((up + down) + left) + right - 4 * v)) ∧
      memory.Lacks result ∧
      ∀ {h w : Nat} (other : Patch h w), memory.Holds other →
        after.Holds other ∧ after.load other = memory.load other := by
  obtain ⟨result, after, ran, grown, shown, apart⟩ :=
    Makes.diffuse accepted tall wide (⟨held, rfl⟩ : memory.Shows values (memory.load values))
  refine ⟨result, after, ran, shown.held, fun y x => ?_, apart, fun other there => ?_⟩
  · rw [shown.load, Grid.get_diffused, Grid.nearby_zero, Grid.nearby_zero, Grid.nearby_two,
      Grid.nearby_two]
  · exact ⟨grown.holds there, grown.load_eq there⟩

private def threeRows : Patch 3 4 × Memory Float :=
  ({} : Memory Float).store
    (Grid.ofFn fun (y : Fin 3) (x : Fin 4) => [1.0, 2.0, 4.0, 8.0].getD (x + y) 0.5)

/-- The two inner cells of the last row, a grid that shares its cells with the larger one. -/
private def innerRow : Patch 1 2 :=
  threeRows.1.slice .back .middle

theorem diffuse_stencil_innerRow :
    World.stableNumber (.float 0.125) = .ok 0.125 ∧ threeRows.2.Holds innerRow ∧
      ∃ result after,
        (Action.diffuse World.stableNumber innerRow (.float 0.125)).run threeRows.2 =
          (.ok result, after) ∧
        (after.load result).get 0 0 = 7.0625 ∧
        after.load threeRows.1 = threeRows.2.load threeRows.1 := by
  have accepted : World.stableNumber (.float 0.125) = .ok 0.125 := rfl
  have whole : threeRows.2.Holds threeRows.1 := (shows_store {} _).1.held
  have held : threeRows.2.Holds innerRow := holds_slice whole .back .middle
  obtain ⟨result, after, ran, _, cells, _, kept⟩ :=
    diffuse_stencil accepted (by decide) (by decide) held
  refine ⟨accepted, held, result, after, ran, ?_, (kept threeRows.1 whole).2⟩
  rw [cells]
  decide +kernel

end Memory

end StepPipeline
