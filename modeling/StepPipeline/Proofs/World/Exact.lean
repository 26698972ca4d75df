import Mathlib
import StepPipeline.Proofs.Grid.Stencil
import StepPipeline.Proofs.Grid.Total
import StepPipeline.Proofs.World.Diffusion
import StepPipeline.Proofs.World.Effect

/-!
Worlds of exact numbers. The operations are those of every world; amounts, times and quantities are
rational numbers, and the part of an amount that a tick leaves is given. Deposits add the supply of
a configuration to the total, diffusion keeps it, and decay scales it, so that the total after some
ticks is known from the total before them. Main result: `Config.total_run`.
-/

set_option autoImplicit false
set_option relaxedAutoImplicit false

namespace StepPipeline

/-- Exact arithmetic; `part` is what a tick of a length leaves of an amount with a half-life. -/
def World.exact (part : ℚ → ℚ → ℚ) : Dynamics ℚ ℚ where
  amount quantity := .ok quantity
  amounts cells quantity := .ok (List.replicate cells.count quantity)
  diffusionNumber rate length :=
    let number := rate * length
    if number < 0 then .error (.negativeNumber (toString number))
    else if 1 / 4 < number then .error (.unstable (toString number))
    else .ok number
  remainder length halfLife := .ok (part length halfLife)
  duration length := .ok length

namespace World

/-- The check of an exact diffusion number, with one quarter as the limit of stability. -/
def exactNumber : ℚ → Except WorldFault ℚ :=
  checkedNumber 0 (1 / 4) toString toString

theorem exactNumber_of_negative {number : ℚ} (negative : number < 0) :
    exactNumber number = .error (.negativeNumber (toString number)) :=
  if_pos negative

theorem exactNumber_of_unstable {number : ℚ} (unstable : 1 / 4 < number) :
    exactNumber number = .error (.unstable (toString number)) := by
  have positive : ¬ number < 0 := by linarith
  rw [exactNumber, checkedNumber, if_neg positive, if_pos unstable]

theorem exactNumber_of_stable {number : ℚ} (positive : 0 ≤ number) (stable : number ≤ 1 / 4) :
    exactNumber number = .ok number := by
  rw [exactNumber, checkedNumber, if_neg positive.not_gt, if_neg stable.not_gt]

theorem exactNumber_eq_ok_iff {number accepted : ℚ} :
    exactNumber number = .ok accepted ↔ number = accepted ∧ 0 ≤ accepted ∧ accepted ≤ 1 / 4 := by
  constructor
  · intro checked
    rcases lt_or_ge number 0 with negative | positive
    · rw [exactNumber_of_negative negative] at checked
      cases checked
    rcases lt_or_ge (1 / 4) number with unstable | stable
    · rw [exactNumber_of_unstable unstable] at checked
      cases checked
    rw [exactNumber_of_stable positive stable] at checked
    cases checked
    exact ⟨rfl, positive, stable⟩
  · rintro ⟨rfl, positive, stable⟩
    exact exactNumber_of_stable positive stable

theorem exact_diffusionNumber {part : ℚ → ℚ → ℚ} {rate length number : ℚ} :
    (exact part).diffusionNumber rate length = .ok number ↔
      rate * length = number ∧ 0 ≤ number ∧ number ≤ 1 / 4 :=
  exactNumber_eq_ok_iff

end World

def Scene.exactTicking (part : ℚ → ℚ → ℚ) : Scene.Ticking ℚ ℚ where
  dynamics := World.exact part
  isPositive quantity := decide (0 < quantity)
  timeText := toString

/-! ### Totals -/

namespace Grid

variable {height width : Nat}

theorem total_grown {source : Config.Source ℚ} (inside : source.LiesIn height width)
    (grid : Grid height width ℚ) (amount : ℚ) :
    (grid.grown source.x source.y amount).total = grid.total + amount := by
  rw [grown, dif_pos ⟨inside.column, inside.row⟩, total_eq_sum, total_eq_sum]
  exact sum_grown ..

theorem total_seeded {sources : List (Config.Source ℚ)}
    (inside : ∀ source ∈ sources, source.LiesIn height width) (grid : Grid height width ℚ) :
    (grid.seeded id sources).total =
      grid.total + (sources.map Config.Source.amount).sum := by
  induction sources generalizing grid with
  | nil => exact (add_zero _).symm
  | cons source rest ih =>
    calc (grid.seeded id (source :: rest)).total
        = ((grid.grown source.x source.y source.amount).seeded id rest).total := rfl
      _ = (grid.grown source.x source.y source.amount).total +
            (rest.map Config.Source.amount).sum :=
          ih (fun source mem => inside source (List.mem_cons_of_mem _ mem)) _
      _ = grid.total + ((source :: rest).map Config.Source.amount).sum := by
          rw [total_grown (inside source List.mem_cons_self), List.map_cons, List.sum_cons,
            add_assoc]

theorem total_diffused (grid : Grid height width ℚ) (tall : 0 < height) (wide : 0 < width)
    (number : ℚ) : (grid.diffused tall wide number).total = grid.total := by
  rw [total_eq_sum, total_eq_sum]
  exact sum_diffused grid tall wide number

theorem total_scaled (grid : Grid height width ℚ) (part : ℚ) :
    (grid.map fun v => v * part).total = grid.total * part := by
  rw [total_eq_sum, total_eq_sum, sum_scaled]

end Grid

/-! ### Runs -/

namespace Config

variable {height width : Nat} {part : ℚ → ℚ → ℚ} {config : Config ℚ}

def supply (config : Config ℚ) : ℚ :=
  (config.sources.map Source.amount).sum

/-- The part of every amount that a tick leaves; all of it if nothing decays. -/
def remaining (part : ℚ → ℚ → ℚ) (config : Config ℚ) : ℚ :=
  config.halfLife.elim 1 (part config.tickLength)

def Stable (config : Config ℚ) : Prop :=
  0 ≤ config.diffusivity * config.tickLength ∧ config.diffusivity * config.tickLength ≤ 1 / 4

def exactAmounts (part : ℚ → ℚ → ℚ) (stable : config.Stable) :
    config.Amounts (Scene.exactTicking part) where
  amount := id
  number := if 0 < config.diffusivity then some (config.diffusivity * config.tickLength) else none
  part := config.halfLife.map (part config.tickLength)
  passed := config.tickLength
  amount_eq _ _ := rfl
  number_eq := by
    have accepted : (World.exact part).diffusionNumber config.diffusivity config.tickLength =
        .ok (config.diffusivity * config.tickLength) :=
      World.exactNumber_of_stable stable.1 stable.2
    by_cases positive : 0 < config.diffusivity
    · simp [Scene.exactTicking, positive, accepted]
    · simp [Scene.exactTicking, positive]
  part_eq := by
    rw [Option.map_map]
    rfl
  passed_eq := rfl

/-- A tick adds the supply to the total and then leaves a part of it. -/
theorem total_step (stable : config.Stable) (fits : config.Fits height width)
    (grid : Grid height width ℚ) :
    ((exactAmounts part stable).step fits.tall fits.wide grid).total =
      (grid.total + config.supply) * config.remaining part := by
  have seeded : (grid.seeded id config.sources).total = grid.total + config.supply :=
    Grid.total_seeded fits.sources grid
  have spread (number : Option ℚ) : (number.elim (grid.seeded id config.sources)
      ((grid.seeded id config.sources).diffused fits.tall fits.wide)).total =
        grid.total + config.supply := by
    cases number with
    | none => exact seeded
    | some number => exact (Grid.total_diffused ..).trans seeded
  simp only [Amounts.step, exactAmounts, remaining]
  cases config.halfLife with
  | none => exact (spread _).trans (mul_one _).symm
  | some halfLife => exact (Grid.total_scaled ..).trans (congrArg (· * _) (spread _))

theorem total_iterate (part : ℚ → ℚ → ℚ) (stable : config.Stable) (fits : config.Fits height width)
    (grid : Grid height width ℚ) (count : Nat) :
    (((exactAmounts part stable).step fits.tall fits.wide)^[count] grid).total =
      config.remaining part ^ count * grid.total +
        config.supply * ∑ k ∈ Finset.range count, config.remaining part ^ (k + 1) := by
  induction count with
  | zero => simp
  | succ count ih =>
    have shifted : ∑ k ∈ Finset.range (count + 1), config.remaining part ^ (k + 1) =
        (∑ k ∈ Finset.range count, config.remaining part ^ (k + 1) + 1) *
          config.remaining part := by
      rw [Finset.sum_range_succ', add_mul, Finset.sum_mul]
      simp only [pow_succ, pow_zero, one_mul]
    rw [Function.iterate_succ_apply', total_step stable fits, ih, shifted]
    ring

/--
The balance of a run: every tick adds the supply of all sources and leaves a part of what is there.
Diffusion neither adds nor removes anything, whatever the shape of the grid.
-/
theorem total_run (part : ℚ → ℚ → ℚ) (config : Config ℚ) (count : Nat) (scene : Scene ℚ)
    (fits : config.Fits scene.world.height scene.world.width) (stable : config.Stable) :
    let q := config.remaining part
    let total := scene.world.grid.total
    ∃ ended, Scene.run (Scene.exactTicking part) config count scene = (.ok (), ended) ∧
      ended.world.grid.total =
        q ^ count * total + config.supply * ∑ k ∈ Finset.range count, q ^ (k + 1) ∧
      (config.halfLife = none → ended.world.grid.total = total + count * config.supply) := by
  intro q total
  obtain ⟨time, ticks, events, log, ran⟩ :=
    (exactAmounts part stable).runTicks_eq count scene fits
  have balance := total_iterate part stable fits scene.world.grid count
  refine ⟨_, (Scene.run_natCast ..).trans ran, balance, fun lasting => ?_⟩
  have all : config.remaining part = 1 := by rw [remaining, lasting]; rfl
  rw [balance, all]
  simp only [one_pow, one_mul, Finset.sum_const, Finset.card_range, nsmul_eq_mul, mul_one]
  rw [mul_comm config.supply]

/-- Two rows of three cells, with a source twice in one corner and once in the opposite one. -/
def corners : Config ℚ where
  width := 3
  height := 2
  tickLength := 1 / 2
  diffusivity := 1 / 2
  halfLife := some 1
  sources := [⟨0, 0, 5⟩, ⟨2, 1, 7⟩, ⟨0, 0, 1⟩]

theorem total_run_corners :
    let scene : Scene ℚ := { world := .ofGrid (Grid.fill 1 : Grid 2 3 ℚ) }
    corners.Fits 2 3 ∧ corners.Stable ∧
      ∃ ended, Scene.run (Scene.exactTicking fun _ _ => 1 / 2) corners 2 scene = (.ok (), ended) ∧
        ended.world.grid.total = 45 / 4 := by
  intro scene
  have inside : ∀ source ∈ corners.sources, source.LiesIn 2 3 := by
    simp only [corners, List.mem_cons, List.not_mem_nil, or_false, forall_eq_or_imp, forall_eq]
    exact ⟨⟨by decide, by decide⟩, ⟨by decide, by decide⟩, ⟨by decide, by decide⟩⟩
  have fits : corners.Fits 2 3 := ⟨rfl, rfl, by decide, by decide, by decide, by decide, inside⟩
  have stable : corners.Stable := by
    constructor <;> norm_num [corners]
  have begun : scene.world.grid.total = 6 := by
    change (Grid.fill 1 : Grid 2 3 ℚ).total = 6
    rw [Grid.total_eq_sum]
    norm_num [Grid.fill]
  obtain ⟨ended, ran, balance, _⟩ := total_run (fun _ _ => 1 / 2) corners 2 scene fits stable
  refine ⟨fits, stable, ended, ran, ?_⟩
  rw [balance, begun]
  norm_num [corners, supply, remaining, Finset.sum_range_succ]

end Config

end StepPipeline
