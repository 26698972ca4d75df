import StepPipeline.Proofs.Grid.Bounds
import StepPipeline.Proofs.World.Exact

/-!
Bounds of the amounts in a world of exact numbers. A deposit raises the upper bound by its amount;
no other operation raises it, and none of them lets an amount fall below zero, diffusion up to the
limit of stability included. So after some ticks no cell holds more than the bound at the beginning
and what all sources have added since. Main results: `World.within_apply`, `Config.run_within`.
-/

set_option autoImplicit false
set_option relaxedAutoImplicit false

namespace StepPipeline

/-! ### Operations -/

namespace Op

def gain : Op ℚ → ℚ
  | deposit _ _ amount => amount
  | _ => 0

/-- An operation takes nothing out of a world but the part of every amount that decays. -/
def Sound (part : ℚ → ℚ → ℚ) (length : ℚ) : Op ℚ → Prop
  | deposit _ _ amount => 0 ≤ amount
  | decay halfLife => 0 ≤ part length halfLife ∧ part length halfLife ≤ 1
  | _ => True

end Op

namespace World

variable {part : ℚ → ℚ → ℚ} {tick : Tick ℚ}

theorem within_apply {op : Op ℚ} {bound : ℚ} {world after : World ℚ}
    (within : world.grid.Within 0 bound) (sound : op.Sound part tick.length)
    (succeeds : world.apply (exact part) tick op = .ok after) :
    after.grid.Within 0 (bound + op.gain) := by
  have still {grid : Grid world.height world.width ℚ} (kept : grid.Within 0 bound) :
      grid.Within 0 (bound + 0) := (add_zero bound).symm ▸ kept
  obtain ⟨changed, change, rfl⟩ := Change.of_apply succeeds
  cases change with
  | cell selects accepted =>
    cases accepted
    exact within.deposited sound _ _
  | block selects accepted =>
    cases accepted
    exact within.added sound _ fun other member => List.eq_of_mem_replicate member
  | diffuse tall wide accepted =>
    obtain ⟨_, positive, stable⟩ := exact_diffusionNumber.mp accepted
    exact still (within.diffused tall wide positive (by linarith))
  | decay accepted =>
    cases accepted
    exact still (within.scaled sound.1 sound.2)
  | clear => exact still within.cleared
  | advance => exact still within

theorem within_applyAll {ops : List (Op ℚ)} {bound : ℚ} {world after : World ℚ}
    (within : world.grid.Within 0 bound) (sound : ∀ op ∈ ops, op.Sound part tick.length)
    (succeed : applyAll (exact part) tick world ops = .ok after) :
    after.grid.Within 0 (bound + (ops.map Op.gain).sum) := by
  induction ops generalizing world bound with
  | nil =>
    cases succeed
    rw [List.map_nil, List.sum_nil, add_zero]
    exact within
  | cons op rest ih =>
    rw [applyAll_cons] at succeed
    obtain ⟨next, applied, others⟩ := bind_eq_ok_iff.mp succeed
    have first := within_apply within (sound op List.mem_cons_self) applied
    rw [List.map_cons, List.sum_cons, ← add_assoc]
    exact ih first (fun op member => sound op (List.mem_cons_of_mem _ member)) others

end World

/-! ### Runs -/

namespace Config

variable {part : ℚ → ℚ → ℚ} {config : Config ℚ}

/-- The quantities of a configuration are what they are meant to be: time passes, and nothing is
taken out of a cell by a source. -/
structure Sound (config : Config ℚ) : Prop where
  tickLength : 0 < config.tickLength
  diffusivity : 0 ≤ config.diffusivity
  amounts : ∀ source ∈ config.sources, 0 ≤ source.amount

theorem sum_gain_tickOps (isPositive : ℚ → Bool) (config : Config ℚ) :
    ((config.tickOps isPositive).map Op.gain).sum = config.supply := by
  have diffuses : ((if isPositive config.diffusivity then
      [Op.diffuse config.diffusivity] else []).map Op.gain).sum = 0 := by
    split
    · exact List.sum_singleton
    · rfl
  have decays : ((config.halfLife.map Op.decay).toList.map Op.gain).sum = 0 := by
    cases config.halfLife with
    | none => rfl
    | some halfLife => exact List.sum_singleton
  simp only [tickOps, List.map_append, List.sum_append, List.map_map, Function.comp_def, diffuses,
    decays, List.map_cons, List.map_nil, List.sum_cons, List.sum_nil, Op.gain, add_zero]
  rfl

theorem sound_of_mem_tickOps {isPositive : ℚ → Bool} {op : Op ℚ} (sound : config.Sound)
    (factor : 0 ≤ config.remaining part ∧ config.remaining part ≤ 1)
    (member : op ∈ config.tickOps isPositive) : op.Sound part config.tickLength := by
  rcases mem_tickOps.mp member with
    ⟨source, among, rfl⟩ | ⟨_, rfl⟩ | ⟨halfLife, found, rfl⟩ | rfl
  · exact sound.amounts source among
  · trivial
  · rw [remaining, found] at factor
    exact factor
  · trivial

theorem within_runTicks {bound : ℚ} {count : Nat} {scene after : Scene ℚ} (sound : config.Sound)
    (factor : 0 ≤ config.remaining part ∧ config.remaining part ≤ 1)
    (within : scene.world.grid.Within 0 bound)
    (returns : Scene.runTicks (Scene.exactTicking part) config count scene = (.ok (), after)) :
    after.world.grid.Within 0 (bound + count * config.supply) := by
  have sounds : ∀ op ∈ config.tickOps (Scene.exactTicking part).isPositive,
      op.Sound part config.tickLength := fun op member => sound_of_mem_tickOps sound factor member
  refine Scene.runTicks_induction
    (fun done world => world.grid.Within 0 (bound + done * config.supply)) returns ?_ ?_
  · rw [Nat.cast_zero, zero_mul, add_zero]
    exact within
  · intro done world next within succeed
    have raised := World.within_applyAll within sounds succeed
    rw [sum_gain_tickOps, add_assoc, ← add_one_mul, ← Nat.cast_add_one] at raised
    exact raised

/-- A tick that returns has gone through its diffusion, if there is any. -/
theorem stable_of_tick {scene after : Scene ℚ} (sound : config.Sound)
    (ticked : Scene.tick (Scene.exactTicking part) config scene = (.ok (), after)) :
    config.diffusivity * config.tickLength ≤ 1 / 4 := by
  rcases sound.diffusivity.eq_or_lt with zero | positive
  · rw [← zero, zero_mul]
    norm_num
  · have diffuses : Op.diffuse config.diffusivity ∈
        config.tickOps (Scene.exactTicking part).isPositive :=
      mem_tickOps.mpr (.inr (.inl ⟨decide_eq_true positive, rfl⟩))
    have succeed := Scene.applyAll_of_tick ticked
    obtain ⟨reached, left, applied⟩ := World.apply_of_applyAll succeed diffuses
    obtain ⟨_, change, _⟩ := World.Change.of_apply applied
    cases change with
    | diffuse _ _ accepted =>
      obtain ⟨rfl, _, stable⟩ := World.exact_diffusionNumber.mp accepted
      exact stable

theorem returns_runTicks_iff {count : Nat} {scene : Scene ℚ} (sound : config.Sound)
    (fits : config.Fits scene.world.height scene.world.width) :
    (Scene.runTicks (Scene.exactTicking part) config count scene).1 = .ok () ↔
      count = 0 ∨ config.diffusivity * config.tickLength ≤ 1 / 4 := by
  constructor
  · intro returns
    cases count with
    | zero => exact .inl rfl
    | succ count =>
      rw [Scene.runTicks] at returns
      rcases ticked : Scene.tick (Scene.exactTicking part) config scene with ⟨outcome, after⟩
      rw [ticked] at returns
      cases outcome with
      | ok _ => exact .inr (stable_of_tick sound ticked)
      | error fault => cases returns
  · rintro (rfl | stable)
    · rfl
    · have positive : 0 ≤ config.diffusivity * config.tickLength :=
        mul_nonneg sound.diffusivity sound.tickLength.le
      obtain ⟨time, ticks, events, log, ran⟩ :=
        (exactAmounts part ⟨positive, stable⟩).runTicks_eq count scene fits
      rw [ran]

/--
After a run that returns every cell lies between zero and the bound of all cells before it, raised
by the supply for each tick. Runs return up to the limit of stability, one quarter.
-/
theorem run_within (part : ℚ → ℚ → ℚ) (config : Config ℚ) (count : Int) (scene : Scene ℚ)
    (bound : ℚ) (sound : config.Sound)
    (factor : 0 ≤ config.remaining part ∧ config.remaining part ≤ 1)
    (within : ∀ y x, 0 ≤ scene.world.grid.get y x ∧ scene.world.grid.get y x ≤ bound) :
    let ran := Scene.run (Scene.exactTicking part) config count scene
    let ended := ran.2.world.grid
    (ran.1 = .ok () →
        ∀ y x, 0 ≤ ended.get y x ∧ ended.get y x ≤ bound + count * config.supply) ∧
      (config.Fits scene.world.height scene.world.width →
        (ran.1 = .ok () ↔
          0 ≤ count ∧ (count = 0 ∨ config.diffusivity * config.tickLength ≤ 1 / 4))) := by
  rcases lt_or_ge count 0 with negative | positive
  · intro ran ended
    have refused : ran = (.error (.raised (.negativeTicks (toString count))), scene) :=
      if_pos negative
    refine ⟨fun returns => ?_, fun _ => iff_of_false (fun returns => ?_) fun counts => ?_⟩
    · rw [refused] at returns
      cases returns
    · rw [refused] at returns
      cases returns
    · exact negative.not_ge counts.1
  · obtain ⟨count, rfl⟩ := Int.eq_ofNat_of_zero_le positive
    simp only [Scene.run_natCast, Int.cast_natCast, Int.natCast_eq_zero, Int.natCast_nonneg,
      true_and]
    refine ⟨fun returns => ?_, returns_runTicks_iff sound⟩
    exact within_runTicks sound factor within (Prod.ext returns rfl)

theorem run_within_limit :
    let config : Config ℚ := ⟨2, 1, 1 / 2, 1 / 2, some 1, [⟨1, 0, 3⟩]⟩
    let scene : Scene ℚ := { world := .ofGrid (Grid.fill 1 : Grid 1 2 ℚ) }
    let ran := Scene.run (Scene.exactTicking fun _ _ => 1 / 2) config 2 scene
    config.diffusivity * config.tickLength = 1 / 4 ∧ ran.1 = .ok () ∧
      ∀ y x, 0 ≤ ran.2.world.grid.get y x ∧ ran.2.world.grid.get y x ≤ 7 := by
  intro config scene ran
  have limit : config.diffusivity * config.tickLength = 1 / 4 := by norm_num [config]
  have sound : config.Sound := ⟨by norm_num [config], by norm_num [config], by simp [config]⟩
  have factor : 0 ≤ config.remaining (fun _ _ => 1 / 2) ∧
      config.remaining (fun _ _ => 1 / 2) ≤ 1 := by
    constructor <;> norm_num [config, remaining]
  have inside : ∀ source ∈ config.sources, source.LiesIn 1 2 := by
    simp only [config, List.mem_singleton, forall_eq]
    exact ⟨by decide, by decide⟩
  have fits : config.Fits 1 2 := ⟨rfl, rfl, by decide, by decide, by decide, by decide, inside⟩
  have filled (y : Fin 1) (x : Fin 2) :
      0 ≤ scene.world.grid.get y x ∧ scene.world.grid.get y x ≤ 1 := by
    change 0 ≤ (Grid.fill 1 : Grid 1 2 ℚ).get y x ∧ (Grid.fill 1 : Grid 1 2 ℚ).get y x ≤ 1
    rw [Grid.get_fill]
    norm_num
  obtain ⟨bounds, returns_iff⟩ := run_within (fun _ _ => 1 / 2) config 2 scene 1 sound factor filled
  have returns : ran.1 = .ok () := (returns_iff fits).mpr ⟨by decide, .inr limit.le⟩
  refine ⟨limit, returns, fun y x => ?_⟩
  have seven : (1 : ℚ) + (2 : Int) * config.supply = 7 := by norm_num [config, supply]
  rw [← seven]
  exact bounds returns y x

end Config

end StepPipeline
