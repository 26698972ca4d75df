import StepPipeline.Proofs.Config.Format
import StepPipeline.Proofs.World.Diffusion
import StepPipeline.Proofs.World.Effect

/-!
When the run of a new world fails. What the checks of a configuration make sure of is all that
deposits, decay and the passing of time need, also where a quantity is infinite or no number at all.
So a run fails just if its diffusion number is above the limit of stability, and then it does so in
its first tick, once the sources have added their amounts. Main results:
`Config.Admitted.apply_succeeds`, `Config.runFresh_stops_iff`.
-/

set_option autoImplicit false
set_option relaxedAutoImplicit false

namespace StepPipeline

open Numeral.Binary64 (zero_lt_float_iff le_of_beq not_mul_lt_zero not_div_le)

/-! ### Quantities -/

namespace World

theorem diffusionNumber_float {rate length : Float} (unsigned : ¬ rate * length < 0.0) :
    floating.diffusionNumber (.float rate) (.float length) =
      if 0.25 < rate * length then
        .error (.unstable (Numeral.roundedText 6 (rate * length)))
      else .ok (rate * length) := by
  change stableNumber (.float (rate * length)) = _
  rw [stableNumber_float, checkedNumber, if_neg unsigned]

theorem remainder_float {length halfLife : Float} (ticking : ¬ length ≤ 0.0)
    (decaying : ¬ halfLife ≤ 0.0) :
    floating.remainder (.float length) (.float halfLife) =
      .ok (Float.pow 0.5 (length / halfLife)) := by
  have divisor : (halfLife == 0.0) = false := by
    rw [Bool.eq_false_iff]
    intro zero
    exact decaying (le_of_beq zero)
  have bounded : ¬ length / halfLife ≤ -1024.0 := not_div_le ticking decaying
  change (computed (Value.div (.float length) (.float halfLife)) >>= halfPower) = _
  have quotient : Value.div (.float length) (.float halfLife) = .ok (length / halfLife) := by
    change (if halfLife == 0.0 then _ else _) = _
    rw [divisor]
    rfl
  rw [quotient]
  change halfPower (length / halfLife) = _
  simp [halfPower, bounded]

end World

/-! ### Ticks of an admitted configuration -/

namespace Config

/-- A diffusion number lets a tick fail if there is diffusion at all and it is above the limit. -/
def Unstable (config : Config Float) : Prop :=
  0.0 < config.diffusivity ∧ 0.25 < config.diffusivity * config.tickLength

/-- The fault of an unstable tick: its diffusion fails, which comes after the deposits. -/
def instability (config : Config Float) : Scene.RunFault Value :=
  let added := config.sources.length
  .because ⟨added, .diffuse (.float config.diffusivity), "Diffuse", List.replicate added ()⟩
    (.raised (.unstable (Numeral.roundedText 6 (config.diffusivity * config.tickLength))))

namespace Admitted

variable {config : Config Float}

theorem fits (admitted : config.Admitted) {world : World Float}
    (made : World.initial config.height config.width = .ok world) :
    config.Fits world.height world.width := by
  obtain ⟨height, width, rows, columns⟩ := World.sizes_of_initial made
  have tall : 0 < world.height := by
    have := admitted.tall
    omega
  have wide : 0 < world.width := by
    have := admitted.wide
    omega
  refine ⟨height.symm, width.symm, tall, wide, rows, columns, fun source among => ?_⟩
  obtain ⟨left, right, low, high⟩ := admitted.inside source among
  exact ⟨⟨left, width ▸ right⟩, ⟨low, height ▸ high⟩⟩

theorem diffusionNumber (admitted : config.Admitted) (spreading : 0.0 < config.diffusivity) :
    World.floating.diffusionNumber (.float config.diffusivity) (.float config.tickLength) =
      if 0.25 < config.diffusivity * config.tickLength then
        .error (.unstable (Numeral.roundedText 6 (config.diffusivity * config.tickLength)))
      else .ok (config.diffusivity * config.tickLength) :=
  World.diffusionNumber_float (not_mul_lt_zero (zero_lt_float_iff.mp spreading).1 admitted.ticking)

def amounts (admitted : config.Admitted) (stable : ¬ config.Unstable) :
    (config.map .float).Amounts Scene.floatTicking where
  amount := World.numberOf
  number := if 0.0 < config.diffusivity then
      some (config.diffusivity * config.tickLength) else none
  part := config.halfLife.map fun halfLife => Float.pow 0.5 (config.tickLength / halfLife)
  passed := config.tickLength
  amount_eq := config.amount_map_float
  number_eq := by
    change (if decide (0.0 < config.diffusivity) then _ else _) = _
    by_cases spreading : 0.0 < config.diffusivity
    · have accepted := admitted.diffusionNumber spreading
      rw [if_neg fun above => stable ⟨spreading, above⟩] at accepted
      rw [if_pos spreading, if_pos (decide_eq_true spreading)]
      exact congrArg some accepted
    · rw [if_neg spreading, if_neg (by simp [spreading])]
      rfl
  part_eq := by
    rw [Option.map_map]
    change (config.halfLife.map Value.float).map _ = _
    rw [Option.map_map]
    cases found : config.halfLife with
    | none => rfl
    | some halfLife =>
      exact congrArg some
        (World.remainder_float admitted.ticking (admitted.decaying halfLife found))
  passed_eq := rfl

theorem apply_succeeds (admitted : config.Admitted) {world : World Float}
    (fits : config.Fits world.height world.width) (index : String) {op : Op Value}
    (among : op ∈ (config.map .float).tickOps Scene.floatTicking.isPositive)
    (other : op.variant ≠ "Diffuse") :
    ∃ after, world.apply World.floating ⟨index, .float config.tickLength⟩ op = .ok after := by
  obtain ⟨height, width, grid, time, ticks, events⟩ := world
  have succeeds {next : Grid height width Float}
      (yields : World.Yields World.floating ⟨index, .float config.tickLength⟩ [op] grid next) :
      ∃ after, World.apply World.floating ⟨index, .float config.tickLength⟩
        ⟨height, width, grid, time, ticks, events⟩ op = .ok after := by
    obtain ⟨_, _, _, applied⟩ := yields time ticks events
    obtain ⟨after, applied, _⟩ := bind_eq_ok_iff.mp applied
    exact ⟨after, applied⟩
  rcases mem_tickOps.mp among with ⟨source, member, rfl⟩ | ⟨_, rfl⟩ | ⟨halfLife, found, rfl⟩ | rfl
  · have inside := (fits.map Value.float).sources source member
    obtain ⟨original, _, rfl⟩ := List.mem_map.mp member
    exact succeeds
      (.deposit grid fits.rows fits.columns inside (World.amount_float original.amount))
  · exact absurd rfl other
  · obtain ⟨x, given, rfl⟩ := Option.map_eq_some_iff.mp found
    exact succeeds
      (.decay grid (World.remainder_float admitted.ticking (admitted.decaying x given)))
  · exact succeeds (.advance grid (World.duration_float config.tickLength))

theorem tick_stops (admitted : config.Admitted) (unstable : config.Unstable) (scene : Scene Float)
    (fits : config.Fits scene.world.height scene.world.width) :
    let world := scene.world
    let added := config.sources.length
    ∃ ended, Scene.tick Scene.floatTicking (config.map .float) scene =
        (.error config.instability, ended) ∧
      ended.world = { world with
        grid := world.grid.seeded id config.sources
        events := world.events ++ Array.replicate added s!"Deposit@{toString world.ticks}" } := by
  intro world added
  have fitting := fits.map Value.float
  have positive : Scene.floatTicking.isPositive (config.map Value.float).diffusivity :=
    decide_eq_true unstable.1
  have split := tickOps_eq_deposits Scene.floatTicking.isPositive (config.map Value.float)
  rw [furtherOps, if_pos positive, List.append_assoc, List.singleton_append] at split
  have seeds : World.applyAll World.floating (Scene.nextTick (config.map Value.float) scene) world
      (deposits (config.map Value.float).sources) = .ok _ :=
    World.applyAll_deposits world fitting.rows fitting.columns fitting.sources
      config.amount_map_float
  have count : (config.map Value.float).sources.length = added := List.length_map _
  rw [Grid.seeded_map, count] at seeds
  have refused := admitted.diffusionNumber unstable.1
  rw [if_pos unstable.2] at refused
  obtain ⟨ended, stops, reached, _⟩ := Scene.tick_of_stops split seeds
    (World.apply_diffuse_of_error refused)
  have before : (deposits (config.map Value.float).sources).length = added :=
    (List.length_map _).trans count
  rw [before] at stops
  exact ⟨ended, stops, reached⟩

/-! ### Runs of new worlds -/

theorem runFresh_returns (admitted : config.Admitted) {world : World Float}
    (room : World.initial config.height config.width = .ok world) (stable : ¬ config.Unstable)
    (count : Nat) : (config.runFresh count).1 = .ok () := by
  obtain ⟨_, _, _, _, ran⟩ :=
    (admitted.amounts stable).runTicks_eq count { world } ((admitted.fits room).map Value.float)
  rw [runFresh_natCast, room]
  simp only [Scene.continued, Scene.run_natCast, ran]

theorem runFresh_stops (admitted : config.Admitted) {world : World Float}
    (room : World.initial config.height config.width = .ok world) (unstable : config.Unstable)
    (more : Nat) :
    let added := config.sources.length
    ∃ ended, config.runFresh ↑(more + 1) = (.error config.instability, some ended) ∧
      ended.world = { world with
        grid := world.grid.seeded id config.sources
        events := world.events ++ Array.replicate added s!"Deposit@{toString world.ticks}" } := by
  intro added
  obtain ⟨ended, stops, reached⟩ := admitted.tick_stops unstable { world } (admitted.fits room)
  refine ⟨ended, ?_, reached⟩
  rw [runFresh_natCast, room]
  simp only [Scene.continued, Scene.run_natCast, Scene.runTicks, stops]

end Admitted

/--
The run of a new world with some ticks fails just if there is diffusion and its number is above the
limit of stability. It fails in the diffusion of the first tick and leaves what the sources have
added; no other operation of a configuration that is read ever fails.
-/
theorem runFresh_stops_iff (payload : Value) (config : Config Float) (count : Int)
    (world : World Float) (accepted : read payload = .ok config) (ticking : 1 ≤ count)
    (room : World.initial config.height config.width = .ok world) :
    let number := config.diffusivity * config.tickLength
    let added := config.sources.length
    let ran := config.runFresh count
    ((∃ fault, ran.1 = .error fault) ↔ 0.0 < config.diffusivity ∧ 0.25 < number) ∧
      (∀ fault, ran.1 = .error fault →
        fault = .because
            ⟨added, .diffuse (.float config.diffusivity), "Diffuse", List.replicate added ()⟩
            (.raised (.unstable (Numeral.roundedText 6 number))) ∧
          ∃ ended, ran.2 = some ended ∧ ended.world.height = config.height ∧
            ended.world.width = config.width ∧ ended.world.ticks = 0 ∧ ended.world.time = 0 ∧
            ended.world.events = Array.replicate added "Deposit@0" ∧
            ∀ y x, ended.world.grid.get y x = (sourcesAt x y config.sources).foldl
              (fun amount source => amount + source.amount) 0) ∧
      ∀ op ∈ (config.map .float).tickOps Scene.floatTicking.isPositive, op.variant ≠ "Diffuse" →
        ∀ (index : String) (reached : World Float), reached.height = config.height →
          reached.width = config.width → ∃ after,
            reached.apply World.floating ⟨index, .float config.tickLength⟩ op = .ok after := by
  intro number added ran
  have admitted := (read_eq_ok_iff.mp accepted).2
  have fits := admitted.fits room
  obtain ⟨more, rfl⟩ : ∃ more : Nat, count = ↑(more + 1) := ⟨(count - 1).toNat, by omega⟩
  have stops_of_fault {fault : Scene.RunFault Value} (fails : ran.1 = .error fault) :
      config.Unstable := by
    by_contra stable
    cases fails.symm.trans (admitted.runFresh_returns room stable (more + 1))
  refine ⟨⟨fun ⟨fault, fails⟩ => stops_of_fault fails, fun unstable => ?_⟩,
    fun fault fails => ?_, fun op among other index reached height width => ?_⟩
  · obtain ⟨ended, stops, _⟩ := admitted.runFresh_stops room unstable more
    exact ⟨_, congrArg Prod.fst stops⟩
  · obtain ⟨ended, stops, left⟩ := admitted.runFresh_stops room (stops_of_fault fails) more
    refine ⟨?_, ended, congrArg Prod.snd stops, ?_⟩
    · cases fails.symm.trans (congrArg Prod.fst stops)
      rfl
    obtain ⟨⟨tall, _⟩, ⟨wide, _⟩, rfl⟩ := World.eq_of_initial room
    rw [left]
    refine ⟨Int.toNat_of_nonneg tall, Int.toNat_of_nonneg wide, rfl, rfl, ?_, fun y x => ?_⟩
    · change #[] ++ Array.replicate added s!"Deposit@{toString 0}" = _
      rw [Array.empty_append]
      rfl
    · exact Grid.get_seeded_fill id config.sources 0 y x
  · have rows : reached.height = world.height :=
      Int.ofNat_inj.mp (height.trans fits.configuredHeight)
    have columns : reached.width = world.width :=
      Int.ofNat_inj.mp (width.trans fits.configuredWidth)
    exact admitted.apply_succeeds (rows.symm ▸ columns.symm ▸ fits) index among other

/-- A world with two sources in one cell, whose amounts spread without limit. -/
def flooding : Value :=
  .dict [(.text "world", .dict [(.text "Nx", .int 2), (.text "Ny", .int 1),
    (.text "diffusivity", .text "inf"), (.text "half_life_s", .float 2.0),
    (.text "sources", .list [
      .dict [(.text "x", .int 1), (.text "y", .int 0), (.text "amount", .int 3)],
      .dict [(.text "x", .int 1), (.text "y", .int 0), (.text "amount", .float 0.5)]])])]

theorem runFresh_stops_iff_flooding :
    let config : Config Float :=
      ⟨2, 1, 1.0, Numeral.Binary64.infinity, some 2.0, [⟨1, 0, 3.0⟩, ⟨1, 0, 0.5⟩]⟩
    let world : World Float := .ofGrid (Grid.fill 0 : Grid 1 2 Float)
    read flooding = .ok config ∧ World.initial config.height config.width = .ok world ∧
      ∃ fault ended, config.runFresh 3 = (.error fault, some ended) ∧
        ended.world.events = #["Deposit@0", "Deposit@0"] := by
  intro config world
  have accepted : read flooding = .ok config := rfl
  have room : World.initial config.height config.width = .ok world := rfl
  obtain ⟨stops, leaves, _⟩ := runFresh_stops_iff flooding config 3 world accepted (by decide) room
  obtain ⟨fault, fails⟩ := stops.mpr ⟨by decide, by decide⟩
  obtain ⟨_, ended, left, _, _, _, _, events, _⟩ := leaves fault fails
  exact ⟨accepted, room, fault, ended, Prod.ext fails left, events⟩

end Config

end StepPipeline
