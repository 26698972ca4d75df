import StepPipeline.Proofs.World.Exact

/-!
The order of the sources. All that a tick sees of them is the grid after their deposits, and a cell
of it depends on no other sources than those at this cell, in their order. So runs do not tell
configurations apart whose sources are the same, in the same order at every cell; where addition is
commutative they do not even depend on that order. Main results: `Scene.runTicks_alike`,
`Config.run_source_order`.
-/

set_option autoImplicit false
set_option relaxedAutoImplicit false

namespace StepPipeline

open Scene (Ticking)

variable {ν α : Type} {height width : Nat}

namespace Config

def SourcesInside (config : Config ν) : Prop :=
  ∀ source ∈ config.sources,
    (0 ≤ source.x ∧ source.x < config.width) ∧ 0 ≤ source.y ∧ source.y < config.height

/-- Sources in some order and in another one, which lie in a grid and change it alike. -/
structure Alike [Add α] (value : ν → α) (height width : Nat) (sources others : List (Source ν)) :
    Prop where
  rows : Value.isIndex height
  columns : Value.isIndex width
  perm : sources.Perm others
  inside : ∀ source ∈ sources, source.LiesIn height width
  seeded : ∀ grid : Grid height width α, grid.seeded value sources = grid.seeded value others

theorem seeded_eq_of_sourcesAt [Add α] (value : ν → α) {sources others : List (Source ν)}
    (same : ∀ x y, sourcesAt x y others = sourcesAt x y sources) (grid : Grid height width α) :
    grid.seeded value sources = grid.seeded value others := by
  apply Grid.ext_get
  intro y x
  rw [Grid.get_seeded, Grid.get_seeded, same]

theorem seeded_eq_of_perm [AddCommMonoid α] (value : ν → α) {sources others : List (Source ν)}
    (perm : sources.Perm others) (grid : Grid height width α) :
    grid.seeded value sources = grid.seeded value others := by
  apply Grid.ext_get
  intro y x
  rw [Grid.get_seeded, Grid.get_seeded]
  apply (perm.filter _).foldl_eq'
  intro source _ other _ v
  exact add_right_comm v _ _

end Config

/-! ### Ticks and runs -/

namespace Scene

variable [Add α] [Sub α] [Mul α] [OfNat α 4] [OfNat α 0]
variable {ticking : Ticking ν α} {config : Config ν} {value : ν → α}
  {others : List (Config.Source ν)}

/-- Two runs end alike: with the same outcome and the same world, whatever has been recorded. -/
def SameEnd (ran other : Outcome (RunFault ν) Unit (Scene α)) : Prop :=
  ran.1 = other.1 ∧ ran.2.world = other.2.world

/-- Ticks end alike that begin with as many operations, which leave the same world, and then go on
with the same ones. -/
theorem tick_of_same_front {config' : Config ν} {scene scene' : Scene α}
    {front front' further : List (Op ν)} {reached : World α}
    (split : config.tickOps ticking.isPositive = front ++ further)
    (split' : config'.tickOps ticking.isPositive = front' ++ further)
    (lengths : front.length = front'.length) (same : scene'.world = scene.world)
    (next : nextTick config' scene' = nextTick config scene)
    (first : World.applyAll ticking.dynamics (nextTick config scene) scene.world front =
      .ok reached)
    (first' : World.applyAll ticking.dynamics (nextTick config scene) scene.world front' =
      .ok reached) :
    SameEnd (tick ticking config scene) (tick ticking config' scene') := by
  rw [← next, ← same] at first'
  have whole := World.applyAll_append_of_ok first
  have whole' := World.applyAll_append_of_ok first'
  rw [next] at whole'
  -- both ticks go on from the same world, so that the same operation is the first to fail, if any
  rcases World.applyAll_cases ticking.dynamics (nextTick config scene) reached further with
    ⟨after, succeed⟩ | ⟨before, op, rest, left, fault, further_eq, succeed, fails⟩
  · have all := (whole further).trans succeed
    have all' := (whole' further).trans succeed
    rw [← split] at all
    rw [← split', ← next] at all'
    obtain ⟨ended, ticked, world, _⟩ := tick_of_applyAll all
    obtain ⟨ended', ticked', world', _⟩ := tick_of_applyAll all'
    rw [ticked, ticked']
    exact ⟨rfl, world.trans world'.symm⟩
  · rw [further_eq, ← List.append_assoc] at split split'
    have reaches := (whole before).trans succeed
    have reaches' := (whole' before).trans succeed
    rw [← next] at reaches'
    obtain ⟨ended, stops, world, _⟩ := tick_of_stops split reaches fails
    obtain ⟨ended', stops', world', _⟩ := tick_of_stops split' reaches' (next ▸ fails)
    have same : (front ++ before).length = (front' ++ before).length := by
      rw [List.length_append, List.length_append, lengths]
    rw [stops, stops', same]
    exact ⟨rfl, world.trans world'.symm⟩

theorem tick_alike {scene scene' : Scene α} (same : scene'.world = scene.world)
    (alike : Config.Alike value scene.world.height scene.world.width config.sources others)
    (accepted : ∀ source ∈ config.sources,
      ticking.dynamics.amount source.amount = .ok (value source.amount)) :
    SameEnd (tick ticking config scene)
      (tick ticking { config with sources := others } scene') := by
  have first : World.applyAll ticking.dynamics (nextTick config scene) scene.world
      (Config.deposits config.sources) = .ok _ :=
    World.applyAll_deposits scene.world alike.rows alike.columns alike.inside accepted
  have first' : World.applyAll ticking.dynamics (nextTick config scene) scene.world
      (Config.deposits others) = .ok _ :=
    World.applyAll_deposits scene.world alike.rows alike.columns
      (fun source member => alike.inside source (alike.perm.mem_iff.mpr member))
      (fun source member => accepted source (alike.perm.mem_iff.mpr member))
  rw [← alike.seeded, ← alike.perm.length_eq] at first'
  have lengths : (Config.deposits config.sources).length = (Config.deposits others).length := by
    simp only [Config.deposits, List.length_map, alike.perm.length_eq]
  have next : nextTick { config with sources := others } scene' = nextTick config scene := by
    rw [nextTick, nextTick, same]
  exact tick_of_same_front (Config.tickOps_eq_deposits ..) (Config.tickOps_eq_deposits ..) lengths
    same next first first'

theorem runTicks_alike (count : Nat) {scene scene' : Scene α} (same : scene'.world = scene.world)
    (alike : Config.Alike value scene.world.height scene.world.width config.sources others)
    (accepted : ∀ source ∈ config.sources,
      ticking.dynamics.amount source.amount = .ok (value source.amount)) :
    SameEnd (runTicks ticking config count scene)
      (runTicks ticking { config with sources := others } count scene') := by
  induction count generalizing scene scene' with
  | zero => exact ⟨rfl, same.symm⟩
  | succ count ih =>
    have ends := tick_alike same alike accepted
    rw [runTicks, runTicks]
    rcases ticked : tick ticking config scene with ⟨outcome, next⟩
    rcases ticked' : tick ticking { config with sources := others } scene' with ⟨outcome', next'⟩
    rw [ticked, ticked'] at ends
    obtain ⟨rfl, left⟩ : outcome = outcome' ∧ next.world = next'.world := ends
    cases outcome with
    | ok _ =>
      have kept := World.Followed.of_applyAll (applyAll_of_tick ticked)
      exact ih left.symm (kept.height ▸ kept.width ▸ alike)
    | error fault => exact ⟨rfl, left⟩

end Scene

/-! ### Runs of new worlds -/

namespace Config

theorem SourcesInside.map {μ : Type} {config : Config ν} (inside : config.SourcesInside)
    (f : ν → μ) : (config.map f).SourcesInside := by
  intro source member
  obtain ⟨original, among, rfl⟩ := List.mem_map.mp member
  exact inside original among

theorem SourcesInside.alike [Add α] [OfNat α 0] {config : Config ν} {value : ν → α}
    {others : List (Source ν)} {world : World α} (inside : config.SourcesInside)
    (made : World.initial config.height config.width = .ok world)
    (perm : config.sources.Perm others)
    (seeded : ∀ grid : Grid world.height world.width α,
      grid.seeded value config.sources = grid.seeded value others) :
    Alike value world.height world.width config.sources others := by
  obtain ⟨height_eq, width_eq, rows, columns⟩ := World.sizes_of_initial made
  refine ⟨rows, columns, perm, fun source among => ?_, seeded⟩
  obtain ⟨column, row⟩ := inside source among
  exact ⟨width_eq ▸ column, height_eq ▸ row⟩

/--
A run of a new world does not depend on the order of sources that stand at different cells: it ends
with the same outcome and the same world. In exact arithmetic it depends on no order at all.
-/
theorem run_source_order (count : Int) :
    (∀ (config : Config Float) (others : List (Source Float)), config.SourcesInside →
      config.sources.Perm others → (∀ x y, sourcesAt x y others = sourcesAt x y config.sources) →
      let ran := config.runFresh count
      let other := Config.runFresh { config with sources := others } count
      ran.1 = other.1 ∧ ran.2.map Scene.world = other.2.map Scene.world) ∧
    ∀ (part : ℚ → ℚ → ℚ) (config : Config ℚ) (others : List (Source ℚ)) (world : World ℚ),
      config.SourcesInside → config.sources.Perm others →
      World.initial config.height config.width = .ok world →
      let ran := Scene.run (Scene.exactTicking part) config count { world }
      let other := Scene.run (Scene.exactTicking part) { config with sources := others } count
        { world }
      ran.1 = other.1 ∧ ran.2.world = other.2.world := by
  constructor
  · intro config others inside perm same
    simp only [runFresh]
    split
    · exact ⟨rfl, rfl⟩
    cases made : (World.initial config.height config.width : Except WorldFault (World Float)) with
    | error fault => exact ⟨rfl, rfl⟩
    | ok world =>
      have alike : Alike World.numberOf world.height world.width (config.map .float).sources
          (Config.map Value.float { config with sources := others }).sources := by
        refine (inside.map _).alike made (perm.map _) fun grid => ?_
        rw [Grid.seeded_map, Grid.seeded_map]
        exact seeded_eq_of_sourcesAt _ same grid
      have ends : Scene.SameEnd
          (Scene.runTicks Scene.floatTicking (config.map .float) count.toNat { world }) _ :=
        Scene.runTicks_alike count.toNat rfl alike config.amount_map_float
      exact ⟨ends.1, congrArg some ends.2⟩
  · intro part config others world inside perm made
    simp only [Scene.run]
    split
    · exact ⟨rfl, rfl⟩
    · exact Scene.runTicks_alike count.toNat rfl
        (inside.alike made perm (seeded_eq_of_perm id perm)) fun _ _ => rfl

theorem run_source_order_swapped :
    let config : Config Float :=
      ⟨2, 1, 1.0, 0.5, none, [⟨0, 0, 1.0⟩, ⟨1, 0, 2.0⟩, ⟨0, 0, 0.25⟩]⟩
    let swapped : List (Source Float) := [⟨1, 0, 2.0⟩, ⟨0, 0, 1.0⟩, ⟨0, 0, 0.25⟩]
    let rational : Config ℚ := ⟨2, 1, 1, 1 / 8, some 2, [⟨0, 0, 1⟩, ⟨0, 0, 3⟩]⟩
    let world : World ℚ := .ofGrid (Grid.fill 0 : Grid 1 2 ℚ)
    (config.runFresh 2).1 = (Config.runFresh { config with sources := swapped } 2).1 ∧
      (Scene.run (Scene.exactTicking fun _ _ => 1 / 2) rational 2 { world }).2.world =
        (Scene.run (Scene.exactTicking fun _ _ => 1 / 2)
          { rational with sources := [⟨0, 0, 3⟩, ⟨0, 0, 1⟩] } 2 { world }).2.world := by
  intro config swapped rational world
  obtain ⟨same_order, any_order⟩ := run_source_order 2
  have inside : config.SourcesInside := by
    simp [SourcesInside, config]
  have kept (x y : Int) : sourcesAt x y swapped = sourcesAt x y config.sources := by
    simp only [sourcesAt, swapped, config, List.filter_cons, List.filter_nil]
    rcases eq_or_ne 0 x with rfl | other
    · simp
    · simp [other]
  have rational_inside : rational.SourcesInside := by
    simp [SourcesInside, rational]
  exact ⟨(same_order config swapped inside (.swap ..) kept).1,
    (any_order _ rational _ world rational_inside (.swap ..) rfl).2⟩

end Config

end StepPipeline
