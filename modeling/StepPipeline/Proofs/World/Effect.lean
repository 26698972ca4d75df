import StepPipeline.Proofs.World.Ticks

/-!
Ticks that succeed. A source whose column and row lie in the grid means one cell, so depositing it
adds its amount to that cell and to no other. If all quantities of a configuration are accepted as
amounts, no operation of a tick fails, and every tick changes the grid by the same function. Main
results: `Config.Amounts.yields`, `Config.Amounts.runTicks_eq`.
-/

set_option autoImplicit false
set_option relaxedAutoImplicit false

namespace StepPipeline

open Scene (Ticking)

variable {ν α : Type} {height width : Nat}

/-! ### Sources in a grid -/

structure Config.Source.LiesIn (source : Config.Source ν) (height width : Nat) : Prop where
  column : 0 ≤ source.x ∧ source.x < width
  row : 0 ≤ source.y ∧ source.y < height

def Config.sourcesAt (x y : Int) (sources : List (Config.Source ν)) : List (Config.Source ν) :=
  sources.filter fun source => source.x = x ∧ source.y = y

def Config.deposits (sources : List (Config.Source ν)) : List (Op ν) :=
  sources.map fun source => .deposit (.int source.x) (.int source.y) source.amount

def Config.furtherOps (isPositive : ν → Bool) (config : Config ν) : List (Op ν) :=
  (if isPositive config.diffusivity then [.diffuse config.diffusivity] else []) ++
    (config.halfLife.map Op.decay).toList ++ [.advance]

theorem Config.tickOps_eq_deposits (isPositive : ν → Bool) (config : Config ν) :
    config.tickOps isPositive = Config.deposits config.sources ++ config.furtherOps isPositive := by
  simp only [tickOps, deposits, furtherOps, List.append_assoc]

/--
A configuration for grids with some cells: the sources lie in these, and the lines are numbered by
indices, as those of every grid in memory are.
-/
structure Config.Fits (config : Config ν) (height width : Nat) : Prop where
  configuredHeight : config.height = height
  configuredWidth : config.width = width
  tall : 0 < height
  wide : 0 < width
  rows : Value.isIndex height
  columns : Value.isIndex width
  sources : ∀ source ∈ config.sources, source.LiesIn height width

theorem Value.isIndex_of_lt {n size : Int} (positive : 0 ≤ n) (less : n < size)
    (index : Value.isIndex size) : Value.isIndex n := by
  simp only [Value.isIndex, Bool.and_eq_true, decide_eq_true_eq] at index ⊢
  omega

namespace Grid

variable [Add α]

/-- The grid with an amount added to the cell in a column and a row, if there is one. -/
def grown (grid : Grid height width α) (x y : Int) (amount : α) : Grid height width α :=
  if inside : (0 ≤ x ∧ x < width) ∧ 0 ≤ y ∧ y < height then
    let row : Fin height := ⟨y.toNat, by omega⟩
    let column : Fin width := ⟨x.toNat, by omega⟩
    grid.set row column (grid.get row column + amount)
  else grid

def seeded (value : ν → α) (sources : List (Config.Source ν)) (grid : Grid height width α) :
    Grid height width α :=
  sources.foldl (fun grid source => grid.grown source.x source.y (value source.amount)) grid

theorem get_grown (grid : Grid height width α) (x' y' : Int) (amount : α) (y : Fin height)
    (x : Fin width) :
    (grid.grown x' y' amount).get y x =
      if x' = x ∧ y' = y then grid.get y x + amount else grid.get y x := by
  unfold grown
  split
  · next inside =>
    have here : y = ⟨y'.toNat, by omega⟩ ∧ x = (⟨x'.toNat, by omega⟩ : Fin width) ↔
        x' = x ∧ y' = y := by
      rw [Fin.ext_iff, Fin.ext_iff]
      dsimp only
      omega
    rw [get_set]
    simp only [here]
    split
    · next same =>
      obtain ⟨rfl, rfl⟩ := here.mpr same
      rfl
    · rfl
  · next outside =>
    rw [if_neg]
    rintro ⟨rfl, rfl⟩
    exact outside (by omega)

/-- A cell takes up the amounts of the sources that stand at it, in their order. -/
theorem get_seeded (value : ν → α) (sources : List (Config.Source ν)) (grid : Grid height width α)
    (y : Fin height) (x : Fin width) :
    (grid.seeded value sources).get y x =
      (Config.sourcesAt x y sources).foldl (fun v source => v + value source.amount)
        (grid.get y x) := by
  induction sources generalizing grid with
  | nil => rfl
  | cons source rest ih =>
    have others := ih (grid.grown source.x source.y (value source.amount))
    rw [get_grown] at others
    rw [seeded, List.foldl_cons, ← seeded, others, Config.sourcesAt, Config.sourcesAt,
      List.filter_cons]
    by_cases here : source.x = x ∧ source.y = y <;> simp [here]

theorem get_seeded_fill (value : ν → α) (sources : List (Config.Source ν)) (v : α)
    (y : Fin height) (x : Fin width) :
    ((fill v : Grid height width α).seeded value sources).get y x =
      (Config.sourcesAt x y sources).foldl (fun v source => v + value source.amount) v := by
  rw [get_seeded, get_fill]

theorem seeded_map {μ : Type} (f : ν → μ) (value : μ → α) (config : Config ν)
    (grid : Grid height width α) :
    grid.seeded value (config.map f).sources =
      grid.seeded (fun quantity => value (f quantity)) config.sources := by
  simp only [seeded, Config.map, List.foldl_map]

end Grid

variable [Add α] [Sub α] [Mul α] [OfNat α 4] [OfNat α 0]

namespace World

variable {dynamics : Dynamics ν α} {tick : Tick ν}

theorem select_inside {x y : Int} (column : 0 ≤ x ∧ x < width) (row : 0 ≤ y ∧ y < height)
    (columns : Value.isIndex x) (rows : Value.isIndex y) :
    select height width (.int x) (.int y) =
      .ok (.cell ⟨y.toNat, by omega⟩ ⟨x.toNat, by omega⟩) := by
  have line {n : Int} (index : Value.isIndex n) : partsOf (.int n) = .ok [.line n] := by
    change (partOfInt n >>= fun part => .ok [part]) = .ok [.line n]
    rw [partOfInt, if_pos index]
    rfl
  have located {axis size : Nat} {n : Int} (inside : 0 ≤ n ∧ n < size) :
      lineAt axis size n = .ok ⟨n.toNat, by omega⟩ := by
    rw [lineAt, wrapped?, dif_pos inside]
  rw [select, line rows, line columns]
  change (do return Selection.cell (← lineAt 0 height y) (← lineAt 1 width x)) = _
  rw [located row, located column]
  rfl

theorem apply_diffuse_of_error {rate : ν} {fault : WorldFault} {world : World α}
    (refused : dynamics.diffusionNumber rate tick.length = .error fault) :
    world.apply dynamics tick (.diffuse rate) = .error fault := by
  rw [apply, changed, refused]
  rfl

/-- The operations turn one grid into another, whatever else there is in the world. -/
def Yields (dynamics : Dynamics ν α) (tick : Tick ν) (ops : List (Op ν))
    (before after : Grid height width α) : Prop :=
  ∀ time ticks events, ∃ time' ticks' events',
    applyAll dynamics tick ⟨height, width, before, time, ticks, events⟩ ops =
      .ok ⟨height, width, after, time', ticks', events'⟩

namespace Yields

theorem nil (grid : Grid height width α) : Yields dynamics tick [] grid grid :=
  fun time ticks events => ⟨time, ticks, events, rfl⟩

theorem append {first second : List (Op ν)} {before middle after : Grid height width α}
    (h : Yields dynamics tick first before middle) (h' : Yields dynamics tick second middle after) :
    Yields dynamics tick (first ++ second) before after := by
  intro time ticks events
  obtain ⟨time', ticks', events', reaches⟩ := h time ticks events
  obtain ⟨time'', ticks'', events'', ends⟩ := h' time' ticks' events'
  exact ⟨time'', ticks'', events'', by rw [applyAll_append, reaches]; exact ends⟩

theorem of_changed {op : Op ν} {before after : Grid height width α}
    (changes : ∀ time ticks events, ∃ time' ticks',
      changed dynamics tick.length ⟨height, width, before, time, ticks, events⟩ op =
        .ok ⟨height, width, after, time', ticks', events⟩) :
    Yields dynamics tick [op] before after := by
  intro time ticks events
  obtain ⟨time', ticks', effect⟩ := changes time ticks events
  have applied : apply dynamics tick ⟨height, width, before, time, ticks, events⟩ op =
      .ok (record ⟨height, width, after, time', ticks', events⟩ op.variant tick.index) :=
    bind_eq_ok_iff.mpr ⟨_, effect, rfl⟩
  exact ⟨time', ticks', _, bind_eq_ok_iff.mpr ⟨_, applied, rfl⟩⟩

theorem deposit {source : Config.Source ν} {amount : α} (grid : Grid height width α)
    (rows : Value.isIndex height) (columns : Value.isIndex width)
    (inside : source.LiesIn height width)
    (accepted : dynamics.amount source.amount = .ok amount) :
    Yields dynamics tick [.deposit (.int source.x) (.int source.y) source.amount] grid
      (grid.grown source.x source.y amount) := by
  have selects := select_inside inside.column inside.row
    (Value.isIndex_of_lt inside.column.1 inside.column.2 columns)
    (Value.isIndex_of_lt inside.row.1 inside.row.2 rows)
  have deposits : grid.deposited dynamics source.amount
      (.cell ⟨source.y.toNat, by have := inside.row; omega⟩
        ⟨source.x.toNat, by have := inside.column; omega⟩) =
      .ok (grid.grown source.x source.y amount) := by
    rw [Grid.grown, dif_pos ⟨inside.column, inside.row⟩, Grid.deposited, accepted]
    rfl
  exact of_changed fun time ticks events => ⟨time, ticks,
    bind_eq_ok_iff.mpr ⟨_, selects, bind_eq_ok_iff.mpr ⟨_, deposits, rfl⟩⟩⟩

theorem diffuse {rate : ν} {number : α} (grid : Grid height width α) (tall : 0 < height)
    (wide : 0 < width) (accepted : dynamics.diffusionNumber rate tick.length = .ok number) :
    Yields dynamics tick [.diffuse rate] grid (grid.diffused tall wide number) := by
  have spreads : grid.diffused? number = .ok (grid.diffused tall wide number) := by
    rw [Grid.diffused?, dif_pos tall, dif_pos wide]
  exact of_changed fun time ticks events => ⟨time, ticks,
    bind_eq_ok_iff.mpr ⟨_, accepted, bind_eq_ok_iff.mpr ⟨_, spreads, rfl⟩⟩⟩

theorem decay {halfLife : ν} {part : α} (grid : Grid height width α)
    (accepted : dynamics.remainder tick.length halfLife = .ok part) :
    Yields dynamics tick [.decay halfLife] grid (grid.map fun v => v * part) :=
  of_changed fun time ticks _ => ⟨time, ticks, bind_eq_ok_iff.mpr ⟨_, accepted, rfl⟩⟩

theorem advance {passed : α} (grid : Grid height width α)
    (accepted : dynamics.duration tick.length = .ok passed) :
    Yields dynamics tick [.advance] grid grid :=
  of_changed fun time ticks _ => ⟨time + passed, ticks + 1,
    bind_eq_ok_iff.mpr ⟨_, accepted, rfl⟩⟩

/-- The deposits of sources that lie in the grid all succeed. -/
theorem deposits {value : ν → α} {sources : List (Config.Source ν)} (grid : Grid height width α)
    (rows : Value.isIndex height) (columns : Value.isIndex width)
    (inside : ∀ source ∈ sources, source.LiesIn height width)
    (accepted : ∀ source ∈ sources, dynamics.amount source.amount = .ok (value source.amount)) :
    Yields dynamics tick (Config.deposits sources) grid (grid.seeded value sources) := by
  induction sources generalizing grid with
  | nil => exact nil grid
  | cons source rest ih =>
    have first : Yields dynamics tick [_] grid _ :=
      deposit grid rows columns (inside source List.mem_cons_self)
        (accepted source List.mem_cons_self)
    have others := ih (grid.grown source.x source.y (value source.amount))
      (fun source mem => inside source (List.mem_cons_of_mem _ mem))
      (fun source mem => accepted source (List.mem_cons_of_mem _ mem))
    exact first.append others

end Yields

theorem applyAll_deposits {value : ν → α} {sources : List (Config.Source ν)} (world : World α)
    (rows : Value.isIndex world.height) (columns : Value.isIndex world.width)
    (inside : ∀ source ∈ sources, source.LiesIn world.height world.width)
    (accepted : ∀ source ∈ sources, dynamics.amount source.amount = .ok (value source.amount)) :
    applyAll dynamics tick world (Config.deposits sources) =
      .ok { world with
        grid := world.grid.seeded value sources
        events := world.events ++ Array.replicate sources.length s!"Deposit@{tick.index}" } := by
  obtain ⟨height, width, grid, time, ticks, events⟩ := world
  obtain ⟨time', ticks', events', succeed⟩ : ∃ time' ticks' events',
      applyAll dynamics tick ⟨height, width, grid, time, ticks, events⟩ (Config.deposits sources) =
        .ok ⟨height, width, grid.seeded value sources, time', ticks', events'⟩ :=
    Yields.deposits grid rows columns inside accepted time ticks events
  have followed := Followed.of_applyAll succeed
  have still : (Config.deposits sources).countP Op.passesTime = 0 := by
    simp [Config.deposits, List.countP_eq_zero, Op.passesTime]
  have events_eq : events' =
      events ++ Array.replicate sources.length s!"Deposit@{tick.index}" := by
    apply Array.toList_inj.mp
    have left : events'.toList =
        events.toList ++ (Config.deposits sources).map (Op.event tick.index) := followed.events
    have named : (Config.deposits sources).map (Op.event tick.index) =
        List.replicate sources.length s!"Deposit@{tick.index}" := by
      rw [Config.deposits, List.map_map, ← List.map_const']
      rfl
    rw [left, named, Array.toList_append, Array.toList_replicate]
  have time_eq : time' = time := by simpa [still] using followed.time
  have ticks_eq : ticks' = ticks := by simpa [still] using followed.ticks
  rw [succeed, events_eq, time_eq, ticks_eq]

end World

/-! ### Ticks -/

namespace Config

/--
The amounts that the quantities of a configuration stand for: what its sources add, the diffusion
number, if there is diffusion, and the part that a tick leaves, if there is decay.
-/
structure Amounts (ticking : Ticking ν α) (config : Config ν) where
  amount : ν → α
  number : Option α
  part : Option α
  passed : α
  amount_eq : ∀ source ∈ config.sources,
    ticking.dynamics.amount source.amount = .ok (amount source.amount)
  number_eq : (if ticking.isPositive config.diffusivity then
      some (ticking.dynamics.diffusionNumber config.diffusivity config.tickLength) else none) =
    number.map .ok
  part_eq : config.halfLife.map (ticking.dynamics.remainder config.tickLength) = part.map .ok
  passed_eq : ticking.dynamics.duration config.tickLength = .ok passed

namespace Amounts

variable {ticking : Ticking ν α} {config : Config ν}

def step (amounts : config.Amounts ticking) (tall : 0 < height) (wide : 0 < width)
    (grid : Grid height width α) : Grid height width α :=
  let seeded := grid.seeded amounts.amount config.sources
  let spread := amounts.number.elim seeded (seeded.diffused tall wide)
  amounts.part.elim spread fun part => spread.map fun v => v * part

theorem yields (amounts : config.Amounts ticking) (fits : config.Fits height width)
    (index : String) (grid : Grid height width α) :
    World.Yields ticking.dynamics ⟨index, config.tickLength⟩ (config.tickOps ticking.isPositive)
      grid (amounts.step fits.tall fits.wide grid) := by
  have deposits : World.Yields ticking.dynamics ⟨index, config.tickLength⟩ _ grid _ :=
    .deposits grid fits.rows fits.columns fits.sources amounts.amount_eq
  have diffuses (seeded : Grid height width α) :
      World.Yields ticking.dynamics ⟨index, config.tickLength⟩
        (if ticking.isPositive config.diffusivity then [.diffuse config.diffusivity] else [])
        seeded (amounts.number.elim seeded (seeded.diffused fits.tall fits.wide)) := by
    have number := amounts.number_eq
    split
    · rename_i positive
      rw [if_pos positive] at number
      obtain ⟨k, found, accepted⟩ := Option.map_eq_some_iff.mp number.symm
      rw [found]
      exact .diffuse seeded fits.tall fits.wide accepted.symm
    · rename_i still
      rw [if_neg still] at number
      rw [Option.map_eq_none_iff.mp number.symm]
      exact .nil seeded
  have decays (spread : Grid height width α) :
      World.Yields ticking.dynamics ⟨index, config.tickLength⟩
        (config.halfLife.map Op.decay).toList spread
        (amounts.part.elim spread fun part => spread.map fun v => v * part) := by
    have part := amounts.part_eq
    cases decays : config.halfLife with
    | none =>
      rw [decays] at part
      rw [Option.map_eq_none_iff.mp part.symm]
      exact .nil spread
    | some halfLife =>
      rw [decays] at part
      obtain ⟨q, found, accepted⟩ := Option.map_eq_some_iff.mp part.symm
      rw [found]
      exact .decay spread accepted.symm
  have advances (decayed : Grid height width α) :
      World.Yields ticking.dynamics ⟨index, config.tickLength⟩ [.advance] decayed decayed :=
    .advance decayed amounts.passed_eq
  exact ((deposits.append (diffuses _)).append (decays _)).append (advances _)

/-- A run does not fail if the quantities stand for amounts; each tick changes the grid alike. -/
theorem runTicks_eq (amounts : config.Amounts ticking) (count : Nat) (scene : Scene α)
    (fits : config.Fits scene.world.height scene.world.width) :
    ∃ time ticks events log, Scene.runTicks ticking config count scene =
      (.ok (), ⟨⟨scene.world.height, scene.world.width,
        (amounts.step fits.tall fits.wide)^[count] scene.world.grid, time, ticks, events⟩, log⟩) := by
  obtain ⟨⟨height, width, grid, time, ticks, events⟩, log⟩ := scene
  induction count generalizing grid time ticks events log with
  | zero => exact ⟨time, ticks, events, log, rfl⟩
  | succ count ih =>
    obtain ⟨time', ticks', events', succeed⟩ := amounts.yields fits (toString ticks) grid
      time ticks events
    obtain ⟨⟨world, log'⟩, ticked, reached, _⟩ : ∃ ended,
        Scene.tick ticking config ⟨⟨height, width, grid, time, ticks, events⟩, log⟩ =
          (.ok (), ended) ∧ ended.world = _ ∧ _ := Scene.tick_of_applyAll succeed
    cases reached
    obtain ⟨time'', ticks'', events'', log'', others⟩ := ih log' _ time' ticks' events' fits
    refine ⟨time'', ticks'', events'', log'', ?_⟩
    rw [Scene.runTicks, ticked]
    exact others

end Amounts

end Config

/-! ### Floating-point quantities -/

namespace World

/-- The number that a value adds to a cell; zero if it adds none. -/
def numberOf (v : Value) : Float :=
  (floating.amount v).toOption.getD 0

theorem amount_float (x : Float) : floating.amount (.float x) = .ok x := rfl

theorem duration_float (x : Float) : floating.duration (.float x) = .ok x := rfl

end World

namespace Config

theorem amount_map_float (config : Config Float) :
    ∀ source ∈ (config.map Value.float).sources,
      World.floating.amount source.amount = .ok (World.numberOf source.amount) := by
  intro source member
  obtain ⟨original, _, rfl⟩ := List.mem_map.mp member
  rfl

theorem Fits.map {μ : Type} {config : Config ν} (fits : config.Fits height width) (f : ν → μ) :
    (config.map f).Fits height width where
  configuredHeight := fits.configuredHeight
  configuredWidth := fits.configuredWidth
  tall := fits.tall
  wide := fits.wide
  rows := fits.rows
  columns := fits.columns
  sources source member := by
    obtain ⟨original, among, rfl⟩ := List.mem_map.mp member
    obtain ⟨column, row⟩ := fits.sources original among
    exact ⟨column, row⟩

end Config

end StepPipeline
