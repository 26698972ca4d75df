import StepPipeline.Proofs.World.Execution

/-!
Ticks one after the other. All that a tick hands on to the next one is the world: its number, its
time, its grid and its events. So running a world for some ticks and then for more is running it for
all of them, and what a world counts and records can be told from the ticks alone, for complete runs
as for those that fail. Main results: `Config.runFrom_add`, `Config.run_bookkeeping`.
-/

set_option autoImplicit false
set_option relaxedAutoImplicit false

namespace StepPipeline

variable {ν α : Type}

/-! ### Numbers of ticks in a log -/

def Record.tick? : Record → Option Nat
  | tickDone index _ => some index
  | _ => none

def Scene.tickNumbers (scene : Scene α) : List Nat :=
  scene.log.toList.filterMap Record.tick?

theorem Scene.tickNumbers_note (record : Record) (scene : Scene α) :
    (scene.note record).tickNumbers = scene.tickNumbers ++ record.tick?.toList := by
  rw [tickNumbers, tickNumbers, note, Array.toList_push, List.filterMap_append]
  cases found : record.tick? <;> simp [found]

section Kept

variable {ι κ ρ ε σ β : Type} [Cause ε] {engine : Engine ι κ ρ ε σ}
  {contexts : List κ}

theorem Engine.runFrom_keeps (seen : σ → β)
    (performs : ∀ item state, seen (engine.perform contexts item state).2 = seen state)
    (notes : ∀ record state, record.tick? = none → seen (engine.note record state) = seen state)
    {taken : List ι → σ → σ} (takes : ∀ rest state, seen (taken rest state) = seen state)
    (ending : Option (Fault ι ρ ε)) (remaining : List ι) (done : List ρ) (state : σ) :
    seen (engine.runFrom contexts taken ending remaining done state).2 = seen state := by
  induction remaining generalizing done state with
  | nil => cases ending <;> rfl
  | cons item rest ih =>
    have started : seen (engine.note (.running done.length (engine.label item))
        (taken rest state)) = seen state := by
      rw [notes _ _ rfl, takes]
    have performed := performs item
      (engine.note (.running done.length (engine.label item)) (taken rest state))
    rcases called : engine.perform contexts item
      (engine.note (.running done.length (engine.label item)) (taken rest state)) with
        ⟨outcome, left⟩
    rw [called, started] at performed
    simp only [runFrom, called]
    cases outcome with
    | ok result => exact (ih (done ++ [result]) left).trans performed
    | error fault =>
      dsimp only
      split
      · exact performed
      · rw [notes _ _ rfl]
        exact performed

theorem Pipeline.execute_keeps (seen : σ → β) (place : Place ι σ)
    (performs : ∀ item state, seen (engine.perform contexts item state).2 = seen state)
    (notes : ∀ record state, record.tick? = none → seen (engine.note record state) = seen state)
    (puts : ∀ pipeline state, seen (place.put pipeline state) = seen state) (state : σ) :
    seen (execute engine place contexts state).2 = seen state := by
  have looped := engine.runFrom_keeps seen performs notes
    (fun rest => puts ((place.get state).spent rest)) none (place.get state).steps []
    (engine.note (.executing (place.get state).steps.length contexts.length)
      (place.put ((place.get state).spent (place.get state).steps) state))
  rw [notes _ _ rfl, puts] at looped
  cases refused : (refusal? (place.get state) contexts.length : Option (Fault ι ρ ε)) with
  | some fault => simp only [execute, refused]
  | none =>
    simp only [execute, refused, Engine.run]
    split
    · dsimp only
      rw [notes _ _ rfl, puts]
      exact looped
    · dsimp only
      rw [puts]
      exact looped

end Kept

namespace Scene

variable [Add α] [Sub α] [Mul α] [OfNat α 4] [OfNat α 0]

theorem tickNumbers_execute (dynamics : Dynamics ν α) (ops : List (Op ν)) (tick : Tick ν)
    (scene : Scene α) : (execute dynamics ops tick scene).2.tickNumbers = scene.tickNumbers := by
  have performs (op : Op ν) (state : Pipeline (Op ν) × Scene α) :
      ((engine dynamics).beside.perform [.world, .tick tick] op state).2.2.tickNumbers =
        state.2.tickNumbers := by
    change (perform dynamics [.world, .tick tick] op state.2).2.tickNumbers = state.2.tickNumbers
    simp only [perform]
    split
    rfl
  have notes (record : Record) (state : Pipeline (Op ν) × Scene α) (other : record.tick? = none) :
      ((engine dynamics).beside.note record state).2.tickNumbers = state.2.tickNumbers := by
    change (state.2.note record).tickNumbers = state.2.tickNumbers
    rw [tickNumbers_note, other, Option.toList_none, List.append_nil]
  have kept := Pipeline.execute_keeps
    (fun state : Pipeline (Op ν) × Scene α => state.2.tickNumbers) .first performs notes
    (fun _ _ => rfl) (⟨ops, Op.shape? ops, false⟩, scene)
  simp only [execute, Op.accepted]
  exact kept

end Scene

/-! ### One tick -/

namespace Config

def tickEvents (isPositive : ν → Bool) (config : Config ν) (number : Nat) : List String :=
  (config.tickOps isPositive).map (Op.event (toString number))

theorem mem_tickOps {isPositive : ν → Bool} {config : Config ν} {op : Op ν} :
    op ∈ config.tickOps isPositive ↔
      (∃ source ∈ config.sources,
          op = .deposit (.int source.x) (.int source.y) source.amount) ∨
        (isPositive config.diffusivity ∧ op = .diffuse config.diffusivity) ∨
        (∃ halfLife, config.halfLife = some halfLife ∧ op = .decay halfLife) ∨ op = .advance := by
  simp only [tickOps, List.mem_append, List.mem_map, List.mem_ite_nil_right, List.mem_singleton,
    Option.mem_toList, Option.map_eq_some_iff, or_assoc]
  simp only [eq_comm]

theorem tickOps_eq (isPositive : ν → Bool) (config : Config ν) :
    ∃ front : List (Op ν), config.tickOps isPositive = front ++ [.advance] ∧
      front.countP Op.passesTime = 0 := by
  refine ⟨_, rfl, List.countP_eq_zero.mpr fun op member => ?_⟩
  rcases List.mem_append.mp member with earlier | decays
  · rcases List.mem_append.mp earlier with deposits | diffuses
    · obtain ⟨source, _, rfl⟩ := List.mem_map.mp deposits
      exact Bool.false_ne_true
    · split at diffuses
      · rw [List.mem_singleton.mp diffuses]
        exact Bool.false_ne_true
      · cases diffuses
  · obtain ⟨halfLife, _, rfl⟩ := Option.map_eq_some_iff.mp (Option.mem_toList.mp decays)
    exact Bool.false_ne_true

theorem countP_before {isPositive : ν → Bool} {config : Config ν} {before rest : List (Op ν)}
    {op : Op ν} (split : config.tickOps isPositive = before ++ op :: rest) :
    before.countP Op.passesTime = 0 := by
  obtain ⟨front, ends, still⟩ := config.tickOps_eq isPositive
  have same : front ++ [.advance] = before ++ op :: rest := ends.symm.trans split
  have shorter : before.length ≤ front.length := by
    have lengths := congrArg List.length same
    simp only [List.length_append, List.length_cons, List.length_nil] at lengths
    omega
  have among : before <+: front := by
    refine List.prefix_of_prefix_length_le ?_ (List.prefix_append front [.advance]) shorter
    rw [same]
    exact List.prefix_append before (op :: rest)
  exact Nat.le_zero.mp (still ▸ among.sublist.countP_le)

end Config

namespace Scene

variable [Add α] [Sub α] [Mul α] [OfNat α 4] [OfNat α 0]
variable {ticking : Ticking ν α} {config : Config ν} {scene : Scene α}

def nextTick (config : Config ν) (scene : Scene α) : Tick ν :=
  ⟨toString scene.world.ticks, config.tickLength⟩

theorem tick_eq (ticking : Ticking ν α) (config : Config ν) (scene : Scene α) :
    tick ticking config scene =
      match execute ticking.dynamics (config.tickOps ticking.isPositive) (nextTick config scene)
        scene with
      | (.ok _, ended) =>
        (.ok (), ended.note (.tickDone scene.world.ticks (ticking.timeText ended.world.time)))
      | (.error fault, ended) => (.error fault, ended) := rfl

theorem executed {dynamics : Dynamics ν α} {ops : List (Op ν)} {tick : Tick ν} {world : World α}
    {outcome : Except (RunFault ν) (Report Unit)}
    (ends : (execute dynamics ops tick scene).1 = outcome)
    (reached : (execute dynamics ops tick scene).2.world = world) :
    ∃ ended, execute dynamics ops tick scene = (outcome, ended) ∧ ended.world = world ∧
      ended.tickNumbers = scene.tickNumbers :=
  ⟨_, Prod.ext ends rfl, reached, tickNumbers_execute dynamics ops tick scene⟩

theorem tick_of_applyAll {after : World α}
    (succeed : World.applyAll ticking.dynamics (nextTick config scene) scene.world
      (config.tickOps ticking.isPositive) = .ok after) :
    ∃ ended, tick ticking config scene = (.ok (), ended) ∧ ended.world = after ∧
      ended.tickNumbers = scene.tickNumbers ++ [scene.world.ticks] := by
  obtain ⟨completes, left⟩ := execute_of_applyAll succeed
  obtain ⟨ended, ran, reached, numbers⟩ := executed completes left
  refine ⟨ended.note (.tickDone scene.world.ticks (ticking.timeText ended.world.time)), ?_,
    reached, ?_⟩
  · rw [tick_eq, ran]
  · rw [tickNumbers_note, numbers]
    rfl

theorem tick_of_stops {before rest : List (Op ν)} {op : Op ν} {reached : World α}
    {fault : WorldFault} (split : config.tickOps ticking.isPositive = before ++ op :: rest)
    (succeed : World.applyAll ticking.dynamics (nextTick config scene) scene.world before =
      .ok reached)
    (fails : reached.apply ticking.dynamics (nextTick config scene) op = .error fault) :
    ∃ ended, tick ticking config scene = (.error (.because
        ⟨before.length, op, op.variant, List.replicate before.length ()⟩ (.raised fault)), ended) ∧
      ended.world = reached ∧ ended.tickNumbers = scene.tickNumbers := by
  obtain ⟨stops, left⟩ := execute_of_stops rest succeed fails
  obtain ⟨ended, ran, reached, numbers⟩ := executed stops left
  exact ⟨ended, by rw [tick_eq, split, ran], reached, numbers⟩

theorem applyAll_of_tick {after : Scene α} (ticked : tick ticking config scene = (.ok (), after)) :
    World.applyAll ticking.dynamics (nextTick config scene) scene.world
      (config.tickOps ticking.isPositive) = .ok after.world := by
  rcases World.applyAll_cases ticking.dynamics (nextTick config scene) scene.world
    (config.tickOps ticking.isPositive) with
      ⟨world, succeed⟩ | ⟨before, op, rest, world, fault, split, succeed, fails⟩
  · obtain ⟨ended, done, rfl, _⟩ := tick_of_applyAll succeed
    cases ticked.symm.trans done
    exact succeed
  · obtain ⟨_, stops, _⟩ := tick_of_stops split succeed fails
    cases ticked.symm.trans stops

/--
What a scene is after some complete ticks, the cells of its grid apart: each tick has counted once,
let its length pass once, left the events of all its operations and said in the log that it is over.
-/
structure Ticked (ticking : Ticking ν α) (config : Config ν) (count : Nat)
    (before after : Scene α) : Prop where
  height : after.world.height = before.world.height
  width : after.world.width = before.world.width
  ticks : after.world.ticks = before.world.ticks + count
  time : after.world.time =
    (ticking.dynamics.after config.tickLength)^[count] before.world.time
  events : after.world.events.toList = before.world.events.toList ++
    (List.range' before.world.ticks count).flatMap (config.tickEvents ticking.isPositive)
  numbers : after.tickNumbers = before.tickNumbers ++ List.range' before.world.ticks count

namespace Ticked

omit [Sub α] [Mul α] [OfNat α 4] [OfNat α 0] in
theorem refl (scene : Scene α) : Ticked ticking config 0 scene scene where
  height := rfl
  width := rfl
  ticks := rfl
  time := rfl
  events := (List.append_nil _).symm
  numbers := (List.append_nil _).symm

omit [Sub α] [Mul α] [OfNat α 4] [OfNat α 0] in
theorem trans {first second : Nat} {before middle after : Scene α}
    (h : Ticked ticking config first before middle)
    (h' : Ticked ticking config second middle after) :
    Ticked ticking config (first + second) before after where
  height := h'.height.trans h.height
  width := h'.width.trans h.width
  ticks := by rw [h'.ticks, h.ticks, Nat.add_assoc]
  time := by rw [h'.time, h.time, Nat.add_comm first, Function.iterate_add_apply]
  events := by
    rw [h'.events, h.events, h.ticks, ← List.range'_append_1, List.flatMap_append,
      List.append_assoc]
  numbers := by
    rw [h'.numbers, h.numbers, h.ticks, ← List.range'_append_1, List.append_assoc]

end Ticked

/--
What a tick leaves that fails after some operations, the cells of its grid apart: it has neither
counted nor let time pass, and the operations before the one that failed have left their events.
-/
structure Broken (ticking : Ticking ν α) (config : Config ν) (completed : Nat)
    (before after : Scene α) : Prop where
  height : after.world.height = before.world.height
  width : after.world.width = before.world.width
  ticks : after.world.ticks = before.world.ticks
  time : after.world.time = before.world.time
  events : after.world.events.toList = before.world.events.toList ++
    (config.tickEvents ticking.isPositive before.world.ticks).take completed
  numbers : after.tickNumbers = before.tickNumbers

/-- A tick is complete, or an operation is the first to fail after those that are completed. -/
theorem tick_cases (ticking : Ticking ν α) (config : Config ν) (scene : Scene α) :
    (∃ after, tick ticking config scene = (.ok (), after) ∧
        Ticked ticking config 1 scene after) ∨
      ∃ failure fault after,
        tick ticking config scene = (.error (.because failure (.raised fault)), after) ∧
        failure.index = failure.completed ∧
        (config.tickOps ticking.isPositive)[failure.completed]? = some failure.step ∧
        Broken ticking config failure.completed scene after := by
  rcases World.applyAll_cases ticking.dynamics (nextTick config scene) scene.world
    (config.tickOps ticking.isPositive) with
      ⟨world, succeed⟩ | ⟨before, op, rest, world, fault, split, succeed, fails⟩
  · obtain ⟨after, ticked, rfl, numbers⟩ := tick_of_applyAll succeed
    have followed := World.Followed.of_applyAll succeed
    obtain ⟨front, ends, still⟩ := config.tickOps_eq ticking.isPositive
    have once : (config.tickOps ticking.isPositive).countP Op.passesTime = 1 := by
      rw [ends, List.countP_append, still]
      rfl
    refine .inl ⟨after, ticked, followed.height, followed.width, ?_, ?_, ?_, numbers⟩
    · rw [followed.ticks, once]
    · rw [followed.time, once]
      rfl
    · rw [followed.events, List.range'_one, List.flatMap_singleton]
      rfl
  · obtain ⟨after, ticked, rfl, numbers⟩ := tick_of_stops split succeed fails
    have followed := World.Followed.of_applyAll succeed
    have none_passed := Config.countP_before split
    have completed := Failure.completed_replicate before.length op op.variant before.length
    refine .inr ⟨_, fault, after, ticked, ?_, ?_, followed.height, followed.width, ?_, ?_, ?_,
      numbers⟩
    · rw [completed]
    · rw [completed, split, List.getElem?_append_right (Nat.le_refl _), Nat.sub_self]
      rfl
    · rw [followed.ticks, none_passed]
      rfl
    · rw [followed.time, none_passed]
      rfl
    · rw [followed.events, completed, Config.tickEvents, split, List.map_append,
        List.take_left' (List.length_map _)]
      rfl

/-! ### Runs -/

/-- Some ticks and then others are as many ticks in one run, also where one of them fails. -/
theorem runTicks_add (ticking : Ticking ν α) (config : Config ν) (first second : Nat)
    (scene : Scene α) :
    runTicks ticking config (first + second) scene =
      match runTicks ticking config first scene with
      | (.ok _, after) => runTicks ticking config second after
      | failed => failed := by
  induction first generalizing scene with
  | zero => rw [Nat.zero_add, runTicks]
  | succ count ih =>
    rw [Nat.add_right_comm, runTicks, runTicks]
    rcases tick ticking config scene with ⟨outcome, after⟩
    cases outcome with
    | ok _ => exact ih after
    | error fault => rfl

theorem runTicks_cases (ticking : Ticking ν α) (config : Config ν) (count : Nat)
    (scene : Scene α) :
    (∃ after, runTicks ticking config count scene = (.ok (), after) ∧
        Ticked ticking config count scene after) ∨
      ∃ done fault middle after, done < count ∧
        runTicks ticking config done scene = (.ok (), middle) ∧
        Ticked ticking config done scene middle ∧
        tick ticking config middle = (.error fault, after) ∧
        runTicks ticking config count scene = (.error fault, after) := by
  -- by the first tick: the tick that fails is this one, or one of the run from the next scene
  induction count generalizing scene with
  | zero => exact .inl ⟨scene, rfl, .refl scene⟩
  | succ count ih =>
    rcases tick_cases ticking config scene with
      ⟨next, ticked, first⟩ | ⟨failure, fault, after, ticked, _⟩
    · have goes_on (more : Nat) :
          runTicks ticking config (more + 1) scene = runTicks ticking config more next := by
        rw [runTicks, ticked]
      rcases ih next with ⟨after, ran, others⟩ | ⟨done, fault, middle, after, less, ran, others, h⟩
      · refine .inl ⟨after, (goes_on count).trans ran, ?_⟩
        rw [Nat.add_comm]
        exact first.trans others
      · refine .inr ⟨done + 1, fault, middle, after, Nat.succ_lt_succ less,
          (goes_on done).trans ran, ?_, h.1, (goes_on count).trans h.2⟩
        rw [Nat.add_comm]
        exact first.trans others
    · refine .inr ⟨0, _, scene, after, Nat.succ_pos count, rfl, .refl scene, ticked, ?_⟩
      rw [runTicks, ticked]

/-- What each tick hands on to the next one holds after a run that returns. -/
theorem runTicks_induction (holds : Nat → World α → Prop) {count : Nat} {after : Scene α}
    (returns : runTicks ticking config count scene = (.ok (), after))
    (begins : holds 0 scene.world)
    (steps : ∀ {done : Nat} {world next : World α}, holds done world →
      World.applyAll ticking.dynamics ⟨toString world.ticks, config.tickLength⟩ world
        (config.tickOps ticking.isPositive) = .ok next → holds (done + 1) next) :
    holds count after.world := by
  induction count generalizing scene holds with
  | zero =>
    cases returns
    exact begins
  | succ count ih =>
    rw [runTicks] at returns
    rcases ticked : tick ticking config scene with ⟨outcome, next⟩
    rw [ticked] at returns
    cases outcome with
    | ok _ =>
      exact ih (fun done => holds (done + 1)) returns (steps begins (applyAll_of_tick ticked)) steps
    | error fault => cases returns

@[simp] theorem run_natCast (ticking : Ticking ν α) (config : Config ν) (count : Nat)
    (scene : Scene α) :
    run ticking config count scene = runTicks ticking config count scene := by
  rw [run, if_neg (by omega), Int.toNat_natCast]

end Scene

/-! ### Worlds of floating-point numbers -/

theorem Config.runFresh_natCast (config : Config Float) (count : Nat) :
    config.runFresh count =
      match (World.initial config.height config.width : Except WorldFault (World Float)) with
      | .ok world =>
        let ran := Scene.continued config count { world }
        (ran.1, some ran.2)
      | .error fault => (.error (.raised fault), none) := by
  rw [Config.runFresh, if_neg (by omega)]
  cases (World.initial config.height config.width : Except WorldFault (World Float)) with
  | error fault => rfl
  | ok world => simp only [Scene.continued, Scene.run_natCast, Int.toNat_natCast]

theorem World.eq_of_initial [OfNat α 0] {height width : Int} {world : World α}
    (made : World.initial height width = .ok world) :
    (0 ≤ height ∧ Value.isIndex height) ∧ (0 ≤ width ∧ Value.isIndex width) ∧
      world = .ofGrid (Grid.fill 0 : Grid height.toNat width.toNat α) := by
  obtain ⟨tall, rows, sized⟩ := bind_eq_ok_iff.mp made
  obtain ⟨wide, columns, counted⟩ := bind_eq_ok_iff.mp sized
  obtain ⟨bytes, high, fitted⟩ := bind_eq_ok_iff.mp counted
  obtain ⟨_, broad, roomy⟩ := bind_eq_ok_iff.mp fitted
  have index {n size : Int} (size_eq : sizeOf (.int n) = .ok size) :
      Value.isIndex n ∧ size = n := by
    rw [sizeOf] at size_eq
    split at size_eq
    · next index =>
      cases size_eq
      exact ⟨index, rfl⟩
    · cases size_eq
  have unsigned {bytes left : Nat} {size : Int} (product : multipliedSize bytes size = .ok left) :
      0 ≤ size := by
    rw [multipliedSize] at product
    split at product
    · next zero => exact Int.le_of_eq zero.symm
    · split at product
      · cases product
      · next positive => exact Int.not_lt.mp positive
  obtain ⟨rows, rfl⟩ := index rows
  obtain ⟨columns, rfl⟩ := index columns
  obtain ⟨_, broad, _⟩ := bind_eq_ok_iff.mp (broad : (multipliedSize bytes wide >>= _) = _)
  split at roomy
  · cases roomy
  · cases roomy
    exact ⟨⟨unsigned high, rows⟩, ⟨unsigned broad, columns⟩, rfl⟩

theorem World.sizes_of_initial [OfNat α 0] {height width : Int} {world : World α}
    (made : World.initial height width = .ok world) :
    (world.height : Int) = height ∧ (world.width : Int) = width ∧
      Value.isIndex world.height ∧ Value.isIndex world.width := by
  obtain ⟨⟨tall, rows⟩, ⟨wide, columns⟩, rfl⟩ := World.eq_of_initial made
  have same_height : (height.toNat : Int) = height := Int.toNat_of_nonneg tall
  have same_width : (width.toNat : Int) = width := Int.toNat_of_nonneg wide
  exact ⟨same_height, same_width, same_height.symm ▸ rows, same_width.symm ▸ columns⟩

theorem World.ticks_initial {height width : Int} {world : World Float}
    (made : World.initial height width = .ok world) : world.ticks = 0 := by
  rw [(World.eq_of_initial made).2.2]
  rfl

namespace Scene

variable {config : Config Float}

/-- The number that the next tick has; the first tick of a new world has number zero. -/
def nextNumber (start : Option (Scene Float)) : Nat :=
  start.elim 0 fun scene => scene.world.ticks

/-- The numbers of the ticks that are said to be over; of a new world nothing is said yet. -/
def numbersSaid (start : Option (Scene Float)) : List Nat :=
  start.elim [] tickNumbers

theorem continued_numbers (config : Config Float) (count : Nat) (scene : Scene Float) :
    let ran := scene.continued config count
    ∃ done ≤ count, ran.2.world.ticks = scene.world.ticks + done ∧
      ran.2.tickNumbers = scene.tickNumbers ++ List.range' scene.world.ticks done ∧
      (ran.1.isOk → done = count) := by
  simp only [continued, run_natCast]
  rcases runTicks_cases floatTicking (config.map .float) count scene with
    ⟨after, ran, ticked⟩ | ⟨done, fault, middle, after, less, _, ticked, fails, ran⟩
  · rw [ran]
    exact ⟨count, Nat.le_refl count, ticked.ticks, ticked.numbers, fun _ => rfl⟩
  · rw [ran]
    rcases tick_cases floatTicking (config.map .float) middle with
      ⟨_, succeeds, _⟩ | ⟨failure, cause, _, stops, _, _, broken⟩
    · cases fails.symm.trans succeeds
    · cases fails.symm.trans stops
      exact ⟨done, Nat.le_of_lt less, broken.ticks.trans ticked.ticks,
        broken.numbers.trans ticked.numbers, fun impossible => nomatch impossible⟩

end Scene

namespace Config

/-- The run of a world, or of a new one where none is given. -/
def runFrom (config : Config Float) (count : Int) :
    Option (Scene Float) → Outcome (Scene.RunFault Value) Unit (Option (Scene Float))
  | none => config.runFresh count
  | some scene =>
    let ran := scene.continued config count
    (ran.1, some ran.2)

theorem runFrom_cases (config : Config Float) (start : Option (Scene Float)) :
    (∃ scene : Scene Float, Scene.nextNumber start = scene.world.ticks ∧
        Scene.numbersSaid start = scene.tickNumbers ∧
        ∀ count : Nat, config.runFrom count start = config.runFrom count (some scene)) ∨
      ∃ fault : Scene.RunFault Value, start = none ∧
        ∀ count : Nat, config.runFrom count start = (.error fault, none) := by
  cases start with
  | some scene => exact .inl ⟨scene, rfl, rfl, fun _ => rfl⟩
  | none =>
    rcases made : (World.initial config.height config.width : Except WorldFault (World Float)) with
      fault | world
    · refine .inr ⟨.raised fault, rfl, fun count => ?_⟩
      rw [runFrom, runFresh_natCast, made]
    · refine .inl ⟨{ world }, (World.ticks_initial made).symm, rfl, fun count => ?_⟩
      rw [runFrom, runFresh_natCast, made]
      rfl

/--
Running a world for some ticks and then, if that returns, for more is running it for all of them,
whether a world is given or not; and the ticks are numbered through.
-/
theorem runFrom_add (config : Config Float) (start : Option (Scene Float)) (first second : Nat) :
    let split := match config.runFrom first start with
      | (.ok _, after) => config.runFrom second after
      | failed => failed
    config.runFrom ↑(first + second) start = split ∧
      ∃ done ≤ first + second, Scene.nextNumber split.2 = Scene.nextNumber start + done ∧
        Scene.numbersSaid split.2 =
          Scene.numbersSaid start ++ List.range' (Scene.nextNumber start) done ∧
        (split.1.isOk → done = first + second) := by
  intro split
  have whole : config.runFrom ↑(first + second) start = split := by
    rcases config.runFrom_cases start with ⟨scene, _, _, from_scene⟩ | ⟨fault, _, refused⟩
    · rw [from_scene, runFrom, Scene.continued, Scene.run_natCast, Scene.runTicks_add]
      simp only [split]
      rw [from_scene, runFrom, Scene.continued, Scene.run_natCast]
      rcases Scene.runTicks Scene.floatTicking (config.map .float) first scene with
        ⟨_ | _, after⟩
      · rfl
      · simp only [runFrom, Scene.continued, Scene.run_natCast]
    · simp only [split, refused]
  refine ⟨whole, ?_⟩
  rw [← whole]
  rcases config.runFrom_cases start with
    ⟨scene, number, numbers, from_scene⟩ | ⟨fault, none, refused⟩
  · rw [from_scene, number, numbers]
    exact Scene.continued_numbers config (first + second) scene
  · rw [refused, none]
    exact ⟨0, Nat.zero_le _, rfl, rfl, fun impossible => nomatch impossible⟩

/--
What a run counts and records. A run that returns has counted its ticks, has let the length of a
tick pass for each, and has left the events of each tick in order. A run that does not return fails
in a step of the tick after some complete ones: it has counted and recorded those, and of the tick
that failed it has recorded the operations that the failure says are completed.
-/
theorem run_bookkeeping (config : Config Float) (count : Nat) (scene : Scene Float) :
    let start := scene.world
    let ops := (config.map .float).tickOps Scene.floatTicking.isPositive
    let eventsOf (number : Nat) := ops.map fun op => s!"{op.variant}@{number}"
    let ticked (done : Nat) := start.events.toList ++
      (List.range' start.ticks done).flatMap eventsOf
    let timeAfter (done : Nat) := (fun time => time + config.tickLength)^[done] start.time
    let ran := scene.continued config count
    let ended := ran.2.world
    ended.height = start.height ∧ ended.width = start.width ∧
      match ran.1 with
      | .ok _ => ended.ticks = start.ticks + count ∧ ended.time = timeAfter count ∧
          ended.events.toList = ticked count
      | .error fault => ∃ done failure cause middle, done < count ∧
          scene.continued config done = (.ok (), middle) ∧
          middle.continued config 1 = (.error fault, ran.2) ∧
          fault = .because failure cause ∧ failure.index = failure.completed ∧
          ops[failure.completed]? = some failure.step ∧
          ended.ticks = start.ticks + done ∧ ended.time = timeAfter done ∧
          ended.events.toList =
            ticked done ++ (eventsOf (start.ticks + done)).take failure.completed := by
  intro start ops eventsOf ticked timeAfter ran ended
  rcases Scene.runTicks_cases Scene.floatTicking (config.map .float) count scene with
    ⟨after, returns, complete⟩ | ⟨done, fault, middle, after, less, reaches, complete, fails, stops⟩
  · have returned : ran = (.ok (), after) := (Scene.run_natCast ..).trans returns
    have left : ended = after.world := by simp only [ended, returned]
    rw [left, returned]
    exact ⟨complete.height, complete.width, complete.ticks, complete.time, complete.events⟩
  · have stopped : ran = (.error fault, after) := (Scene.run_natCast ..).trans stops
    have left : ended = after.world := by simp only [ended, stopped]
    have reached : scene.continued config done = (.ok (), middle) :=
      (Scene.run_natCast ..).trans reaches
    have next : middle.continued config 1 = (.error fault, after) := by
      rw [Scene.continued, show (1 : Int) = ((1 : Nat) : Int) from rfl, Scene.run_natCast,
        Scene.runTicks, fails]
    rcases Scene.tick_cases Scene.floatTicking (config.map .float) middle with
      ⟨_, succeeds, _⟩ | ⟨failure, cause, _, broke, index, step, broken⟩
    · cases fails.symm.trans succeeds
    · cases fails.symm.trans broke
      rw [left, stopped]
      refine ⟨broken.height.trans complete.height, broken.width.trans complete.width,
        done, failure, _, middle, less, reached, next, rfl, index, step,
        broken.ticks.trans complete.ticks, broken.time.trans complete.time, ?_⟩
      rw [broken.events, complete.events, complete.ticks]
      rfl

end Config

end StepPipeline
