import StepPipeline.Proofs.World.Execution

/-!
Operations one by one and as a pipeline. An operation that fails changes nothing; one that succeeds
leaves one event and touches nothing but its own part of the world, a deposit no more than one cell.
So whatever becomes of a pipeline of operations, the events that it leaves are those of the
operations that are completed. Main results: `World.Effected.of_apply`, `World.operations_isolated`.
-/

set_option autoImplicit false
set_option relaxedAutoImplicit false

namespace StepPipeline

/-! ### Numbers as coordinates -/

def Value.IsNumber : Value → Prop
  | .int _ => True
  | .float _ => True
  | _ => False

def Op.Numeric : Op Value → Prop
  | deposit x y amount => x.IsNumber ∧ y.IsNumber ∧ amount.IsNumber
  | diffuse rate => rate.IsNumber
  | decay halfLife => halfLife.IsNumber
  | _ => True

namespace World

variable {height width : Nat}

theorem partsOf_number {v : Value} {parts : List AxisPart} (number : v.IsNumber)
    (said : partsOf v = .ok parts) : ∃ n, parts = [.line n] := by
  cases v with
  | int n =>
    obtain ⟨part, found, done⟩ := bind_eq_ok_iff.mp said
    cases done
    unfold partOfInt at found
    split at found
    · cases found
      exact ⟨n, rfl⟩
    · split at found <;> cases found
  | float x => cases said
  | _ => cases number

theorem select_numbers {x y : Value} {selection : Selection height width} (column : x.IsNumber)
    (row : y.IsNumber) (selects : select height width x y = .ok selection) :
    ∃ row column, selection = .cell row column := by
  obtain ⟨rowParts, rows, selects⟩ := bind_eq_ok_iff.mp selects
  obtain ⟨columnParts, columns, selects⟩ := bind_eq_ok_iff.mp selects
  obtain ⟨n, rfl⟩ := partsOf_number row rows
  obtain ⟨m, rfl⟩ := partsOf_number column columns
  obtain ⟨row, _, located⟩ := bind_eq_ok_iff.mp selects
  obtain ⟨column, _, done⟩ := bind_eq_ok_iff.mp located
  cases done
  exact ⟨row, column, rfl⟩

/-! ### One operation -/

/--
What an operation in a tick has made of a world: it has left its event, and apart from that only
time has passed, or only the grid is another one, in which a deposit has changed one cell.
-/
structure Effected (tick : Tick Value) (op : Op Value) (before after : World Float) : Prop where
  events : after.events = before.events.push s!"{op.variant}@{tick.index}"
  part : ∃ grid : Grid before.height before.width Float,
    after = { before with grid, time := after.time, ticks := after.ticks, events := after.events } ∧
    (op ≠ .advance → after.time = before.time ∧ after.ticks = before.ticks) ∧
    (op = .advance → grid = before.grid) ∧
    ∀ x y amount, op = .deposit x y amount → ∃ row column, ∀ y x,
      ¬ (y = row ∧ x = column) → grid.get y x = before.grid.get y x

theorem Effected.of_apply {tick : Tick Value} {op : Op Value} {world after : World Float}
    (numeric : op.Numeric) (succeeds : world.apply floating tick op = .ok after) :
    Effected tick op world after := by
  obtain ⟨changed, change, rfl⟩ := Change.of_apply succeeds
  cases change with
  | @cell x y amount added row column =>
    refine ⟨rfl, _, rfl, fun _ => ⟨rfl, rfl⟩, nofun, fun _ _ _ _ => ⟨row, column, ?_⟩⟩
    intro y x other
    rw [Grid.get_set, if_neg other]
  | block selects =>
    obtain ⟨_, _, cell⟩ := select_numbers numeric.1 numeric.2.1 selects
    cases cell
  | diffuse => exact ⟨rfl, _, rfl, fun _ => ⟨rfl, rfl⟩, nofun, nofun⟩
  | decay => exact ⟨rfl, _, rfl, fun _ => ⟨rfl, rfl⟩, nofun, nofun⟩
  | clear => exact ⟨rfl, _, rfl, fun _ => ⟨rfl, rfl⟩, nofun, nofun⟩
  | advance => exact ⟨rfl, world.grid, rfl, fun other => absurd rfl other, fun _ => rfl, nofun⟩

/-! ### Operations as a pipeline -/

/-- A world has got the events of the first of some operations, as many as a number says. -/
structure Recorded (tick : Tick Value) (ops : List (Op Value)) (completed : Nat)
    (before after : World Float) : Prop where
  events : after.events.toList =
    before.events.toList ++ (ops.take completed).map (Op.event tick.index)
  count : after.events.size = before.events.size + completed

theorem Recorded.of_applyAll {tick : Tick Value} {ops rest : List (Op Value)}
    {world after : World Float} (succeed : applyAll floating tick world ops = .ok after) :
    Recorded tick (ops ++ rest) ops.length world after := by
  have followed := Followed.of_applyAll succeed
  constructor
  · rw [List.take_left, followed.events]
  · rw [← Array.length_toList, followed.events, List.length_append, List.length_map,
      Array.length_toList]

/--
An operation that is made with numbers has all of its effect or none, and it touches only its own
part of the world. Operations that are executed as a pipeline leave as many events as steps are
completed, whether the pipeline completes or fails.
-/
theorem operations_isolated (tick : Tick Value) :
    (∀ (op : Op Value) (world : World Float), op.Numeric →
      let performed := (Action.ofOp floating tick op).run world
      match performed.1 with
      | .ok _ => Effected tick op world performed.2
      | .error _ => performed.2 = world) ∧
    ∀ (ops : List (Op Value)) (scene : Scene Float),
      let executed := Scene.execute floating ops tick scene
      match executed.1 with
      | .ok report => report.completed = ops.length ∧
          Recorded tick ops report.completed scene.world executed.2.world
      | .error fault => ∃ failure cause, fault = .because failure cause ∧
          Recorded tick ops failure.completed scene.world executed.2.world := by
  constructor
  · intro op world numeric
    simp only [Action.run_ofOp]
    cases succeeds : world.apply floating tick op with
    | ok after => exact Effected.of_apply numeric succeeds
    | error fault => rfl
  · intro ops scene executed
    rcases applyAll_cases floating tick scene.world ops with
      ⟨after, succeed⟩ | ⟨before, op, rest, reached, fault, rfl, succeed, fails⟩
    · obtain ⟨completes, left⟩ := Scene.execute_of_applyAll succeed
      have recorded : Recorded tick (ops ++ []) ops.length scene.world after :=
        .of_applyAll succeed
      have counted := Report.completed_replicate ops.length
      rw [List.append_nil, ← counted, ← left] at recorded
      simp only [executed, completes]
      exact ⟨counted, recorded⟩
    · obtain ⟨stops, left⟩ := Scene.execute_of_stops rest succeed fails
      have recorded : Recorded tick (before ++ op :: rest) before.length scene.world reached :=
        .of_applyAll succeed
      have counted := Failure.completed_replicate before.length op op.variant before.length
      rw [← counted, ← left] at recorded
      simp only [executed, stops]
      exact ⟨_, _, rfl, recorded⟩

theorem operations_isolated_unhandled :
    let world : World Float := .ofGrid (Grid.fill 0 : Grid 1 2 Float)
    let tick : Tick Value := ⟨"7", .float 1.0⟩
    let deposit : Op Value := .deposit (.int (-1)) (.int 0) (.int 3)
    let performed := (Action.ofOp floating tick deposit).run world
    let executed := Scene.execute floating [deposit, .other "Freeze", .clear] tick { world }
    deposit.Numeric ∧ Effected tick deposit world performed.2 ∧
      executed.2.world.events.size = 1 := by
  intro world tick deposit performed executed
  have numeric : deposit.Numeric := ⟨trivial, trivial, trivial⟩
  obtain ⟨single, several⟩ := operations_isolated tick
  have effect : Effected tick deposit world performed.2 := single deposit world numeric
  have stopped : executed.1 = .error (.because ⟨1, .other "Freeze", "Freeze", [()]⟩
      (.raised (.unhandled "Freeze"))) := rfl
  have ended := several [deposit, .other "Freeze", .clear] { world }
  simp only [executed, stopped] at ended
  obtain ⟨failure, cause, same, recorded⟩ := ended
  cases same
  exact ⟨numeric, effect, recorded.count⟩

end World

end StepPipeline
