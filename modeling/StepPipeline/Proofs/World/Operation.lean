import Mathlib.Logic.Function.Iterate
import StepPipeline.World.Run

/-!
What operations do to a world. Every operation but the passing of time replaces the grid by one of
the same size and leaves the rest alone; the passing of time leaves the grid alone. Each operation
that succeeds leaves one event, and one that fails leaves the world as it was. Main results:
`World.Change.of_apply`, `World.Followed.of_applyAll`, `World.applyAll_cases`.
-/

set_option autoImplicit false
set_option relaxedAutoImplicit false

namespace StepPipeline

variable {ν α : Type}

theorem bind_eq_ok_iff {ε β γ : Type} {first : Except ε β} {next : β → Except ε γ} {result : γ} :
    (first >>= next) = .ok result ↔ ∃ found, first = .ok found ∧ next found = .ok result := by
  cases first with
  | error fault =>
    constructor
    · intro impossible
      cases impossible
    · rintro ⟨found, impossible, _⟩
      cases impossible
  | ok found =>
    constructor
    · intro done
      exact ⟨found, rfl, done⟩
    · rintro ⟨other, same, done⟩
      cases same
      exact done

namespace Op

def passesTime : Op ν → Bool
  | advance => true
  | _ => false

def event (index : String) (op : Op ν) : String :=
  s!"{op.variant}@{index}"

end Op

/-- The time after a tick of some length; time stands still if the length is no duration. -/
def Dynamics.after [Add α] (dynamics : Dynamics ν α) (length : ν) (time : α) : α :=
  match dynamics.duration length with
  | .ok passed => time + passed
  | .error _ => time

namespace World

variable {dynamics : Dynamics ν α} {tick : Tick ν} [Add α]

/--
What a world is after some operations of a tick have succeeded, its grid apart: the grid has its
size, time has passed as often as operations let it, and each operation has left its event.
-/
structure Followed (dynamics : Dynamics ν α) (tick : Tick ν) (ops : List (Op ν))
    (before after : World α) : Prop where
  height : after.height = before.height
  width : after.width = before.width
  ticks : after.ticks = before.ticks + ops.countP Op.passesTime
  time : after.time = (dynamics.after tick.length)^[ops.countP Op.passesTime] before.time
  events : after.events.toList = before.events.toList ++ ops.map (Op.event tick.index)

namespace Followed

theorem refl (world : World α) : Followed dynamics tick [] world world where
  height := rfl
  width := rfl
  ticks := rfl
  time := rfl
  events := (List.append_nil _).symm

theorem trans {first second : List (Op ν)} {before middle after : World α}
    (h : Followed dynamics tick first before middle)
    (h' : Followed dynamics tick second middle after) :
    Followed dynamics tick (first ++ second) before after where
  height := h'.height.trans h.height
  width := h'.width.trans h.width
  ticks := by rw [h'.ticks, h.ticks, List.countP_append, Nat.add_assoc]
  time := by
    rw [h'.time, h.time, List.countP_append, Nat.add_comm, Function.iterate_add_apply]
  events := by rw [h'.events, h.events, List.map_append, List.append_assoc]

end Followed

variable [Sub α] [Mul α] [OfNat α 4] [OfNat α 0]

/-! ### One operation -/

/-- What an operation makes of a world where it succeeds, and what it takes for that. -/
inductive Change (dynamics : Dynamics ν α) (length : ν) (world : World α) : Op ν → World α → Prop
  | cell {x y : Value} {amount : ν} {added : α} {row : Fin world.height}
      {column : Fin world.width} :
      select world.height world.width x y = .ok (.cell row column) →
      dynamics.amount amount = .ok added →
      Change dynamics length world (.deposit x y amount)
        { world with grid := world.grid.set row column (world.grid.get row column + added) }
  | block {x y : Value} {amount : ν} {extents : Extents} {added : List α}
      {places : List (Fin world.height × Fin world.width)} :
      select world.height world.width x y = .ok (.block extents places) →
      dynamics.amounts extents amount = .ok added →
      Change dynamics length world (.deposit x y amount)
        { world with grid := world.grid.added places added }
  | diffuse {rate : ν} {number : α} (tall : 0 < world.height) (wide : 0 < world.width) :
      dynamics.diffusionNumber rate length = .ok number →
      Change dynamics length world (.diffuse rate)
        { world with grid := world.grid.diffused tall wide number }
  | decay {halfLife : ν} {part : α} :
      dynamics.remainder length halfLife = .ok part →
      Change dynamics length world (.decay halfLife)
        { world with grid := world.grid.map fun v => v * part }
  | clear : Change dynamics length world .clear { world with grid := Grid.fill 0 }
  | advance {passed : α} :
      dynamics.duration length = .ok passed →
      Change dynamics length world .advance
        { world with time := world.time + passed, ticks := world.ticks + 1 }

theorem Change.of_changed {length : ν} {world after : World α} {op : Op ν}
    (succeeds : changed dynamics length world op = .ok after) :
    Change dynamics length world op after := by
  cases op with
  | deposit x y amount =>
    obtain ⟨selection, selects, grows⟩ := bind_eq_ok_iff.mp succeeds
    obtain ⟨grid, grown, done⟩ := bind_eq_ok_iff.mp grows
    cases done
    cases selection with
    | cell row column =>
      obtain ⟨added, accepted, done⟩ := bind_eq_ok_iff.mp grown
      cases done
      exact .cell selects accepted
    | block extents places =>
      obtain ⟨added, accepted, done⟩ := bind_eq_ok_iff.mp grown
      cases done
      exact .block selects accepted
  | diffuse rate =>
    obtain ⟨number, accepted, spreads⟩ := bind_eq_ok_iff.mp succeeds
    obtain ⟨grid, spread, done⟩ := bind_eq_ok_iff.mp spreads
    cases done
    unfold Grid.diffused? at spread
    split at spread
    · next tall =>
      split at spread
      · next wide =>
        cases spread
        exact .diffuse tall wide accepted
      · cases spread
    · cases spread
  | decay halfLife =>
    obtain ⟨part, accepted, done⟩ := bind_eq_ok_iff.mp succeeds
    cases done
    exact .decay accepted
  | clear =>
    cases succeeds
    exact .clear
  | advance =>
    obtain ⟨passed, accepted, done⟩ := bind_eq_ok_iff.mp succeeds
    cases done
    exact .advance accepted
  | other variant => cases succeeds

/-- An operation that succeeds replaces the grid by one of the same size, or lets time pass. -/
theorem changed_cases {length : ν} {world after : World α} {op : Op ν}
    (succeeds : changed dynamics length world op = .ok after) :
    (op.passesTime = false ∧ ∃ grid, after = { world with grid }) ∨
      (op.passesTime = true ∧ ∃ passed, dynamics.duration length = .ok passed ∧
        after = { world with time := world.time + passed, ticks := world.ticks + 1 }) := by
  cases Change.of_changed succeeds with
  | cell => exact .inl ⟨rfl, _, rfl⟩
  | block => exact .inl ⟨rfl, _, rfl⟩
  | diffuse => exact .inl ⟨rfl, _, rfl⟩
  | decay => exact .inl ⟨rfl, _, rfl⟩
  | clear => exact .inl ⟨rfl, _, rfl⟩
  | advance lasts => exact .inr ⟨rfl, _, lasts, rfl⟩

theorem Change.of_apply {world after : World α} {op : Op ν}
    (succeeds : world.apply dynamics tick op = .ok after) :
    ∃ changed, Change dynamics tick.length world op changed ∧
      after = changed.record op.variant tick.index := by
  obtain ⟨changed, changes, done⟩ := bind_eq_ok_iff.mp succeeds
  cases done
  exact ⟨changed, .of_changed changes, rfl⟩

/-! ### Operations one after the other -/

/-- Some operations one after the other, as long as they succeed. -/
def applyAll (dynamics : Dynamics ν α) (tick : Tick ν) (world : World α) (ops : List (Op ν)) :
    Except WorldFault (World α) :=
  ops.foldlM (fun world op => world.apply dynamics tick op) world

theorem applyAll_cons {world : World α} {op : Op ν} {rest : List (Op ν)} :
    applyAll dynamics tick world (op :: rest) =
      world.apply dynamics tick op >>= fun world => applyAll dynamics tick world rest := rfl

theorem applyAll_append {world : World α} {first second : List (Op ν)} :
    applyAll dynamics tick world (first ++ second) =
      applyAll dynamics tick world first >>= fun world => applyAll dynamics tick world second :=
  List.foldlM_append

theorem applyAll_append_of_ok {world reached : World α} {first : List (Op ν)}
    (succeed : applyAll dynamics tick world first = .ok reached) (second : List (Op ν)) :
    applyAll dynamics tick world (first ++ second) = applyAll dynamics tick reached second := by
  rw [applyAll_append, succeed]
  rfl

/-- Either all operations succeed, or one of them is the first to fail. -/
theorem applyAll_cases (dynamics : Dynamics ν α) (tick : Tick ν) (world : World α)
    (ops : List (Op ν)) :
    (∃ after, applyAll dynamics tick world ops = .ok after) ∨
      ∃ before op rest reached fault, ops = before ++ op :: rest ∧
        applyAll dynamics tick world before = .ok reached ∧
        reached.apply dynamics tick op = .error fault := by
  induction ops generalizing world with
  | nil => exact .inl ⟨world, rfl⟩
  | cons op rest ih =>
    cases applied : world.apply dynamics tick op with
    | error fault => exact .inr ⟨[], op, rest, world, fault, rfl, rfl, applied⟩
    | ok next =>
      have goes_on (ops : List (Op ν)) :
          applyAll dynamics tick world (op :: ops) = applyAll dynamics tick next ops := by
        rw [applyAll_cons, applied]
        rfl
      rcases ih next with ⟨after, succeed⟩ | ⟨before, failing, others, reached, fault, split, h⟩
      · exact .inl ⟨after, by rw [goes_on, succeed]⟩
      · refine .inr ⟨op :: before, failing, others, reached, fault, ?_, ?_, h.2⟩
        · rw [split, List.cons_append]
        · rw [goes_on, h.1]

theorem apply_of_applyAll {ops : List (Op ν)} {op : Op ν} {world after : World α}
    (succeed : applyAll dynamics tick world ops = .ok after) (member : op ∈ ops) :
    ∃ reached next : World α, reached.apply dynamics tick op = .ok next := by
  induction ops generalizing world with
  | nil => cases member
  | cons first rest ih =>
    rw [applyAll_cons] at succeed
    obtain ⟨next, applied, others⟩ := bind_eq_ok_iff.mp succeed
    rcases List.mem_cons.mp member with rfl | later
    · exact ⟨world, next, applied⟩
    · exact ih others later

namespace Followed

theorem of_apply {op : Op ν} {world after : World α}
    (succeeds : world.apply dynamics tick op = .ok after) :
    Followed dynamics tick [op] world after := by
  obtain ⟨changed, effect, done⟩ := bind_eq_ok_iff.mp succeeds
  cases done
  rcases changed_cases effect with ⟨still, grid, rfl⟩ | ⟨moves, passed, lasts, rfl⟩
  · exact ⟨rfl, rfl, by simp [record, still], by simp [record, still],
      by simp [record, Op.event]⟩
  · exact ⟨rfl, rfl, by simp [record, moves], by simp [record, moves, Dynamics.after, lasts],
      by simp [record, Op.event]⟩

theorem of_applyAll {ops : List (Op ν)} {world after : World α}
    (succeed : applyAll dynamics tick world ops = .ok after) :
    Followed dynamics tick ops world after := by
  induction ops generalizing world with
  | nil =>
    cases succeed
    exact refl after
  | cons op rest ih =>
    rw [applyAll_cons] at succeed
    obtain ⟨next, applied, others⟩ := bind_eq_ok_iff.mp succeed
    exact (of_apply applied).trans (ih others)

end Followed

end World

end StepPipeline
