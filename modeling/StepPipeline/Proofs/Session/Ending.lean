import StepPipeline.Proofs.Session.Once
import StepPipeline.Session.Work

/-!
Re-entrant sessions end. Steps may execute any pipelines, in any cycle, and make new ones of the
steps they carry. Every step that starts uses up a position of a pipeline, and what it then makes
takes no more positions than it carries; so the positions of a session bound the number of steps
that start in it and the depth of its nested runs, whatever would happen further down. Main result:
`Conduct.reentrancy_ends`.
-/

set_option autoImplicit false
set_option relaxedAutoImplicit false

namespace StepPipeline

variable {ι κ ρ ε σ : Type}

/-- Loops of two engines agree if their steps do wherever an invariant holds that every step which
returns keeps. -/
theorem Engine.runFrom_congr [Cause ε] (engine other : Engine ι κ ρ ε σ)
    (same_label : other.label = engine.label) (same_note : other.note = engine.note)
    {contexts : List κ} {taken : List ι → σ → σ} (invariant : List ι → σ → Prop)
    (agree : ∀ item rest index state, invariant (item :: rest) state →
      let started := engine.note (.running index (engine.label item)) (taken rest state)
      other.perform contexts item started = engine.perform contexts item started ∧
        invariant rest (engine.perform contexts item started).2)
    (ending : Option (Fault ι ρ ε)) (remaining : List ι) (done : List ρ) (state : σ)
    (holds : invariant remaining state) :
    other.runFrom contexts taken ending remaining done state =
      engine.runFrom contexts taken ending remaining done state := by
  induction remaining generalizing done state with
  | nil => rfl
  | cons item rest ih =>
    obtain ⟨same, keeps⟩ := agree item rest done.length state holds
    simp only [runFrom, same_label, same_note, same]
    split
    · rename_i result after performed
      rw [performed] at keeps
      exact ih (done ++ [result]) after keeps
    · rfl

namespace Session

open Session.Language (SessionFault SessionEngine)

variable {π ω : Type}

/-! ### Positions -/

/-- The number of positions of all pipelines, those of the steps that steps carry included. -/
def State.positions (state : State π ω) : Nat :=
  state.pipelines.foldr (fun pipeline total => Step.positionsOf pipeline.steps + total) 0

theorem Step.positions_pos (step : Step π) : 0 < step.positions := by
  cases step with
  | own | reenter => exact Nat.one_pos
  | nest steps => exact Nat.lt_of_lt_of_le Nat.one_pos (Nat.le_add_right 1 _)

private theorem foldr_add_set {ι : Type} (weight : ι → Nat) {items : List ι} {index : Nat}
    {item : ι} (other : ι) (here : items[index]? = some item) :
    (items.set index other).foldr (fun item total => weight item + total) 0 + weight item =
      items.foldr (fun item total => weight item + total) 0 + weight other := by
  induction items generalizing index with
  | nil => cases here
  | cons first rest ih =>
    cases index with
    | zero =>
      obtain rfl := Option.some.inj here
      simp only [List.set_cons_zero, List.foldr_cons]
      omega
    | succ index =>
      have further := ih here
      simp only [List.set_cons_succ, List.foldr_cons]
      omega

namespace State

variable {state : State π ω}

theorem positions_congr {other : State π ω} (same : other.pipelines = state.pipelines) :
    other.positions = state.positions := by
  simp only [positions, same]

theorem positions_put {address : Nat} {held : Pipeline (Step π)} (pipeline : Pipeline (Step π))
    (here : state.pipelines[address]? = some held) :
    ((State.place address).put pipeline state).positions + Step.positionsOf held.steps =
      state.positions + Step.positionsOf pipeline.steps :=
  foldr_add_set (fun held : Pipeline (Step π) => Step.positionsOf held.steps) pipeline here

theorem positions_put_steps {address : Nat} {held : Pipeline (Step π)}
    (here : state.pipelines[address]? = some held) :
    ((State.place address).put (held.spent held.steps) state).positions = state.positions := by
  have put := positions_put (held.spent held.steps) here
  exact Nat.add_right_cancel put

theorem positions_put_nil_le (state : State π ω) (address : Nat) (pipeline : Pipeline (Step π)) :
    ((State.place address).put (pipeline.spent []) state).positions ≤ state.positions := by
  cases here : state.pipelines[address]? with
  | none =>
    have beyond : state.pipelines.length ≤ address := List.getElem?_eq_none_iff.mp here
    simp only [positions, State.place, List.set_eq_of_length_le beyond, Nat.le_refl]
  | some held =>
    have put := positions_put (pipeline.spent []) here
    simp only [Pipeline.spent, Step.positionsOf] at put ⊢
    omega

theorem positions_allocate (state : State π ω) (pipeline : Pipeline (Step π)) :
    (state.allocate pipeline).positions = state.positions + Step.positionsOf pipeline.steps := by
  simp only [positions, allocate]
  induction state.pipelines with
  | nil => simp
  | cons first rest ih =>
    simp only [List.cons_append, List.foldr_cons, ih]
    omega

end State

def Event.isStart : Event π → Bool
  | started .. => true
  | _ => false

def invocations (moments : List (Moment π ω)) : Nat :=
  moments.countP fun moment => moment.event.isStart

theorem invocations_append (first second : List (Moment π ω)) :
    invocations (first ++ second) = invocations first + invocations second :=
  List.countP_append

/-- A step that starts and stops counts once, with what starts within it and after it. -/
theorem invocations_step (address index : Nat) (step : Step π) (started stopped : State π ω)
    (within further : List (Moment π ω)) :
    invocations (⟨.started address index step, started⟩ ::
      (within ++ ⟨.stopped address index, stopped⟩ :: further)) =
        invocations within + 1 + invocations further := by
  simp only [invocations, List.countP_cons, List.countP_append, Event.isStart, Bool.false_eq_true,
    if_true, if_false]
  omega

/-- Every step that starts in a row of moments uses up a position; an allowance is what may be made
besides. -/
def Spends (allowance : Nat) (moments : List (Moment π ω)) (before after : State π ω) : Prop :=
  invocations moments + after.positions ≤ before.positions + allowance

theorem Spends.trans {allowance further : Nat} {first second : List (Moment π ω)}
    {before middle after : State π ω} (h : Spends allowance first before middle)
    (h' : Spends further second middle after) :
    Spends (allowance + further) (first ++ second) before after := by
  unfold Spends at *
  rw [invocations_append]
  omega

/-! ### Scripts that make no more than they may -/

/-- A script makes pipelines of so many positions at most, whatever comes of its work and its
calls. -/
inductive Script.Makes : (allowance : Nat) → Script π ω ρ ε → Prop
  | ended {allowance : Nat} (outcome : Except (SessionFault π ρ ε) ρ) :
      Makes allowance (.ended outcome)
  | work {allowance : Nat} {store : State π ω → ω} {next : State π ω → Script π ω ρ ε} :
      (∀ state, Makes allowance (next state)) → Makes allowance (.work store next)
  | make {left : Nat} {pipeline : Pipeline (Step π)} {next : Nat → Script π ω ρ ε} :
      (∀ address, Makes left (next address)) →
      Makes (Step.positionsOf pipeline.steps + left) (.make pipeline next)
  | call {allowance address : Nat} {contexts : List String}
      {next : Except (SessionFault π ρ ε) (Report ρ) → Script π ω ρ ε} :
      (∀ outcome, Makes allowance (next outcome)) →
      Makes allowance (.call address contexts next)

namespace Script.Makes

variable {calls : Calls π ω ρ ε} {allowance : Nat} {script : Script π ω ρ ε}

theorem spends (makes : script.Makes allowance) {within : CallMoments π ω}
    (nested : ∀ other contexts state,
      Spends 0 (within other contexts state) state (calls other contexts state).2)
    (state : State π ω) :
    Spends allowance (script.moments calls within state) state (script.run calls state).2 := by
  induction makes generalizing state with
  | ended => simp [Spends, Script.moments, Script.run, invocations]
  | @work allowance store next _ ih =>
    have worked : Spends 0 [⟨.worked, { state with store := store state }⟩] state
        { state with store := store state } := Nat.le_of_eq (Nat.zero_add _)
    rw [← Nat.zero_add allowance]
    exact worked.trans (ih state _)
  | @make left pipeline next _ ih =>
    have made : Spends (Step.positionsOf pipeline.steps)
        [⟨.worked, state.allocate pipeline⟩] state (state.allocate pipeline) := by
      simp [Spends, invocations, Event.isStart, State.positions_allocate]
    exact made.trans (ih _ _)
  | @call allowance address contexts next _ ih =>
    rw [← Nat.zero_add allowance]
    exact (nested address contexts state).trans (ih _ _)

/-- A script does the same with calls that agree as long as there are few positions. -/
theorem run_congr (makes : script.Makes allowance) {other : Calls π ω ρ ε} {bound : Nat}
    (no_more : ∀ address contexts state,
      (calls address contexts state).2.positions ≤ state.positions)
    (agree : ∀ address contexts state, state.positions < bound →
      other address contexts state = calls address contexts state)
    {state : State π ω} (below : state.positions + allowance < bound) :
    script.run other state = script.run calls state := by
  induction makes generalizing state with
  | ended => rfl
  | work _ ih => exact ih _ below
  | make _ ih =>
    refine ih _ ?_
    rw [State.positions_allocate]
    omega
  | @call allowance address contexts next _ ih =>
    have same := agree address contexts state (by omega)
    have fewer := no_more address contexts state
    simp only [Script.run, same]
    exact ih _ (by omega)

end Script.Makes

/-- No step of a conduct makes more than it carries. -/
def Conduct.Frugal (conduct : Conduct π ω ρ ε) : Prop :=
  ∀ contexts step, (conduct.script contexts step).Makes (step.positions - 1)

theorem Language.conduct_frugal (language : Language π ω ρ ε) : language.conduct.Frugal := by
  intro contexts step
  change (language.script contexts step).Makes (step.positions - 1)
  unfold Language.script
  cases language.uncallable? contexts.length step with
  | some error => exact .ended _
  | none =>
    cases step with
    | own work => exact .work fun _ => .ended _
    | nest steps =>
      cases made : (Pipeline.ofSource language.facts ⟨steps, none⟩ none :
        Except (SessionFault π ρ ε) (Pipeline (Step π))) with
      | error fault =>
        simp only [made]
        exact .ended _
      | ok pipeline =>
        have holds : pipeline.steps = steps := (Pipeline.ofSource_holds made).1
        have carried : (Step.nest steps).positions - 1 = Step.positionsOf pipeline.steps + 0 := by
          rw [holds, Step.positions, Nat.add_sub_cancel_left, Nat.add_zero]
        simp only [made, carried]
        exact .make fun _ => .call fun _ => .ended _
    | reenter name =>
      refine .work fun state => ?_
      cases state.address? name with
      | none => exact .ended _
      | some address => exact .call fun _ => .ended _

/-! ### Runs that use up their positions -/

namespace Conduct.Frugal

variable [Cause ε] {conduct : Conduct π ω ρ ε} {depth : Nat}

section Nested

variable (frugal : conduct.Frugal)
  (nested : ∀ other contexts state,
    Spends 0 (conduct.moments depth other contexts state) state
      (conduct.calls depth other contexts state).2)

include frugal nested

theorem own_step {address : Nat} {original : Pipeline (Step π)} {step : Step π}
    {rest : List (Step π)} {state : State π ω}
    (held : state.pipelines[address]? = some (original.spent (step :: rest)))
    (contexts : List String) (index : Nat) :
    let started := ((State.place address).put (original.spent rest) state).note
      (.running index (conduct.label step))
    let performed := (conduct.script contexts step).run (conduct.calls depth) started
    started.positions + step.positions = state.positions ∧
      invocations (conduct.within depth contexts step started) + 1 + performed.2.positions ≤
        state.positions ∧
      performed.2.pipelines[address]? = some (original.spent rest) := by
  intro started performed
  have taken : started.pipelines[address]? = some (original.spent rest) :=
    put_place_same _ held
  have uses : started.positions + step.positions = state.positions := by
    have put : started.positions + Step.positionsOf (step :: rest) =
        state.positions + Step.positionsOf rest := State.positions_put (original.spent rest) held
    rw [Step.positionsOf] at put
    omega
  have spends : Spends (step.positions - 1) (conduct.within depth contexts step started) started
      performed.2 := (frugal contexts step).spends nested started
  have positive := step.positions_pos
  refine ⟨uses, ?_, (conduct.step_alone depth taken contexts step).1⟩
  unfold Spends at spends
  omega

theorem loop_spends {address : Nat} {original : Pipeline (Step π)} (contexts : List String)
    (remaining : List (Step π)) (done : List ρ) (state : State π ω)
    (held : state.pipelines[address]? = some (original.spent remaining)) :
    let engine := conduct.engineWith (conduct.calls depth)
    let taken (rest : List (Step π)) := (State.place address).put (original.spent rest)
    Spends 0 (loopMoments engine (conduct.within depth) address contexts taken remaining done state)
      state (engine.runFrom contexts taken none remaining done state).2 := by
  intro engine taken
  induction remaining generalizing done state with
  | nil => simp [Spends, loopMoments, Engine.runFrom, invocations]
  | cons step rest ih =>
    obtain ⟨_, spends, kept⟩ := frugal.own_step nested held contexts done.length
    set started := engine.note (.running done.length (engine.label step)) (taken rest state)
      with started_def
    change invocations (conduct.within depth contexts step started) + 1 +
      (engine.perform contexts step started).2.positions ≤ state.positions at spends
    change (engine.perform contexts step started).2.pipelines[address]? = _ at kept
    rcases outcome : engine.perform contexts step started with ⟨fault | result, left⟩
    · rw [outcome] at spends
      have ended : (engine.runFrom contexts taken none (step :: rest) done state).2.positions =
          left.positions :=
        State.positions_congr (pipelines_runFrom_error (conduct.noted _) outcome)
      simp only [Spends, loopMoments, ← started_def, outcome, invocations_step, ended]
      exact spends
    · rw [outcome] at spends kept
      have further := ih (done ++ [result]) left kept
      simp only [Spends, loopMoments, Engine.runFrom, ← started_def, outcome, invocations_step]
        at spends further ⊢
      omega

theorem execution_spends (other : Nat) (contexts : List String) (state : State π ω) :
    Spends 0 (conduct.moments (depth + 1) other contexts state) state
      (conduct.calls (depth + 1) other contexts state).2 := by
  rcases admitted : (((State.place other).get state).refusal? contexts.length :
    Option (SessionFault π ρ ε)) with _ | fault
  · obtain ⟨held, here, _, admitted⟩ := State.held_of_admitted admitted
    obtain ⟨_, same_pipelines, same_moments⟩ :=
      execute_of_admitted (conduct.within depth) (conduct.noted (conduct.calls depth))
        (get_place here) admitted
    set engine := conduct.engineWith (conduct.calls depth)
    set taken := fun rest => (State.place other).put (held.spent rest)
    set begun := engine.note (.executing held.steps.length contexts.length)
      (taken held.steps state)
    have opened : begun.positions = state.positions := State.positions_put_steps here
    have loops : Spends 0
        (loopMoments engine (conduct.within depth) other contexts taken held.steps [] begun) begun
        (engine.runFrom contexts taken none held.steps [] begun).2 :=
      frugal.loop_spends nested contexts held.steps [] begun
        (put_place_same (held.spent held.steps) here)
    have closed : (conduct.calls (depth + 1) other contexts state).2.positions ≤
        (engine.runFrom contexts taken none held.steps [] begun).2.positions :=
      Nat.le_trans (Nat.le_of_eq (State.positions_congr same_pipelines))
        (State.positions_put_nil_le _ other held)
    have counted : invocations (conduct.moments (depth + 1) other contexts state) =
        invocations (loopMoments engine (conduct.within depth) other contexts taken held.steps []
          begun) := by
      refine (congrArg invocations same_moments).trans ?_
      simp [invocations, Event.isStart]
    unfold Spends at loops ⊢
    omega
  · simp [Spends, Conduct.moments, Conduct.calls, executionMoments, Pipeline.execute, admitted,
      invocations, Event.isStart]

end Nested

theorem calls_spend (frugal : conduct.Frugal) (depth other : Nat) (contexts : List String)
    (state : State π ω) :
    Spends 0 (conduct.moments depth other contexts state) state
      (conduct.calls depth other contexts state).2 := by
  induction depth generalizing other contexts state with
  | zero => exact Nat.le_of_eq (Nat.zero_add _)
  | succ depth ih => exact frugal.execution_spends ih other contexts state

theorem positions_calls_le (frugal : conduct.Frugal) (depth other : Nat) (contexts : List String)
    (state : State π ω) :
    (conduct.calls depth other contexts state).2.positions ≤ state.positions :=
  Nat.le_trans (Nat.le_add_left _ _) (frugal.calls_spend depth other contexts state)

end Conduct.Frugal

/-! ### Depths that are not reached -/

/-- Executes pipelines whose steps execute others; what happens to those below the given depth is
given. -/
def Conduct.callsOver [Cause ε] (conduct : Conduct π ω ρ ε) (beyond : Calls π ω ρ ε) :
    (depth : Nat) → Calls π ω ρ ε
  | 0 => beyond
  | depth + 1 => fun address =>
    Pipeline.execute (conduct.engineWith (conduct.callsOver beyond depth)) (State.place address)

namespace Conduct.Frugal

variable [Cause ε] {conduct : Conduct π ω ρ ε}

theorem loop_congr (frugal : conduct.Frugal) {depth bound : Nat} {other : Calls π ω ρ ε}
    (agree : ∀ address contexts (there : State π ω), there.positions < bound →
      other address contexts there = conduct.calls depth address contexts there)
    {address : Nat} {original : Pipeline (Step π)} (contexts : List String)
    (remaining : List (Step π)) (state : State π ω)
    (held : state.pipelines[address]? = some (original.spent remaining))
    (below : state.positions ≤ bound) :
    let engine := conduct.engineWith (conduct.calls depth)
    let taken (rest : List (Step π)) := (State.place address).put (original.spent rest)
    (conduct.engineWith other).runFrom contexts taken none remaining [] state =
      engine.runFrom contexts taken none remaining [] state := by
  intro engine taken
  let invariant (remaining : List (Step π)) (there : State π ω) : Prop :=
    there.pipelines[address]? = some (original.spent remaining) ∧ there.positions ≤ bound
  refine Engine.runFrom_congr engine (conduct.engineWith other) rfl rfl invariant ?_ none remaining
    [] state ⟨held, below⟩
  intro step rest index there ⟨held, below⟩ started
  obtain ⟨uses, spends, kept⟩ := frugal.own_step (frugal.calls_spend depth) held contexts index
  have positive := step.positions_pos
  have few : started.positions + (step.positions - 1) < bound := by
    change started.positions + step.positions = there.positions at uses
    omega
  refine ⟨(frugal contexts step).run_congr (frugal.positions_calls_le depth) agree few, kept, ?_⟩
  exact Nat.le_trans (Nat.le_trans (Nat.le_add_left _ _) spends) below

theorem execute_congr (frugal : conduct.Frugal) {depth : Nat} {other : Calls π ω ρ ε}
    {address : Nat} {contexts : List String} {state : State π ω}
    (agree : ∀ address contexts (there : State π ω), there.positions < state.positions →
      other address contexts there = conduct.calls depth address contexts there) :
    Pipeline.execute (conduct.engineWith other) (State.place address) contexts state =
      conduct.calls (depth + 1) address contexts state := by
  rcases admitted : (((State.place address).get state).refusal? contexts.length :
    Option (SessionFault π ρ ε)) with _ | fault
  · obtain ⟨held, here, _, admitted⟩ := State.held_of_admitted admitted
    set begun := ((State.place address).put (held.spent held.steps) state).note
      (.executing held.steps.length contexts.length)
    have opened : begun.positions = state.positions := State.positions_put_steps here
    have loops := frugal.loop_congr agree contexts held.steps begun
      (put_place_same (held.spent held.steps) here) (Nat.le_of_eq opened)
    have begins (calls : Calls π ω ρ ε) : (conduct.engineWith calls).note
        (.executing held.steps.length contexts.length)
        ((State.place address).put (held.spent held.steps) state) = begun := rfl
    simp only [Conduct.calls, Pipeline.execute, get_place here, admitted, Engine.run, begins, loops]
    rfl
  · simp only [Conduct.calls, Pipeline.execute, admitted]

/-- Executions that may nest more deeply than there are positions agree, whatever would happen
further down. -/
theorem callsOver_eq (frugal : conduct.Frugal) (beyond : Calls π ω ρ ε) {depth further : Nat}
    {address : Nat} {contexts : List String} {state : State π ω} (enough : state.positions < depth)
    (enough' : state.positions < further) :
    conduct.callsOver beyond depth address contexts state =
      conduct.calls further address contexts state := by
  induction depth generalizing further address contexts state with
  | zero => cases enough
  | succ depth ih =>
    cases further with
    | zero => cases enough'
    | succ further =>
      refine frugal.execute_congr fun address contexts there fewer => ?_
      exact ih (by omega) (by omega)

end Conduct.Frugal

theorem State.positions_le_budget (state : State π ω) : state.positions ≤ state.budget := by
  unfold State.positions State.budget
  induction state.pipelines with
  | nil => exact Nat.le_refl 0
  | cons pipeline rest ih =>
    simp only [List.foldr_cons]
    omega

/-! ### The main result -/

variable [Cause ε]

/--
A session ends, whichever pipelines its steps execute. The main script and all that it calls do the
same at every depth beyond the number of positions, those of what the script makes included, and
whatever would happen below that depth: no run ever gets there. In a language the depth that is
allowed for is enough. The steps of each pipeline start in order from the first one on, each at most
once, and no more steps start in the session than there are positions.
-/
theorem Conduct.reentrancy_ends (conduct : Conduct π ω ρ ε) (frugal : conduct.Frugal)
    (main : Script π ω ρ ε) {allowance : Nat} (makes : main.Makes allowance) (state : State π ω) :
    let total := state.positions + allowance
    (∀ (beyond : Calls π ω ρ ε) depth, total < depth →
      main.run (conduct.callsOver beyond depth) state =
        main.run (conduct.calls (total + 1)) state) ∧
    (∀ language : Language π ω ρ ε, language.conduct = conduct →
      ∀ (beyond : Calls π ω ρ ε) depth address contexts, state.positions < depth →
        language.execute address contexts state =
          conduct.callsOver beyond depth address contexts state) ∧
    ∀ depth,
      let life := main.moments (conduct.calls depth) (conduct.moments depth) state
      (∀ address, ∃ count, (starts address life).map Prod.snd = List.range count) ∧
        invocations life ≤ total := by
  intro total
  refine ⟨?_, ?_, ?_⟩
  · intro beyond depth enough
    refine makes.run_congr (frugal.positions_calls_le (total + 1)) ?_ (Nat.lt_succ_self total)
    intro address contexts there few
    exact frugal.callsOver_eq beyond (by omega) few
  · rintro language rfl beyond depth address contexts enough
    rw [language.execute_eq_calls, frugal.callsOver_eq beyond enough]
    exact Nat.lt_succ_of_le state.positions_le_budget
  · intro depth life
    refine ⟨fun address => (conduct.script_once address depth main state).starts_eq_range, ?_⟩
    exact Nat.le_trans (Nat.le_add_right _ _) (makes.spends (frugal.calls_spend depth) state)

/-- Two pipelines that execute each other, one of which carries a step as well. -/
private def eachOther : State Operation Store where
  pipelines :=
    [⟨[.own (.push (.int 1)), .reenter "q"], some .single, false⟩,
      ⟨[.own (.push (.int 2)), .nest [.own (.push (.int 3))], .reenter "p"], some .single, false⟩]
  names := [("p", 0), ("q", 1)]
  store := { contexts := [("a", .held (.list 0))], lists := [[]] }

private def bothCalled : Script Operation Store Value Thrown :=
  .call 0 ["a"] fun _ => .call 1 ["a"] fun _ => .ended (.ok .none)

private theorem bothCalled_makes : bothCalled.Makes 0 :=
  .call fun _ => .call fun _ => .ended _

theorem Conduct.reentrancy_ends_eachOther :
    operations.conduct.Frugal ∧ bothCalled.Makes 0 ∧ eachOther.positions = 6 ∧
      (∀ (beyond : Calls Operation Store Value Thrown) depth, 6 < depth →
        bothCalled.run (operations.conduct.callsOver beyond depth) eachOther =
          bothCalled.run (operations.conduct.calls 7) eachOther) ∧
      let life := bothCalled.moments (operations.conduct.calls 7) (operations.conduct.moments 7)
        eachOther
      invocations life ≤ 6 ∧ invocations life = 6 ∧
        (starts 1 life).map Prod.snd = [0, 1, 2] := by
  have frugal := operations.conduct_frugal
  obtain ⟨ends, _, spends⟩ :=
    Conduct.reentrancy_ends operations.conduct frugal bothCalled bothCalled_makes eachOther
  exact ⟨frugal, bothCalled_makes, rfl, ends, (spends 7).2, rfl, rfl⟩

end Session

end StepPipeline
