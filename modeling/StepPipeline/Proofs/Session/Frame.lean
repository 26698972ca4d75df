import StepPipeline.Proofs.Session.Life
import StepPipeline.Session.Shelf

/-!
What runs leave alone and what they do not look at. A run changes the store by the work of its steps
only, so the store stays as it is if all that work leaves it so. And if no step looks at the objects
on the shelf of a session, runs go on in the same way whatever these are. Main results:
`Conduct.store_kept` and `Conduct.calls_blind`.
-/

set_option autoImplicit false
set_option relaxedAutoImplicit false

namespace StepPipeline.Session

open Session.Language (SessionFault SessionEngine)

variable {π ω ρ ε : Type}

/-! ### Work on the store -/

/-- All work in some moments leaves the store so. -/
def WorkLeaves (kept : ω → Prop) (moments : List (Moment π ω)) : Prop :=
  ∀ moment ∈ moments, moment.event = .worked → kept moment.state.store

section Work

variable {kept : ω → Prop}

theorem workLeaves_append {first second : List (Moment π ω)} :
    WorkLeaves kept (first ++ second) ↔ WorkLeaves kept first ∧ WorkLeaves kept second :=
  List.forall_mem_append

theorem workLeaves_cons {moment : Moment π ω} {rest : List (Moment π ω)} :
    WorkLeaves kept (moment :: rest) ↔
      (moment.event = .worked → kept moment.state.store) ∧ WorkLeaves kept rest :=
  List.forall_mem_cons

theorem Script.store_kept {calls : Calls π ω ρ ε} {within : CallMoments π ω}
    (nested : ∀ address contexts (state : State π ω), kept state.store →
      WorkLeaves kept (within address contexts state) →
      kept (calls address contexts state).2.store)
    (script : Script π ω ρ ε) (state : State π ω) (before : kept state.store)
    (works : WorkLeaves kept (script.moments calls within state)) :
    kept (script.run calls state).2.store := by
  induction script generalizing state with
  | ended outcome => exact before
  | work store next ih =>
    obtain ⟨worked, rest⟩ := workLeaves_cons.mp works
    exact ih state _ (worked rfl) rest
  | make pipeline next ih =>
    obtain ⟨_, rest⟩ := workLeaves_cons.mp works
    exact ih _ _ before rest
  | call address contexts next ih =>
    obtain ⟨inside, rest⟩ := workLeaves_append.mp works
    exact ih _ _ (nested address contexts state before inside) rest

variable [Cause ε]

private theorem loop_store_kept {engine : SessionEngine π ω ρ ε}
    {within : List String → Step π → State π ω → List (Moment π ω)}
    (noted : ∀ record state, (engine.note record state).store = state.store)
    (steps : ∀ contexts step (state : State π ω), kept state.store →
      WorkLeaves kept (within contexts step state) →
      kept (engine.perform contexts step state).2.store)
    {address : Nat} {contexts : List String} {taken : List (Step π) → State π ω → State π ω}
    (takes : ∀ rest state, (taken rest state).store = state.store) (remaining : List (Step π))
    (done : List ρ) (state : State π ω) (before : kept state.store)
    (works : WorkLeaves kept
      (loopMoments engine within address contexts taken remaining done state)) :
    kept (engine.runFrom contexts taken none remaining done state).2.store := by
  induction remaining generalizing done state with
  | nil => exact before
  | cons step rest ih =>
    set started := engine.note (.running done.length (engine.label step)) (taken rest state)
      with started_def
    have there : kept started.store := by
      rw [started_def, noted, takes]
      exact before
    simp only [loopMoments, ← started_def, workLeaves_cons, workLeaves_append] at works
    obtain ⟨_, inside, _, further⟩ := works
    have left := steps contexts step started there inside
    rcases performed : engine.perform contexts step started with ⟨fault | result, ended⟩
    · rw [performed] at left
      simp only [Engine.runFrom, ← started_def, performed]
      split
      · exact left
      · rw [noted]
        exact left
    · rw [performed] at left further
      simp only [Engine.runFrom, ← started_def, performed]
      exact ih (done ++ [result]) ended left further

theorem Conduct.store_kept (conduct : Conduct π ω ρ ε) (depth address : Nat)
    (contexts : List String) (state : State π ω) (before : kept state.store)
    (works : WorkLeaves kept (conduct.moments depth address contexts state)) :
    kept (conduct.calls depth address contexts state).2.store := by
  induction depth generalizing address contexts state with
  | zero => exact before
  | succ depth ih =>
    have steps (contexts : List String) (step : Step π) (state : State π ω) :=
      Script.store_kept ih (conduct.script contexts step) state
    simp only [Conduct.moments, Conduct.calls, executionMoments, Pipeline.execute,
      Engine.run] at works ⊢
    cases refused : (((State.place address).get state).refusal? contexts.length :
        Option (SessionFault π ρ ε)) with
    | some fault => exact before
    | none =>
      simp only [refused, workLeaves_cons, workLeaves_append] at works ⊢
      have looped := loop_store_kept (by intro _ _; rfl) steps (by intro _ _; rfl) _ _ _
        (by exact before) works.2.1
      split <;> exact looped

end Work

/-! ### Steps that look at no object -/

/-- A session without the objects that its steps come from. -/
def State.bare (state : ShelfState π ω ρ ε) : State π ω :=
  ⟨state.pipelines, state.names, state.store.others, state.log⟩

def bareOutcome {α : Type} (outcome : Outcome (SessionFault π ρ ε) α (ShelfState π ω ρ ε)) :
    Outcome (SessionFault π ρ ε) α (State π ω) :=
  (outcome.1, outcome.2.bare)

/-- Whatever is done goes on in the same way, whatever objects there are. -/
def Blind {α : Type}
    (done : ShelfState π ω ρ ε → Outcome (SessionFault π ρ ε) α (ShelfState π ω ρ ε)) : Prop :=
  ∀ state other : ShelfState π ω ρ ε, state.bare = other.bare →
    bareOutcome (done state) = bareOutcome (done other)

inductive Script.LooksAway : Script π (Shelf (Step π) (SessionFault π ρ ε) ω) ρ ε → Prop
  | ended (outcome : Except (SessionFault π ρ ε) ρ) : LooksAway (.ended outcome)
  | work {store : ShelfState π ω ρ ε → Shelf (Step π) (SessionFault π ρ ε) ω}
      {next : ShelfState π ω ρ ε → Script π (Shelf (Step π) (SessionFault π ρ ε) ω) ρ ε} :
      (∀ state other : ShelfState π ω ρ ε, state.bare = other.bare →
        (store state).others = (store other).others ∧ next state = next other) →
      (∀ state, LooksAway (next state)) → LooksAway (.work store next)
  | make {pipeline : Pipeline (Step π)}
      {next : Nat → Script π (Shelf (Step π) (SessionFault π ρ ε) ω) ρ ε} :
      (∀ address, LooksAway (next address)) → LooksAway (.make pipeline next)
  | call {address : Nat} {contexts : List String}
      {next : Except (SessionFault π ρ ε) (Report ρ) →
        Script π (Shelf (Step π) (SessionFault π ρ ε) ω) ρ ε} :
      (∀ outcome, LooksAway (next outcome)) → LooksAway (.call address contexts next)

section Blind

variable {state other : ShelfState π ω ρ ε}

theorem State.bare_note (record : Record) (alike : state.bare = other.bare) :
    (state.note record).bare = (other.note record).bare := by
  simp only [bare, State.mk.injEq] at alike
  simp only [bare, note, alike]

theorem State.bare_put (address : Nat) (pipeline : Pipeline (Step π))
    (alike : state.bare = other.bare) :
    ((State.place address).put pipeline state).bare =
      ((State.place address).put pipeline other).bare := by
  simp only [bare, State.mk.injEq] at alike
  simp only [bare, place, alike]

theorem State.bare_allocate (pipeline : Pipeline (Step π)) (alike : state.bare = other.bare) :
    (state.allocate pipeline).bare = (other.allocate pipeline).bare := by
  simp only [bare, State.mk.injEq] at alike
  simp only [bare, allocate, alike]

theorem Script.LooksAway.run
    {script : Script π (Shelf (Step π) (SessionFault π ρ ε) ω) ρ ε} (away : script.LooksAway)
    {calls : Calls π (Shelf (Step π) (SessionFault π ρ ε) ω) ρ ε}
    (nested : ∀ address contexts, Blind (calls address contexts)) : Blind (script.run calls) := by
  induction away with
  | ended outcome =>
    intro state other alike
    simp only [Script.run, bareOutcome, alike]
  | work same _ ih =>
    intro state other alike
    obtain ⟨same_store, same_next⟩ := same state other alike
    simp only [State.bare, State.mk.injEq] at alike
    simp only [Script.run, same_next]
    apply ih
    simp only [State.bare, alike, same_store]
  | @make pipeline next _ ih =>
    intro state other alike
    have same_address : state.pipelines.length = other.pipelines.length := by
      simp only [State.bare, State.mk.injEq] at alike
      rw [alike.1]
    simp only [Script.run, same_address]
    exact ih _ _ _ (State.bare_allocate pipeline alike)
  | @call address contexts next _ ih =>
    intro state other alike
    have called := Prod.mk.inj (nested address contexts state other alike)
    simp only [Script.run, called.1]
    exact ih _ _ _ called.2

variable [Cause ε]

private theorem loop_blind
    {engine : SessionEngine π (Shelf (Step π) (SessionFault π ρ ε) ω) ρ ε}
    (noted : engine.note = State.note)
    (steps : ∀ contexts step, Blind (engine.perform contexts step)) (contexts : List String)
    {taken : List (Step π) → ShelfState π ω ρ ε → ShelfState π ω ρ ε}
    (takes : ∀ rest (state other : ShelfState π ω ρ ε), state.bare = other.bare →
      (taken rest state).bare = (taken rest other).bare)
    (remaining : List (Step π)) (done : List ρ) :
    Blind (engine.runFrom contexts taken none remaining done) := by
  induction remaining generalizing done with
  | nil =>
    intro state other alike
    simp only [Engine.runFrom, bareOutcome, alike]
  | cons step rest ih =>
    intro state other alike
    have performed := steps contexts step _ _
      (State.bare_note (.running done.length (engine.label step)) (takes rest state other alike))
    rw [← noted] at performed
    -- the step has the same outcome in both sessions, and leaves them alike
    simp only [Engine.runFrom]
    rcases first : engine.perform contexts step
      (engine.note (.running done.length (engine.label step)) (taken rest state)) with ⟨one, left⟩
    rcases second : engine.perform contexts step
      (engine.note (.running done.length (engine.label step)) (taken rest other)) with ⟨two, right⟩
    rw [first, second] at performed
    obtain ⟨same, alike_left⟩ := Prod.mk.inj performed
    obtain rfl : one = two := same
    cases one with
    | ok result => exact ih (done ++ [result]) left right alike_left
    | error fault =>
      dsimp only
      split
      · simp only [bareOutcome, alike_left]
      · simp only [bareOutcome, noted, State.bare_note _ alike_left]

private theorem execution_blind
    {engine : SessionEngine π (Shelf (Step π) (SessionFault π ρ ε) ω) ρ ε}
    (noted : engine.note = State.note)
    (steps : ∀ contexts step, Blind (engine.perform contexts step)) (address : Nat)
    (contexts : List String) :
    Blind (Pipeline.execute engine (State.place address) contexts) := by
  intro state other alike
  have same_pipelines : state.pipelines = other.pipelines := (State.mk.inj alike).1
  have same : (State.place address).get state = (State.place address).get other := by
    simp only [State.place, same_pipelines]
  simp only [Pipeline.execute, same, Engine.run, noted]
  cases ((State.place address).get other).refusal? contexts.length with
  | some fault => simp only [bareOutcome, alike]
  | none =>
    set held := (State.place address).get other
    let left (rest : List (Step π)) : ShelfState π ω ρ ε → ShelfState π ω ρ ε :=
      (State.place address).put (held.spent rest)
    have takes (rest : List (Step π)) (state other : ShelfState π ω ρ ε)
        (alike : state.bare = other.bare) : (left rest state).bare = (left rest other).bare :=
      State.bare_put address (held.spent rest) alike
    have begun := State.bare_note (.executing held.steps.length contexts.length)
      (takes held.steps state other alike)
    have looped := loop_blind noted steps contexts takes held.steps [] _ _ begun
    -- so both loops end in the same way
    dsimp only
    rcases first : engine.runFrom contexts left none held.steps []
      (State.note (.executing held.steps.length contexts.length) (left held.steps state)) with
        ⟨one, ended⟩
    rcases second : engine.runFrom contexts left none held.steps []
      (State.note (.executing held.steps.length contexts.length) (left held.steps other)) with
        ⟨two, stopped⟩
    rw [first, second] at looped
    obtain ⟨same, alike_ended⟩ := Prod.mk.inj looped
    obtain rfl : one = two := same
    have closed := takes [] ended stopped alike_ended
    cases one with
    | ok report => simp only [bareOutcome, left, State.bare_note _ closed]
    | error fault => simp only [bareOutcome, left, closed]

theorem Conduct.calls_blind
    {conduct : Conduct π (Shelf (Step π) (SessionFault π ρ ε) ω) ρ ε}
    (away : ∀ contexts step, (conduct.script contexts step).LooksAway) (depth address : Nat)
    (contexts : List String) : Blind (conduct.calls depth address contexts) := by
  induction depth generalizing address contexts with
  | zero =>
    intro state other alike
    simp only [Conduct.calls, bareOutcome, alike]
  | succ depth ih =>
    exact execution_blind rfl (fun contexts step => (away contexts step).run ih) address contexts

end Blind

end StepPipeline.Session
