import Mathlib.Tactic.Set
import StepPipeline.Proofs.Pipeline.Fold
import StepPipeline.Proofs.Session.Script

/-!
The life of a pipeline. A session is a row of moments, in which pipelines are called, their steps
start and stop, and other work is done; steps may call any pipelines, their own included. Whatever
they do, each pipeline goes through its phases once: it holds its steps until a call is accepted,
gives them up one by one, and is empty once that call has ended.
-/

set_option autoImplicit false
set_option relaxedAutoImplicit false

namespace StepPipeline.Session

open Session.Language (SessionFault SessionEngine Ran)

variable {π ω ρ ε : Type}

/-! ### Moments of a session -/

/-- What happens at a moment; pipelines are known by their addresses. -/
inductive Event (π : Type) where
  /-- The store is changed or a pipeline is made. -/
  | worked
  | refused (address : Nat)
  | accepted (address : Nat)
  | started (address index : Nat) (step : Step π)
  | stopped (address index : Nat)
  | closed (address : Nat)

def Event.address? : Event π → Option Nat
  | worked => none
  | refused address => some address
  | accepted address => some address
  | started address _ _ => some address
  | stopped address _ => some address
  | closed address => some address

def Event.accepts (address : Nat) : Event π → Bool
  | accepted other => other == address
  | _ => false

def Event.start? (address : Nat) : Event π → Option (Step π × Nat)
  | started other index step => if other = address then some (step, index) else none
  | _ => none

/-- What happens, and the state in which the session then is. -/
structure Moment (π ω : Type) where
  event : Event π
  state : State π ω

abbrev CallMoments (π ω : Type) :=
  Nat → List String → State π ω → List (Moment π ω)

/-- The moments of a script, where those of the calls in it are given. -/
def Script.moments (calls : Calls π ω ρ ε) (within : CallMoments π ω) :
    Script π ω ρ ε → State π ω → List (Moment π ω)
  | .ended _, _ => []
  | .work store next, state =>
    let worked := { state with store := store state }
    ⟨.worked, worked⟩ :: (next state).moments calls within worked
  | .make pipeline next, state =>
    let made := state.allocate pipeline
    ⟨.worked, made⟩ :: (next state.pipelines.length).moments calls within made
  | .call address contexts next, state =>
    let called := calls address contexts state
    within address contexts state ++ (next called.1).moments calls within called.2

section Loop

variable [Cause ε] (engine : SessionEngine π ω ρ ε)
  (within : List String → Step π → State π ω → List (Moment π ω))

def loopMoments (address : Nat) (contexts : List String)
    (taken : List (Step π) → State π ω → State π ω) :
    (remaining : List (Step π)) → (done : List ρ) → State π ω → List (Moment π ω)
  | [], _, _ => []
  | step :: rest, done, state =>
    let index := done.length
    let started := engine.note (.running index (engine.label step)) (taken rest state)
    let performed := engine.perform contexts step started
    let further :=
      match performed.1 with
      | .ok result => loopMoments address contexts taken rest (done ++ [result]) performed.2
      | .error _ => []
    ⟨.started address index step, started⟩ ::
      (within contexts step started ++ ⟨.stopped address index, performed.2⟩ :: further)

def executionMoments (address : Nat) (contexts : List String) (state : State π ω) :
    List (Moment π ω) :=
  let place := State.place address
  let pipeline := place.get state
  match (pipeline.refusal? contexts.length : Option (SessionFault π ρ ε)) with
  | some _ => [⟨.refused address, state⟩]
  | none =>
    let begun := engine.note (.executing pipeline.steps.length contexts.length)
      (place.put (pipeline.spent pipeline.steps) state)
    let left (rest : List (Step π)) := place.put (pipeline.spent rest)
    let looped := loopMoments engine within address contexts left pipeline.steps [] begun
    let ended := (Pipeline.execute engine place contexts state).2
    ⟨.accepted address, begun⟩ :: (looped ++ [⟨.closed address, ended⟩])

end Loop

def Conduct.moments [Cause ε] (conduct : Conduct π ω ρ ε) : (depth : Nat) → CallMoments π ω
  | 0 => fun _ _ _ => []
  | depth + 1 =>
    executionMoments (conduct.engineWith (conduct.calls depth)) fun contexts step =>
      (conduct.script contexts step).moments (conduct.calls depth) (conduct.moments depth)

namespace Conduct

def within [Cause ε] (conduct : Conduct π ω ρ ε) (depth : Nat) (contexts : List String)
    (step : Step π) : State π ω → List (Moment π ω) :=
  (conduct.script contexts step).moments (conduct.calls depth) (conduct.moments depth)

theorem noted (conduct : Conduct π ω ρ ε) (calls : Calls π ω ρ ε) (record : Record)
    (state : State π ω) :
    ((conduct.engineWith calls).note record state).pipelines = state.pipelines :=
  rfl

end Conduct

/-! ### Phases of a pipeline -/

/-- How far a pipeline has come. -/
inductive Phase where
  /-- No call has been accepted. -/
  | holding
  /-- The step at an index is the next one to start, if there is one. -/
  | ready (index : Nat)
  /-- The step at an index is running. -/
  | running (index : Nat)
  /-- The accepted call has ended; some steps have started. -/
  | closed (started : Nat)

namespace Phase

def pipeline {ι : Type} (original : Pipeline ι) : Phase → Pipeline ι
  | holding => original
  | ready index => original.spent (original.steps.drop index)
  | running index => original.spent (original.steps.drop (index + 1))
  | closed _ => original.spent []

def started : Phase → Nat
  | holding => 0
  | ready index => index
  | running index => index + 1
  | closed count => count

/-- What an event makes of the phase of the pipeline at an address. -/
inductive Next (address : Nat) (original : Pipeline (Step π)) : Phase → Event π → Phase → Prop
  | other {event : Event π} (phase : Phase) (elsewhere : event.address? ≠ some address) :
      Next address original phase event phase
  | refused (phase : Phase) : Next address original phase (.refused address) phase
  | accepted : Next address original holding (.accepted address) (ready 0)
  | started {index : Nat} {step : Step π} (here : original.steps[index]? = some step) :
      Next address original (ready index) (.started address index step) (running index)
  | stopped (index : Nat) :
      Next address original (running index) (.stopped address index) (ready (index + 1))
  | closed (index : Nat) : Next address original (ready index) (.closed address) (closed index)

def accepted : Phase → Nat
  | holding => 0
  | _ => 1

/-- From the outside a phase either stays or is passed through as a whole. -/
def Leads (phase later : Phase) : Prop :=
  later = phase ∨ phase = holding ∧ ∃ count, later = closed count

theorem Leads.trans {first second third : Phase} (h : first.Leads second)
    (h' : second.Leads third) : first.Leads third := by
  rcases h with rfl | ⟨rfl, count, rfl⟩
  · exact h'
  · rcases h' with rfl | ⟨eq, _⟩
    · exact .inr ⟨rfl, count, rfl⟩
    · cases eq

end Phase

def State.At (address : Nat) (original : Pipeline (Step π)) (phase : Phase)
    (state : State π ω) : Prop :=
  state.pipelines[address]? = some (phase.pipeline original)

/-- A row of moments leads the pipeline at an address from a phase of its life to another. -/
inductive Lives (address : Nat) (original : Pipeline (Step π)) :
    Phase → List (Moment π ω) → Phase → Prop
  | nil (phase : Phase) : Lives address original phase [] phase
  | cons {phase next last : Phase} {moment : Moment π ω} {rest : List (Moment π ω)} :
      phase.Next address original moment.event next →
      moment.state.At address original next →
      Lives address original next rest last →
      Lives address original phase (moment :: rest) last

namespace Lives

variable {address : Nat} {original : Pipeline (Step π)}

theorem append {phase next last : Phase} {first second : List (Moment π ω)}
    (h : Lives address original phase first next) (h' : Lives address original next second last) :
    Lives address original phase (first ++ second) last := by
  induction h with
  | nil => exact h'
  | cons step here _ ih => exact .cons step here (ih h')

theorem single {phase next : Phase} {moment : Moment π ω}
    (step : phase.Next address original moment.event next)
    (here : moment.state.At address original next) :
    Lives address original phase [moment] next :=
  .cons step here (.nil next)

end Lives

/-- Whatever phase the pipeline at an address is in, some moments lead it on from one state to
another. -/
def Follows (address : Nat) (original : Pipeline (Step π)) (moments : List (Moment π ω))
    (before after : State π ω) : Prop :=
  ∀ phase : Phase, before.At address original phase →
    ∃ later, phase.Leads later ∧ Lives address original phase moments later ∧
      after.At address original later

theorem Follows.trans {address : Nat} {original : Pipeline (Step π)}
    {first second : List (Moment π ω)} {before middle after : State π ω}
    (h : Follows address original first before middle)
    (h' : Follows address original second middle after) :
    Follows address original (first ++ second) before after := by
  intro phase here
  obtain ⟨next, leads, lives, there⟩ := h phase here
  obtain ⟨last, leads', lives', finally_there⟩ := h' next there
  exact ⟨last, leads.trans leads', lives.append lives', finally_there⟩

/--
A relation between the states before and after some moments that holds of moments that follow on
each other, of whatever leaves the pipeline at an address as it is, and of making pipelines.
-/
structure Composes (address : Nat)
    (relation : List (Moment π ω) → State π ω → State π ω → Prop) : Prop where
  trans : ∀ {first second before middle after}, relation first before middle →
    relation second middle after → relation (first ++ second) before after
  silent : ∀ {before after : State π ω},
    after.pipelines[address]? = before.pipelines[address]? → relation [] before after
  other : ∀ {event : Event π} {before after : State π ω}, event.address? ≠ some address →
    after.pipelines[address]? = before.pipelines[address]? → relation [⟨event, after⟩] before after
  made : ∀ (pipeline : Pipeline (Step π)) (state : State π ω),
    relation [⟨.worked, state.allocate pipeline⟩] state (state.allocate pipeline)

/-! ### What happens to other pipelines -/

section Frame

variable {address : Nat} {original : Pipeline (Step π)} {state : State π ω}

theorem get_place {held : Pipeline (Step π)}
    (here : state.pipelines[address]? = some held) :
    (State.place address).get state = held := by
  simp only [State.place, here, Option.getD_some]

theorem put_place_same {held : Pipeline (Step π)} (pipeline : Pipeline (Step π))
    (here : state.pipelines[address]? = some held) :
    ((State.place address).put pipeline state).pipelines[address]? = some pipeline := by
  have bound : address < state.pipelines.length := (List.getElem?_eq_some_iff.mp here).1
  simp only [State.place, List.getElem?_set_self bound]

theorem put_place_other {other : Nat} (distinct : other ≠ address)
    (pipeline : Pipeline (Step π)) :
    ((State.place other).put pipeline state).pipelines[address]? = state.pipelines[address]? := by
  simp only [State.place, List.getElem?_set_ne distinct]

private theorem allocate_keeps {held : Pipeline (Step π)} (pipeline : Pipeline (Step π))
    (here : state.pipelines[address]? = some held) :
    (state.allocate pipeline).pipelines[address]? = some held := by
  have bound : address < state.pipelines.length := (List.getElem?_eq_some_iff.mp here).1
  simp only [State.allocate, List.getElem?_append_left bound, here]

end Frame

section Loop

variable [Cause ε] {engine : SessionEngine π ω ρ ε}
  {within : List String → Step π → State π ω → List (Moment π ω)}

theorem pipelines_runFrom_error
    (noted : ∀ record state, (engine.note record state).pipelines = state.pipelines)
    {contexts : List String} {taken : List (Step π) → State π ω → State π ω} {step : Step π}
    {rest : List (Step π)} {done : List ρ} {state left : State π ω} {fault : SessionFault π ρ ε}
    (raised : engine.perform contexts step
      (engine.note (.running done.length (engine.label step)) (taken rest state)) =
        (.error fault, left)) :
    (engine.runFrom contexts taken none (step :: rest) done state).2.pipelines =
      left.pipelines := by
  simp only [Engine.runFrom, raised]
  split
  · rfl
  · exact noted _ _

variable (within) in
theorem execute_of_admitted
    (noted : ∀ record state, (engine.note record state).pipelines = state.pipelines)
    {other : Nat} {contexts : List String} {state : State π ω} {held : Pipeline (Step π)}
    (kept : (State.place other).get state = held)
    (admitted : (held.refusal? contexts.length : Option (SessionFault π ρ ε)) = none) :
    let left (rest : List (Step π)) := (State.place other).put (held.spent rest)
    let begun := engine.note (.executing held.steps.length contexts.length) (left held.steps state)
    let looped := engine.runFrom contexts left none held.steps [] begun
    let executed := Pipeline.execute engine (State.place other) contexts state
    executed.1 = looped.1 ∧ executed.2.pipelines = (left [] looped.2).pipelines ∧
      executionMoments engine within other contexts state =
        ⟨.accepted other, begun⟩ ::
          (loopMoments engine within other contexts left held.steps [] begun ++
            [⟨.closed other, executed.2⟩]) := by
  intro left begun looped executed
  refine ⟨?_, ?_, ?_⟩
  · simp only [executed, Pipeline.execute, kept, admitted, Engine.run]
    rcases h : engine.runFrom contexts left none held.steps [] begun with ⟨outcome, ended⟩
    cases outcome <;> simp [looped, h]
  · simp only [executed, Pipeline.execute, kept, admitted, Engine.run]
    rcases h : engine.runFrom contexts left none held.steps [] begun with ⟨outcome, ended⟩
    cases outcome <;> simp [looped, left, h, noted]
  · simp only [executionMoments, kept, admitted]
    rfl

end Loop

namespace Composes

variable {address : Nat} {relation : List (Moment π ω) → State π ω → State π ω → Prop}

theorem script (composes : Composes address relation) {calls : Calls π ω ρ ε}
    {within : CallMoments π ω}
    (nested : ∀ other contexts state,
      relation (within other contexts state) state (calls other contexts state).2)
    (script : Script π ω ρ ε) (state : State π ω) :
    relation (script.moments calls within state) state (script.run calls state).2 := by
  induction script generalizing state with
  | ended outcome => exact composes.silent rfl
  | work store next ih =>
    have worked : relation [⟨.worked, { state with store := store state }⟩] state
        { state with store := store state } := composes.other (by simp [Event.address?]) rfl
    exact composes.trans worked (ih state _)
  | make pipeline next ih => exact composes.trans (composes.made pipeline state) (ih _ _)
  | call other contexts next ih =>
    exact composes.trans (nested other contexts state) (ih _ _)

variable [Cause ε] {engine : SessionEngine π ω ρ ε}
  {within : List String → Step π → State π ω → List (Moment π ω)}

private theorem loop (composes : Composes address relation)
    (noted : ∀ record state, (engine.note record state).pipelines = state.pipelines)
    (steps : ∀ contexts step state, relation (within contexts step state) state
      (engine.perform contexts step state).2)
    {other : Nat} (distinct : other ≠ address) (contexts : List String)
    {taken : List (Step π) → State π ω → State π ω}
    (beside : ∀ rest state, (taken rest state).pipelines[address]? = state.pipelines[address]?)
    (remaining : List (Step π)) (done : List ρ) (state : State π ω) :
    relation (loopMoments engine within other contexts taken remaining done state)
      state (engine.runFrom contexts taken none remaining done state).2 := by
  have elsewhere : some other ≠ some address := by simpa using distinct
  induction remaining generalizing done state with
  | nil => exact composes.silent rfl
  | cons step rest ih =>
    set started := engine.note (.running done.length (engine.label step)) (taken rest state)
      with started_def
    have starts : relation [⟨.started other done.length step, started⟩] state started :=
      composes.other elsewhere (by rw [started_def, noted, beside])
    have stops : relation [⟨.stopped other done.length, (engine.perform contexts step started).2⟩]
        (engine.perform contexts step started).2 (engine.perform contexts step started).2 :=
      composes.other elsewhere rfl
    have performed := composes.trans starts (composes.trans (steps contexts step started) stops)
    rcases outcome : engine.perform contexts step started with ⟨fault | result, left⟩
    · have ended := pipelines_runFrom_error noted outcome
      simp only [loopMoments, ← started_def, outcome]
      rw [outcome] at performed
      have last : relation [] left
          (engine.runFrom contexts taken none (step :: rest) done state).2 :=
        composes.silent (by rw [ended])
      simpa using composes.trans performed last
    · simp only [loopMoments, Engine.runFrom, ← started_def, outcome]
      rw [outcome] at performed
      simpa using composes.trans performed (ih (done ++ [result]) left)

private theorem execution (composes : Composes address relation)
    (noted : ∀ record state, (engine.note record state).pipelines = state.pipelines)
    (steps : ∀ contexts step state, relation (within contexts step state) state
      (engine.perform contexts step state).2)
    {other : Nat} (distinct : other ≠ address) (contexts : List String) (state : State π ω) :
    relation (executionMoments engine within other contexts state) state
      (Pipeline.execute engine (State.place other) contexts state).2 := by
  have elsewhere : some other ≠ some address := by simpa using distinct
  set held := (State.place other).get state with held_def
  rcases admitted : (held.refusal? contexts.length : Option (SessionFault π ρ ε)) with _ | fault
  · obtain ⟨_, same_pipelines, same_moments⟩ :=
      execute_of_admitted within noted held_def.symm admitted
    set begun := engine.note (.executing held.steps.length contexts.length)
      ((State.place other).put (held.spent held.steps) state) with begun_def
    have accepts : relation [⟨.accepted other, begun⟩] state begun :=
      composes.other elsewhere (by rw [begun_def, noted, put_place_other distinct])
    have loops := composes.loop noted steps distinct contexts
      (fun rest _ => put_place_other distinct (held.spent rest)) held.steps [] begun
    rw [same_moments]
    refine composes.trans accepts (composes.trans loops (composes.other elsewhere ?_))
    rw [same_pipelines, put_place_other distinct]
  · simp only [executionMoments, Pipeline.execute, ← held_def, admitted]
    exact composes.other elsewhere rfl

theorem calls (composes : Composes address relation) (conduct : Conduct π ω ρ ε)
    (own : ∀ depth contexts state,
      (∀ contexts step state,
        relation
          ((conduct.script contexts step).moments (conduct.calls depth) (conduct.moments depth)
            state)
          state ((conduct.script contexts step).run (conduct.calls depth) state).2) →
      relation (conduct.moments (depth + 1) address contexts state) state
        (conduct.calls (depth + 1) address contexts state).2)
    (depth other : Nat) (contexts : List String) (state : State π ω) :
    relation (conduct.moments depth other contexts state) state
      (conduct.calls depth other contexts state).2 := by
  induction depth generalizing other contexts state with
  | zero => exact composes.silent rfl
  | succ depth ih =>
    have steps (contexts : List String) (step : Step π) (state : State π ω) :=
      composes.script ih (conduct.script contexts step) state
    by_cases distinct : other = address
    · subst distinct
      exact own depth contexts state steps
    · exact composes.execution (conduct.noted _) steps distinct contexts state

end Composes

/-! ### Every execution follows the phases -/

section Execution

variable {address : Nat} {original : Pipeline (Step π)}

theorem Follows.composes (address : Nat) (original : Pipeline (Step π)) :
    Composes address
      (Follows address original : List (Moment π ω) → State π ω → State π ω → Prop) where
  trans := Follows.trans
  silent same := by
    intro phase here
    exact ⟨phase, .inl rfl, .nil phase, same.trans here⟩
  other elsewhere same := by
    intro phase here
    have there := same.trans here
    exact ⟨phase, .inl rfl, .single (.other phase elsewhere) there, there⟩
  made pipeline state := by
    intro phase here
    have there := allocate_keeps pipeline here
    exact ⟨phase, .inl rfl, .single (.other phase (by simp [Event.address?])) there, there⟩

/-- A script follows the phases if the calls in it do. -/
theorem Script.follows {calls : Calls π ω ρ ε} {within : CallMoments π ω}
    (nested : ∀ other contexts state,
      Follows address original (within other contexts state) state (calls other contexts state).2)
    (script : Script π ω ρ ε) (state : State π ω) :
    Follows address original (script.moments calls within state) state
      (script.run calls state).2 :=
  (Follows.composes address original).script nested script state

private theorem holding_of_admitted (phase : Phase) {given : Nat}
    (admitted : ((phase.pipeline original).refusal? given : Option (SessionFault π ρ ε)) = none) :
    phase = .holding := by
  cases phase with
  | holding => rfl
  | ready | running | closed => simp [Phase.pipeline, Pipeline.refusal?, Pipeline.spent] at admitted

variable {engine : SessionEngine π ω ρ ε}
  {within : List String → Step π → State π ω → List (Moment π ω)}

/-- A step of the pipeline itself starts as the one that is ready, and once it has stopped the next
one is. -/
private theorem own_step_lives
    (noted : ∀ record state, (engine.note record state).pipelines = state.pipelines)
    (steps : ∀ contexts step state, Follows address original (within contexts step state) state
      (engine.perform contexts step state).2)
    (contexts : List String) {index : Nat} {step : Step π} {rest : List (Step π)}
    {state : State π ω}
    (next_step : original.steps[index]? = some step)
    (next_left : rest = original.steps.drop (index + 1))
    (here : state.At address original (.ready index)) :
    let taken := (State.place address).put (original.spent rest)
    let started := engine.note (.running index (engine.label step)) (taken state)
    let performed := engine.perform contexts step started
    Lives address original (.ready index)
        (⟨.started address index step, started⟩ ::
          (within contexts step started ++ [⟨.stopped address index, performed.2⟩]))
        (.ready (index + 1)) ∧
      performed.2.At address original (.ready (index + 1)) := by
  intro taken started performed
  have running : started.At address original (.running index) := by
    rw [State.At, noted, put_place_same (original.spent rest) here, Phase.pipeline, ← next_left]
  obtain ⟨later, leads, lives, there⟩ := steps contexts step started _ running
  -- the step may call any pipeline, but this one takes no call while it is running
  obtain rfl : later = .running index := by
    rcases leads with rfl | ⟨impossible, _⟩
    · rfl
    · cases impossible
  exact ⟨.cons (.started next_step) running (lives.append (.single (.stopped index) there)), there⟩

variable [Cause ε]

/-- The steps of the pipeline itself start one by one, each as the one that is ready; if the loop
ends with a report, all have. -/
private theorem own_loop_lives
    (noted : ∀ record state, (engine.note record state).pipelines = state.pipelines)
    (steps : ∀ contexts step state, Follows address original (within contexts step state) state
      (engine.perform contexts step state).2)
    (contexts : List String) (remaining : List (Step π)) (done : List ρ) (state : State π ω)
    (left : remaining = original.steps.drop done.length)
    (here : state.At address original (.ready done.length)) :
    let taken (rest : List (Step π)) := (State.place address).put (original.spent rest)
    let looped := engine.runFrom contexts taken none remaining done state
    ∃ last, Lives address original (.ready done.length)
        (loopMoments engine within address contexts taken remaining done state) (.ready last) ∧
      looped.2.At address original (.ready last) ∧
      ∀ report, looped.1 = .ok report → original.steps.length ≤ last := by
  intro taken looped
  induction remaining generalizing done state with
  | nil =>
    refine ⟨done.length, .nil _, here, fun _ _ => ?_⟩
    exact List.drop_eq_nil_iff.mp left.symm
  | cons step rest ih =>
    have next_step : original.steps[done.length]? = some step := by
      rw [← List.head?_drop, ← left]
      rfl
    have next_left : rest = original.steps.drop (done.length + 1) := by
      rw [← List.tail_drop, ← left]
      rfl
    obtain ⟨stopped, there⟩ := own_step_lives noted steps contexts next_step next_left here
    set started := engine.note (.running done.length (engine.label step)) (taken rest state)
      with started_def
    rcases outcome : engine.perform contexts step started with ⟨fault | result, ended⟩
    · rw [outcome] at stopped there
      refine ⟨done.length + 1, ?_, ?_, ?_⟩
      · simpa only [loopMoments, ← started_def, outcome] using stopped
      · rw [State.At, pipelines_runFrom_error noted outcome]
        exact there
      · intro report reported
        simp only [looped, Engine.runFrom, ← started_def, outcome] at reported
        split at reported <;> cases reported
    · rw [outcome] at stopped there
      have length_done : (done ++ [result]).length = done.length + 1 := by simp
      rw [← length_done] at next_left there
      obtain ⟨last, lives_rest, there_last, all⟩ := ih (done ++ [result]) ended next_left there
      rw [length_done] at lives_rest
      refine ⟨last, ?_, ?_, ?_⟩
      · simpa only [loopMoments, ← started_def, outcome, List.cons_append, List.append_assoc,
          List.nil_append] using
          stopped.append lives_rest
      · simpa only [looped, Engine.runFrom, ← started_def, outcome] using there_last
      · intro report reported
        simp only [looped, Engine.runFrom, ← started_def, outcome] at reported
        exact all report reported

variable (engine) in
/-- The accepted call of the pipeline itself leads it from holding to closed; if it returns, all
steps have started. -/
theorem own_execution_lives
    (noted : ∀ record state, (engine.note record state).pipelines = state.pipelines)
    (steps : ∀ contexts step state, Follows address original (within contexts step state) state
      (engine.perform contexts step state).2)
    (contexts : List String) (state : State π ω) (here : state.At address original .holding)
    (admitted : (original.refusal? contexts.length : Option (SessionFault π ρ ε)) = none) :
    let executed := Pipeline.execute engine (State.place address) contexts state
    ∃ count, Lives address original .holding
        (executionMoments engine within address contexts state) (.closed count) ∧
      executed.2.At address original (.closed count) ∧
      ∀ report, executed.1 = .ok report → original.steps.length ≤ count := by
  intro executed
  have kept : (State.place address).get state = original := get_place here
  obtain ⟨same_outcome, same_pipelines, same_moments⟩ :=
    execute_of_admitted within noted kept admitted
  set begun := engine.note (.executing original.steps.length contexts.length)
    ((State.place address).put (original.spent original.steps) state) with begun_def
  have ready : begun.At address original (.ready 0) := by
    rw [State.At, begun_def, noted, put_place_same (original.spent original.steps) here]
    rfl
  obtain ⟨last, lives, there, all⟩ :=
    own_loop_lives noted steps contexts original.steps [] begun rfl ready
  have closed : executed.2.At address original (.closed last) := by
    rw [State.At, same_pipelines]
    exact put_place_same (original.spent []) there
  refine ⟨last, ?_, closed, ?_⟩
  · rw [same_moments]
    exact .cons .accepted ready (lives.append (.single (.closed last) closed))
  · intro report reported
    exact all report (same_outcome.symm.trans reported)

theorem Conduct.calls_follow (conduct : Conduct π ω ρ ε) (depth other : Nat)
    (contexts : List String) (state : State π ω) :
    Follows address original (conduct.moments depth other contexts state) state
      (conduct.calls depth other contexts state).2 := by
  refine (Follows.composes address original).calls conduct ?_ depth other contexts state
  intro depth contexts state steps
  rcases admitted : (((State.place address).get state).refusal? contexts.length :
    Option (SessionFault π ρ ε)) with _ | fault
  · intro phase here
    rw [get_place here] at admitted
    obtain rfl := holding_of_admitted phase admitted
    obtain ⟨count, lives, there, _⟩ :=
      own_execution_lives (conduct.engineWith (conduct.calls depth)) (conduct.noted _) steps
        contexts state here admitted
    exact ⟨.closed count, .inr ⟨rfl, count, rfl⟩, lives, there⟩
  · simp only [Conduct.moments, Conduct.calls, executionMoments, Pipeline.execute, admitted]
    intro phase here
    exact ⟨phase, .inl rfl, .single (.refused phase) here, here⟩

theorem Conduct.own_call_lives (conduct : Conduct π ω ρ ε) (depth : Nat) (contexts : List String)
    (state : State π ω) (here : state.At address original .holding)
    (admitted : (original.refusal? contexts.length : Option (SessionFault π ρ ε)) = none) :
    let called := conduct.calls (depth + 1) address contexts state
    ∃ count, Lives address original .holding
        (conduct.moments (depth + 1) address contexts state) (.closed count) ∧
      called.2.At address original (.closed count) ∧
      ∀ report, called.1 = .ok report → original.steps.length ≤ count :=
  own_execution_lives (conduct.engineWith (conduct.calls depth)) (conduct.noted _)
    (fun contexts step state =>
      Script.follows (conduct.calls_follow depth) (conduct.script contexts step) state)
    contexts state here admitted

end Execution

end StepPipeline.Session
