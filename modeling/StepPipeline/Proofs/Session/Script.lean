import StepPipeline.Session.Language

/-!
Scripts: what a step of a session may do to pipelines, step by step. A script works on the store,
makes pipelines and executes any of them with any contexts, and goes on from what comes of that,
until it ends. A conduct gives each step a script. The steps of a language, which do work of their
own, execute the steps they carry or execute a pipeline by name, are scripts of this kind.
-/

set_option autoImplicit false
set_option relaxedAutoImplicit false

namespace StepPipeline.Session

open Session.Language (SessionFault SessionEngine Ran)

/-- What is done to the pipelines and the store of a session, until it ends. -/
inductive Script (π ω ρ ε : Type) where
  | ended (outcome : Except (SessionFault π ρ ε) ρ)
  /-- Changes the store and goes on, both by the state that is there. -/
  | work (store : State π ω → ω) (next : State π ω → Script π ω ρ ε)
  /-- Makes a pipeline and goes on by its address. -/
  | make (pipeline : Pipeline (Step π)) (next : Nat → Script π ω ρ ε)
  /-- Executes the pipeline at an address and goes on by what comes of it. -/
  | call (address : Nat) (contexts : List String)
      (next : Except (SessionFault π ρ ε) (Report ρ) → Script π ω ρ ε)

/-- What executing the pipelines of a session does, by address and contexts. -/
abbrev Calls (π ω ρ ε : Type) :=
  Nat → List String → State π ω → Ran π ω ρ ε

variable {π ω ρ ε : Type}

/-- Follows a script, where pipelines are executed as given. -/
def Script.run (calls : Calls π ω ρ ε) :
    Script π ω ρ ε → State π ω → Outcome (SessionFault π ρ ε) ρ (State π ω)
  | .ended outcome, state => (outcome, state)
  | .work store next, state => (next state).run calls { state with store := store state }
  | .make pipeline next, state => (next state.pipelines.length).run calls (state.allocate pipeline)
  | .call address contexts next, state =>
    let called := calls address contexts state
    (next called.1).run calls called.2

/-- The scripts of all steps, by the contexts they are called with, and their labels. -/
structure Conduct (π ω ρ ε : Type) where
  label : Step π → String
  script : List String → Step π → Script π ω ρ ε

namespace Conduct

def engineWith (conduct : Conduct π ω ρ ε) (calls : Calls π ω ρ ε) : SessionEngine π ω ρ ε where
  label := conduct.label
  note := State.note
  perform contexts step := (conduct.script contexts step).run calls

/-- Executes pipelines whose steps execute others down to the given depth. -/
def calls [Cause ε] (conduct : Conduct π ω ρ ε) : (depth : Nat) → Calls π ω ρ ε
  | 0 => fun _ _ state => (.error (.raised .tooDeep), state)
  | depth + 1 => fun address =>
    Pipeline.execute (conduct.engineWith (conduct.calls depth)) (State.place address)

end Conduct

namespace Language

def script (language : Language π ω ρ ε) (contexts : List String) (step : Step π) :
    Script π ω ρ ε :=
  match language.uncallable? contexts.length step, step with
  | some error, _ => .ended (.error (.raised (.thrown error)))
  | none, .own work =>
    let done (state : State π ω) := language.work state.pipeline? contexts work state.store
    .work (fun state => (done state).2) fun state =>
      .ended ((done state).1.mapError fun error => .raised (.thrown error))
  | none, .nest steps =>
    match Pipeline.ofSource language.facts ⟨steps, none⟩ none with
    | .error fault => .ended (.error fault)
    | .ok pipeline =>
      .make pipeline fun address => .call address contexts fun outcome =>
        .ended (outcome.map fun report => language.gathered report.results)
  | none, .reenter name =>
    .work State.store fun state =>
      match state.address? name with
      | none => .ended (.error (.raised (.thrown (language.unknown name))))
      | some address => .call address contexts fun outcome =>
        .ended (outcome.map fun _ => language.nothing)

def conduct (language : Language π ω ρ ε) : Conduct π ω ρ ε where
  label := language.label
  script := language.script

theorem performWith_eq_run (language : Language π ω ρ ε) (calls : Calls π ω ρ ε)
    (contexts : List String) (step : Step π) (state : State π ω) :
    language.performWith calls contexts step state =
      (language.script contexts step).run calls state := by
  unfold performWith script
  cases language.uncallable? contexts.length step with
  | some error => rfl
  | none =>
    cases step with
    | own work => rfl
    | nest steps =>
      simp only [carryOut]
      cases Pipeline.ofSource language.facts ⟨steps, none⟩ none with
      | error fault => rfl
      | ok pipeline => rfl
    | reenter name =>
      simp only [carryOut, Script.run]
      cases state.address? name with
      | none => rfl
      | some address => rfl

theorem engine_eq_engineWith [Cause ε] (language : Language π ω ρ ε) (depth : Nat) :
    language.engine depth = language.conduct.engineWith (language.conduct.calls depth) := by
  induction depth with
  | zero =>
    simp only [engine, Conduct.engineWith, Conduct.calls, conduct]
    congr
    funext contexts step state
    exact performWith_eq_run language _ contexts step state
  | succ depth ih =>
    simp only [engine, Conduct.engineWith, Conduct.calls, conduct]
    congr
    funext contexts step state
    rw [ih]
    exact performWith_eq_run language _ contexts step state

theorem execute_eq_calls [Cause ε] (language : Language π ω ρ ε) (address : Nat)
    (contexts : List String) (state : State π ω) :
    language.execute address contexts state =
      language.conduct.calls (state.budget + 1) address contexts state := by
  simp only [execute, engineIn, engine_eq_engineWith, Conduct.calls]

end Language

end StepPipeline.Session
