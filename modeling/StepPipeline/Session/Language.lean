import StepPipeline.Pipeline

/-!
Sessions: named pipelines whose steps may execute other pipelines. A step either does work of its
own, or carries steps that it executes as a new pipeline, or executes a pipeline of the session by
name, possibly the one that it belongs to. No run goes on for ever: a pipeline is consumed before
its first step is performed, so each nested run uses up a pipeline. `State.budget` bounds the depth
of nested runs, and `Language.engine` performs steps down to a given depth.
-/

set_option autoImplicit false

namespace StepPipeline.Session

/-- A step of a session; `π` is the type of the work that steps do themselves. -/
inductive Step (π : Type) where
  | own (work : π)
  /-- Executes the steps that it carries as a new pipeline. -/
  | nest (steps : List (Step π))
  /-- Executes a pipeline of the session. -/
  | reenter (name : String)

mutual

/-- The number of positions that a step takes, those of the steps it carries included. -/
def Step.positions {π : Type} : Step π → Nat
  | .own _ => 1
  | .nest steps => 1 + Step.positionsOf steps
  | .reenter _ => 1

def Step.positionsOf {π : Type} : List (Step π) → Nat
  | [] => 0
  | step :: rest => step.positions + Step.positionsOf rest

end

inductive Stop (ε : Type) where
  | thrown (error : ε)
  /-- The run is nested more deeply than it was allowed to be. -/
  | tooDeep
  deriving DecidableEq, Repr

instance {ε : Type} [Cause ε] : Cause (Stop ε) where
  message
    | .thrown error => Cause.message error
    | .tooDeep => "Too many nested runs."
  escapes
    | .thrown error => Cause.escapes error
    | .tooDeep => true

/-- The pipelines of a session, what its steps act on, and its log. -/
structure State (π ω : Type) where
  pipelines : List (Pipeline (Step π)) := []
  /-- Where the pipelines with a name are. -/
  names : List (String × Nat) := []
  store : ω
  log : Array Record := #[]

namespace State

variable {π ω : Type}

/-- The place of the pipeline with the given address; where there is none, it is a spent one. -/
def place (address : Nat) : Place (Step π) (State π ω) where
  get state := (state.pipelines[address]?).getD ⟨[], none, true⟩
  put pipeline state := { state with pipelines := state.pipelines.set address pipeline }

def address? (state : State π ω) (name : String) : Option Nat :=
  (state.names.find? fun entry => entry.1 == name).map Prod.snd

def pipeline? (state : State π ω) (name : String) : Option (Pipeline (Step π)) :=
  (state.address? name).map fun address => (place address).get state

/-- Adds a pipeline; its address is the number of those that were there. -/
def allocate (state : State π ω) (pipeline : Pipeline (Step π)) : State π ω :=
  { state with pipelines := state.pipelines ++ [pipeline] }

/-- Adds a pipeline under a name, which an older pipeline of that name loses. -/
def bind (state : State π ω) (name : String) (pipeline : Pipeline (Step π)) : State π ω :=
  let others := state.names.filter fun entry => entry.1 != name
  { state.allocate pipeline with names := others ++ [(name, state.pipelines.length)] }

def note (record : Record) (state : State π ω) : State π ω :=
  { state with log := state.log.push record }

/-- How deep runs can nest: each takes a pipeline that is there, or a step that carries one. -/
def budget (state : State π ω) : Nat :=
  state.pipelines.foldr (fun pipeline depth => 1 + Step.positionsOf pipeline.steps + depth) 0

end State

/--
What the steps of a session mean: what is told of a step, and what the work of a step does to the
store `ω` when it is called with named contexts. It may look at the pipelines of the session.
-/
structure Language (π ω ρ ε : Type) where
  facts : Step π → Facts
  label : Step π → String
  /-- Why a step cannot be called with that many contexts. -/
  uncallable? : Nat → Step π → Option ε
  work : (String → Option (Pipeline (Step π))) → List String → π → ω → Except ε ρ × ω
  /-- The result of a step that has executed the steps it carries. -/
  gathered : List ρ → ρ
  /-- The result of a step that has executed a pipeline of the session. -/
  nothing : ρ
  /-- What is raised where a session has no pipeline of a name. -/
  unknown : String → ε

namespace Language

variable {π ω ρ ε : Type} [Cause ε]

abbrev SessionFault (π ρ ε : Type) :=
  Fault (Step π) ρ (Stop ε)

abbrev Ran (π ω ρ ε : Type) :=
  Outcome (SessionFault π ρ ε) (Report ρ) (State π ω)

abbrev SessionEngine (π ω ρ ε : Type) :=
  Engine (Step π) String ρ (Stop ε) (State π ω)

/-- Does what a step is there for, where nested pipelines are executed as given. -/
def carryOut (language : Language π ω ρ ε)
    (nested : Nat → List String → State π ω → Ran π ω ρ ε) (contexts : List String)
    (state : State π ω) : Step π → Outcome (SessionFault π ρ ε) ρ (State π ω)
  | .own work =>
    let (outcome, store) := language.work state.pipeline? contexts work state.store
    (outcome.mapError fun error => .raised (.thrown error), { state with store })
  | .nest steps =>
    match Pipeline.ofSource language.facts ⟨steps, none⟩ none with
    | .error fault => (.error fault, state)
    | .ok pipeline =>
      let (outcome, state) := nested state.pipelines.length contexts (state.allocate pipeline)
      (outcome.map fun report => language.gathered report.results, state)
  | .reenter name =>
    match state.address? name with
    | none => (.error (.raised (.thrown (language.unknown name))), state)
    | some address =>
      let (outcome, state) := nested address contexts state
      (outcome.map fun _ => language.nothing, state)

def performWith (language : Language π ω ρ ε)
    (nested : Nat → List String → State π ω → Ran π ω ρ ε) (contexts : List String)
    (step : Step π) (state : State π ω) : Outcome (SessionFault π ρ ε) ρ (State π ω) :=
  match language.uncallable? contexts.length step with
  | some error => (.error (.raised (.thrown error)), state)
  | none => language.carryOut nested contexts state step

/-- The engine whose steps execute nested pipelines down to the given depth. -/
def engine (language : Language π ω ρ ε) : (depth : Nat) → SessionEngine π ω ρ ε
  | 0 =>
    { label := language.label
      note := State.note
      perform := language.performWith fun _ _ state => (.error (.raised .tooDeep), state) }
  | depth + 1 =>
    { label := language.label
      note := State.note
      perform := language.performWith fun address =>
        Pipeline.execute (language.engine depth) (State.place address) }

def engineIn (language : Language π ω ρ ε) (state : State π ω) : SessionEngine π ω ρ ε :=
  language.engine state.budget

def make (language : Language π ω ρ ε) (name : String)
    (source : Source (Step π) (SessionFault π ρ ε)) (pin : Option Shape) (state : State π ω) :
    Outcome (SessionFault π ρ ε) Unit (State π ω) :=
  match Pipeline.ofSource language.facts source pin with
  | .error fault => (.error fault, state)
  | .ok pipeline => (.ok (), state.bind name pipeline)

def execute (language : Language π ω ρ ε) (address : Nat) (contexts : List String)
    (state : State π ω) : Ran π ω ρ ε :=
  Pipeline.execute (language.engineIn state) (State.place address) contexts state

/-- Runs the items of a source as they come, without a pipeline. -/
def run (language : Language π ω ρ ε) (source : Source (Step π) (SessionFault π ρ ε))
    (contexts : List String) (state : State π ω) : Ran π ω ρ ε :=
  let depth := state.budget + Step.positionsOf source.items
  (language.engine depth).run contexts (fun _ state => state) source state

def perform (language : Language π ω ρ ε) (step : Step π) (contexts : List String)
    (state : State π ω) : Outcome (SessionFault π ρ ε) ρ (State π ω) :=
  let depth := state.budget + step.positions
  (language.engine depth).perform contexts step state

/-- The one shape of the items of a source, looked at as they come. -/
def resolve (language : Language π ω ρ ε) (source : Source (Step π) (SessionFault π ρ ε))
    (pin : Option Shape) : Except (SessionFault π ρ ε) (Option Shape) :=
  match Pipeline.resolveShape language.facts source.items pin, source.ending with
  | .error fault, _ => .error (.misfit fault)
  | .ok _, some fault => .error fault
  | .ok shape, none => .ok shape

end Language

end StepPipeline.Session
