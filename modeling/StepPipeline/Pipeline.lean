import StepPipeline.Engine

/-!
Pipelines: ordered rows of steps that are executed once. A pipeline is part of the surroundings in
which it runs, because its own steps may look at it or try to execute it again. `execute` refuses
a pipeline that has been executed and contexts that do not fit; otherwise the pipeline is consumed
before its first step is performed, gives up each step as it is taken, and is empty at the end
however the run ends. `ofSource` takes all items from a source before any is looked at; then each
must be an operation value of the one shape that the pipeline is pinned to or, without a pin, that
its first item has.
-/

set_option autoImplicit false

namespace StepPipeline

/-- A row of steps of one shape; only an empty pipeline may have none. -/
structure Pipeline (ι : Type) where
  steps : List ι
  shape : Option Shape
  consumed : Bool := false
  deriving DecidableEq, Repr

structure Place (ι σ : Type) where
  get : σ → Pipeline ι
  put : Pipeline ι → σ → σ

def Place.first {ι σ : Type} : Place ι (Pipeline ι × σ) where
  get := Prod.fst
  put pipeline := fun (_, state) => (pipeline, state)

namespace Pipeline

variable {ι κ ρ ε σ : Type}

def shown (pipeline : Pipeline ι) : String :=
  let state := if pipeline.consumed then "consumed" else s!"holding {pipeline.steps.length}"
  let shape := (pipeline.shape.map Shape.name).getD "None"
  s!"Pipeline({state}, shape={shape})"

/-- What keeps contexts of the given number from a pipeline of the given shape. -/
def contextFault? (shape : Option Shape) (given : Nat) : Option ShapeFault :=
  match shape with
  | none => if given > Shape.pair.arity then some (.tooManyContexts given) else none
  | some shape => if given = shape.arity then none else some (.contextCount shape given)

def refusal? (pipeline : Pipeline ι) (given : Nat) : Option (Fault ι ρ ε) :=
  if pipeline.consumed then some .consumed
  else (contextFault? pipeline.shape given).map Fault.misfit

/-- A consumed pipeline with the given steps left. -/
def spent (pipeline : Pipeline ι) (left : List ι) : Pipeline ι :=
  { pipeline with steps := left, consumed := true }

def execute [Cause ε] (engine : Engine ι κ ρ ε σ) (place : Place ι σ) (contexts : List κ)
    (state : σ) : Outcome (Fault ι ρ ε) (Report ρ) σ :=
  let pipeline := place.get state
  match pipeline.refusal? contexts.length with
  | some fault => (.error fault, state)
  | none =>
    let opened := place.put (pipeline.spent pipeline.steps) state
    let begun := engine.note (.executing pipeline.steps.length contexts.length) opened
    let left (rest : List ι) := place.put (pipeline.spent rest)
    let (outcome, ended) := engine.run contexts left ⟨pipeline.steps, none⟩ begun
    let closed := place.put (pipeline.spent []) ended
    match outcome with
    | .ok report => (.ok report, engine.note (.finished report.completed) closed)
    | .error fault => (.error fault, closed)

/-- Executes a pipeline that none of its steps can see. -/
def executeAlone [Cause ε] (engine : Engine ι κ ρ ε σ) (pipeline : Pipeline ι) (contexts : List κ)
    (state : σ) : Outcome (Fault ι ρ ε) (Report ρ) σ :=
  let (outcome, _, state) := execute engine.beside Place.first contexts (pipeline, state)
  (outcome, state)

end Pipeline

/-- What can be told of an item before it is performed. -/
structure Facts where
  /-- The name of the item's type. -/
  typeName : String
  /-- The item's own name, if it is a class. -/
  className? : Option String := none
  /-- The contracts that the item's type fulfils. -/
  contracts : List Shape
  deriving DecidableEq, Repr

namespace Pipeline

variable {ι ρ ε : Type}

/-- The shape of the item at an index, where another may be expected. -/
def itemShape (facts : Facts) (index : Nat) (expected : Option Shape) : Except ShapeFault Shape :=
  match facts.className? with
  | some className => .error (.classItem index className)
  | none =>
    match Shape.ofContracts facts.typeName facts.contracts with
    | .error fault => .error (.shapelessItem index fault)
    | .ok shape =>
      match expected with
      | none => .ok shape
      | some expected =>
        if shape = expected then .ok shape
        else .error (.otherShape index facts.typeName shape expected)

def resolveFrom (facts : ι → Facts) :
    (index : Nat) → (expected : Option Shape) → List ι → Except ShapeFault (Option Shape)
  | _, expected, [] => .ok expected
  | index, expected, item :: rest =>
    match itemShape (facts item) index expected with
    | .error fault => .error fault
    | .ok shape => resolveFrom facts (index + 1) (some shape) rest

/-- The one shape of a row of items, which must be the pinned one if there is a pin. -/
def resolveShape (facts : ι → Facts) (items : List ι) (pin : Option Shape) :
    Except ShapeFault (Option Shape) :=
  resolveFrom facts 0 pin items

def ofSource (facts : ι → Facts) (source : Source ι (Fault ι ρ ε)) (pin : Option Shape) :
    Except (Fault ι ρ ε) (Pipeline ι) :=
  match source.ending with
  | some fault => .error fault
  | none =>
    match resolveShape facts source.items pin with
    | .error fault => .error (.misfit fault)
    | .ok shape => .ok { steps := source.items, shape }

end Pipeline

end StepPipeline
