import StepPipeline.Fault
import StepPipeline.Record

/-!
The loop that carries out steps. `run` takes the items of a source one by one and performs each
before it takes the next; it ends with the report of all results, with the failure of the first
step that fails, or with what the source raises when its items are used up. What a step does to the
surroundings stays done whether the run ends early or not.
-/

set_option autoImplicit false

namespace StepPipeline

structure Report (ρ : Type) where
  results : List ρ
  deriving DecidableEq, Repr

def Report.completed {ρ : Type} (report : Report ρ) : Nat :=
  report.results.length

/-- A row of items that ends, or that raises a fault after its last item. -/
structure Source (ι φ : Type) where
  items : List ι
  ending : Option φ := none
  deriving DecidableEq, Repr

/-- The outcome of an action together with the surroundings it leaves. -/
abbrev Outcome (φ α σ : Type) :=
  Except φ α × σ

/--
What the loop needs to know of its surroundings `σ`: how a step is labelled, what it does when it is
called with a row of contexts `κ`, and where log records go.
-/
structure Engine (ι κ ρ ε σ : Type) where
  label : ι → String
  perform : List κ → ι → σ → Outcome (Fault ι ρ ε) ρ σ
  note : Record → σ → σ

namespace Engine

variable {ι κ ρ ε σ : Type} [Cause ε]

/--
Performs the remaining items after those whose results are `done`. Before an item is performed,
`taken` is told what then remains.
-/
def runFrom (engine : Engine ι κ ρ ε σ) (contexts : List κ) (taken : List ι → σ → σ)
    (ending : Option (Fault ι ρ ε)) :
    (remaining : List ι) → (done : List ρ) → σ → Outcome (Fault ι ρ ε) (Report ρ) σ
  | [], done, state =>
    match ending with
    | none => (.ok ⟨done⟩, state)
    | some fault => (.error fault, state)
  | item :: rest, done, state =>
    let index := done.length
    let label := engine.label item
    let started := engine.note (.running index label) (taken rest state)
    match engine.perform contexts item started with
    | (.ok result, state) => runFrom engine contexts taken ending rest (done ++ [result]) state
    | (.error fault, state) =>
      if fault.escapes then (.error fault, state)
      else
        (.error (.because ⟨index, item, label, done⟩ fault),
          engine.note (.stepFailed index label index fault.message) state)

def run (engine : Engine ι κ ρ ε σ) (contexts : List κ) (taken : List ι → σ → σ)
    (source : Source ι (Fault ι ρ ε)) (state : σ) : Outcome (Fault ι ρ ε) (Report ρ) σ :=
  engine.runFrom contexts taken source.ending source.items [] state

/-- The same engine in surroundings that hold something more. -/
def beside {τ : Type} (engine : Engine ι κ ρ ε σ) : Engine ι κ ρ ε (τ × σ) where
  label := engine.label
  perform contexts item := fun (other, state) =>
    let (outcome, state) := engine.perform contexts item state
    (outcome, other, state)
  note record := fun (other, state) => (other, engine.note record state)

end Engine

end StepPipeline
