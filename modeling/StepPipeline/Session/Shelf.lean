import StepPipeline.Pipeline.Supply
import StepPipeline.Session.Language

/-!
Where the steps of pipelines come from. The objects that give steps are lists, which may be changed
later on, tuples, and generators, which give each item once; they are known by their addresses. A
conversion first takes all items of an object, and what is told of them is told after that.
-/

set_option autoImplicit false

namespace StepPipeline.Session

open Session.Language (SessionFault)

inductive Origin (ι φ ω : Type) where
  | list (items : List ι)
  | tuple (items : List ι)
  | generator (left : Supply ι φ ω)

/-- What is left of an object all of whose items have been taken: only a generator gives its items
up. -/
def Origin.taken {ι φ ω : Type} : Origin ι φ ω → Origin ι φ ω
  | generator _ => generator .ended
  | origin => origin

structure Shelf (ι φ ω : Type) where
  origins : List (Origin ι φ ω)
  others : ω

def Shelf.take {ι φ ω : Type} (shelf : Shelf ι φ ω) (address : Nat) :
    Source ι φ × Shelf ι φ ω :=
  match shelf.origins[address]? with
  | none => (⟨[], none⟩, shelf)
  | some (.list items) => (⟨items, none⟩, shelf)
  | some (.tuple items) => (⟨items, none⟩, shelf)
  | some (.generator left) =>
    let (source, others) := left.drain shelf.others
    (source, { origins := shelf.origins.set address (.generator .ended), others })

/-- Adds a pipeline if it could be made; what comes of that is its address. -/
def State.receive {π ω φ : Type} (made : Except φ (Pipeline (Step π))) (state : State π ω) :
    Outcome φ Nat (State π ω) :=
  match made with
  | .error fault => (.error fault, state)
  | .ok pipeline => (.ok state.pipelines.length, state.allocate pipeline)

variable {π ω ρ ε : Type}

abbrev ShelfState (π ω ρ ε : Type) :=
  State π (Shelf (Step π) (SessionFault π ρ ε) ω)

def State.convert (facts : ω → Step π → Facts) (origin : Nat) (pin : Option Shape)
    (state : ShelfState π ω ρ ε) : Outcome (SessionFault π ρ ε) Nat (ShelfState π ω ρ ε) :=
  let (source, store) := state.store.take origin
  { state with store }.receive (Pipeline.ofSource (facts store.others) source pin)

end StepPipeline.Session
