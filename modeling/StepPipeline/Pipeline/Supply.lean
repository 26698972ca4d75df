import StepPipeline.Engine

/-!
Supplies: rows of items that are made when they are asked for. Before it gives an item, a supply may
look at the surroundings and change them, and in place of an item it may raise a fault; then it has
ended. Main definitions: `Supply.drain` takes all items at once, and `Engine.runSupply` asks for an
item only when the one before it has been performed.
-/

set_option autoImplicit false

namespace StepPipeline

/-- A row of items that are made when they are asked for. -/
inductive Supply (ι φ σ : Type) where
  | ended
  | raised (fault : φ)
  | gives (item : ι) (rest : Supply ι φ σ)
  /-- Changes the surroundings and goes on, both by what they are. -/
  | acts (change : σ → σ) (next : σ → Supply ι φ σ)

inductive Answer (ι φ : Type) where
  | nothing
  | fault (fault : φ)
  | item (item : ι)

namespace Supply

variable {ι φ σ : Type}

/-- Asks for the next item; the supply that is left answers what is asked later. -/
def ask : Supply ι φ σ → σ → Answer ι φ × Supply ι φ σ × σ
  | .ended, state => (.nothing, .ended, state)
  | .raised fault, state => (.fault fault, .ended, state)
  | .gives item rest, state => (.item item, rest, state)
  | .acts change next, state => (next state).ask (change state)

def drain : Supply ι φ σ → σ → Source ι φ × σ
  | .ended, state => (⟨[], none⟩, state)
  | .raised fault, state => (⟨[], some fault⟩, state)
  | .gives item rest, state =>
    let (source, state) := rest.drain state
    ({ source with items := item :: source.items }, state)
  | .acts change next, state => (next state).drain (change state)

/-- The supply of items that are there from the beginning. The surroundings are told what remains
when an item is taken. -/
def ofItems (taken : List ι → σ → σ) (ending : Option φ) : List ι → Supply ι φ σ
  | [] =>
    match ending with
    | none => .ended
    | some fault => .raised fault
  | item :: rest => .acts (taken rest) fun _ => .gives item (ofItems taken ending rest)

end Supply

/-- Performs items as a supply gives them, after others whose results are `done`. What is left of
the supply is part of what the run leaves. -/
def Engine.runSupply {ι κ ρ ε σ : Type} [Cause ε] (engine : Engine ι κ ρ ε σ)
    (contexts : List κ) :
    Supply ι (Fault ι ρ ε) σ → (done : List ρ) → σ →
      Outcome (Fault ι ρ ε) (Report ρ) (Supply ι (Fault ι ρ ε) σ × σ)
  | .ended, done, state => (.ok ⟨done⟩, .ended, state)
  | .raised fault, _, state => (.error fault, .ended, state)
  | .gives item rest, done, state =>
    let index := done.length
    let label := engine.label item
    match engine.perform contexts item (engine.note (.running index label) state) with
    | (.ok result, state) => engine.runSupply contexts rest (done ++ [result]) state
    | (.error fault, state) =>
      if fault.escapes then (.error fault, rest, state)
      else
        (.error (.because ⟨index, item, label, done⟩ fault), rest,
          engine.note (.stepFailed index label index fault.message) state)
  | .acts change next, done, state => engine.runSupply contexts (next state) done (change state)

end StepPipeline
