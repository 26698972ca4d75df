import StepPipeline.Config.Check

/-!
The configuration of a grid world, and how it is read from a value. The checks are made in the order
in which the fields are named here, so the first that fails decides what is said; keys that are not
named are not looked at.
-/

set_option autoImplicit false

namespace StepPipeline

/-- An amount put into one cell on every tick. -/
structure Config.Source (ν : Type) where
  x : Int
  y : Int
  amount : ν
  deriving DecidableEq, Repr

/--
A grid world of `width` columns and `height` rows. `ν` is the type of its quantities: the length of
a tick, the diffusivity, the half-life of what is in the cells (if it decays) and the amounts.
-/
structure Config (ν : Type) where
  width : Int
  height : Int
  tickLength : ν
  diffusivity : ν
  halfLife : Option ν
  sources : List (Config.Source ν)
  deriving DecidableEq, Repr

end StepPipeline

namespace StepPipeline.Config

def sourcePlace (index : Nat) : String :=
  s!"world.sources[{index}]"

def readSource (width height : Int) (index : Nat) (item : Value) :
    Except Refusal (Source Float) := do
  let place := sourcePlace index
  let entries ← asDict item place
  let field (key : String) := required (.dict entries) (.text key) place
  let x ← asInteger (← field "x") "x" place
  let y ← asInteger (← field "y") "y" place
  let amount ← asNumber (← field "amount") "amount" place
  if 0 ≤ x ∧ x < width ∧ 0 ≤ y ∧ y < height then
    let amount ← nonnegative (place ++ ".amount") amount
    return ⟨x, y, amount⟩
  else refuse (.outside place x y width height)

def readSourcesFrom (width height : Int) :
    (index : Nat) → List Value → Except Refusal (List (Source Float))
  | _, [] => .ok []
  | index, item :: rest => do
    let source ← readSource width height index item
    let others ← readSourcesFrom width height (index + 1) rest
    return source :: others

def readSources (width height : Int) : Option Value → Except Refusal (List (Source Float))
  | none => .ok []
  | some .none => .ok []
  | some (.list items) => readSourcesFrom width height 0 items
  | some _ => refuse (.notList "world.sources")

def numberOr (fallback : Float) (entries : List (Value × Value)) (key : String) :
    Except Refusal Float :=
  match Value.lookup? (.text key) entries with
  | none => .ok fallback
  | some found => asNumber found key "world"

def readHalfLife (entries : List (Value × Value)) : Except Refusal (Option Float) :=
  match Value.lookup? (.text "half_life_s") entries with
  | none => .ok none
  | some .none => .ok none
  | some found => do
    let x ← asNumber found "half_life_s" "world"
    let x ← positive "world.half_life_s" x
    return some x

def readWorld (entries : List (Value × Value)) : Except Refusal (Config Float) := do
  let field (key : String) := required (.dict entries) (.text key) "world"
  let width ← asInteger (← field "Nx") "Nx" "world"
  let height ← asInteger (← field "Ny") "Ny" "world"
  let width ← positiveInteger "world.Nx" width
  let height ← positiveInteger "world.Ny" height
  let tickLength ← numberOr 1.0 entries "dt_s"
  let tickLength ← positive "world.dt_s" tickLength
  let diffusivity ← numberOr 0.0 entries "diffusivity"
  let diffusivity ← nonnegative "world.diffusivity" diffusivity
  let halfLife ← readHalfLife entries
  let sources ← readSources width height (Value.lookup? (.text "sources") entries)
  return { width, height, tickLength, diffusivity, halfLife, sources }

def read (payload : Value) : Except Refusal (Config Float) := do
  let world ← required payload (.text "world") "config"
  let entries ← asDict world "config.world"
  readWorld entries

end StepPipeline.Config
