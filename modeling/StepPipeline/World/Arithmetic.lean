import StepPipeline.World.Op

/-!
World operations in floating-point arithmetic. Their quantities are values; a whole number that
meets a floating-point number is rounded to the nearest one.
-/

set_option autoImplicit false

namespace StepPipeline.World

/-- Reports values that cannot be computed with as a fault of the world. -/
def computed {α : Type} (result : Except Value.OperandFault α) : Except WorldFault α :=
  result.mapError .operands

/-- How the type of a text or byte string of some length is written. -/
def textCode (letter : String) (length : Nat) : String :=
  letter ++ toString (max length 1)

def summand (v : Value) : Except WorldFault Float :=
  computed (v.operand?.getD (.error (.unsupported "+" "float" v.typeName)))

/-- Refuses texts and byte strings as amounts. -/
def checkKind : Value.ItemKind → Except WorldFault Unit
  | .text length => .error (.textAmount (textCode "<U" length))
  | .bytes length => .error (.textAmount (textCode "S" length))
  | _ => .ok ()

/-- What is added to one cell; no block is. -/
def amountOf : Value → Except WorldFault Float
  | .list items => refused (.list items)
  | .tuple items => refused (.tuple items)
  | v => do
    checkKind (.of v)
    summand v
where
  /-- Why a block is not added to a cell. -/
  refused (v : Value) : Except WorldFault Float := do
    let block ← blockOf v
    checkKind block.kind
    if block.kind = .other then discard (block.items.mapM summand)
    throw .rowAmount

/-- The items of a block for cells with some extents. -/
def spread {α : Type} (cells extents : Extents) (items : List α) : Except WorldFault (List α) :=
  match cells.joined? extents with
  | some common =>
    if common = cells then .ok (cells.stretched extents items)
    else .error (.amountExcess cells common)
  | none => .error (.amountMismatch cells extents)

def amountsOf (cells : Extents) (v : Value) : Except WorldFault (List Float) := do
  let block ← blockOf v
  checkKind block.kind
  if block.kind = .other && v.integer?.isNone then throw .anyAmount
  spread cells block.extents (← block.items.mapM summand)

/-- A diffusion number from zero up to the limit of stability, one quarter. -/
def stableNumber (number : Value) : Except WorldFault Float := do
  if ← computed (number.isBelow 0.0) then throw (.negativeNumber number.plain)
  let x := computed (number.operand?.getD (.error (.unsupported "*" number.typeName "float")))
  if ← computed (number.isAbove 0.25) then throw (.unstable (Numeral.roundedText 6 (← x)))
  x

/-- One half to the power of a number. The powers with finite exponents from -1024 down are beyond
the range, the largest of them being two to the power of 1024. -/
def halfPower (x : Float) : Except WorldFault Float :=
  if x.isFinite && x ≤ -1024.0 then .error .powerBeyondRange else .ok (Float.pow 0.5 x)

def durationOf (length : Value) : Except WorldFault Float :=
  computed (length.operand?.getD (.error (.unsupported "+=" "float" length.typeName)))

def floating : Dynamics Value Float where
  amount := amountOf
  amounts := amountsOf
  diffusionNumber rate length := do
    let number ← computed (rate.mul length)
    stableNumber number
  remainder length halfLife := do
    let halvings ← computed (length.div halfLife)
    halfPower halvings
  duration := durationOf

end StepPipeline.World
