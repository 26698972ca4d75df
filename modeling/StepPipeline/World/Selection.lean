import StepPipeline.Grid
import StepPipeline.Value.Arithmetic
import StepPipeline.Value.Block
import StepPipeline.World.Fault

/-!
Worlds, and selections in their grids. A world is a grid of amounts that changes from tick to tick,
the time that has passed, and the events that have taken place. As a coordinate an integer means one
line of a grid, a block of integers several, and a block of truth values the lines that it marks; a
truth value or nothing at all means no line, so that the other coordinate has all of the grid to
itself. A column and a row select one cell, if both are integers, and else a block of cells. Indices
count from the end if they are negative, and all of them have to lie in the grid.
-/

set_option autoImplicit false

namespace StepPipeline

/-- A world; `α` is the type of its amounts and of its time. -/
structure World (α : Type) where
  height : Nat
  width : Nat
  grid : Grid height width α
  time : α
  ticks : Nat := 0
  events : Array String := #[]

/-- The tick that an operation takes part in: the text of its index, and its length. -/
structure Tick (ν : Type) where
  index : String
  length : ν
  deriving DecidableEq, Repr

def World.ofGrid {α : Type} [OfNat α 0] {height width : Nat} (grid : Grid height width α) :
    World α where
  height := height
  width := width
  grid := grid
  time := 0

end StepPipeline

namespace StepPipeline.World

/-- What a coordinate says about one axis of a grid, or about none. -/
inductive AxisPart where
  /-- No axis of the grid, but one more in what is selected. -/
  | fresh
  /-- No axis of the grid; all or nothing is selected. -/
  | kept (isKept : Bool)
  /-- The line with this index. -/
  | line (index : Int)
  /-- The lines with these indices, which make up a block. -/
  | lines (extents : Extents) (indices : List Int)
  /-- The lines with these indices, which are marked in a block along an axis of some size. -/
  | marked (size : Nat) (indices : List Int)

namespace AxisPart

def usesAxis : AxisPart → Bool
  | fresh => false
  | kept _ => false
  | _ => true

def extents? : AxisPart → Option Extents
  | kept isKept => some [if isKept then 1 else 0]
  | lines extents _ => some extents
  | marked _ indices => some [indices.length]
  | _ => none

end AxisPart

/-- An integer of 64 bits read with a sign. -/
def signedWord (n : Int) : Int :=
  if n < Numeral.twoTo 63 then n else n - Numeral.twoTo 64

def truePlaces (items : List Value) : List Nat :=
  (List.range items.length).zip items |>.filterMap fun (place, v) =>
    if v.countsAsTrue then some place else none

/-- The marked lines along each axis, given the places of the marks in the order of a block. -/
def markedParts (places : List Nat) : Extents → List AxisPart
  | [] => []
  | size :: rest =>
    let indices := places.map fun place => ((place / Extents.count rest % size : Nat) : Int)
    .marked size indices :: markedParts places rest

def partsOfBlock (block : Value.Block) : Except WorldFault (List AxisPart) :=
  if block.items.isEmpty then .ok [.lines block.extents []]
  else
    let indices := block.items.filterMap Value.integer?
    match block.kind with
    | .truth => .ok (markedParts (truePlaces block.items) block.extents)
    | .whole => .ok [.lines block.extents indices]
    | .unsigned => .ok [.lines block.extents (indices.map signedWord)]
    | _ => .error .noIndex

def partOfInt (n : Int) : Except WorldFault AxisPart :=
  if Value.isIndex n then .ok (.line n)
  else if Value.ItemKind.ofInt n = .unsigned then .error .hugeIndex
  else .error .noIndex

def blockOf (v : Value) : Except WorldFault Value.Block :=
  v.toBlock.mapError .block

def partsOf : Value → Except WorldFault (List AxisPart)
  | .none => .ok [.fresh]
  | .bool b => .ok [.kept b]
  | .int n => do return [← partOfInt n]
  | .list items => do partsOfBlock (← blockOf (.list items))
  | .tuple items => do partsOfBlock (← blockOf (.tuple items))
  | _ => .error .noIndex

inductive Selection (height width : Nat) where
  | cell (row : Fin height) (column : Fin width)
  /-- Cells that make up a block, in its order; a cell may occur in it several times. -/
  | block (extents : Extents) (places : List (Fin height × Fin width))

/-- An index within a size; a negative one counts from the end. -/
def wrapped? (size : Nat) (index : Int) : Option (Fin size) :=
  if low : 0 ≤ index ∧ index < size then some ⟨index.toNat, by omega⟩
  else if high : index < 0 ∧ 0 ≤ index + size then some ⟨(index + size).toNat, by omega⟩
  else none

/-- The row or column (axis 0 or 1) with an index. -/
def lineAt (axis size : Nat) (index : Int) : Except WorldFault (Fin size) :=
  match wrapped? size index with
  | some line => .ok line
  | none => .error (.outside index axis size)

/-- The lines of an axis that a part means, repeated to the extents of a block. -/
def linesOf (axis size : Nat) (target : Extents) : AxisPart → Except WorldFault (List (Fin size))
  | .line index => (lineAt axis size index).map (List.replicate target.count)
  | .lines extents indices =>
    if target.count = 0 then .ok []
    else (indices.mapM (lineAt axis size)).map (target.stretched extents)
  | .marked _ indices =>
    (indices.mapM (lineAt axis size)).map (target.stretched [indices.length])
  | _ => .ok []

def checkMarks (axis size : Nat) : AxisPart → Except WorldFault Unit
  | .marked marks _ => if marks = size then .ok () else .error (.marksMismatch axis size marks)
  | _ => .ok ()

def checkLine (axis size : Nat) : AxisPart → Except WorldFault Unit
  | .line index => discard (lineAt axis size index)
  | _ => .ok ()

/-- Performs a check for every part, with its axis and the size of that. -/
def checkAxes (check : (axis size : Nat) → AxisPart → Except WorldFault Unit)
    (sizes : List Nat) (parts : List AxisPart) : Except WorldFault Unit :=
  ((List.range sizes.length).zip (sizes.zip parts)).forM fun (axis, size, part) =>
    check axis size part

def commonExtents (parts : List AxisPart) : Except WorldFault Extents :=
  let blocks := parts.filterMap AxisPart.extents?
  match Extents.joinedAll? blocks with
  | some extents => .ok extents
  | none => .error (.indexMismatch blocks)

def freshAxes (parts : List AxisPart) : Nat :=
  parts.countP fun part => match part with
    | .fresh => true
    | _ => false

/-- The extents of a selection: those of the block that it is selected by stand where its first
part stands, and the axes of the grid that are left over come last. -/
def selectedExtents (parts : List AxisPart) (common left : Extents) : Extents :=
  let isFresh (part : AxisPart) : Bool := part.extents?.isNone
  let ones (parts : List AxisPart) : Extents := List.replicate (freshAxes parts) 1
  ones (parts.takeWhile isFresh) ++ common ++ ones (parts.dropWhile isFresh) ++ left

def checkRank (parts : List AxisPart) : Except WorldFault Unit := do
  let used := parts.countP AxisPart.usesAxis
  if 2 < used then throw (.tooManyIndices used)
  let ranks := parts.filterMap fun part => part.extents?.map List.length
  let rank := freshAxes parts + (2 - used) + ranks.foldl max 0
  if Value.axisLimit < rank then throw (.tooManyAxes rank)

variable {height width : Nat}

def rowPlaces (row : Fin height) : List (Fin height × Fin width) :=
  (List.finRange width).map fun column => (row, column)

def placesOf (height width : Nat) (common : Extents) :
    List AxisPart → Except WorldFault (List (Fin height × Fin width))
  | [] => .ok (List.replicate common.count ((List.finRange height).flatMap rowPlaces)).flatten
  | [row] => do
    let rows ← linesOf 0 height common row
    return rows.flatMap rowPlaces
  | row :: column :: _ => do
    let rows ← linesOf 0 height common row
    let columns ← linesOf 1 width common column
    return rows.zip columns

def blockSelected (height width : Nat) (parts : List AxisPart) :
    Except WorldFault (Selection height width) := do
  checkRank parts
  let axes := parts.filter AxisPart.usesAxis
  checkAxes checkMarks [height, width] axes
  checkAxes checkLine [height, width] axes
  let common ← commonExtents parts
  let places ← placesOf height width common axes
  return .block (selectedExtents parts common ([height, width].drop axes.length)) places

/-- What a column and a row select in a grid. -/
def select (height width : Nat) (x y : Value) : Except WorldFault (Selection height width) := do
  let rowParts ← partsOf y
  let columnParts ← partsOf x
  match rowParts ++ columnParts with
  | [.line row, .line column] => return .cell (← lineAt 0 height row) (← lineAt 1 width column)
  | parts => blockSelected height width parts

def cell {α : Type} (world : World α) (x y : Value) : Except WorldFault α := do
  match ← select world.height world.width x y with
  | .cell row column => return world.grid.get row column
  | .block .. => throw .notOneCell

end StepPipeline.World
