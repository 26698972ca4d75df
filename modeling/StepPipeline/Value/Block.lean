import StepPipeline.Extents
import StepPipeline.Numeral.Binary64
import StepPipeline.Value.Shown

/-!
Values as blocks. Lists and tuples that are nested evenly make up a block: its extents are the
lengths on each level, its items the values inside. Items of a block are of one kind, the least one
that all of them belong to.
-/

set_option autoImplicit false

namespace StepPipeline.Value

def axisLimit : Nat := 64

/-- What is known of a block while its rows are gone through in order. -/
structure Outline where
  /-- The lengths of the rows on each level, from the outermost. -/
  extents : Extents := []
  /-- Items stand on this level, or on an outer one. -/
  depth : Nat := axisLimit
  /-- An item, or an empty row, has been reached. -/
  isFixed : Bool := false
  /-- The rows are nested unevenly. -/
  isRagged : Bool := false

namespace Outline

def item (outline : Outline) (level : Nat) : Outline :=
  { outline with
    depth := level
    isFixed := true
    isRagged := outline.isRagged || (outline.isFixed && outline.depth != level) }

/-- The outline after a row that stands where items are expected. -/
def excess (outline : Outline) : Outline :=
  { outline with isFixed := true, isRagged := true }

/-- The outline with a row of a length on a level, unless it is of another length than the rows
before it. -/
def row? (outline : Outline) (level length : Nat) : Option Outline :=
  if !outline.isFixed then some { outline with extents := outline.extents ++ [length] }
  else if outline.extents[level]? == some length then some outline
  else Option.none

def uneven (outline : Outline) (level : Nat) : Outline :=
  { outline with depth := level, isRagged := true }

def ended (outline : Outline) (level : Nat) : Outline :=
  { outline with depth := level + 1, isFixed := true }

/-- The outline after a row of a length, whose items are gone through by `inner`. -/
def throughRow (outline : Outline) (level length : Nat) (inner : Outline → Outline) : Outline :=
  if level = outline.depth then outline.excess
  else
    match outline.row? level length with
    | Option.none => outline.uneven level
    | some outline => if length = 0 then outline.ended level else inner outline

end Outline

mutual

def outlined (level : Nat) (outline : Outline) : Value → Outline
  | .list items =>
    outline.throughRow level items.length fun outline => outlinedItems (level + 1) outline items
  | .tuple items =>
    outline.throughRow level items.length fun outline => outlinedItems (level + 1) outline items
  | _ => outline.item level

def outlinedItems (level : Nat) (outline : Outline) : List Value → Outline
  | [] => outline
  | v :: rest => outlinedItems level (outlined level outline v) rest

end

mutual

def leaves : Value → List Value
  | .list items => leavesOfItems items
  | .tuple items => leavesOfItems items
  | v => [v]

def leavesOfItems : List Value → List Value
  | [] => []
  | v :: rest => leaves v ++ leavesOfItems rest

end

structure Block where
  extents : Extents
  items : List Value

inductive BlockFault where
  /-- Below some levels, with these extents, the rows are nested unevenly. -/
  | uneven (extents : Extents)
  /-- Rows are nested too deeply. -/
  | tooDeep
  deriving DecidableEq, Repr

def BlockFault.message : BlockFault → String
  | uneven extents =>
    let shown := (Value.tuple (extents.map fun (n : Nat) => Value.int n)).shown
    "setting an array element with a sequence. The requested array has an inhomogeneous shape " ++
      s!"after {extents.length} dimensions. The detected shape was {shown} + inhomogeneous part."
  | tooDeep =>
    "setting an array element with a sequence. The requested array would exceed the maximum " ++
      s!"number of dimension of {axisLimit}."

/-- Nested rows as a block; any other value is a block of one item without axes. -/
def toBlock (v : Value) : Except BlockFault Block :=
  let outline := outlined 0 {} v
  let extents := outline.extents.take outline.depth
  if !outline.isRagged then .ok ⟨extents, leaves v⟩
  else if outline.depth = axisLimit then .error .tooDeep
  else .error (.uneven extents)

/-! ### Kinds of items -/

/-- What the items of a block have in common. -/
inductive ItemKind where
  | truth
  /-- Integers of 64 bits with a sign. -/
  | whole
  /-- Integers of 64 bits without a sign. -/
  | unsigned
  | real
  /-- Byte strings up to a length. -/
  | bytes (length : Nat)
  /-- Texts up to a length. -/
  | text (length : Nat)
  | other
  deriving DecidableEq, Repr

namespace ItemKind

def ofInt (n : Int) : ItemKind :=
  if -(Numeral.twoTo 63 : Int) ≤ n && n < Numeral.twoTo 63 then .whole
  else if 0 ≤ n && n < Numeral.twoTo 64 then .unsigned
  else .other

def of : Value → ItemKind
  | .bool _ => .truth
  | .int n => ofInt n
  | .float _ => .real
  | .text s => .text s.length
  | .halves codes => .text codes.length
  | .bytes bs => .bytes bs.length
  | _ => .other

/-- The length that items have at most when they are written as texts. -/
def width : ItemKind → Nat
  | truth => 5
  | whole => 21
  | unsigned => 20
  | real => 32
  | bytes length => length
  | text length => length
  | other => 0

/-- The least kind that the items of two kinds belong to. -/
def joined (a b : ItemKind) : ItemKind :=
  match a, b with
  | other, _ => other
  | _, other => other
  | text length, b => text (max length b.width)
  | a, text length => text (max a.width length)
  | bytes length, b => bytes (max length b.width)
  | a, bytes length => bytes (max a.width length)
  | real, _ => real
  | _, real => real
  | truth, b => b
  | a, truth => a
  | whole, whole => whole
  | unsigned, unsigned => unsigned
  | _, _ => real

/-- The kind of a row of items; without items it is that of floating-point numbers. -/
def ofItems : List Value → ItemKind
  | [] => real
  | v :: rest => rest.foldl (fun kind v => kind.joined (of v)) (of v)

end ItemKind

def Block.kind (block : Block) : ItemKind :=
  ItemKind.ofItems block.items

end StepPipeline.Value
