/-!
Extents of blocks. A block has a number of rows, each of which has a number of rows or items, and so
on; its items are listed with the last axis running fastest. Blocks of different extents are taken
together as if they had all axes of either: an axis that is missing has extent one, and an extent of
one stands for any other.
-/

set_option autoImplicit false

namespace StepPipeline

abbrev Extents := List Nat

namespace Extents

def count (extents : Extents) : Nat :=
  extents.foldr (· * ·) 1

/-- Extents written in brackets; a single one is followed by a comma. -/
def written : Extents → String
  | [n] => s!"({n},)"
  | extents => "(" ++ ",".intercalate (extents.map toString) ++ ")"

/-- The extents of some blocks, each followed by a blank. -/
def listed (blocks : List Extents) : String :=
  String.join (blocks.map fun extents => extents.written ++ " ")

/-- The extent that two extents have in common: an extent of one stands for any other. -/
def joinedExtent? (m n : Nat) : Option Nat :=
  if m = 1 then some n else if n = 1 ∨ n = m then some m else none

/-- The extents that two blocks have in common, both listed from the last axis. -/
def joinedFromLast? : Extents → Extents → Option Extents
  | [], b => some b
  | a, [] => some a
  | m :: a, n :: b => do
    let rest ← joinedFromLast? a b
    let extent ← joinedExtent? m n
    return extent :: rest

def joined? (a b : Extents) : Option Extents :=
  (joinedFromLast? a.reverse b.reverse).map List.reverse

def joinedAll? (blocks : List Extents) : Option Extents :=
  blocks.foldlM joined? []

def padded (rank : Nat) (extents : Extents) : Extents :=
  List.replicate (rank - extents.length) 1 ++ extents

def slabs {α : Type} (length : Nat) : Nat → List α → List (List α)
  | 0, _ => []
  | number + 1, items => items.take length :: slabs length number (items.drop length)

/-- The items of a block repeated to larger extents with the same axes. -/
def repeated {α : Type} : (target extents : Extents) → List α → List α
  | n :: target, m :: extents, items =>
    let parts := slabs (count extents) m items
    let parts := if m = 1 then (List.replicate n parts).flatten else parts
    parts.flatMap (repeated target extents)
  | _, _, items => items

/-- The items of a block repeated to the extents that it has in common with others. -/
def stretched {α : Type} (target extents : Extents) (items : List α) : List α :=
  repeated target (extents.padded target.length) items

end Extents

end StepPipeline
