import StepPipeline.Value

/-!
The order in which a set of numbers shows its members: that of a table with open addressing, in
which every number has its place by its residue. Numbers that are equal have equal residues, so the
order does not depend on how a number is written. Other sets show their members as they came.
-/

set_option autoImplicit false

namespace StepPipeline.Value

/-- Numbers are taken modulo this prime, in which two is of order `residueBits`. -/
def residueModulus : Nat := Numeral.twoTo 61 - 1

def residueBits : Int := 61

/-- A residue with the sign of its number; minus one is left to other uses. -/
def signedResidue (negative : Bool) (residue : Nat) : Int :=
  let signed : Int := if negative then -(residue : Int) else residue
  if signed = -1 then -2 else signed

def infiniteResidue : Nat := 314159

/-- The residue of a number; `none` for other values and for what is no number. -/
def residue? (v : Value) : Option Int :=
  match v with
  | .float x =>
    match Numeral.Binary64.parts x with
    | .finite negative mantissa exponent =>
      let power := Numeral.twoTo (Int.emod exponent residueBits).toNat
      some (signedResidue negative (mantissa * power % residueModulus))
    | .infinite negative => some (signedResidue negative infiniteResidue)
    | .nan => Option.none
  | v => v.integer?.map fun n => signedResidue (n < 0) (n.natAbs % residueModulus)

/-- A table of members: each has at most one place. -/
abbrev MemberTable := Array (Option Value)

namespace MemberTable

/-- The number of places of a table for `count` members, a power of two: eight for up to four, and
else more than twice as many as there are members. -/
def placesFor (count : Nat) : Nat :=
  if count < 5 then 8 else Numeral.twoTo ((2 * count).log2 + 1)

/-- So many places are looked at after a place, if the table goes on so far. -/
def run : Nat := 9

def freeFrom? (table : MemberTable) (place : Nat) : Option Nat :=
  let last := if place + run < table.size then place + run else place
  (List.range' place (last + 1 - place)).find? fun i => (table[i]?.getD none).isNone

/-- Puts a member at the first free place. Where a run is full the search goes on elsewhere, by a
rule that uses up the bits of `rest` and then comes to all places; `fuel` bounds the search. -/
def insertFrom (table : MemberTable) (member : Value) : (fuel place rest : Nat) → MemberTable
  | 0, _, _ => table
  | fuel + 1, place, rest =>
    match freeFrom? table place with
    | some i => table.setIfInBounds i (some member)
    | Option.none =>
      let rest := rest / 32
      insertFrom table member fuel ((place * 5 + 1 + rest) % table.size) rest

def insert (table : MemberTable) (member : Value) (residue : Int) : MemberTable :=
  let word := (Int.emod residue (Numeral.twoTo 64)).toNat
  insertFrom table member (table.size + 16) (word % table.size) word

end MemberTable

/-- The members of a set, in the order in which they are shown. -/
def arranged (members : List Value) : List Value :=
  match members.mapM fun member => member.residue?.map fun residue => (member, residue) with
  | Option.none => members
  | some placed =>
    let empty : MemberTable := Array.replicate (MemberTable.placesFor members.length) Option.none
    let table := placed.foldl (fun table entry => table.insert entry.1 entry.2) empty
    table.toList.filterMap id

end StepPipeline.Value
