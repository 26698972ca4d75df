import StepPipeline.Calendar
import StepPipeline.Numeral.Binary64

/-!
The values that configurations hold and that steps carry, receive and return. Collections keep their
order; a dictionary is a list of entries whose keys differ pairwise. Truth values, integers and
floating-point numbers are equal whenever they denote the same number.
-/

set_option autoImplicit false

namespace StepPipeline

inductive Value where
  | none
  | bool (b : Bool)
  | int (n : Int)
  | float (x : Float)
  | text (s : String)
  /-- A text that no row of characters makes up, since halves of surrogate pairs are in it. -/
  | halves (codes : List Nat)
  | bytes (bs : List UInt8)
  | list (items : List Value)
  | tuple (items : List Value)
  | set (items : List Value)
  | dict (entries : List (Value × Value))
  /-- A mapping that can be looked up but is no dictionary. -/
  | mapping (entries : List (Value × Value))
  | moment (m : Calendar.Moment)
  /-- A reference from inside a list to that list. -/
  | enclosingList
  /-- A reference from inside a dictionary to that dictionary. -/
  | enclosingDict

instance : Inhabited Value := ⟨.none⟩

namespace Value

def typeName : Value → String
  | .none => "NoneType"
  | .bool _ => "bool"
  | .int _ => "int"
  | .float _ => "float"
  | .text _ => "str"
  | .halves _ => "str"
  | .bytes _ => "bytes"
  | .list _ => "list"
  | .tuple _ => "tuple"
  | .set _ => "set"
  | .dict _ => "dict"
  | .mapping _ => "mappingproxy"
  | .moment m => if m.clock.isSome then "datetime" else "date"
  | .enclosingList => "list"
  | .enclosingDict => "dict"

/-- The integer that a truth value or an integer stands for. -/
def integer? : Value → Option Int
  | .bool b => some (if b then 1 else 0)
  | .int n => some n
  | _ => Option.none

/-- Does a value count as true? Zeros, what is empty and nothing itself do not. -/
def countsAsTrue : Value → Bool
  | .none => false
  | .bool b => b
  | .int n => n != 0
  | .float x => x != 0.0
  | .text s => !s.isEmpty
  | .halves codes => !codes.isEmpty
  | .bytes bs => !bs.isEmpty
  | .list items => !items.isEmpty
  | .tuple items => !items.isEmpty
  | .set items => !items.isEmpty
  | .dict entries => !entries.isEmpty
  | .mapping entries => !entries.isEmpty
  | .moment _ => true
  | .enclosingList => true
  | .enclosingDict => true

def sameNumber (n : Int) (x : Float) : Bool :=
  Numeral.Binary64.integer? x == some n

mutual

def same : Value → Value → Bool
  | .none, .none => true
  | .text a, .text b => a == b
  | .halves a, .halves b => a == b
  | .bytes a, .bytes b => a == b
  | .list a, .list b => sameItems a b
  | .tuple a, .tuple b => sameItems a b
  | .set a, .set b => a.length == b.length && sameItems a b
  | .dict a, .dict b => a.length == b.length && sameEntries a b
  | .mapping a, .mapping b => a.length == b.length && sameEntries a b
  | .moment a, .moment b => a.same b
  | .float x, .float y => x == y
  | .float x, .int n => sameNumber n x
  | .float x, .bool b => sameNumber (if b then 1 else 0) x
  | .int n, .float y => sameNumber n y
  | .int n, .int m => n == m
  | .int n, .bool b => n == (if b then 1 else 0)
  | .bool b, .float y => sameNumber (if b then 1 else 0) y
  | .bool b, .int n => n == (if b then 1 else 0)
  | .bool a, .bool b => a == b
  | _, _ => false

def sameItems : List Value → List Value → Bool
  | [], [] => true
  | a :: as, b :: bs => same a b && sameItems as bs
  | _, _ => false

def sameEntries : List (Value × Value) → List (Value × Value) → Bool
  | [], _ => true
  | (k, v) :: rest, others =>
    others.any (fun other => same k other.1 && same v other.2) && sameEntries rest others

end

mutual

/-- The type of the first part of a value because of which it cannot be a key: a collection other
than a tuple. -/
def unfitForKey? : Value → Option String
  | .list _ => some "list"
  | .set _ => some "set"
  | .dict _ => some "dict"
  | .mapping _ => some "mappingproxy"
  | .enclosingList => some "list"
  | .enclosingDict => some "dict"
  | .tuple items => firstUnfit? items
  | _ => Option.none

def firstUnfit? : List Value → Option String
  | [] => Option.none
  | v :: rest => (unfitForKey? v).or (firstUnfit? rest)

end

def lookup? {α : Type} (key : Value) (entries : List (Value × α)) : Option α :=
  (entries.find? fun entry => same key entry.1).map Prod.snd

/-- Puts a value under a key; a key that is there keeps its place and its spelling. -/
def insert {α : Type} (key : Value) (value : α) : List (Value × α) → List (Value × α)
  | [] => [(key, value)]
  | (k, v) :: rest =>
    if same key k then (k, value) :: rest else (k, v) :: insert key value rest

/-- The dictionary of a row of entries: of equal keys the first stays and the last value counts. -/
def ofEntries {α : Type} (entries : List (Value × α)) : List (Value × α) :=
  entries.foldl (fun built entry => insert entry.1 entry.2 built) []

end Value

end StepPipeline
