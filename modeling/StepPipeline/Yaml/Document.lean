import StepPipeline.Yaml.Meaning

/-!
The value of a document. A collection that refers to one that it stands in would have no end when
written out, so such a reference is marked. Where a part of the document is looked at by itself,
only references from within that part count.
-/

set_option autoImplicit false

namespace StepPipeline.Yaml

/-- A document: what its nodes stand for, and which of them it is. -/
structure Document where
  meanings : Array Meaning
  root : Nat

/-- A step from a collection to what stands in it. -/
inductive Step where
  /-- To the value under a key. -/
  | key (name : String)
  /-- To every item. -/
  | item
  deriving DecidableEq, Repr

namespace Document

def meaning (document : Document) (n : Nat) : Meaning :=
  (document.meanings[n]?).getD default

/-- The mark of a reference to an enclosing collection. -/
def enclosing : Meaning → Value
  | .dict _ => .enclosingDict
  | _ => .enclosingList

/-- The value of a node inside the collections `within`; `fuel` bounds the depth. -/
def valueIn (document : Document) : (fuel : Nat) → (within : List Nat) → Nat → Value
  | 0, _, _ => .none
  | fuel + 1, within, n =>
    if within.contains n then enclosing (document.meaning n)
    else
      let value := document.valueIn fuel (n :: within)
      match document.meaning n with
      | .atom v => v
      | .list items => .list (items.map value)
      | .dict entries => .dict (entries.map fun entry => (entry.1, value entry.2))
      | .set keys => .set keys
      | .pairs items => .list (items.map fun pair => .tuple [value pair.1, value pair.2])

def valueOf (document : Document) (n : Nat) : Value :=
  document.valueIn (document.meanings.size + 1) [] n

/-- The value of a node whose parts are looked at by themselves, down to where the path leads. -/
def valueAlong (document : Document) : (path : List Step) → Nat → Value
  | [], n => document.valueOf n
  | step :: path, n =>
    let part (isNext : Bool) (n : Nat) : Value :=
      if isNext then document.valueAlong path n else document.valueOf n
    match document.meaning n with
    | .dict entries =>
      .dict (entries.map fun entry =>
        let isNext :=
          match step, entry.1 with
          | .key name, .text s => s == name
          | _, _ => false
        (entry.1, part isNext entry.2))
    | .list items => .list (items.map (part (step == .item)))
    | _ => document.valueOf n

def ofSource? (source : Source) : Except Fault (Option Document) := do
  match ← Graph.ofSource? source with
  | none => return none
  | some graph =>
    let meanings ← graph.meanings
    return some ⟨meanings, graph.root⟩

end Document

end StepPipeline.Yaml
