import StepPipeline.Value.MemberOrder
import StepPipeline.Yaml.Graph
import StepPipeline.Yaml.Node
import StepPipeline.Yaml.Scalar.Number

/-!
What the nodes of a document stand for. A scalar is taken at its word when it is reached; the
content of a collection is looked at after the nodes beside it, level by level, which decides what
fault of several is found.
-/

set_option autoImplicit false

namespace StepPipeline.Yaml

/-- What a node stands for; collections hold other nodes by their numbers. -/
inductive Meaning where
  | atom (value : Value)
  | list (items : List Nat)
  | dict (entries : List (Value × Nat))
  | set (keys : List Value)
  | pairs (items : List (Nat × Nat))

instance : Inhabited Meaning := ⟨.list []⟩

/-! ### Scalars -/

/-- Takes a scalar's characters by a rule; `fallback` says what is wrong with halves of pairs. -/
def takeChars {α : Type} (text : List Nat) (fallback : Fault)
    (rule : List Char → Except Fault α) : Except Fault α :=
  ((chars? text).map rule).getD (.error fallback)

def momentOf (cs : List Char) : Except Fault Calendar.Moment :=
  let text := if cs.getLast? = some '\n' then cs.dropLast else cs
  match Moment.read? text with
  | none => .error .momentForm
  | some m =>
    match Calendar.fault? m with
    | some fault => .error (.moment fault)
    | none => .ok m

def textOf (text : List Nat) : Value :=
  ((chars? text).map fun cs => Value.text (String.ofList cs)).getD (.halves text)

def bytesOf (cs : List Char) : Except Fault (List UInt8) :=
  if cs.all fun c => c.toNat < 0x80 then
    ((Binary.read? cs).map Except.ok).getD (.error .malformed)
  else .error .malformed

def Tag.read (tag : Tag) (text : List Nat) : Except Fault Value :=
  match tag with
  | .null => .ok .none
  | .bool => Value.bool <$> Number.readBool text
  | .int => Value.int <$> Number.readInt text
  | .float => Value.float <$> Number.readFloat text
  | .binary => Value.bytes <$> takeChars text .malformed bytesOf
  | .moment => Value.moment <$> takeChars text .momentForm momentOf
  | .text => .ok (textOf text)
  | _ => .error .malformed

namespace Graph

/-- The text that a node stands for: its own, or that of the value that stands for the whole
mapping. `fuel` bounds the depth. -/
def text (graph : Graph) : (fuel : Nat) → Nat → Except Fault (List Nat)
  | 0, _ => .error .endless
  | fuel + 1, n =>
    match (graph.node n).content with
    | .scalar text => .ok text
    | .sequence _ => .error .malformed
    | .mapping entries =>
      match entries.find? fun entry => (graph.node entry.1).tag = .value with
      | some entry => graph.text fuel entry.2
      | none => .error .malformed

/-- What a node with a tag of scalars stands for. A moment is read from the node itself, which has
to be a scalar. -/
def scalar (graph : Graph) (n : Nat) : Except Fault Value := do
  let text ← graph.text (graph.nodes.size + 1) n
  match graph.node n with
  | ⟨.moment, .mapping _⟩ => .error .momentOfMapping
  | node => node.tag.read text

end Graph

/-! ### Keys -/

structure Key where
  value : Value
  /-- The node it comes from; all keys that name what is no number come from one. -/
  source : Option Nat

def Graph.nanSource (graph : Graph) (n : Nat) : Option Nat :=
  match graph.text (graph.nodes.size + 1) n with
  | .ok text => if Number.isNamedNan text then none else some n
  | .error _ => some n

/-- Are two keys the same? What is no number differs from all that has another source. -/
def Key.same (a b : Key) : Bool :=
  match a.value, b.value with
  | .float x, .float y => x == y || (x.isNaN && y.isNaN && a.source == b.source)
  | x, y => x.same y

/-- Puts a value under a key; a key that is there keeps its place and its spelling. -/
def Key.insert {α : Type} (key : Key) (value : α) : List (Key × α) → List (Key × α)
  | [] => [(key, value)]
  | (k, v) :: rest => if key.same k then (k, value) :: rest else (k, v) :: insert key value rest

/-! ### Collections -/

structure Interpretation where
  graph : Graph
  meanings : Array (Option Meaning)
  /-- The collections whose content is still to be looked at, in order. -/
  waiting : List Nat

abbrev Interpreter := StateT Interpretation (Except Fault)

namespace Interpreter

def assign (n : Nat) (meaning : Meaning) : Interpreter Unit :=
  modify fun i => { i with meanings := i.meanings.modify n fun _ => some meaning }

/-- Sets what a collection stands for, before its content is looked at. -/
def postpone (n : Nat) (meaning : Meaning) : Interpreter Unit := do
  assign n meaning
  modify fun i => { i with waiting := i.waiting ++ [n] }

/-- Finds out what a node stands for, but for the content of collections. -/
def visit (n : Nat) : Interpreter Unit := do
  let i ← get
  if (i.meanings[n]?.getD none).isSome then return ()
  else
    match (i.graph.node n).tag with
    | .sequence => postpone n (.list [])
    | .mapping => postpone n (.dict [])
    | .set => postpone n (.set [])
    | .pairs => postpone n (.pairs [])
    | .merge => throw .malformed
    | .value => throw .malformed
    | .unknown => throw .malformed
    | _ =>
      let value ← i.graph.scalar n
      assign n (.atom value)

/-- The key that a node stands for; a collection is none. -/
def keyOf (n : Nat) : Interpreter Key := do
  visit n
  let i ← get
  match i.meanings[n]?.getD none with
  | some (.atom value) => return ⟨value, i.graph.nanSource n⟩
  | _ => throw .malformed

def entriesOf (n : Nat) : Interpreter (List (Key × Nat)) := do
  let i ← get
  let ((), graph) ← (Graph.merge n).run i.graph
  modify fun i => { i with graph }
  let entries ← match graph.entries? n with
    | some entries => pure entries
    | none => throw .malformed
  entries.foldlM
    (fun built entry => do
      let key ← keyOf entry.1
      visit entry.2
      return Key.insert key entry.2 built)
    []

def singleEntry (n : Nat) : Interpreter (Nat × Nat) := do
  match (← get).graph.entries? n with
  | some [entry] =>
    visit entry.1
    visit entry.2
    return entry
  | _ => throw .malformed

def itemsOf (n : Nat) : Interpreter (List Nat) := do
  match ((← get).graph.node n).content with
  | .sequence items => return items
  | _ => throw .malformed

def fill (n : Nat) : Interpreter Unit := do
  match ((← get).graph.node n).tag with
  | .mapping =>
    let entries ← entriesOf n
    assign n (.dict (entries.map fun entry => (entry.1.value, entry.2)))
  | .set =>
    let entries ← entriesOf n
    assign n (.set (Value.arranged (entries.map fun entry => entry.1.value)))
  | .pairs =>
    let items ← itemsOf n
    let pairs ← items.mapM singleEntry
    assign n (.pairs pairs)
  | _ =>
    let items ← itemsOf n
    items.forM visit
    assign n (.list items)

/-- Looks at the content of all collections that wait; `fuel` bounds their number. -/
def settle : (fuel : Nat) → Interpreter Unit
  | 0 => return ()
  | fuel + 1 => do
    match (← get).waiting with
    | [] => return ()
    | n :: waiting =>
      modify fun i => { i with waiting }
      fill n
      settle fuel

end Interpreter

/-- What every node of a graph stands for that its root leads to. -/
def Graph.meanings (graph : Graph) : Except Fault (Array Meaning) := do
  let n := graph.nodes.size
  let start : Interpretation := ⟨graph, Array.replicate n none, []⟩
  let steps : Interpreter Unit := do
    Interpreter.visit graph.root
    Interpreter.settle (n + 1)
  let (_, i) ← steps.run start
  return i.meanings.map fun meaning => meaning.getD (.list [])

end StepPipeline.Yaml
