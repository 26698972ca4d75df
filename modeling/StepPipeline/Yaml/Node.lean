import StepPipeline.Yaml.Fault
import StepPipeline.Yaml.Tag

/-!
The nodes of a YAML document. A node that is named by an anchor can stand in several places, also
inside itself, so nodes refer to each other by number. Mappings may take over the entries of others:
an entry under a merge key names a mapping or a row of mappings; it goes away, and their entries
come before those that stay. The node itself is changed, so each place that leads to it finds the
entries taken over.
-/

set_option autoImplicit false

namespace StepPipeline.Yaml

/-- What a node consists of; other nodes are given by their numbers. -/
inductive Content where
  | scalar (text : List Nat)
  | sequence (items : List Nat)
  | mapping (entries : List (Nat × Nat))
  deriving DecidableEq, Repr

structure Node where
  tag : Tag
  content : Content
  deriving DecidableEq, Repr

/-- The node for something left out. -/
def Node.absent : Node := ⟨.null, .scalar []⟩

instance : Inhabited Node := ⟨Node.absent⟩

/-- The nodes of a document, by their numbers, and the one that the document is. -/
structure Graph where
  nodes : Array Node
  root : Nat

namespace Graph

def node (graph : Graph) (n : Nat) : Node :=
  (graph.nodes[n]?).getD Node.absent

/-- The entries of a mapping; `none` for another node. -/
def entries? (graph : Graph) (n : Nat) : Option (List (Nat × Nat)) :=
  match (graph.node n).content with
  | .mapping entries => some entries
  | _ => none

end Graph

end StepPipeline.Yaml

namespace StepPipeline.Yaml.Graph

abbrev Change := StateT Graph (Except Fault)

def isMerge (graph : Graph) (entry : Nat × Nat) : Bool :=
  (graph.node entry.1).tag = .merge

def mergesIn (graph : Graph) (node : Node) : Nat :=
  match node.content with
  | .mapping entries => (entries.filter graph.isMerge).length
  | _ => 0

def mergeCount (graph : Graph) : Nat :=
  graph.nodes.toList.foldl (fun count node => count + graph.mergesIn node) 0

def withEntries (graph : Graph) (n : Nat) (entries : List (Nat × Nat)) : Graph :=
  { graph with nodes := graph.nodes.modify n fun node => { node with content := .mapping entries } }

/-- Takes the keys of the value that stands for a whole mapping as texts. -/
def withTextKeys (graph : Graph) (entries : List (Nat × Nat)) : Graph :=
  let retag (nodes : Array Node) (entry : Nat × Nat) : Array Node :=
    nodes.modify entry.1 fun node => if node.tag = .value then { node with tag := .text } else node
  { graph with nodes := entries.foldl retag graph.nodes }

def entriesNow (n : Nat) : Change (List (Nat × Nat)) := do
  match (← get).entries? n with
  | some entries => return entries
  | none => throw .malformed

/-- Takes over what the merge keys of a mapping name, from its entry with the number `place` on;
the entries `taken` were taken over before. Of a row of mappings the last one's entries come first.
A mapping that is reached again on the way goes on with the merge keys that are left. `fuel` bounds
the number of merge keys. -/
def takeOver : (fuel : Nat) → (place : Nat) → (taken : List (Nat × Nat)) → Nat → Change Unit
  | 0, _, _, _ => throw .malformed
  | fuel + 1, place, taken, n => do
    let entries ← entriesNow n
    let graph ← get
    let ahead := entries.drop place
    let plain := ahead.takeWhile fun entry => !graph.isMerge entry
    let next := place + plain.length
    let graph := graph.withTextKeys plain
    match ahead.drop plain.length with
    | [] => set (graph.withEntries n (taken ++ entries))
    | (_, named) :: rest =>
      set (graph.withEntries n (entries.take next ++ rest))
      let entriesOf (m : Nat) : Change (List (Nat × Nat)) := do
        takeOver fuel 0 [] m
        entriesNow m
      let others ←
        match (graph.node named).content with
        | .mapping _ => entriesOf named
        | .sequence items => do
          let groups ← items.mapM entriesOf
          pure groups.reverse.flatten
        | .scalar _ => throw .malformed
      takeOver fuel next (taken ++ others) n

/-- Lets a mapping take over what its merge keys name. -/
def merge (n : Nat) : Change Unit := do
  takeOver ((← get).mergeCount + 1) 0 [] n

end StepPipeline.Yaml.Graph
