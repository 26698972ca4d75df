import StepPipeline.Value.Shown

/-!
What the operations of a session act on: named contexts, and the words said. A list that a context
is or directly holds has an address, under which other lists may hold it as well; so all of them
see how it grows. Deeper lists never change and are plain values.
-/

set_option autoImplicit false

namespace StepPipeline.Session

inductive Held where
  | value (v : Value)
  /-- The list at an address. -/
  | list (address : Nat)

inductive Context where
  | held (held : Held)
  | dict (entries : List (Value × Held))
  /-- A mapping that is no dictionary: it never gets another entry. -/
  | mapping (entries : List (Value × Held))

def Context.typeName : Context → String
  | held (.value v) => v.typeName
  | held (.list _) => "list"
  | dict _ => "dict"
  | mapping _ => "mappingproxy"

structure Store where
  contexts : List (String × Context) := []
  /-- The lists, by their addresses. -/
  lists : List (List Held) := []
  said : List Value := []

namespace Store

def context? (store : Store) (name : String) : Option Context :=
  (store.contexts.find? fun entry => entry.1 == name).map Prod.snd

def context (store : Store) (name : String) : Context :=
  (store.context? name).getD (.held (.value .none))

def withContext (store : Store) (name : String) (context : Context) : Store :=
  let others := store.contexts.filter fun entry => entry.1 != name
  { store with contexts := others ++ [(name, context)] }

def items (store : Store) (address : Nat) : List Held :=
  (store.lists[address]?).getD []

def withItems (store : Store) (address : Nat) (items : List Held) : Store :=
  { store with lists := store.lists.set address items }

/-- Makes a value ready to be held: a list gets an address. -/
def hold (store : Store) (v : Value) : Held × Store :=
  match v with
  | .list items =>
    (.list store.lists.length, { store with lists := store.lists ++ [items.map Held.value] })
  | v => (.value v, store)

def holdEntries : List (Value × Value) → Store → List (Value × Held) × Store
  | [], store => ([], store)
  | (key, v) :: rest, store =>
    let (held, store) := store.hold v
    let (entries, store) := holdEntries rest store
    ((key, held) :: entries, store)

def bind (store : Store) (name : String) (v : Value) : Store :=
  match v with
  | .dict entries =>
    let (entries, store) := holdEntries entries store
    store.withContext name (.dict entries)
  | .mapping entries =>
    let (entries, store) := holdEntries entries store
    store.withContext name (.mapping entries)
  | v =>
    let (held, store) := store.hold v
    store.withContext name (.held held)

/-- The present value of what is held. A list holds only lists that were there before it or are of
plain values, so that the number of lists bounds the depth. -/
def valueWithin (store : Store) : (depth : Nat) → Held → Value
  | _, .value v => v
  | 0, .list _ => .enclosingList
  | depth + 1, .list address => .list ((store.items address).map (store.valueWithin depth))

def value (store : Store) (held : Held) : Value :=
  store.valueWithin store.lists.length held

def valueOf (store : Store) : Context → Value
  | .held held => store.value held
  | .dict entries => .dict (entries.map fun entry => (entry.1, store.value entry.2))
  | .mapping entries => .mapping (entries.map fun entry => (entry.1, store.value entry.2))

end Store

end StepPipeline.Session
