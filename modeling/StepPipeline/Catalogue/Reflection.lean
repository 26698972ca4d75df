import StepPipeline.Catalogue.Fault
import StepPipeline.Catalogue.Table

/-!
What is reached by way of a class: what the class tells about itself, what it holds for its
instances, and what every class has by being one; of several things under one name the first in this
order is reached. And which contracts it fulfils: a class fulfils a class that it inherits from, and
it fulfils a contract, or a class derived from one, also if it fulfils a class that is registered
with it or derived directly from it.
-/

set_option autoImplicit false

namespace StepPipeline.Catalogue.ClassTable

/-- The classes that are registered with a class or derived directly from it. -/
def below (table : ClassTable) (base : ClassId) : List ClassId :=
  (table.registered.filter fun entry => entry.1 == base).map Prod.snd ++
    (List.range table.next).filter fun id => (table.info id).bases.contains base

/-- Does a class fulfil another, over at most the given number of intermediate classes? -/
def fulfilsWithin (table : ClassTable) : Nat → (derived base : ClassId) → Bool
  | 0, derived, base => table.inherits derived base
  | distance + 1, derived, base =>
    table.inherits derived base ||
      ((table.info base).contractual &&
        (table.below base).any fun id => table.fulfilsWithin distance derived id)

def fulfils (table : ClassTable) (derived base : ClassId) : Bool :=
  table.fulfilsWithin table.next derived base

def contracts (table : ClassTable) (id : ClassId) : List Shape :=
  Shape.all.filter fun shape => table.fulfils id (contractId shape)

def shapeOf (table : ClassTable) (id : ClassId) : Except ShapelessFault Shape :=
  Shape.ofContracts (table.info id).name (table.contracts id)

def register (table : ClassTable) (contract id : ClassId) : Except ClassFault ClassTable :=
  if !(table.info contract).contractual then
    .error (.missingClassAttribute (table.info contract).name "register")
  else if table.fulfils id contract then .ok table
  else if table.fulfils contract id then .error .registrationCycle
  else .ok { table with registered := table.registered ++ [(contract, id)] }

def primaryBase (table : ClassTable) (layout : Option ClassId) (bases : List ClassId) : ClassId :=
  (bases.find? fun base => (table.info base).layout == layout).getD objectId

/-- The exact form of the class of a class. -/
def shownKind (table : ClassTable) (id : ClassId) : String :=
  if (table.info id).contractual then "<class 'abc.ABCMeta'>" else "<class 'type'>"

/-- Numbers that tell how the instances of a class without slots are laid out. -/
def layoutNumbers : List (String × Int) :=
  [("__basicsize__", 24), ("__itemsize__", 0), ("__dictoffset__", -48),
    ("__weakrefoffset__", 16), ("__flags__", 22032)]

def missingMeanings (table : ClassTable) (id : ClassId) : Attribute :=
  .other "frozenset" (if table.isAbstract id then "frozenset(\x7b'execute'\x7d)" else "frozenset()")

def fact? (table : ClassTable) (id : ClassId) (name : String) : Option Attribute :=
  let info := table.info id
  match name with
  | "__name__" => some (.value (.text info.name))
  | "__qualname__" => some (.value (.text info.qualifiedName))
  | "__module__" => some (.value (.text info.home))
  | "__doc__" => some (.value .none)
  | "__text_signature__" => some (.value .none)
  | "__mro__" => some (.ofClasses info.order)
  | "__bases__" => some (.ofClasses info.bases)
  | "__base__" => some (.cls (table.primaryBase info.layout info.bases))
  | "__class__" => some (.other (table.kindName id) (table.shownKind id))
  | "__dict__" => some (.changeable "mappingproxy")
  | "__annotations__" => some (.changeable "dict")
  | "__abstractmethods__" => if info.contractual then some (table.missingMeanings id) else none
  | name => (layoutNumbers.lookup name).map fun n => .value (.int n)

/-- The routines that decide what belongs to a class. -/
def checkRoutines : List String :=
  ["__instancecheck__", "__subclasscheck__"]

/-- The routines that every class has by being one. -/
def kindRoutines : List String :=
  ["mro", "__call__", "__or__", "__ror__", "__prepare__", "__subclasses__"] ++ checkRoutines

/-- The further routines that a contract has by being one. -/
def contractRoutines : List String :=
  ["_abc_impl", "_dump_registry", "_abc_registry_clear", "_abc_caches_clear"]

def kindMember? (table : ClassTable) (id : ClassId) (name : String) : Option Attribute :=
  let contractual := (table.info id).contractual
  if name = "register" ∧ contractual then some (.registration id)
  else if contractual && checkRoutines.contains name then
    some (.bound s!"ABCMeta.{name}" (table.shown id))
  else if kindRoutines.contains name || (contractual && contractRoutines.contains name) then
    some (plainAttribute "builtin_function_or_method")
  else none

/-- What is reached under a name by way of a class. -/
def attribute? (table : ClassTable) (id : ClassId) (name : String) : Option Attribute :=
  match table.fact? id name, table.member? id name with
  | some a, _ => some a
  | none, some .slot => some (plainAttribute "member_descriptor")
  | none, some .variantName => some (plainAttribute "property")
  | none, some .listing => some (.listing id)
  | none, some (.bound routine) => some (.bound routine (table.shown id))
  | none, some (.shared a) => some a
  | none, none => table.kindMember? id name

def root? (table : ClassTable) (id : ClassId) : Option ClassId :=
  match table.attribute? id rootName with
  | some (.cls root) => some root
  | _ => none

end StepPipeline.Catalogue.ClassTable
