import StepPipeline.Catalogue.Attribute

/-!
Tables of classes. A class is known by its address in the table. It has a name, a module and a
qualified name, a linear order of itself and all that it inherits from, and possibly a role in a
catalogue: a root lists its variants. What a class holds under a name it has itself or from the
nearest class in its order.
-/

set_option autoImplicit false

namespace StepPipeline.Catalogue

/-- A field of a class whose instances are frozen records. -/
structure Field where
  name : String
  /-- What the field holds if it is given nothing. -/
  fallback : Option Attribute := none

structure Fields where
  /-- All fields, those of the bases included. -/
  all : List Field
  /-- The qualified name of the class that takes the fields as arguments. -/
  owner : String
  /-- The fields that the class declares to keep in slots of its own. -/
  declaredSlots : List String := []
  /-- The names under which the class holds slots of its own. -/
  slots : List String := []
  /-- Was the class created anew to have slots? -/
  slotted : Bool := false
  /-- Does the class give its instances no place but slots? -/
  isSealed : Bool := false
  /-- Is what is held as the last step of filling called after that? -/
  isFinished : Bool := false

def Fields.names (fields : Fields) : List String :=
  fields.all.map Field.name

structure ClassInfo where
  name : String
  home : String
  qualifiedName : String
  bases : List ClassId
  /-- The class itself and all that it inherits from, nearest first. -/
  order : List ClassId
  /-- Is the class a contract or derived from one? -/
  contractual : Bool := false
  isRoot : Bool := false
  /-- The variants that a root lists, in order. -/
  variants : List ClassId := []
  dispatch : Option Dispatch := none
  fields : Option Fields := none
  /-- The class whose slots fix the layout of the instances. -/
  layout : Option ClassId := none
  /-- The class that lets the instances be referred to weakly. -/
  references : Option ClassId := none

instance : Inhabited ClassInfo := ⟨⟨"", "", "", [], [], false, false, [], none, none, none, none⟩⟩

/-- What a class is listed as: its module and its qualified name. -/
def ClassInfo.key (info : ClassInfo) : String × String :=
  (info.home, info.qualifiedName)

/-- All classes that have been created, and the classes that were registered with contracts. -/
structure ClassTable where
  classes : List ClassInfo
  registered : List (ClassId × ClassId) := []

def objectId : ClassId := 0

def contractBaseId : ClassId := 1

/-- The base of all catalogues. -/
def catalogueId : ClassId := 2

def contractId : Shape → ClassId
  | .bare => 3
  | .single => 4
  | .pair => 5

namespace ClassTable

def info (table : ClassTable) (id : ClassId) : ClassInfo :=
  table.classes[id]?.getD default

def next (table : ClassTable) : ClassId :=
  table.classes.length

/-- Does a class inherit from another, or is it the same? -/
def inherits (table : ClassTable) (derived base : ClassId) : Bool :=
  (table.info derived).order.contains base

def inCatalogue (table : ClassTable) (id : ClassId) : Bool :=
  table.inherits id catalogueId

def update (table : ClassTable) (id : ClassId) (change : ClassInfo → ClassInfo) : ClassTable :=
  { table with classes := table.classes.set id (change (table.info id)) }

def add (table : ClassTable) (info : ClassInfo) : ClassTable :=
  { table with classes := table.classes ++ [info] }

def fields? (table : ClassTable) (id : ClassId) : Option Fields :=
  (table.info id).order.findSome? fun ancestor => (table.info ancestor).fields

def kindName (table : ClassTable) (id : ClassId) : String :=
  if (table.info id).contractual then "ABCMeta" else "type"

/-- The home of the classes that are named without one. -/
def builtinHome : String := "builtins"

def shown (table : ClassTable) (id : ClassId) : String :=
  let info := table.info id
  if info.home = builtinHome then s!"<class '{info.name}'>"
  else s!"<class '{info.home}.{info.qualifiedName}'>"

def isSealed (table : ClassTable) (id : ClassId) : Bool :=
  (table.info id).order.all fun ancestor =>
    ancestor == objectId || ancestor == contractBaseId ||
      (table.info ancestor).fields.any Fields.isSealed

/-! ### What classes hold -/

/-- The name under which the root of a catalogue is held. -/
def rootName : String := "_catalogue_root"

def variantsName : String := "_variants"

def referencesName : String := "__weakref__"

/-- The name of what is called last when an instance is filled. -/
def finishName : String := "__post_init__"

/-- The name of what is called when a class is derived. -/
def subclassName : String := "__init_subclass__"

def stateRoutines : List String :=
  ["__getstate__", "__setstate__"]

/-- The names that a class with slots holds otherwise in any case. -/
def unslotted : List String :=
  ["__module__", "__abstractmethods__", referencesName] ++ stateRoutines

/-- The routines of the class that all inherit from which stand for marks and the like. -/
def objectWrappers : List String :=
  ["__delattr__", "__eq__", "__ge__", "__getattribute__", "__gt__", "__hash__", "__init__",
    "__le__", "__lt__", "__ne__", "__repr__", "__setattr__", "__str__"]

def objectMethods : List String :=
  ["__dir__", "__format__", "__getstate__", "__reduce__", "__reduce_ex__", "__sizeof__"]

def objectRoutines : List String :=
  ["__init_subclass__", "__new__", "__subclasshook__"]

/-- Something of which only the type is told. -/
def plainAttribute (typeName : String) : Attribute :=
  .other typeName s!"<{typeName} object>"

def objectMember? (name : String) : Option Member :=
  if objectWrappers.contains name then
    some (.shared (.other "wrapper_descriptor" s!"<slot wrapper '{name}' of 'object' objects>"))
  else if objectMethods.contains name then
    some (.shared (.other "method_descriptor" s!"<method '{name}' of 'object' objects>"))
  else if objectRoutines.contains name then
    some (.shared (plainAttribute "builtin_function_or_method"))
  else none

def catalogueMember? (name : String) : Option Member :=
  if name = "variants" then some .listing
  else if name = "variant_name" then some .variantName
  else if name = rootName then some (.shared (.value .none))
  else if name = variantsName then some (.shared (.value (.tuple [])))
  else if name = "__new__" then some (.shared (plainAttribute "function"))
  else if name = subclassName then some (.bound s!"Catalogue.{name}")
  else none

def nameRow (names : List String) : Attribute :=
  .value (.tuple (names.map Value.text))

/-- How every class of frozen records is made. -/
def recordParameters : Attribute :=
  .other "_DataclassParams" ("_DataclassParams(init=True,repr=True,eq=True,order=False," ++
    "unsafe_hash=False,frozen=True)")

def recordRoutines : List String :=
  ["__init__", "__repr__", "__eq__", "__hash__", "__setattr__", "__delattr__"]

/-- What a class of frozen records holds under a name. Slots take the place of what else it would
hold under the names of its fields. -/
def recordMember? (fields : Fields) (name : String) : Option Member :=
  if fields.slots.contains name then some .slot
  else if fields.slotted && stateRoutines.contains name then
    some (.shared (plainAttribute "function"))
  else if fields.slotted && fields.names.contains name then none
  else if recordRoutines.contains name then some (.shared (plainAttribute "function"))
  else
    match name with
    | "__match_args__" => some (.shared (nameRow fields.names))
    | "__dataclass_fields__" => some (.shared (.changeable "dict"))
    | "__dataclass_params__" => some (.shared recordParameters)
    | "__slots__" => if fields.isSealed then some (.shared (nameRow fields.declaredSlots)) else none
    | _ => none

def roleMember? (table : ClassTable) (name : String) (id : ClassId) : Option Attribute :=
  let info := table.info id
  if name = "execute" then info.dispatch.map Attribute.routine
  else if name = "__shape__" then
    (Shape.all.find? fun shape => contractId shape == id).map Attribute.shape
  else if name = "__slots__" ∧ id = contractBaseId then some (nameRow [])
  else if name = referencesName ∧ info.references = some id then
    some (.other "getset_descriptor" s!"<attribute '__weakref__' of '{info.name}' objects>")
  else if info.isRoot && name == rootName then some (.cls id)
  else if info.isRoot && name == variantsName then some (.ofClasses info.variants)
  else none

def ownMember? (table : ClassTable) (name : String) (id : ClassId) : Option Member :=
  match (table.info id).fields.bind (recordMember? · name) with
  | some member => some member
  | none =>
    if id = catalogueId then catalogueMember? name
    else if id = objectId then objectMember? name
    else (table.roleMember? name id).map Member.shared

def member? (table : ClassTable) (id : ClassId) (name : String) : Option Member :=
  (table.info id).order.findSome? (table.ownMember? name)

def hasSlot (table : ClassTable) (id : ClassId) (name : String) : Bool :=
  match table.member? id name with
  | some .slot => true
  | _ => false

def dispatch? (table : ClassTable) (id : ClassId) : Option Dispatch :=
  match table.member? id "execute" with
  | some (.shared (.routine dispatch)) => some dispatch
  | _ => none

/-- Is a class without a meaning of its execution? -/
def isAbstract (table : ClassTable) (id : ClassId) : Bool :=
  (table.info id).contractual &&
    match table.dispatch? id with
    | some (.demanded _) => true
    | _ => false

end ClassTable

def Attribute.typeNameIn (table : ClassTable) (a : Attribute) : String :=
  let classType :=
    match a with
    | .cls id => table.kindName id
    | _ => ""
  a.typeName classType

end StepPipeline.Catalogue
