import StepPipeline.Catalogue.Reflection
import StepPipeline.Catalogue.Initial
import StepPipeline.Pipeline

/-!
Instances of classes: frozen records of fields, or plain objects. An instance keeps what it is given
in the slots of its class and, unless its class is sealed, also under any other name.
-/

set_option autoImplicit false

namespace StepPipeline.Catalogue

/-- An instance of a class, with the attributes that it has been given. -/
structure Instance where
  cls : ClassId
  attributes : List (String × Attribute)

inductive Item where
  | object (object : Instance)
  | cls (id : ClassId)

namespace ClassTable

def listing (table : ClassTable) (id : ClassId) : Except ClassFault (List (String × String)) :=
  match table.attribute? id rootName with
  | some (.cls root) => .ok ((table.info root).variants.map fun variant => (table.info variant).key)
  | some (.other typeName _) => .error (.missingAttribute typeName variantsName)
  | _ => .ok []

/-- The variants that an attribute lists when it is called. -/
def listingBy (table : ClassTable) (a : Attribute) : Except ClassFault (List (String × String)) :=
  match a with
  | .listing id => table.listing id
  | a => .error (.notCallable (a.typeNameIn table))

def listingOf (table : ClassTable) (id : ClassId) : Except ClassFault (List (String × String)) :=
  match table.attribute? id "variants" with
  | some a => table.listingBy a
  | none => .error (.missingClassAttribute (table.info id).name "variants")

end ClassTable

namespace Instance

/-- What an instance keeps itself under a name. -/
def kept? (object : Instance) (name : String) : Option Attribute :=
  (object.attributes.find? fun entry => entry.1 == name).map Prod.snd

def missing (table : ClassTable) (object : Instance) (name : String) : ClassFault :=
  .missingAttribute (table.info object.cls).name name

/-- The attribute of an instance under a name: what it keeps itself, or else what its class holds
for it. -/
def reach (table : ClassTable) (object : Instance) (name : String) :
    Except ClassFault Attribute :=
  match object.kept? name, table.member? object.cls name with
  | some a, _ => .ok a
  | none, some .variantName => .ok (.value (.text (table.info object.cls).name))
  | none, some .listing => .ok (.listing object.cls)
  | none, some (.bound routine) => .ok (.bound routine (table.shown object.cls))
  | none, some (.shared a) => .ok a
  | none, some .slot => .error (.emptySlot (table.info object.cls).name name)
  | none, none => .error (object.missing table name)

def listing (table : ClassTable) (object : Instance) :
    Except ClassFault (List (String × String)) := do
  table.listingBy (← object.reach table "variants")

def variantName (table : ClassTable) (object : Instance) : Except ClassFault Attribute :=
  object.reach table "variant_name"

def label (table : ClassTable) (object : Instance) : String :=
  match object.variantName table with
  | .ok (.value (.text name)) => name
  | _ => (table.info object.cls).name

/-- Why the class of an instance is not replaced. -/
def classFault (table : ClassTable) (object : Instance) : Attribute → ClassFault
  | .value v => .classReplaced v.typeName
  | _ =>
    let info := table.info object.cls
    if info.contractual then .classLayout info.name else .classFixed

/-- Why nothing is kept under a name, if it is no slot. -/
def placeFault? (table : ClassTable) (object : Instance) (name : String) (a : Attribute) :
    Option ClassFault :=
  let info := table.info object.cls
  match table.member? object.cls name with
  | some .variantName => some (.fixedName info.qualifiedName)
  | _ =>
    if name = "__class__" then some (object.classFault table a)
    else if name = ClassTable.referencesName then
      let holder := info.order.find? fun id => (table.info id).references == some id
      holder.map fun id => .referencesFixed (table.info id).name
    else if !table.isSealed object.cls then none
    else if ClassTable.unslotted.contains name then some (.readOnly info.name name)
    else some (.noPlace info.name name)

/-- Keeps something under a name, unless its class alone decides on what is there. -/
def keep (table : ClassTable) (object : Instance) (name : String) (a : Attribute) :
    Except ClassFault Instance :=
  let fault? :=
    if table.hasSlot object.cls name then none else object.placeFault? table name a
  match fault? with
  | some fault => .error fault
  | none =>
    let others := object.attributes.filter fun entry => entry.1 != name
    .ok { object with attributes := others ++ [(name, a)] }

/-- Replaces all that an instance keeps outside of its slots. What comes under the name of a slot,
or of what its class alone decides on, is never reached. -/
def replaceAll (table : ClassTable) (object : Instance) (entries : List (Value × Value)) :
    Instance :=
  let inSlots := object.attributes.filter fun entry => table.hasSlot object.cls entry.1
  let reached (entry : Value × Value) : Option (String × Attribute) :=
    match entry.1 with
    | .text name =>
      match table.member? object.cls name with
      | some .slot | some .variantName => none
      | _ => some (name, .value entry.2)
    | _ => none
  { object with attributes := inSlots ++ entries.filterMap reached }

def argumentFault? (fields : Fields) (given : Nat) : Option CallFault :=
  let (demanded, further) := fields.all.span fun field => field.fallback.isNone
  CallFault.ofParameters? s!"{fields.owner}.__init__" ("self" :: demanded.map Field.name)
    (further.map Field.name) (1 + given)

/-- Gives the fields of an instance their arguments in order, and what they fall back on to those
that are left. -/
def fill (table : ClassTable) (object : Instance) (fields : List Field) (args : List Value) :
    Except ClassFault Instance :=
  let given (field : Field) (place : Nat) : Attribute :=
    (args[place]?.map Attribute.value).getD (field.fallback.getD default)
  fields.zipIdx.foldlM
    (fun object entry => object.keep table entry.1.name (given entry.1 entry.2)) object

/-- Calls what is held as the last step of filling an instance. -/
def finish (table : ClassTable) (object : Instance) (fields : Fields) :
    Except ClassFault Instance := do
  if fields.isFinished then
    throw (.notCallable ((← object.reach table ClassTable.finishName).typeNameIn table))
  return object

def create (table : ClassTable) (id : ClassId) (args : List Value) : Except ClassFault Instance :=
  let info := table.info id
  let catalogued := table.inCatalogue id
  if table.hasSlot id "__new__" then .error (.notCallable "member_descriptor")
  else if catalogued && table.root? id == some id then .error (.rootInstance info.name)
  else if !catalogued && !args.isEmpty && (table.fields? id).isNone then
    .error (.noArguments info.name)
  else if table.isAbstract id then .error (.abstractInstance info.name)
  else if table.hasSlot id "__init__" then .error (.emptySlot info.name "__init__")
  else
    match table.fields? id with
    | none => .ok ⟨id, []⟩
    | some fields =>
      match argumentFault? fields args.length with
      | some fault => .error (.call fault)
      | none => do finish table (← fill table ⟨id, []⟩ fields.all args) fields

def shown (table : ClassTable) (object : Instance) : String :=
  let info := table.info object.cls
  match info.fields with
  | none => s!"<{info.name}>"
  | some fields =>
    let field (name : String) : String :=
      name ++ "=" ++ ((object.kept? name).getD default).shown table.shown
    info.qualifiedName ++ "(" ++ ", ".intercalate (fields.names.map field) ++ ")"

def assignmentFault? (table : ClassTable) (object : Instance) (name : String) :
    List ClassId → Option ClassFault
  | [] => none
  | ancestor :: rest =>
    match (table.info ancestor).fields with
    | none => object.assignmentFault? table name rest
    | some fields =>
      if fields.names.contains name || (ancestor == object.cls && !fields.slotted) then
        some (.frozen name)
      else if fields.slotted then some .foreignInstance
      else object.assignmentFault? table name rest

def assign (table : ClassTable) (object : Instance) (name : String) (value : Value) :
    Except ClassFault Instance :=
  match object.assignmentFault? table name (table.info object.cls).order with
  | some fault => .error fault
  | none =>
    if name = "__dict__" then
      match value with
      | .dict entries => .ok (object.replaceAll table entries)
      | value => .error (.attributesReplaced value.typeName)
    else object.keep table name (.value value)

def record (table : ClassTable) (object : Instance) (fields : Fields) :
    Except ClassFault (List Attribute) :=
  fields.names.mapM (object.reach table)

/-- Are two different instances equal? Only records of one class with equal fields are. -/
def same (table : ClassTable) (a b : Instance) : Except ClassFault Bool :=
  match table.fields? a.cls with
  | none => .ok false
  | some fields =>
    if a.cls = b.cls then do
      let (left, right) := (← a.record table fields, ← b.record table fields)
      return (left.zip right).all fun pair => pair.1.same pair.2
    else .ok false

/-- Is an instance equal to itself? A record is if all its fields hold something. -/
def sameAsItself (table : ClassTable) (object : Instance) : Except ClassFault Bool := do
  match table.fields? object.cls with
  | none => return true
  | some fields => return (← object.record table fields).length = fields.all.length

/-- What comes of a contract's own meaning of an execution, which is nothing. -/
def performNothing (shape : Shape) (given : Nat) : Except ClassFault Value :=
  match CallFault.of? s!"{shape.contract}.execute" ("self" :: shape.contextNames) given with
  | some fault => .error (.call fault)
  | none => .ok .none

def perform (table : ClassTable) (object : Instance) (contexts : List Value) :
    Dispatch → Except ClassFault Value
  | .demanded shape => performNothing shape (1 + contexts.length)
  | .listed names =>
    let info := table.info object.cls
    if names.contains info.name then .ok (.list [.text info.name, .int contexts.length])
    else .error (.unhandled info.qualifiedName (object.shown table))
  | .world =>
    match CallFault.of? "WorldOp.execute" ["self", "world", "tick"] (1 + contexts.length) with
    | some fault => .error (.call fault)
    | none =>
      let handled := (worldVariants.zipIdx depositId).find? fun entry =>
        table.fulfils object.cls entry.2
      match handled with
      | some (variant, _) =>
        .error (.missingAttribute ((contexts.head?).getD .none).typeName variant.needed)
      | none => .error (.unhandled (table.info object.cls).qualifiedName (object.shown table))

/-- Executes the first of some contexts in place of an instance. -/
def performFirst (contexts : List Value) : Dispatch → Except ClassFault Value
  | .demanded shape => performNothing shape contexts.length
  | .listed names =>
    match contexts with
    | [] => .error (.call (.missing "execute" ["self"]))
    | first :: others =>
      if names.contains first.typeName then
        .ok (.list [.text first.typeName, .int others.length])
      else .error (.unhandled first.typeName first.shown)
  | .world =>
    match contexts, CallFault.of? "WorldOp.execute" ["self", "world", "tick"] contexts.length with
    | _, some fault => .error (.call fault)
    | contexts, none =>
      let first := (contexts.head?).getD .none
      .error (.unhandled first.typeName first.shown)

def execute (table : ClassTable) (contexts : List Value) (object : Instance) :
    Except ClassFault Value :=
  match object.kept? "execute", table.dispatch? object.cls with
  | some (.routine dispatch), _ => performFirst contexts dispatch
  | some a, _ => .error (.notCallable (a.typeNameIn table))
  | none, some dispatch => object.perform table contexts dispatch
  | none, none => .error (object.missing table "execute")

end Instance

namespace Item

def facts (table : ClassTable) : Item → Facts
  | object o =>
    { typeName := (table.info o.cls).name, contracts := table.contracts o.cls }
  | cls id =>
    { typeName := table.kindName id, className? := some (table.info id).name, contracts := [] }

def label (table : ClassTable) : Item → String
  | object o => o.label table
  | cls id => table.kindName id

def shown (table : ClassTable) : Item → String
  | object o => o.shown table
  | cls id => table.shown id

def execute (table : ClassTable) (contexts : List Value) : Item → Except ClassFault Value
  | object o => o.execute table contexts
  | cls id => .error (.missingClassAttribute (table.info id).name "execute")

def engine (table : ClassTable) : Engine Item Value Value ClassFault Unit where
  label := label table
  perform contexts item _ := ((item.execute table contexts).mapError .raised, ())
  note _ _ := ()

def executeAll (table : ClassTable) (items : List Item) (contexts : List Value) :
    Except (Fault Item Value ClassFault) (Report Value) :=
  match Pipeline.ofSource (facts table) ⟨items, none⟩ none with
  | .error fault => .error fault
  | .ok pipeline => (pipeline.executeAlone (engine table) contexts ()).1

end Item

end StepPipeline.Catalogue
