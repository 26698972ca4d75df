import StepPipeline.Catalogue.Reflection

/-!
Declarations of classes. A class in a catalogue is either declared as a root, which then has a
single shape and no variants, or it is a variant of its nearest root, which must be one of its
bases. A root lists its variants in the order of their declarations, and of those with the same
module and qualified name only the latest. The order of a class is merged from the orders of its
bases and the row of the bases themselves: the next class is always the first head that no row holds
behind its head, so that every row keeps its own order. A class gets its fields after it has been
listed; what is reached by way of the class under the name of a field is what the field falls back
on. A class with slots is created twice, the second time under its plain name, which becomes the
qualified name again only after it has been listed. What it holds under the names of its fields is
left out the second time, its home included.
-/

set_option autoImplicit false

namespace StepPipeline.Catalogue

def takeHead (chosen : Nat) : List Nat → List Nat
  | [] => []
  | head :: rest => if head = chosen then rest else head :: rest

def isBehind (candidate : Nat) (row : List Nat) : Bool :=
  row.tail.contains candidate

def heads (rows : List (List Nat)) : List Nat :=
  (rows.filterMap List.head?).eraseDups

/-- The first head that is behind no head. -/
def nextClass? (rows : List (List Nat)) : Option Nat :=
  (heads rows).find? fun candidate => !rows.any (isBehind candidate)

/-- Merges rows of at most the given length together; fails with the heads that block each other. -/
def mergeWithin : (length : Nat) → List (List Nat) → Except (List Nat) (List Nat)
  | 0, _ => .ok []
  | length + 1, rows =>
    match heads rows, nextClass? rows with
    | [], _ => .ok []
    | blocked, none => .error blocked
    | _, some chosen => (mergeWithin length (rows.map (takeHead chosen))).map (chosen :: ·)

/-- Merges rows into one that keeps the order of each. -/
def merge (rows : List (List Nat)) : Except (List Nat) (List Nat) :=
  mergeWithin (rows.foldl (fun count row => count + row.length) 0) rows

structure Declaration where
  name : String
  home : String
  qualifiedName : String
  bases : List ClassId
  /-- Whether the class is a root, if the declaration says so. -/
  root : Option Bool := none
  /-- The fields that the class adds, if its instances are frozen records. -/
  fields : Option (List String) := none
  slots : Bool := false
  /-- The names of the classes that its dispatch handles, if it has one. -/
  handled : Option (List String) := none
  deriving DecidableEq, Repr

namespace Declaration

def repeated? : List ClassId → Option ClassId
  | [] => none
  | id :: rest => if rest.contains id then some id else repeated? rest

/-- The class that fixes the layout of the instances, given those that fix it for the bases. -/
def layoutOf (table : ClassTable) : Option ClassId → List (Option ClassId) →
    Except ClassFault (Option ClassId)
  | found, [] => .ok found
  | none, base :: rest => layoutOf table base rest
  | found, none :: rest => layoutOf table found rest
  | some found, some base :: rest =>
    if table.inherits found base then layoutOf table (some found) rest
    else if table.inherits base found then layoutOf table (some base) rest
    else .error .layoutConflict

def orderOf (table : ClassTable) (id : ClassId) (bases : List ClassId) :
    Except ClassFault (List ClassId) :=
  match repeated? bases with
  | some base => .error (.duplicateBase (table.info base).name)
  | none =>
    match merge (bases.map (fun base => (table.info base).order) ++ [bases]) with
    | .ok order => .ok (id :: order)
    | .error blocked => .error (.ofBlocked (blocked.map fun base => (table.info base).name))

/-- Adds a field; one of its name that is there is replaced in its place. -/
def addField (found : List Field) (field : Field) : List Field :=
  if found.any fun other => other.name == field.name then
    found.map fun other => if other.name == field.name then field else other
  else found ++ [field]

/-- The fields that a class has from its bases, the most distant first. -/
def inheritedFields (table : ClassTable) (order : List ClassId) : List Field :=
  (order.reverse.flatMap fun id => ((table.fields? id).map Fields.all).getD []).foldl addField []

/-- What a field of a class falls back on; a slot is nothing to fall back on. -/
def fallback? (table : ClassTable) (id : ClassId) (name : String) : Option Attribute :=
  if name = "__dataclass_params__" then some ClassTable.recordParameters
  else if (table.fact? id name).isNone && table.hasSlot id name then none
  else table.attribute? id name

/-- Why the fields of a class that others inherit from cannot be told: a slot has taken their
place. -/
def hiddenFields? (table : ClassTable) (id : ClassId) : Option ClassFault :=
  if (table.fields? id).isNone then none
  else if table.hasSlot id "__dataclass_fields__" then
    some (.missingAttribute "member_descriptor" "values")
  else if table.hasSlot id "__dataclass_params__" then
    some (.missingAttribute "member_descriptor" "frozen")
  else none

def changeable? (field : Field) : Option ClassFault :=
  match field.fallback with
  | some (.changeable typeName) => some (.changeableFallback typeName field.name)
  | _ => none

/-- The first field that falls back on nothing after one that does on something. -/
def misplaced? (fields : List Field) : Option Field :=
  (fields.dropWhile fun field => field.fallback.isNone).find? fun field => field.fallback.isNone

def declaredSlots (table : ClassTable) (order : List ClassId) : List String :=
  order.flatMap fun id => (((table.info id).fields).map Fields.declaredSlots).getD []

def parameterOf (field : Field) : Signature.Parameter :=
  { name := field.name, hasFallback := field.fallback.isSome }

def fieldsFault? (table : ClassTable) (id : ClassId) (own fields : List Field) :
    Option ClassFault :=
  ((table.info id).order.tail.reverse.findSome? (hiddenFields? table)).or <|
    (own.findSome? changeable?).or <|
      ((misplaced? fields).map fun field => .fieldOrder field.name).or <|
        (Signature.fault? (fields.map parameterOf)).map ClassFault.signature

def fieldsOf (table : ClassTable) (id : ClassId) (owner : String) (names : List String) :
    Except ClassFault Fields :=
  let own := names.map fun name => (⟨name, fallback? table id name⟩ : Field)
  let all := own.foldl addField (inheritedFields table (table.info id).order.tail)
  match fieldsFault? table id own all with
  | some fault => .error fault
  | none => .ok { all, owner, isFinished := (table.attribute? id ClassTable.finishName).isSome }

/-- Is a name private to a class? It starts with two underscores and does not end so. -/
def isPrivate (name : String) : Bool :=
  let mark := "__".toList
  mark.isPrefixOf name.toList && !mark.isSuffixOf name.toList

/-- The name of a slot: a name that is private to a class has the name of the class before it. -/
def slotName (className name : String) : String :=
  let owner := String.ofList (className.toList.dropWhile (· = '_'))
  if isPrivate name && owner ≠ "" then s!"_{owner}{name}" else name

/-- The fields of a class with slots. Its bases may have slots for some of them, or let instances be
referred to weakly already. -/
def slottedFields (table : ClassTable) (info : ClassInfo) (hasReferences : Bool) (fields : Fields) :
    Fields :=
  let inherited := declaredSlots table info.order.tail ++
    if hasReferences then [ClassTable.referencesName] else []
  let isSealed := !fields.names.contains "__slots__"
  let declared := fields.names.filter fun name => isSealed && !inherited.contains name
  let held := declared.filter fun name => !ClassTable.unslotted.contains name
  { fields with
    declaredSlots := declared
    slots := held.map (slotName info.name)
    slotted := true
    isSealed }

/-- The class that a declaration describes, before it has a role in a catalogue. -/
def describe (table : ClassTable) (declaration : Declaration) : Except ClassFault ClassInfo := do
  let id := table.next
  let bases := if declaration.bases.isEmpty then [objectId] else declaration.bases
  let layout ← layoutOf table none (bases.map fun base => (table.info base).layout)
  if declaration.name.toList.contains '\x00' then throw .nullName
  let order ← orderOf table id bases
  let inherited := (table.info (table.primaryBase layout bases)).references
  return {
    name := declaration.name
    home := declaration.home
    qualifiedName := declaration.qualifiedName
    bases
    order
    contractual := order.tail.any fun base => (table.info base).contractual
    dispatch := declaration.handled.map Dispatch.listed
    layout
    references := some (inherited.getD id) }

/-- Where a class is at home that leaves its home out. -/
def makerHome (info : ClassInfo) : String :=
  if info.contractual then "abc" else "dataclasses"

/-- The same class with slots for its fields, which take the place of what else it holds under
their names. -/
def withSlots (table : ClassTable) (info : ClassInfo) (fields : Fields) : ClassInfo :=
  let inherited := (table.info (table.primaryBase info.layout info.bases)).references
  let fields := slottedFields table info inherited.isSome fields
  let (others, places) := fields.declaredSlots.partition fun name =>
    name == ClassTable.referencesName
  { info with
    qualifiedName := info.name
    home := if fields.names.contains "__module__" then makerHome info else info.home
    order := table.next :: info.order.tail
    isRoot := false
    dispatch := if fields.names.contains "execute" then none else info.dispatch
    fields := some fields
    layout := if places.isEmpty then info.layout else some table.next
    references :=
      if fields.isSealed && others.isEmpty then inherited else some (inherited.getD table.next) }

/-- Lists a variant with its root, in the place of an older one that is listed as the same. -/
def list (table : ClassTable) (root variant : ClassId) : ClassTable :=
  let same (other : ClassId) : Bool := (table.info other).key == (table.info variant).key
  table.update root fun info =>
    { info with variants := (info.variants.filter fun other => !same other) ++ [variant] }

/-- Do the given ancestors of a class hold a slot in the place of what is called when it is
derived? -/
def hidesHook (table : ClassTable) (ancestors : List ClassId) : Bool :=
  match ancestors.findSome? (table.ownMember? ClassTable.subclassName) with
  | some .slot => true
  | _ => false

def enrol (table : ClassTable) (info : ClassInfo) (root : Option Bool) :
    Except ClassFault ClassTable :=
  let id := table.next
  let added := table.add info
  if hidesHook table info.order.tail then
    .error (.notCallable "member_descriptor")
  else if !added.inCatalogue id then
    match root with
    | some _ => .error (.noKeyword info.qualifiedName)
    | none => .ok added
  else if root = some true then
    match added.shapeOf id with
    | .error fault => .error (.shapeless fault)
    | .ok _ => .ok (added.update id fun info => { info with isRoot := true })
  else
    match added.attribute? id ClassTable.rootName with
    | some (.cls parent) =>
      if info.bases.contains parent then .ok (list added parent id)
      else .error (.variantExtended info.name (added.info parent).name)
    | some (.other ..) => .error (.variantExtended info.name ClassTable.rootName)
    | _ => .error (.noRoot info.name)

/-- Creates a class once more so that it keeps its fields in slots. What a root holds as its root is
its first form, which is none of its bases, unless a field has taken that place. -/
def createSlotted (table : ClassTable) (info : ClassInfo) (fields : Fields) :
    Except ClassFault ClassTable := do
  let id := table.next
  if info.isRoot && !fields.names.contains ClassTable.rootName then
    throw (.variantExtended info.name info.name)
  else
    let table ← enrol table (withSlots table info fields) none
    return table.update id fun created => { created with qualifiedName := info.qualifiedName }

end Declaration

/-- What becomes of a declaration that is accepted at first: the class gets its fields, and its
slots if it has any. -/
def ClassTable.complete (table : ClassTable) (declaration : Declaration) (id : ClassId) :
    Except ClassFault ClassTable :=
  match declaration.fields with
  | none => .ok table
  | some own => do
    let fields ← Declaration.fieldsOf table id declaration.qualifiedName own
    let table := table.update id fun info => { info with fields := some fields }
    if declaration.slots then
      Declaration.createSlotted table (table.info id) fields
    else return table

/-- The table after a declaration, and the fault if there is one; else the declared class is the
last of the table. A class that fails late stays listed with its root. -/
def ClassTable.declare (table : ClassTable) (declaration : Declaration) :
    ClassTable × Option ClassFault :=
  let created := do
    let info ← declaration.describe table
    Declaration.enrol table info declaration.root
  match created with
  | .error fault => (table, some fault)
  | .ok created =>
    match created.complete declaration table.next with
    | .error fault => (created, some fault)
    | .ok completed => (completed, none)

end StepPipeline.Catalogue
