import StepPipeline.Catalogue.Declaration
import StepPipeline.Catalogue.Instance

/-!
Named classes and named instances. A name is bound anew by a later class or instance of that name;
what fails binds nothing.
-/

set_option autoImplicit false

namespace StepPipeline.Catalogue

/-- The classes and instances that have names. -/
structure Registry where
  table : ClassTable := ClassTable.initial
  classes : List (String × ClassId) := initialNames
  objects : List (String × Instance) := []

namespace Registry

def bind {α : Type} (name : String) (a : α) (bindings : List (String × α)) : List (String × α) :=
  bindings.filter (fun entry => entry.1 != name) ++ [(name, a)]

/-- What a name is bound to; a name without binding is given back. -/
def find {α : Type} (name : String) (bindings : List (String × α)) : Except String α :=
  match bindings.find? fun entry => entry.1 == name with
  | some entry => .ok entry.2
  | none => .error name

def cls (registry : Registry) (name : String) : Except String ClassId :=
  find name registry.classes

def object (registry : Registry) (name : String) : Except String Instance :=
  find name registry.objects

/-- The item with a name; the name of a class follows an at sign. -/
def item (registry : Registry) (name : String) : Except String Item :=
  match name.toList with
  | '@' :: rest => (registry.cls (String.ofList rest)).map Item.cls
  | _ => (registry.object name).map Item.object

def declare (registry : Registry) (declaration : Declaration) : Registry × Option ClassFault :=
  match registry.table.declare declaration with
  | (table, some fault) => ({ registry with table }, some fault)
  | (table, none) =>
    let classes := bind declaration.name (table.next - 1) registry.classes
    ({ registry with table, classes }, none)

def instantiate (registry : Registry) (name : String) (id : ClassId) (args : List Value) :
    Except ClassFault (Instance × Registry) := do
  let object ← Instance.create registry.table id args
  return (object, { registry with objects := bind name object registry.objects })

def register (registry : Registry) (contract id : ClassId) : Except ClassFault Registry := do
  return { registry with table := ← registry.table.register contract id }

def assign (registry : Registry) (name : String) (object : Instance) (field : String)
    (value : Value) : Except ClassFault Registry := do
  let object ← object.assign registry.table field value
  let replaced (entry : String × Instance) : String × Instance :=
    if entry.1 == name then (name, object) else entry
  return { registry with objects := registry.objects.map replaced }

def same (registry : Registry) (a b : String × Instance) : Except ClassFault Bool :=
  if a.1 = b.1 then a.2.sameAsItself registry.table else a.2.same registry.table b.2

end Registry

inductive Subject where
  | cls (id : ClassId)
  | object (object : Instance)
  | value (value : Value)

namespace Subject

def shape (table : ClassTable) : Subject → Except ShapelessFault Shape
  | cls id => table.shapeOf id
  | object o => table.shapeOf o.cls
  | value v => Shape.ofContracts v.typeName []

def label (table : ClassTable) : Subject → String
  | cls id => table.kindName id
  | object o => o.label table
  | value v => v.typeName

def unhandled (table : ClassTable) : Subject → ClassFault
  | cls id => .unhandled (table.kindName id) (table.shown id)
  | object o => .unhandled (table.info o.cls).qualifiedName (o.shown table)
  | value v => .unhandled v.typeName v.shown

end Subject

end StepPipeline.Catalogue
