import StepPipeline.Shape

/-!
What classes and instances hold under a name. Classes are known by their addresses in a table.
-/

set_option autoImplicit false

namespace StepPipeline.Catalogue

/-- The address of a class in a table. -/
abbrev ClassId := Nat

inductive Dispatch where
  /-- The contract of a shape only demands that there be a meaning. -/
  | demanded (shape : Shape)
  /-- Classes with these names are handled, others are not. -/
  | listed (names : List String)
  /-- World operations. -/
  | world
  deriving DecidableEq, Repr

inductive Attribute where
  | value (value : Value)
  | shape (shape : Shape)
  | cls (id : ClassId)
  | classes (ids : List ClassId)
  | listing (id : ClassId)
  | registration (id : ClassId)
  /-- A meaning of an execution, which takes the instance as its first argument. -/
  | routine (dispatch : Dispatch)
  /-- What can be changed in place, of a type with the given name. -/
  | changeable (typeName : String)
  /-- Something else, of a type with the given name and with the given exact form. -/
  | other (typeName shown : String)

instance : Inhabited Attribute := ⟨.value .none⟩

namespace Attribute

def ofClasses (ids : List ClassId) : Attribute :=
  if ids.isEmpty then value (.tuple []) else classes ids

/-- A routine that is bound to the class with the given exact form. -/
def bound (routine shownOwner : String) : Attribute :=
  other "method" s!"<bound method {routine} of {shownOwner}>"

def same : Attribute → Attribute → Bool
  | value a, value b => a.same b
  | shape a, shape b => a == b
  | cls a, cls b => a == b
  | classes a, classes b => a == b
  | listing a, listing b => a == b
  | registration a, registration b => a == b
  | routine a, routine b => a == b
  | changeable a, changeable b => a == b
  | other a s, other b t => a == b && s == t
  | _, _ => false

def typeName (classType : String) : Attribute → String
  | value v => v.typeName
  | shape _ => "Shape"
  | cls _ => classType
  | classes _ => "tuple"
  | listing _ => "method"
  | registration _ => "method"
  | routine _ => "function"
  | changeable name => name
  | other name _ => name

def shown (shownClass : ClassId → String) : Attribute → String
  | value v => v.shown
  | shape s => s!"<Shape.{s.name}: {s.arity}>"
  | cls id => shownClass id
  | classes ids => "(" ++ Value.tupleBody (ids.map shownClass) ++ ")"
  | listing id => s!"<bound method Catalogue.variants of {shownClass id}>"
  | registration id => s!"<bound method ABCMeta.register of {shownClass id}>"
  | routine _ => "<function execute>"
  | changeable name => s!"<{name} object>"
  | other _ shown => shown

end Attribute

/-- What a class holds under a name for its instances. -/
inductive Member where
  /-- A slot, in which each instance keeps a value. -/
  | slot
  /-- The name of the class of an instance, which cannot be set. -/
  | variantName
  /-- The listing of variants, by way of the class through which it is reached. -/
  | listing
  /-- A routine that takes the class through which it is reached. -/
  | bound (routine : String)
  /-- The same for the class and all its instances. -/
  | shared (held : Attribute)

end StepPipeline.Catalogue
