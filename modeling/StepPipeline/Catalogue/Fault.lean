import StepPipeline.Call
import StepPipeline.Catalogue.Signature
import StepPipeline.Fault
import StepPipeline.Text.Characters

/-!
Faults of classes and of their instances. Some sentences cut the name of a type to a number of
bytes. The sentence about classes without an order is cut as a whole, and it cannot be told if that
splits a character.
-/

set_option autoImplicit false

namespace StepPipeline.Catalogue

inductive ClassFault where
  /-- Two bases keep different fields in slots. -/
  | layoutConflict
  | nullName
  | duplicateBase (name : String)
  /-- No order keeps the orders of all bases. -/
  | noOrder (sentence : String)
  /-- No order keeps the orders of all bases, and there is no telling of which. -/
  | noOrderTold
  /-- A class outside of the catalogues cannot be a root. -/
  | noKeyword (qualifiedName : String)
  /-- A root has no single shape. -/
  | shapeless (fault : ShapelessFault)
  /-- A class in no catalogue is no root. -/
  | noRoot (name : String)
  /-- The root of a class is not one of its bases. -/
  | variantExtended (name root : String)
  /-- A class would be registered with a class derived from it. -/
  | registrationCycle
  /-- A root is not instantiated. -/
  | rootInstance (name : String)
  | abstractInstance (name : String)
  /-- A class that takes no arguments is given some. -/
  | noArguments (name : String)
  | call (fault : CallFault)
  | frozen (field : String)
  /-- There is no signature for the fields. -/
  | signature (fault : SignatureFault)
  /-- A field would fall back on something that can be changed in place. -/
  | changeableFallback (typeName field : String)
  /-- Another attribute of an instance with slots is assigned. -/
  | foreignInstance
  | fixedName (name : String)
  /-- The class of an instance is replaced by a value that is no class. -/
  | classReplaced (typeName : String)
  /-- The class of an instance is replaced by the class of ordinary classes. -/
  | classFixed
  /-- The class of an instance is replaced by the class of contracts. -/
  | classLayout (name : String)
  /-- The attributes of an instance are replaced by a value that is no mapping. -/
  | attributesReplaced (typeName : String)
  /-- The weak references to an instance are replaced. -/
  | referencesFixed (name : String)
  /-- An attribute that only the class of an instance can hold is assigned. -/
  | readOnly (name member : String)
  /-- An instance that keeps nothing outside of slots has none of a name. -/
  | noPlace (name member : String)
  /-- A slot holds nothing. -/
  | emptySlot (name member : String)
  /-- A value has no attribute of a name. -/
  | missingAttribute (typeName member : String)
  /-- A class has no attribute of a name. -/
  | missingClassAttribute (className member : String)
  /-- What is called as a method is none. -/
  | notCallable (typeName : String)
  /-- A field that has to be given something comes after one that need not. -/
  | fieldOrder (field : String)
  /-- A dispatch meets a variant that it does not handle. -/
  | unhandled (variant shown : String)
  deriving DecidableEq, Repr

def ClassFault.ofBlocked (names : List String) : ClassFault :=
  let sentence := "Cannot create a consistent method resolution\norder (MRO) for bases " ++
    ", ".intercalate names
  match Text.cut? 999 sentence with
  | some sentence => noOrder sentence
  | none => noOrderTold

def ClassFault.message : ClassFault → String
  | layoutConflict => "multiple bases have instance lay-out conflict"
  | nullName => "type name must not contain null characters"
  | duplicateBase name => s!"duplicate base class {name}"
  | noOrder sentence => sentence
  | noOrderTold => ""
  | noKeyword name => s!"{name}.__init_subclass__() takes no keyword arguments"
  | shapeless fault => fault.message
  | noRoot name => s!"{name} must declare a catalogue root with root=True."
  | variantExtended name root => s!"{name} cannot extend variant of {root}; variants are leaves."
  | registrationCycle => "Refusing to create an inheritance cycle"
  | rootInstance name => s!"{name} is a catalogue root; instantiate one of its variants."
  | abstractInstance name =>
    s!"Can't instantiate abstract class {name} with abstract method execute"
  | noArguments name => Text.cut 200 name ++ "() takes no arguments"
  | call fault => fault.message
  | frozen field => s!"cannot assign to field {Text.quoted field}"
  | signature fault => fault.message
  | changeableFallback typeName field =>
    s!"mutable default <class '{typeName}'> for field {field} is not allowed: use default_factory"
  | foreignInstance => "super(type, obj): obj must be an instance or subtype of type"
  | fixedName name => s!"property 'variant_name' of '{name}' object has no setter"
  | classReplaced typeName => s!"__class__ must be set to a class, not '{typeName}' object"
  | classFixed =>
    "__class__ assignment only supported for mutable types or ModuleType subclasses"
  | classLayout name => s!"__class__ assignment: 'ABCMeta' object layout differs from '{name}'"
  | attributesReplaced typeName =>
    s!"__dict__ must be set to a dictionary, not a '{typeName}'"
  | referencesFixed name =>
    "attribute '__weakref__' of '" ++ Text.cut 100 name ++ "' objects is not writable"
  | readOnly name member =>
    "'" ++ Text.cut 50 name ++ s!"' object attribute '{member}' is read-only"
  | noPlace name member =>
    "'" ++ Text.cut 100 name ++ s!"' object has no attribute '{member}'"
  | emptySlot name member =>
    "'" ++ Text.cut 200 name ++ s!"' object has no attribute '{member}'"
  | missingAttribute typeName member =>
    "'" ++ Text.cut 50 typeName ++ s!"' object has no attribute '{member}'"
  | missingClassAttribute className member =>
    "type object '" ++ Text.cut 50 className ++ s!"' has no attribute '{member}'"
  | notCallable typeName => "'" ++ Text.cut 200 typeName ++ "' object is not callable"
  | fieldOrder field => s!"non-default argument {Text.quoted field} follows default argument"
  | unhandled variant shown => s!"Unhandled variant {variant}: {shown}"

def ClassFault.kind : ClassFault → String
  | shapeless _ => "ShapeError"
  | registrationCycle => "RuntimeError"
  | frozen _ => "FrozenInstanceError"
  | nullName | changeableFallback .. => "ValueError"
  | noOrderTold => "UnicodeDecodeError"
  | .signature (.otherName _) => "TypeError"
  | .signature _ => "SyntaxError"
  | fixedName _ | referencesFixed _ | readOnly .. | noPlace .. | emptySlot .. => "AttributeError"
  | missingAttribute .. | missingClassAttribute .. => "AttributeError"
  | unhandled .. => "UnhandledVariantError"
  | _ => "TypeError"

/-- Is what is raised for a class fault a type error? Shape errors are. -/
def ClassFault.isTypeError (fault : ClassFault) : Bool :=
  fault.kind == "TypeError" || fault.kind == "ShapeError"

instance : Cause ClassFault where
  message := ClassFault.message
  escapes _ := false

end StepPipeline.Catalogue
