import StepPipeline.Session.Language
import StepPipeline.Session.Store
import StepPipeline.Session.Thrown

/-!
The operations of a session. Three catalogues, one for each calling shape, hold operations that
speak, work on a list, or let one dictionary grow at the pace of another; each has one operation
that raises what it is told to and one that its catalogue does not handle. Beside the catalogues
stand items that fulfil no contract or several.
-/

set_option autoImplicit false

namespace StepPipeline.Session

/-- What a step does itself. The family of an operation is the shape of its catalogue. -/
inductive Operation where
  | say (word : Value)
  | const (value : Value)
  | push (value : Value)
  | pop
  | add
  | accumulate (perSecond : Value)
  | tune (pace : Value)
  | fail (family : Shape) (kind : ErrorKind) (args : List Value)
  | ghost (family : Shape) (value : Value)
  | probe (family : Shape) (pipe : String)
  | plain
  | labelled (label : Value)
  | virtual
  | both
  | outer
  | triple
  | echo (label : Value)
  | raw (value : Value)
  | classItem (name : String)

/-- What the class names of a family begin with. -/
def familyMark : Shape → String
  | .bare => "Free"
  | .single => ""
  | .pair => "Duo"

def familyName : Shape → String
  | .bare => "Free"
  | .single => "Stack"
  | .pair => "Duo"

namespace Operation

def classesOf : Shape → List String
  | .bare => ["Free", "Say", "Const", "FreeFail", "FreeProbe", "FreeGhost"]
  | .single =>
    ["Stack", "Push", "Pop", "Add", "Fail", "Nest", "Reenter", "Probe", "Ghost"]
  | .pair => ["Duo", "Accumulate", "Tune", "DuoFail", "DuoGhost"]

def familyOfClass? (name : String) : Option Shape :=
  Shape.all.find? fun family => (classesOf family).contains name

def isContractClass (name : String) : Bool :=
  (familyOfClass? name).isSome || (Shape.all.map Shape.contract).contains name ||
    ["Both", "Outer", "Triple", "Echo"].contains name

def otherClasses : List String :=
  ["Plain", "Labelled", "Virtual", "Both", "Outer", "Triple", "Echo"]

def qualifiedClassName (name : String) : String :=
  if (familyOfClass? name).isSome || otherClasses.contains name then s!"__main__.{name}"
  else if (Shape.all.map Shape.contract).contains name then s!"enum_pipeline.execute.{name}"
  else if name == "Catalogue" then s!"enum_pipeline.catalogue.{name}"
  else name

def typeName : Operation → String
  | say _ => "Say"
  | const _ => "Const"
  | push _ => "Push"
  | pop => "Pop"
  | add => "Add"
  | accumulate _ => "Accumulate"
  | tune _ => "Tune"
  | fail family _ _ => familyMark family ++ "Fail"
  | ghost family _ => familyMark family ++ "Ghost"
  | probe family _ => familyMark family ++ "Probe"
  | plain => "Plain"
  | labelled _ => "Labelled"
  | virtual => "Virtual"
  | both => "Both"
  | outer => "Outer"
  | triple => "Triple"
  | echo _ => "Echo"
  | raw value => value.typeName
  | classItem name => if isContractClass name then "ABCMeta" else "type"

def family? : Operation → Option Shape
  | say _ => some .bare
  | const _ => some .bare
  | push _ => some .single
  | pop => some .single
  | add => some .single
  | accumulate _ => some .pair
  | tune _ => some .pair
  | fail family _ _ => some family
  | ghost family _ => some family
  | probe family _ => some family
  | _ => none

def contracts (operation : Operation) : List Shape :=
  match operation with
  | virtual => [.single]
  | both => [.bare, .single]
  | outer => [.bare, .pair]
  | triple => [.bare, .single, .pair]
  | echo _ => [.single]
  | operation => operation.family?.toList

def facts (operation : Operation) : Facts where
  typeName := operation.typeName
  className? :=
    match operation with
    | classItem name => some name
    | _ => none
  contracts := operation.contracts

/-- The label of an operation: one that it carries, or the name of its type. -/
def label : Operation → String
  | labelled (.text label) => label
  | echo (.text label) => label
  | operation => operation.typeName

def fields : Operation → List (String × Value)
  | say word => [("word", word)]
  | const value => [("value", value)]
  | push value => [("value", value)]
  | accumulate perSecond => [("per_second", perSecond)]
  | tune pace => [("dt", pace)]
  | fail _ kind args => [("kind", .text kind.name), ("args", .list args)]
  | ghost _ value => [("value", value)]
  | probe _ pipe => [("pipe", .text pipe)]
  | _ => []

def recordText (name : String) (fields : List (String × String)) : String :=
  let body := fields.map fun field => field.1 ++ "=" ++ field.2
  name ++ "(" ++ ", ".intercalate body ++ ")"

def shown : Operation → String
  | raw value => value.shown
  | classItem name => s!"<class '{qualifiedClassName name}'>"
  | operation =>
    if operation.family?.isSome then
      recordText operation.typeName (operation.fields.map fun field => (field.1, field.2.shown))
    else s!"<{operation.typeName}>"

end Operation

namespace Step

mutual

def shown : Step Operation → String
  | .own operation => operation.shown
  | .nest steps => Operation.recordText "Nest" [("steps", "[" ++ shownSteps steps ++ "]")]
  | .reenter name => Operation.recordText "Reenter" [("pipe", Text.quoted name)]

def shownSteps : List (Step Operation) → String
  | [] => ""
  | [step] => shown step
  | step :: rest => shown step ++ ", " ++ shownSteps rest

end

def facts : Step Operation → Facts
  | .own operation => operation.facts
  | .nest _ => { typeName := "Nest", contracts := [.single] }
  | .reenter _ => { typeName := "Reenter", contracts := [.single] }

def label : Step Operation → String
  | .own operation => operation.label
  | .nest _ => "Nest"
  | .reenter _ => "Reenter"

def callFault? (className : String) (parameters : List String) (given : Nat) : Option Thrown :=
  (CallFault.of? (className ++ ".execute") ("self" :: parameters) given).map Thrown.call

def openCallFault? (className : String) (given : Nat) : Option Thrown :=
  callFault? className [] (min given 1)

/-- The parameters of the methods of classes that stand beside the catalogues; some take any
contexts. -/
def classCall? (name : String) : Option (Nat → Option Thrown) :=
  match name with
  | "Plain" => some (callFault? name [])
  | "Virtual" => some (callFault? name ["context"])
  | "Echo" => some (callFault? name ["context"])
  | "Both" => some (openCallFault? name)
  | "Outer" => some (openCallFault? name)
  | "Triple" => some (openCallFault? name)
  | _ =>
    (Shape.all.find? fun shape => shape.contract == name).map fun shape =>
      callFault? name shape.contextNames

def methodFault? (name : String) (given : Nat) : Option Thrown :=
  match Operation.familyOfClass? name, classCall? name with
  | some family, _ => callFault? (familyName family) family.contextNames given
  | none, some fault? => fault? given
  | none, none => some (.missingClassAttribute name "execute")

/-- Why a step cannot be called with that many contexts. A class takes the first context for the
step. -/
def uncallable? (given : Nat) : Step Operation → Option Thrown
  | .own (.raw value) => some (.missingAttribute value.typeName "execute")
  | .own (.labelled _) => some (.missingAttribute "Labelled" "execute")
  | .own (.classItem name) => methodFault? name given
  | .own operation => methodFault? operation.typeName (1 + given)
  | .nest _ => methodFault? "Nest" (1 + given)
  | .reenter _ => methodFault? "Reenter" (1 + given)

end Step

end StepPipeline.Session
