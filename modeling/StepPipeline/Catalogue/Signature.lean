import StepPipeline.Catalogue.Signature.Token
import StepPipeline.Text.Quoted

/-!
Signatures of records. The fields of a record are the parameters of the routine that fills it, and
that routine is made from a written text: one line gives each type the name of its field, the next
lists the parameters, and the others keep them. So the names of fields are words that are not
reserved, each its own spelling. A place where no token can stand is found before a token that is
out of place.
-/

set_option autoImplicit false

namespace StepPipeline.Catalogue

namespace Signature

def reserved : List String :=
  ["False", "None", "True", "and", "as", "assert", "async", "await", "break", "class", "continue",
    "def", "del", "elif", "else", "except", "finally", "for", "from", "global", "if", "import",
    "in", "is", "lambda", "nonlocal", "not", "or", "pass", "raise", "return", "try", "while",
    "with", "yield"]

/-- The reserved words that stand for values. -/
def constants : List String :=
  ["False", "None", "True"]

def operators : List String :=
  ["+", "-", "*", "/", "%", "@", "&", "|", "^", "<", ">", "."]

structure Parameter where
  name : String
  hasFallback : Bool
  deriving DecidableEq, Repr

def typeName (name : String) : String :=
  "_type_" ++ name

/-- The line that gives each type the name of its field. -/
def typesLine (parameters : List Parameter) : String :=
  let types := parameters.map fun parameter => typeName parameter.name
  let others := ["MISSING", "_HAS_DEFAULT_FACTORY", "__dataclass_builtins_object__", "_return_type"]
  "def __create_fn__(" ++ ", ".intercalate (types ++ others) ++ "):"

def selfName (parameters : List Parameter) : String :=
  if parameters.any fun parameter => parameter.name == "self" then "__dataclass_self__" else "self"

def Parameter.written (parameter : Parameter) : String :=
  let fallback := if parameter.hasFallback then "=_dflt_" ++ parameter.name else ""
  parameter.name ++ ":" ++ typeName parameter.name ++ fallback

def parametersLine (parameters : List Parameter) : String :=
  let written := selfName parameters :: parameters.map Parameter.written
  " def __init__(" ++ ",".intercalate written ++ ")->_return_type:"

def keepingLine (self name : String) : String :=
  let arguments := [self, Text.quoted name, name]
  "  __dataclass_builtins_object__.__setattr__(" ++ ",".intercalate arguments ++ ")"

/-- The text that the routine is made from. -/
def written (parameters : List Parameter) : String :=
  let keep (parameter : Parameter) : String := keepingLine (selfName parameters) parameter.name
  "\n".intercalate ([typesLine parameters, parametersLine parameters] ++ parameters.map keep)

inductive Expected where
  /-- The name of a parameter. -/
  | name
  /-- What follows the name. -/
  | afterName
  /-- An operand of a type. -/
  | type
  /-- What follows an operand of a type. -/
  | afterType
  /-- The first operand of what the parameter falls back on. -/
  | fallback
  /-- A further operand of it. -/
  | operand
  /-- What follows an operand of it. -/
  | afterFallback
  deriving DecidableEq, Repr

structure Reading where
  /-- The names of the parameters and their lines, the latest first. -/
  names : List (String × Nat) := []
  /-- Does a parameter fall back on something? -/
  anyFallback : Bool := false
  expected : Expected := .name

def isOperand : Token → Bool
  | .word w => !reserved.contains w || constants.contains w
  | .number => true
  | .text => true
  | .mark _ => false

/-- Goes on behind the name of a parameter, its type or what it falls back on. -/
def Reading.goOn (reading : Reading) (placed : Placed) : Except PlacedFault (Option Reading) :=
  let isNamed := reading.expected == .afterName
  let hasFallback := reading.expected == .afterFallback
  let misplaced : Except PlacedFault (Option Reading) := .error ⟨.misplaced, placed.line⟩
  let ended (after : Option Reading) : Except PlacedFault (Option Reading) :=
    if reading.anyFallback && !hasFallback then
      .error ⟨.fallbackOrder, (reading.names.head?.map Prod.snd).getD placed.line⟩
    else .ok after
  match placed.token with
  | .mark ")" => ended none
  | .mark "," => ended (some { reading with expected := .name })
  | .mark ":" => if isNamed then .ok (some { reading with expected := .type }) else misplaced
  | .mark "=" =>
    if hasFallback then misplaced else .ok (some { reading with expected := .fallback })
  | .mark m =>
    if isNamed || !operators.contains m then misplaced
    else .ok (some { reading with expected := if hasFallback then .operand else .type })
  | _ => misplaced

/-- What a token makes of a list of parameters; `none` if it ends the list. -/
def Reading.step (reading : Reading) (placed : Placed) : Except PlacedFault (Option Reading) :=
  let misplaced : Except PlacedFault (Option Reading) := .error ⟨.misplaced, placed.line⟩
  let operand (after : Reading) : Except PlacedFault (Option Reading) :=
    if isOperand placed.token then .ok (some after) else misplaced
  let fallback := { reading with expected := .afterFallback, anyFallback := true }
  match reading.expected, placed.token with
  | .name, .word w =>
    if reserved.contains w then misplaced
    else
      let names := (w, placed.line) :: reading.names
      .ok (some { reading with names, expected := .afterName })
  | .name, .mark ")" => .ok none
  | .name, _ => misplaced
  | .type, _ => operand { reading with expected := .afterType }
  | .fallback, .mark "," => .error ⟨.noFallback, placed.line⟩
  | .fallback, .mark ")" => .error ⟨.noFallback, placed.line⟩
  | .fallback, _ => operand fallback
  | .operand, _ => operand fallback
  | _, _ => reading.goOn placed

/-- The names of a list of parameters, and the tokens behind it; `none` if the list does not end. -/
def parametersFrom (reading : Reading) :
    List Placed → Except PlacedFault (Option (List (String × Nat) × List Placed))
  | [] => .ok none
  | placed :: rest =>
    match reading.step placed with
    | .error fault => .error fault
    | .ok none => .ok (some (reading.names.reverse, rest))
    | .ok (some after) => parametersFrom after rest

structure ParameterList where
  line : Nat
  names : List String

structure Lists where
  types : ParameterList
  parameters : ParameterList

/-- A list of parameters, before which three tokens stand, and the tokens behind it. -/
def listFrom (tokens : List Placed) :
    Except PlacedFault (Option (ParameterList × List Placed)) := do
  let line := (tokens.head?.map Placed.line).getD 1
  let found ← parametersFrom {} (tokens.drop 3)
  return found.map fun (names, rest) => ({ line, names := names.map Prod.fst }, rest)

/-- The lists of parameters in some tokens. One token stands between the first list and the second
line. -/
def listsOf (tokens : List Placed) : Except PlacedFault (Option Lists) := do
  match ← listFrom tokens with
  | none => return none
  | some (types, rest) =>
    return (← listFrom (rest.drop 1)).map fun (parameters, _) => { types, parameters }

/-- The lists of parameters in a text. A line that goes on behind its end is not found before a
token that is out of place. -/
def read (text : String) : Except PlacedFault Lists :=
  let (tokens, stopped?) := tokens text
  match listsOf tokens, stopped? with
  | .error fault, some stopped => .error (if stopped.fault = .continued then fault else stopped)
  | .error fault, none => .error fault
  | .ok (some lists), _ => .ok lists
  | .ok none, some stopped => .error stopped
  | .ok none, none => .error ⟨.misplaced, (tokens.getLast?.map Placed.line).getD 1⟩

def repeated? (seen : List String) : List String → Option String
  | [] => none
  | name :: rest => if seen.contains name then some name else repeated? (name :: seen) rest

def ParameterList.repetition? (list : ParameterList) : Option PlacedFault :=
  (repeated? [] list.names).map fun name => ⟨.repeated name, list.line⟩

def ParameterList.constant? (list : ParameterList) : Option PlacedFault :=
  (list.names.find? (· = "__debug__")).map fun name => ⟨.constant name, list.line⟩

def Lists.fault? (lists : Lists) : Option PlacedFault :=
  lists.types.repetition?.or (lists.parameters.repetition?.or lists.parameters.constant?)

end Signature

inductive SignatureFault where
  | nullCharacter
  /-- The written text cannot be read. -/
  | written (fault : Signature.PlacedFault)
  | otherName (name : String)
  deriving DecidableEq, Repr

def SignatureFault.message : SignatureFault → String
  | nullCharacter => "source code string cannot contain null bytes"
  | written fault => fault.message
  | otherName name =>
    s!"__create_fn__() got an unexpected keyword argument '{Signature.typeName name}'"

def Signature.fault? (parameters : List Parameter) : Option SignatureFault :=
  let text := written parameters
  if text.toList.contains '\x00' then some .nullCharacter
  else
    match read text with
    | .error fault => some (.written fault)
    | .ok lists =>
      let isCalledOtherwise (name : String) : Bool :=
        name.toList.any Text.isRespelled || !lists.types.names.contains (typeName name)
      (lists.fault?.map SignatureFault.written).or
        (((parameters.map Parameter.name).find? isCalledOtherwise).map SignatureFault.otherName)

end StepPipeline.Catalogue
