import StepPipeline.Yaml.Scalar.Moment

/-!
Tags, which say what kind of value a node stands for. A scalar without quotes and tag gets the tag
that its form shows.
-/

set_option autoImplicit false

namespace StepPipeline.Yaml

inductive Tag where
  | null
  | bool
  | int
  | float
  | binary
  | moment
  | text
  | sequence
  | mapping
  | set
  /-- A mapping whose entries are in order and may repeat a key. -/
  | pairs
  /-- The key of entries that are taken over from other mappings. -/
  | merge
  /-- The key of the value that stands for a whole mapping. -/
  | value
  /-- A kind that is not known. -/
  | unknown
  deriving DecidableEq, Repr

namespace Tag

def knownStem : String := "tag:yaml.org,2002:"

/-- The tags by the names after their stem. -/
def named : List (String × Tag) := [
  ("null", .null), ("bool", .bool), ("int", .int), ("float", .float), ("binary", .binary),
  ("timestamp", .moment), ("str", .text), ("seq", .sequence), ("map", .mapping), ("set", .set),
  ("omap", .pairs), ("pairs", .pairs), ("merge", .merge), ("value", .value)]

def ofName (name : String) : Tag :=
  ((named.find? fun entry => knownStem ++ entry.1 == name).map Prod.snd).getD .unknown

/-! ### The forms of scalars -/

def dropSign (cs : List Char) : List Char :=
  (Numeral.splitSign cs).2

def isFiller (c : Char) : Bool :=
  Numeral.isDigit c || c == '_'

def startsWith (isFirst : Char → Bool) (cs : List Char) : Bool :=
  cs.head?.any isFirst

def isCountingDigit (c : Char) : Bool :=
  '1' ≤ c && c ≤ '9'

/-- Is the text absent, or an `e` with a sign and digits? -/
def isExponent : List Char → Bool
  | [] => true
  | e :: sign :: digits =>
    (e == 'e' || e == 'E') && (sign == '+' || sign == '-') && !digits.isEmpty &&
      digits.all Numeral.isDigit
  | _ => false

/-- Drops places in base sixty, each after a colon, and tells whether there are any. -/
def dropPlaces : List Char → Bool × List Char
  | ':' :: a :: b :: rest =>
    if '0' ≤ a ∧ a ≤ '5' ∧ Numeral.isDigit b then (true, (dropPlaces rest).2)
    else if Numeral.isDigit a then (true, (dropPlaces (b :: rest)).2)
    else (false, ':' :: a :: b :: rest)
  | [':', a] => if Numeral.isDigit a then (true, []) else (false, [':', a])
  | cs => (false, cs)

def isFloat (cs : List Char) : Bool :=
  let body := dropSign cs
  let afterDigits := body.dropWhile isFiller
  let digits := startsWith Numeral.isDigit body
  let afterPoint (cs : List Char) : Option (List Char) :=
    match cs with
    | '.' :: rest => some rest
    | _ => none
  let decimal := digits && (afterPoint afterDigits).any fun rest =>
    isExponent (rest.dropWhile isFiller)
  let fraction := (afterPoint cs).any fun rest =>
    startsWith Numeral.isDigit rest && isExponent (rest.dropWhile isFiller)
  let (places, afterPlaces) := dropPlaces afterDigits
  let sixties := digits && places && (afterPoint afterPlaces).any fun rest => rest.all isFiller
  let infinite := [".inf", ".Inf", ".INF"].contains (String.ofList body)
  let none := [".nan", ".NaN", ".NAN"].contains (String.ofList cs)
  decimal || fraction || sixties || infinite || none

def isRow (belongs : Char → Bool) (cs : List Char) : Bool :=
  !cs.isEmpty && cs.all belongs

def isInt (cs : List Char) : Bool :=
  match dropSign cs with
  | ['0'] => true
  | '0' :: 'b' :: digits => isRow (fun c => c == '0' || c == '1' || c == '_') digits
  | '0' :: 'x' :: digits =>
    isRow (fun c => isFiller c || ('a' ≤ c && c ≤ 'f') || ('A' ≤ c && c ≤ 'F')) digits
  | '0' :: digits => isRow (fun c => ('0' ≤ c && c ≤ '7') || c == '_') digits
  | body =>
    startsWith isCountingDigit body && (dropPlaces (body.dropWhile isFiller)).2.isEmpty

def truthWords : List String := [
  "yes", "Yes", "YES", "no", "No", "NO", "true", "True", "TRUE", "false", "False", "FALSE",
  "on", "On", "ON", "off", "Off", "OFF"]

def nullWords : List String := ["", "~", "null", "Null", "NULL"]

/-- The texts that stand for characters of the language itself. -/
def markWords : List String := ["!", "&", "*"]

def ofForm (cs : List Char) : Tag :=
  let word := String.ofList cs
  if truthWords.contains word then .bool
  else if isFloat cs then .float
  else if isInt cs then .int
  else if word = "<<" then .merge
  else if nullWords.contains word then .null
  else if Moment.hasForm cs then .moment
  else if word = "=" then .value
  else if markWords.contains word then .unknown
  else .text

/-- The tag of a scalar by its form; a line feed at its end is not looked at. -/
def ofScalar (cs : List Char) : Tag :=
  if cs ≠ ['\n'] ∧ cs.getLast? = some '\n' then ofForm cs.dropLast else ofForm cs

end Tag

end StepPipeline.Yaml
