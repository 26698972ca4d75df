import StepPipeline.Text.Characters

/-!
Words of a command line. A word that begins with a dash is an option, by its name, by a beginning of
a long name that fits no other, or as a row of short names; after two dashes alone every word is
plain. Plain words go to the positional argument, if it is still open.
-/

set_option autoImplicit false

namespace StepPipeline.CommandLine

structure Switch where
  names : List String
  /-- Is a value given with it? -/
  takesValue : Bool
  deriving DecidableEq, Repr

def Switch.title (switch : Switch) : String :=
  "/".intercalate switch.names

inductive Positional where
  | single
  | command
  deriving DecidableEq, Repr

structure Grammar where
  switches : List Switch
  positional : Option Positional

inductive WordFault where
  | ambiguous (word : String) (matching : List String)
  | noValue (switch : Switch)
  | ignoredValue (switch : Switch) (value : List Char)
  deriving DecidableEq, Repr

inductive Role where
  | plain
  /-- Two dashes alone. -/
  | separator
  /-- An option by one of its names, with the value that the word gives. -/
  | switch (switch : Switch) (name : List Char) (value : Option (List Char))
  /-- It looks like an option, but there is none. -/
  | unknown
  deriving DecidableEq, Repr

structure Word where
  text : String
  role : Role
  deriving DecidableEq, Repr

inductive Argument where
  | switch (switch : Switch) (value : Option String)
  | single (word : String)
  | command (words : List String)
  deriving DecidableEq, Repr

structure Arguments where
  given : List Argument := []
  /-- Words that belong to no argument. -/
  extras : List String := []
  /-- What ends the arguments early. -/
  fault : Option WordFault := none
  deriving DecidableEq, Repr

namespace Grammar

def names (grammar : Grammar) : List (List Char × Switch) :=
  grammar.switches.flatMap fun switch => switch.names.map fun name => (name.toList, switch)

def switch? (grammar : Grammar) (name : List Char) : Option Switch :=
  (grammar.names.find? fun entry => entry.1 == name).map Prod.snd

def splitValue (cs : List Char) : List Char × Option (List Char) :=
  match cs.dropWhile (· != '=') with
  | _ :: value => (cs.takeWhile (· != '='), some value)
  | [] => (cs, none)

/-- The options that a word may mean by its beginning. -/
def candidates (grammar : Grammar) (cs : List Char) : List (List Char × Role) :=
  match cs with
  | '-' :: '-' :: _ =>
    let (start, value) := splitValue cs
    (grammar.names.filter fun entry => start.isPrefixOf entry.1).map fun (name, switch) =>
      (name, .switch switch name value)
  | _ =>
    grammar.names.filterMap fun (name, switch) =>
      if name = cs.take 2 then some (name, .switch switch name (some (cs.drop 2)))
      else if cs.isPrefixOf name then some (name, .switch switch name none)
      else none

def isNegativeNumber : List Char → Bool
  | '-' :: body =>
    let isDigit (c : Char) : Bool := (Text.digit? c).isSome
    let body := if body.getLast? = some '\n' then body.dropLast else body
    match body.dropWhile isDigit with
    | [] => !body.isEmpty
    | '.' :: fraction => !fraction.isEmpty && fraction.all isDigit
    | _ => false
  | _ => false

/-- What a word is, as long as no separator stands before it. -/
def role (grammar : Grammar) (text : String) : Except WordFault Role :=
  let cs := text.toList
  let (start, value) := splitValue cs
  if cs.head? ≠ some '-' then .ok .plain
  else match grammar.switch? cs, grammar.switch? start, value with
    | some switch, _, _ => .ok (.switch switch cs none)
    | none, some switch, some value => .ok (.switch switch start (some value))
    | none, _, _ =>
      if cs.length = 1 then .ok .plain
      else match grammar.candidates cs with
        | [(_, role)] => .ok role
        | [] =>
          .ok (if isNegativeNumber cs || cs.contains ' ' then .plain else .unknown)
        | several => .error (.ambiguous text (several.map fun entry => String.ofList entry.1))

def words (grammar : Grammar) : List String → Except WordFault (List Word)
  | [] => .ok []
  | "--" :: rest => .ok (⟨"--", .separator⟩ :: rest.map fun text => ⟨text, .plain⟩)
  | text :: rest => do
    let role ← grammar.role text
    let others ← grammar.words rest
    return ⟨text, role⟩ :: others

def isOption (word : Word) : Bool :=
  match word.role with
  | .switch .. => true
  | .unknown => true
  | _ => false

def isPlain (word : Word) : Bool :=
  word.role = .plain

def isSeparator (word : Word) : Bool :=
  word.role = .separator

/-- Takes the positional argument from the beginning of the words, which may be separated from
others. -/
def takePositional? (positional : Positional) (words : List Word) :
    Option (Argument × List Word) :=
  match words.dropWhile isSeparator with
  | word :: rest =>
    if isPlain word then
      match positional with
      | .single => some (.single word.text, rest.dropWhile isSeparator)
      | .command => some (.command (words.map Word.text), [])
    else none
  | [] => none

structure Taken where
  given : List Argument := []
  /-- What remains of the word. -/
  extras : List String := []
  /-- An option whose value is the next word. -/
  awaiting : Option Switch := none

def Taken.ofSwitch (switch : Switch) : Taken :=
  if switch.takesValue then { awaiting := some switch } else { given := [.switch switch none] }

/-- Takes the options of a word that has a value. An option without values passes its value on as a
row of short names; `fuel` bounds their number. -/
def takeValue (grammar : Grammar) (switch : Switch) (name value : List Char) :
    (fuel : Nat) → Except WordFault Taken
  | 0 => .error (.ignoredValue switch value)
  | fuel + 1 =>
    if switch.takesValue then
      .ok { given := [.switch switch (some (String.ofList value))] }
    else if name[1]? = some '-' then .error (.ignoredValue switch value)
    else match value with
      | [] => .error (.ignoredValue switch value)
      | c :: rest =>
        match grammar.switch? ['-', c] with
        | none => .error (.ignoredValue switch value)
        | some following =>
          let taken : Except WordFault Taken :=
            if rest.isEmpty then .ok (Taken.ofSwitch following)
            else grammar.takeValue following ['-', c] rest fuel
          taken.map fun taken => { taken with given := .switch switch none :: taken.given }

def takeOption (grammar : Grammar) (word : Word) : Except WordFault Taken :=
  match word.role with
  | .switch switch name (some value) => grammar.takeValue switch name value (value.length + 1)
  | .switch switch _ none => .ok (Taken.ofSwitch switch)
  | _ => .ok { extras := [word.text] }

/-- Takes options and positional arguments in turn; `fuel` bounds their number. -/
def take (grammar : Grammar) : (fuel : Nat) → Option Positional → List Word → Arguments
  | 0, _, words => { extras := words.map Word.text }
  | fuel + 1, positional, words =>
    let early : Option (Argument × List Word) :=
      if words.head?.any isOption then none
      else positional.bind fun positional => takePositional? positional words
    match early with
    | some (argument, rest) =>
      let more := grammar.take fuel none rest
      { more with given := argument :: more.given }
    | none =>
      let skipped := (words.takeWhile fun word => !isOption word).map Word.text
      match words.dropWhile fun word => !isOption word with
      | [] => { extras := skipped }
      | word :: rest =>
        match grammar.takeOption word with
        | .error fault => { extras := skipped, fault := some fault }
        | .ok taken =>
          match taken.awaiting, rest with
          | none, rest =>
            let more := grammar.take fuel positional rest
            { more with
              given := taken.given ++ more.given
              extras := skipped ++ taken.extras ++ more.extras }
          | some switch, value :: rest =>
            if isPlain value then
              let more := grammar.take fuel positional rest
              { more with
                given := taken.given ++ .switch switch (some value.text) :: more.given
                extras := skipped ++ taken.extras ++ more.extras }
            else { extras := skipped, fault := some (.noValue switch) }
          | some switch, [] => { extras := skipped, fault := some (.noValue switch) }

def arguments (grammar : Grammar) (texts : List String) : Arguments :=
  match grammar.words texts with
  | .error fault => { fault := some fault }
  | .ok words => grammar.take (words.length + 1) grammar.positional words

end Grammar

end StepPipeline.CommandLine
