import StepPipeline.Text.Feed
import StepPipeline.Yaml.Cursor
import StepPipeline.Yaml.Token
import StepPipeline.Yaml.Scalar.Inline
import StepPipeline.Yaml.Scalar.Block

/-!
Dividing a YAML text into tokens. A text is looked at portion by portion, so that a portion that is
no text of the language does not matter as long as nothing in it is needed. A key is known for one
only when the colon after it is reached, so the place where it began is kept until then and its
token is put in there. Indented collections begin and end where the columns of their keys and items
say so.
-/

set_option autoImplicit false

namespace StepPipeline.Yaml

structure Source where
  text : List Char
  /-- The fault that is met where the text is needed further; without one it ends there. -/
  edge : Option Fault := none

/-- What can be seen of a text in portions: all before the first with a character that may not stand
in a text. -/
def Source.ofPortions (portions : Text.Portions) : Source :=
  let seen := portions.portions.takeWhile fun portion => portion.all isAllowed
  { text := seen.flatten
    edge :=
      if seen.length < portions.portions.length then some .malformed
      else if portions.isCut then some .undecodable
      else none }

/-- The tokens of a text, as far as it could be divided. -/
structure Tokens where
  items : List Token
  /-- What is wrong with the text after the tokens. -/
  fault : Option Fault

structure KeyPlace where
  /-- The number of tokens before it. -/
  position : Nat
  /-- Must there be a key, since the line begins here and the collection goes on? -/
  isRequired : Bool
  index : Nat
  line : Nat
  column : Nat

/-- A key without a question mark is at most this long. -/
def keyLengthLimit : Nat := 1024

structure Division where
  place : Cursor
  tokens : Array Token := #[]
  /-- The least column of the content of each indented collection, the innermost first. -/
  levels : List Nat := []
  /-- May a key begin here without a question mark? -/
  allowsKey : Bool := true
  /-- Where a key may have begun in the innermost collection. -/
  keyPlace : Option KeyPlace := none
  /-- Where keys may have begun outside the brackets around the place, the innermost first. -/
  outer : List (Option KeyPlace) := []

namespace Division

def inFlow (d : Division) : Bool :=
  !d.outer.isEmpty

/-- The least column of the content of the innermost indented collection. -/
def level (d : Division) : Nat :=
  d.levels.headD 0

def push (token : Token) (d : Division) : Division :=
  { d with tokens := d.tokens.push token }

def emit (token : Token) (place : Cursor) (d : Division) : Division :=
  { d.push token with place }

def insertAt (position : Nat) (tokens : List Token) (d : Division) : Division :=
  { d with
    tokens := d.tokens.extract 0 position ++ tokens.toArray ++
      d.tokens.extract position d.tokens.size }

/-- Goes past white space, comments and line ends; a key may begin on a new line. `fuel` bounds the
number of lines. -/
def skipGap : (fuel : Nat) → Division → Division
  | 0, d => d
  | fuel + 1, d =>
    let stop := (d.place.skipWhile (· == ' ')).skipComment
    match stop.lineBreak? with
    | none => { d with place := stop }
    | some (_, start) =>
      skipGap fuel { d with place := start, allowsKey := d.allowsKey || !d.inFlow }

def toToken (d : Division) : Division :=
  let start :=
    if d.place.index = 0 ∧ d.place.peek = some byteOrderMark then d.place.next else d.place
  skipGap (d.place.rest.length + 1) { d with place := start }

/-- Can a key that began at a place no longer end here? -/
def isStale (d : Division) (key : KeyPlace) : Bool :=
  key.line != d.place.line || keyLengthLimit < d.place.index - key.index

def dropKey (keyPlace : Option KeyPlace) : Except Fault (Option KeyPlace) :=
  if keyPlace.any fun key => key.isRequired then .error .malformed else .ok none

/-- Gives up the places where keys began that can no longer end. -/
def dropStale (d : Division) : Except Fault Division := do
  let drop (keyPlace : Option KeyPlace) : Except Fault (Option KeyPlace) :=
    if keyPlace.any d.isStale then dropKey keyPlace else .ok keyPlace
  let keyPlace ← drop d.keyPlace
  let outer ← d.outer.mapM drop
  return { d with keyPlace, outer }

/-- Ends the innermost of a row of indented collections, up to the first that is not beyond a
level. -/
def closeBlocksOf (limit : Nat) : (levels : List Nat) → Division → Division
  | [], d => { d with levels := [] }
  | level :: levels, d =>
    if limit < level then closeBlocksOf limit levels (d.push .blockEnd)
    else { d with levels := level :: levels }

/-- Ends the indented collections beyond a level; between brackets none ends. -/
def closeBlocks (limit : Nat) (d : Division) : Division :=
  if d.inFlow then d else closeBlocksOf limit d.levels d

/-- Ends every indented collection, and allows no key before the next line. -/
def closeDocument (d : Division) : Except Fault Division := do
  let d := closeBlocks 0 d
  let keyPlace ← dropKey d.keyPlace
  return { d with keyPlace, allowsKey := false }

def forgetKey (d : Division) : Except Fault Division := do
  let keyPlace ← dropKey d.keyPlace
  return { d with keyPlace }

def rememberKey (d : Division) : Except Fault Division := do
  if d.allowsKey then
    let d ← d.forgetKey
    let key : KeyPlace :=
      { position := d.tokens.size
        isRequired := !d.inFlow && d.level == d.place.column + 1
        index := d.place.index
        line := d.place.line
        column := d.place.column }
    return { d with keyPlace := some key }
  else return d

/-- Begins an indented collection at a column, unless it goes on there. -/
def openBlock (column : Nat) (token : Token) (d : Division) : Division :=
  if d.level ≤ column then { d.push token with levels := (column + 1) :: d.levels } else d

/-- Adds a token that may begin a key. -/
def addLabel (read : Cursor → Except Fault (Token × Cursor)) (d : Division) :
    Except Fault Division := do
  let d ← d.rememberKey
  let (token, place) ← read d.place
  return { d.emit token place with allowsKey := false }

def openFlow (token : Token) (d : Division) : Except Fault Division := do
  let d ← d.rememberKey
  return { d.emit token d.place.next with
    allowsKey := true, keyPlace := none, outer := d.keyPlace :: d.outer }

def closeFlow (token : Token) (d : Division) : Except Fault Division := do
  let d ← d.forgetKey
  match d.outer with
  | [] => .error .malformed
  | keyPlace :: outer =>
    return { d.emit token d.place.next with allowsKey := false, keyPlace, outer }

/-- Adds an item mark; outside brackets it may begin an indented collection. -/
def addMark (block token : Token) (d : Division) : Except Fault Division := do
  if d.inFlow then return d.emit token d.place.next
  else if d.allowsKey then return (d.openBlock d.place.column block).emit token d.place.next
  else .error .malformed

def addEntry (d : Division) : Except Fault Division := do
  let d ← d.forgetKey
  let d ← d.addMark .blockSequence .entry
  return { d with allowsKey := true }

def addKey (d : Division) : Except Fault Division := do
  let d ← d.forgetKey
  let d ← d.addMark .blockMapping .key
  return { d with allowsKey := !d.inFlow }

/-- Adds the mark of a value; the key before it is marked where it began. -/
def addValue (d : Division) : Except Fault Division := do
  match d.keyPlace with
  | some key =>
    let begins := !d.inFlow && d.level ≤ key.column
    let marks := if begins then [Token.blockMapping, .key] else [.key]
    let levels := if begins then (key.column + 1) :: d.levels else d.levels
    return { (d.insertAt key.position marks).emit .value d.place.next with
      keyPlace := none, levels, allowsKey := false }
  | none =>
    let d ← d.addMark .blockMapping .value
    return { d with allowsKey := !d.inFlow }

def addComma (d : Division) : Except Fault Division := do
  let d ← d.forgetKey
  return { d.emit .comma d.place.next with allowsKey := true }

def addBlock (isFolded : Bool) (d : Division) : Except Fault Division := do
  let d ← d.forgetKey
  let (text, place) ← Block.read isFolded d.level d.place
  return { d.emit (.scalar (text.map Char.toNat) false) place with allowsKey := true }

def addBare (d : Division) : Except Fault Division := do
  let d ← d.rememberKey
  let scalar := Bare.read d.inFlow d.level d.place
  return { d.emit (.scalar (scalar.text.map Char.toNat) true) scalar.place with
    allowsKey := scalar.brokeLine }

def readName (token : String → Token) (here : Cursor) : Except Fault (Token × Cursor) :=
  (Label.readAnchor here.next).map fun (name, place) => (token name, place)

def readQuoted (isDouble : Bool) (here : Cursor) : Except Fault (Token × Cursor) :=
  (Quoted.read isDouble here).map fun (text, place) => (.scalar text false, place)

def beginsBare (d : Division) (c : Char) : Bool :=
  (!isGap (some c) && !"-?:,[]\x7b\x7d#&*!|>'\"%@`".toList.contains c) ||
    (!isGap d.place.peekNext && (c == '-' || (!d.inFlow && (c == '?' || c == ':'))))

def addToken (c : Char) (d : Division) : Except Fault Division := do
  let starts := d.place.column == 0
  let stands := isGap d.place.peekNext
  if c == '%' && starts then
    let d ← d.closeDocument
    let (directive, place) ← Label.readDirective d.place
    return d.emit (.directive directive) place
  else if starts && d.place.atMarker '-' then
    let d ← d.closeDocument
    return d.emit .documentStart (d.place.skip 3)
  else if starts && d.place.atMarker '.' then
    let d ← d.closeDocument
    return d.emit .documentEnd (d.place.skip 3)
  else if c == '[' then d.openFlow .flowSequence
  else if c == '\x7b' then d.openFlow .flowMapping
  else if c == ']' then d.closeFlow .flowSequenceEnd
  else if c == '\x7d' then d.closeFlow .flowMappingEnd
  else if c == ',' then d.addComma
  else if c == '-' && stands then d.addEntry
  else if c == '?' && (d.inFlow || stands) then d.addKey
  else if c == ':' && (d.inFlow || stands) then d.addValue
  else if c == '*' then d.addLabel (readName .alias)
  else if c == '&' then d.addLabel (readName .anchor)
  else if c == '!' then d.addLabel Label.readTag
  else if c == '|' && !d.inFlow then d.addBlock false
  else if c == '>' && !d.inFlow then d.addBlock true
  else if c == '\'' then d.addLabel (readQuoted false)
  else if c == '"' then d.addLabel (readQuoted true)
  else if d.beginsBare c then d.addBare
  else .error .malformed

/-- Goes on by one token, and tells whether the text is at its end. -/
def step (d : Division) : Except Fault (Division × Bool) := do
  let d ← d.toToken.dropStale
  let d := d.closeBlocks (d.place.column + 1)
  match d.place.peek with
  | none =>
    let d ← d.closeDocument
    return (d, true)
  | some c =>
    let d ← d.addToken c
    return (d, false)

/-- The tokens before the first place where a key may still turn out to begin. -/
def settled (d : Division) : List Token :=
  let places := (d.keyPlace :: d.outer).filterMap fun keyPlace =>
    (keyPlace.filter fun key => !d.isStale key).map fun key => key.position
  d.tokens.toList.take (places.foldl min d.tokens.size)

/-- Goes on to the end of the text; `fuel` bounds the number of tokens. A token that may go on
beyond what can be seen of the text is not added. -/
def run (edge : Option Fault) : (fuel : Nat) → Division → Tokens
  | 0, d => ⟨d.settled, some .malformed⟩
  | fuel + 1, d =>
    match d.step with
    | .error .unfinished => ⟨d.settled, some (edge.getD .malformed)⟩
    | .error fault => ⟨d.settled, some fault⟩
    | .ok (after, isDone) =>
      if edge.isSome && after.place.atEnd then ⟨d.settled, edge⟩
      else if isDone then ⟨after.tokens.toList, none⟩
      else run edge fuel after

end Division

def Tokens.ofSource (source : Source) : Tokens :=
  Division.run source.edge (source.text.length + 1) { place := { rest := source.text } }

end StepPipeline.Yaml
