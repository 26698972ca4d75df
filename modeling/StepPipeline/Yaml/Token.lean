import StepPipeline.Yaml.Cursor

/-!
The tokens of a YAML text, and among them the labels of nodes, which are anchors and tags, and the
directives that give tags their meaning. Indentation shows as tokens of its own, so that nothing
later looks at columns again.
-/

set_option autoImplicit false

namespace StepPipeline.Yaml

inductive Directive where
  /-- The version of the language. -/
  | version (major : Nat)
  /-- A handle for tags, and what it stands for. -/
  | handle (name stem : String)
  /-- Anything else, which is ignored. -/
  | unknown
  deriving DecidableEq, Repr

inductive Token where
  | directive (line : Directive)
  | documentStart
  | documentEnd
  /-- An indented sequence begins. -/
  | blockSequence
  /-- An indented mapping begins. -/
  | blockMapping
  /-- An indented collection ends. -/
  | blockEnd
  | flowSequence
  | flowSequenceEnd
  | flowMapping
  | flowMappingEnd
  | key
  | value
  | entry
  | comma
  | alias (name : String)
  | anchor (name : String)
  /-- A tag; without a handle it is written out in full. -/
  | tag (handle : Option String) (suffix : String)
  /-- A scalar, by its code points; is it written without quotes? -/
  | scalar (text : List Nat) (isBare : Bool)
  deriving DecidableEq, Repr

end StepPipeline.Yaml

namespace StepPipeline.Yaml.Label

def endsAnchor : Option Char → Bool
  | some c => isGap (some c) || "?:,]\x7d%@`".toList.contains c
  | none => true

def readAnchor (here : Cursor) : Except Fault (String × Cursor) :=
  let (name, stop) := here.span isNameChar
  if name.isEmpty || !endsAnchor stop.peek then .error .malformed
  else .ok (String.ofList name, stop)

def isTagChar (c : Char) : Bool :=
  c.isAlphanum || "-;/?:@&=+$,_.!~*'()[]".toList.contains c

/-- The bytes of a row of escapes, each two hexadecimal digits after a percent sign. -/
def escapedBytes : List Char → Except Fault (List UInt8 × List Char)
  | '%' :: a :: b :: rest => do
    let some n := hexNumber? [a, b] | .error .malformed
    let (bytes, stop) ← escapedBytes rest
    return (UInt8.ofNat n :: bytes, stop)
  | ['%'] => .error .malformed
  | ['%', _] => .error .malformed
  | cs => .ok ([], cs)

/-- Reads the body of a tag; `fuel` bounds the number of its runs. -/
def readTagTextFrom : (fuel : Nat) → Cursor → Except Fault (List Char × Cursor)
  | 0, here => .ok ([], here)
  | fuel + 1, here => do
    let (chars, stop) := here.span isTagChar
    if stop.peek = some '%' then
      let (bytes, rest) ← escapedBytes stop.rest
      let some text := String.fromUTF8? ⟨bytes.toArray⟩ | .error .malformed
      let (more, place) ← readTagTextFrom fuel (stop.skip (stop.rest.length - rest.length))
      return (chars ++ text.toList ++ more, place)
    else return (chars, stop)

/-- Reads the body of a tag, which is not empty. -/
def readTagText (here : Cursor) : Except Fault (String × Cursor) := do
  if here.peek.any fun c => isTagChar c || c == '%' then
    let (text, stop) ← readTagTextFrom (here.rest.length + 1) here
    return (String.ofList text, stop)
  else .error .malformed

/-- Reads a tag handle: one exclamation mark, or a name between two. -/
def readHandle (here : Cursor) : Except Fault (String × Cursor) :=
  if here.peek ≠ some '!' then .error .malformed
  else if here.peekNext = some ' ' then .ok ("!", here.next)
  else
    let (name, stop) := here.next.span isNameChar
    if stop.peek = some '!' then .ok (String.ofList ('!' :: name ++ ['!']), stop.next)
    else .error .malformed

/-- Is another exclamation mark in the word that a tag begins? -/
def hasHandle (here : Cursor) : Bool :=
  (here.next.rest.takeWhile fun c => !isSpaceOrEnd (some c)).contains '!'

/-- Reads a tag: written out between angle brackets, or a handle and what follows it. -/
def readTag (here : Cursor) : Except Fault (Token × Cursor) := do
  let (tag, stop) ←
    if here.peekNext = some '<' then
      let (suffix, stop) ← readTagText (here.skip 2)
      if stop.peek = some '>' then pure (Token.tag none suffix, stop.next)
      else .error .malformed
    else if isGap here.peekNext then pure (Token.tag none "!", here.next)
    else do
      let (handle, start) ← if hasHandle here then readHandle here else pure ("!", here.next)
      let (suffix, stop) ← readTagText start
      pure (Token.tag (some handle) suffix, stop)
  if isSpaceOrEnd stop.peek then return (tag, stop) else .error .malformed

def readVersionNumber (here : Cursor) : Except Fault (Nat × Cursor) :=
  let (digits, stop) := here.span Numeral.isDigit
  if digits.isEmpty then .error .malformed else .ok (Numeral.naturalOf digits, stop)

def readVersion (here : Cursor) : Except Fault (Directive × Cursor) := do
  let (major, point) ← readVersionNumber (here.skipWhile (· == ' '))
  if point.peek = some '.' then
    let (_, stop) ← readVersionNumber point.next
    if isSpaceOrEnd stop.peek then return (.version major, stop) else .error .malformed
  else .error .malformed

def readHandleMeaning (here : Cursor) : Except Fault (Directive × Cursor) := do
  let (name, afterName) ← readHandle (here.skipWhile (· == ' '))
  if afterName.peek = some ' ' then
    let (stem, stop) ← readTagText (afterName.skipWhile (· == ' '))
    if isSpaceOrEnd stop.peek then return (.handle name stem, stop) else .error .malformed
  else .error .malformed

def readDirective (here : Cursor) : Except Fault (Directive × Cursor) := do
  let (name, afterName) := here.next.span isNameChar
  if name.isEmpty || !isSpaceOrEnd afterName.peek then .error .malformed
  else
    let (directive, stop) ←
      if name = "YAML".toList then readVersion afterName
      else if name = "TAG".toList then readHandleMeaning afterName
      else pure (Directive.unknown, afterName.skipWhile fun c => !isBreak c)
    let place ← stop.endLine
    return (directive, place)

end StepPipeline.Yaml.Label
