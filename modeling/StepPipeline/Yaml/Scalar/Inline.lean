import StepPipeline.Yaml.Cursor

/-!
Scalars without quotes and scalars in quotes. One without quotes is a row of runs of characters with
white space between them; it may go on over lines as long as they are indented. In quotes of both
kinds white space at the ends of lines is folded; between double quotes a backslash begins an
escape, between single quotes a quote is written twice.
-/

set_option autoImplicit false

namespace StepPipeline.Yaml.Bare

/-- Does the character separate items of collections in brackets? -/
def isFlowMark (c : Char) : Bool :=
  c == ',' || c == '[' || c == ']' || c == '\x7b' || c == '\x7d'

/-- Does a run end before a character that has the other one after it? -/
def endsRun (inFlow : Bool) (c : Char) (after : Option Char) : Bool :=
  isGap (some c) ||
    (c == ':' && (isGap after || (inFlow && after.any isFlowMark))) ||
    (inFlow && (isFlowMark c || c == '?'))

def run (inFlow : Bool) : List Char → List Char
  | [] => []
  | c :: rest => if endsRun inFlow c rest.head? then [] else c :: run inFlow rest

structure Gap where
  /-- What it stands for before another run; empty if there can be none. -/
  text : List Char
  /-- Does it hold the end of a line? -/
  brokeLine : Bool
  place : Cursor

def readGap (here : Cursor) : Gap :=
  let (spaces, after) := here.span (· == ' ')
  match after.lineBreak? with
  | none => ⟨spaces, false, after⟩
  | some (c, start) =>
    let blank := start.blankLines (· == ' ')
    ⟨if blank.marked then [] else folded c blank.breaks, true, blank.place⟩

/-- A scalar without quotes, and the white space after it. -/
structure Scalar where
  text : List Char
  /-- Has a line ended since the last run? -/
  brokeLine : Bool
  place : Cursor

/-- Reads on after white space that stands for `before`; content is indented to `level` at least.
`fuel` bounds the number of runs. -/
def readFrom (inFlow : Bool) (level : Nat) :
    (fuel : Nat) → (before : List Char) → (brokeLine : Bool) → Cursor → Scalar
  | 0, _, brokeLine, here => ⟨[], brokeLine, here⟩
  | fuel + 1, before, brokeLine, here =>
    let chars := if here.peek = some '#' then [] else run inFlow here.rest
    if chars.isEmpty then ⟨[], brokeLine, here⟩
    else
      let gap := readGap (here.skip chars.length)
      if gap.text.isEmpty || gap.place.peek == some '#' ||
          (!inFlow && gap.place.column < level) then
        ⟨before ++ chars, gap.brokeLine, gap.place⟩
      else
        let more := readFrom inFlow level fuel gap.text gap.brokeLine gap.place
        { more with text := before ++ chars ++ more.text }

def read (inFlow : Bool) (level : Nat) (here : Cursor) : Scalar :=
  readFrom inFlow level here.rest.length [] false here

end StepPipeline.Yaml.Bare

namespace StepPipeline.Yaml.Quoted

/-- Is this the white space that is cut off where a line of the scalar ends? -/
def isWhite (c : Char) : Bool :=
  c == ' ' || c == '\t'

def escaped? : Char → Option Nat
  | '0' => some 0x0
  | 'a' => some 0x7
  | 'b' => some 0x8
  | 't' => some 0x9
  | '\t' => some 0x9
  | 'n' => some 0xA
  | 'v' => some 0xB
  | 'f' => some 0xC
  | 'r' => some 0xD
  | 'e' => some 0x1B
  | ' ' => some 0x20
  | '"' => some 0x22
  | '/' => some 0x2F
  | '\\' => some 0x5C
  | 'N' => some 0x85
  | '_' => some 0xA0
  | 'L' => some 0x2028
  | 'P' => some 0x2029
  | _ => none

/-- The number of hexadecimal digits after the letter of an escape. -/
def digitCount? : Char → Option Nat
  | 'x' => some 2
  | 'u' => some 4
  | 'U' => some 8
  | _ => none

/-- Reads empty lines inside quotes, where no document may end. -/
def readBlank (here : Cursor) : Except Fault (List Char × Cursor) :=
  let blank := here.blankLines isWhite
  if blank.marked then .error .malformed else .ok (blank.breaks, blank.place)

def readEscape (here : Cursor) : Except Fault (List Nat × Cursor) :=
  match here.peek with
  | none => .error .unfinished
  | some c =>
    match escaped? c, digitCount? c, here.lineBreak? with
    | some code, _, _ => .ok ([code], here.next)
    | none, some n, _ =>
      let digits := here.next.rest.take n
      match hexNumber? digits with
      | none => .error .malformed
      | some code =>
        if digits.length < n then .error .unfinished
        else if code < 0x110000 then .ok ([code], here.skip (n + 1))
        else .error (.escape code)
    | none, none, some (_, start) =>
      (readBlank start).map fun (breaks, place) => (breaks.map Char.toNat, place)
    | none, none, none => .error .malformed

/-- Reads white space inside quotes, which stands for itself unless a line ends in it. -/
def readWhite (here : Cursor) : Except Fault (List Char × Cursor) :=
  let (white, after) := here.span isWhite
  match after.lineBreak? with
  | none => .ok (white, after)
  | some (c, start) => (readBlank start).map fun (breaks, place) => (folded c breaks, place)

/-- Reads up to the closing quote; `fuel` bounds the number of pieces. -/
def readFrom (isDouble : Bool) : (fuel : Nat) → Cursor → Except Fault (List Nat × Cursor)
  | 0, _ => .error .malformed
  | fuel + 1, here => do
    let some c := here.peek | .error .unfinished
    if isGap (some c) then
      let (white, after) ← readWhite here
      let (text, stop) ← readFrom isDouble fuel after
      return (white.map Char.toNat ++ text, stop)
    else if isDouble && c == '\\' then
      let (codes, after) ← readEscape here.next
      let (text, stop) ← readFrom isDouble fuel after
      return (codes ++ text, stop)
    else if !isDouble && c == '\'' && here.peekNext == some '\'' then
      let (text, stop) ← readFrom isDouble fuel (here.skip 2)
      return (c.toNat :: text, stop)
    else if c == (if isDouble then '"' else '\'') then return ([], here.next)
    else
      let (text, stop) ← readFrom isDouble fuel here.next
      return (c.toNat :: text, stop)

def read (isDouble : Bool) (here : Cursor) : Except Fault (List Nat × Cursor) :=
  readFrom isDouble (here.rest.length + 1) here.next

end StepPipeline.Yaml.Quoted
