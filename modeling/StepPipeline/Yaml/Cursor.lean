import StepPipeline.Yaml.Fault

/-!
A place in a YAML text: what follows, and the line and column reached. Columns decide which
collection a line belongs to, so every step of a cursor keeps count of them.
-/

set_option autoImplicit false

namespace StepPipeline.Yaml

def isBreak (c : Char) : Bool :=
  c == '\n' || c == '\u0085' || c == '\u2028' || c == '\u2029'

/-- The mark that may stand at the beginning of a text; it takes no column. -/
def byteOrderMark : Char := '\uFEFF'

def isSpaceOrEnd : Option Char → Bool
  | none => true
  | some c => c == ' ' || isBreak c

def isGap : Option Char → Bool
  | some '\t' => true
  | c => isSpaceOrEnd c

/-- May the character stand in the name of an anchor, a tag handle or a directive? -/
def isNameChar (c : Char) : Bool :=
  c.isAlphanum || c == '-' || c == '_'

def isAllowed (c : Char) : Bool :=
  let n := c.toNat
  n == 0x9 || n == 0xA || n == 0xD || (0x20 ≤ n && n ≤ 0x7E) || n == 0x85 ||
    (0xA0 ≤ n && n ≤ 0xFFFD) || 0x10000 ≤ n

def hexDigit? (c : Char) : Option Nat :=
  if '0' ≤ c ∧ c ≤ '9' then some (c.toNat - '0'.toNat)
  else if 'a' ≤ c ∧ c ≤ 'f' then some (c.toNat - 'a'.toNat + 10)
  else if 'A' ≤ c ∧ c ≤ 'F' then some (c.toNat - 'A'.toNat + 10)
  else none

def hexNumber? (cs : List Char) : Option Nat :=
  cs.foldl (fun n c => n.bind fun n => (hexDigit? c).map fun d => n * 16 + d) (some 0)

structure Cursor where
  rest : List Char
  index : Nat := 0
  line : Nat := 0
  column : Nat := 0

namespace Cursor

def peek (here : Cursor) : Option Char :=
  here.rest.head?

def peekNext (here : Cursor) : Option Char :=
  here.rest[1]?

def atEnd (here : Cursor) : Bool :=
  here.rest.isEmpty

def next (here : Cursor) : Cursor :=
  match here.rest with
  | [] => here
  | c :: rest =>
    let index := here.index + 1
    if isBreak c then ⟨rest, index, here.line + 1, 0⟩
    else if c = byteOrderMark then ⟨rest, index, here.line, here.column⟩
    else ⟨rest, index, here.line, here.column + 1⟩

def skip : Nat → Cursor → Cursor
  | 0, here => here
  | n + 1, here => skip n here.next

/-- The longest run of characters of a class, and the place after it. -/
def span (belongs : Char → Bool) (here : Cursor) : List Char × Cursor :=
  let run := here.rest.takeWhile belongs
  (run, here.skip run.length)

def skipWhile (belongs : Char → Bool) (here : Cursor) : Cursor :=
  (here.span belongs).2

/-- Goes past the spaces, up to the given column. -/
def skipSpacesTo (column : Nat) (here : Cursor) : Cursor :=
  here.skip ((here.rest.take (column - here.column)).takeWhile (· == ' ')).length

/-- Goes past a line break, and tells what it stands for. -/
def lineBreak? (here : Cursor) : Option (Char × Cursor) :=
  here.peek.bind fun c =>
    if c = '\n' ∨ c = '\u0085' then some ('\n', here.next)
    else if isBreak c then some (c, here.next)
    else none

/-- Goes past a comment, if one stands here, up to the end of its line. -/
def skipComment (here : Cursor) : Cursor :=
  if here.peek = some '#' then here.skipWhile fun c => !isBreak c else here

/-- Does a marker of three equal characters stand here by itself? -/
def atMarker (mark : Char) (here : Cursor) : Bool :=
  here.rest.take 3 == [mark, mark, mark] && isGap here.rest[3]?

def atDocumentMarker (here : Cursor) : Bool :=
  here.atMarker '-' || here.atMarker '.'

/-- Goes past the rest of a line that may hold nothing but spaces and a comment. -/
def endLine (here : Cursor) : Except Fault Cursor :=
  let stop := (here.skipWhile (· == ' ')).skipComment
  if stop.atEnd then .ok stop
  else match stop.lineBreak? with
    | some (_, after) => .ok after
    | none => .error .malformed

/-- What is found at the beginning of a line, after empty lines. -/
structure Blank where
  /-- The line breaks passed. -/
  breaks : List Char
  /-- Does a document begin or end here? -/
  marked : Bool
  place : Cursor

/-- Goes past lines that hold nothing but white space of a class, and past the white space after
them; `fuel` bounds the number of lines. -/
def blankLinesIn (isWhite : Char → Bool) : (fuel : Nat) → Cursor → Blank
  | 0, here => ⟨[], false, here⟩
  | fuel + 1, here =>
    if here.atDocumentMarker then ⟨[], true, here⟩
    else
      let place := here.skipWhile isWhite
      match place.lineBreak? with
      | none => ⟨[], false, place⟩
      | some (c, after) =>
        let blank := blankLinesIn isWhite fuel after
        { blank with breaks := c :: blank.breaks }

def blankLines (isWhite : Char → Bool) (here : Cursor) : Blank :=
  blankLinesIn isWhite (here.rest.length + 1) here

end Cursor

/-- What a line break inside a scalar stands for: alone a space, before empty lines nothing. -/
def folded (lineBreak : Char) (breaks : List Char) : List Char :=
  if lineBreak ≠ '\n' then lineBreak :: breaks
  else if breaks.isEmpty then [' ']
  else breaks

end StepPipeline.Yaml
