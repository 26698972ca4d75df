import StepPipeline.Yaml.Cursor

/-!
Scalars in indented blocks. The block keeps its lines, or folds them into one where two lines begin
with text; its header says how it ends and how far it is indented, if its first line does not.
-/

set_option autoImplicit false

namespace StepPipeline.Yaml.Block

/-- What becomes of the line breaks at the end of a block. -/
inductive Chomping where
  /-- One is kept. -/
  | clip
  /-- None is kept. -/
  | strip
  /-- All are kept. -/
  | keep
  deriving DecidableEq, Repr

structure Header where
  chomping : Chomping
  /-- How far the block is indented, if the header says it. -/
  indent : Option Nat
  place : Cursor

def readChomping (here : Cursor) : Chomping × Cursor :=
  if here.peek = some '+' then (.keep, here.next)
  else if here.peek = some '-' then (.strip, here.next)
  else (.clip, here)

/-- Reads a digit for the indentation, which is not zero. -/
def readIndent (here : Cursor) : Except Fault (Option Nat × Cursor) :=
  match here.peek with
  | some c =>
    if c = '0' then .error .malformed
    else if Numeral.isDigit c then .ok (some (c.toNat - '0'.toNat), here.next)
    else .ok (none, here)
  | none => .ok (none, here)

/-- Reads the header, from after its first character to the end of its line. -/
def readHeader (here : Cursor) : Except Fault Header := do
  let (first, afterFirst) := readChomping here
  let (indent, afterIndent) ← readIndent afterFirst
  let (chomping, stop) :=
    if first = .clip ∧ indent.isSome then readChomping afterIndent else (first, afterIndent)
  if isSpaceOrEnd stop.peek then
    let place ← stop.endLine
    return { chomping, indent, place }
  else .error .malformed

/-- What stands before the next line of a block. -/
structure Lead where
  breaks : List Char
  /-- The largest column that spaces reach. -/
  column : Nat
  place : Cursor

/-- Reads the lines of spaces at the beginning of a block; `fuel` bounds their number. -/
def readLead : (fuel : Nat) → Cursor → Lead
  | 0, here => ⟨[], 0, here⟩
  | fuel + 1, here =>
    let stop := here.skipWhile (· == ' ')
    match stop.lineBreak? with
    | none => ⟨[], stop.column, stop⟩
    | some (c, start) =>
      let lead := readLead fuel start
      ⟨c :: lead.breaks, max stop.column lead.column, lead.place⟩

/-- Reads empty lines, and spaces up to the indentation; `fuel` bounds the number of lines. -/
def readBreaks (indent : Nat) : (fuel : Nat) → Cursor → List Char × Cursor
  | 0, here => ([], here)
  | fuel + 1, here =>
    let stop := here.skipSpacesTo indent
    match stop.lineBreak? with
    | none => ([], stop)
    | some (c, start) =>
      let (breaks, place) := readBreaks indent fuel start
      (c :: breaks, place)

structure Lines where
  text : List Char
  /-- The break that ends the last line, if one does. -/
  last : List Char
  /-- The breaks of the empty lines after it. -/
  trailing : List Char
  place : Cursor

/-- Does a line begin with text, and not with white space? -/
def beginsText (here : Cursor) : Bool :=
  !(here.peek == some ' ' || here.peek == some '\t')

/-- Reads the lines of a block after empty lines; `fuel` bounds their number. -/
def readLines (isFolded : Bool) (indent : Nat) :
    (fuel : Nat) → (breaks : List Char) → Cursor → Lines
  | 0, breaks, here => ⟨[], [], breaks, here⟩
  | fuel + 1, breaks, here =>
    if here.column = indent ∧ !here.atEnd then
      let (line, stop) := here.span fun c => !isBreak c
      let (last, start) :=
        match stop.lineBreak? with
        | none => ([], stop)
        | some (c, start) => ([c], start)
      let (trailing, place) := readBreaks indent (start.rest.length + 1) start
      if place.column = indent ∧ !place.atEnd then
        let joint :=
          if isFolded ∧ last = ['\n'] ∧ beginsText here ∧ beginsText place then
            (if trailing.isEmpty then [' '] else [])
          else last
        let more := readLines isFolded indent fuel trailing place
        { more with text := breaks ++ line ++ joint ++ more.text }
      else ⟨breaks ++ line, last, trailing, place⟩
    else ⟨[], [], breaks, here⟩

/-- Reads a block, from its first character on; content is indented to `level` at least. -/
def read (isFolded : Bool) (level : Nat) (here : Cursor) :
    Except Fault (List Char × Cursor) := do
  let header ← readHeader here.next
  let least := max level 1
  let fuel := here.rest.length + 1
  let (breaks, indent, start) :=
    match header.indent with
    | none =>
      let lead := readLead fuel header.place
      (lead.breaks, max least lead.column, lead.place)
    | some n =>
      let (breaks, start) := readBreaks (least + n - 1) fuel header.place
      (breaks, least + n - 1, start)
  let lines := readLines isFolded indent fuel breaks start
  let ending := if header.chomping = .strip then [] else lines.last
  let extra := if header.chomping = .keep then lines.trailing else []
  return (lines.text ++ ending ++ extra, lines.place)

end StepPipeline.Yaml.Block
