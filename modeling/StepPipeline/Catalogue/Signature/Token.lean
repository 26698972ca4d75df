import StepPipeline.Text.Identifier
import StepPipeline.Text.Characters

/-!
Tokens of written signatures: words, numbers, quoted texts and marks, each with the number of its
line. Lines end wherever they like, since all of a signature stands in brackets. A text is read up
to the first place where no token can stand.
-/

set_option autoImplicit false

namespace StepPipeline.Catalogue.Signature

inductive LineFault where
  /-- A token stands where it cannot. -/
  | misplaced
  | foreign (c : Char)
  | unclosedText
  /-- A line goes on behind the mark that ends it early. -/
  | continued
  | unopened (closing : Char)
  /-- A bracket is closed by one of another kind, opened in the line with the given number. -/
  | unmatched (closing opening : Char) (openedIn : Nat)
  /-- A number goes on with something else than digits; it is one of a kind with the given name. -/
  | numeral (kind : String)
  /-- A number with another base than ten has a digit that the base has not. -/
  | digit (c : Char) (kind : String)
  /-- A number begins with zeros. -/
  | leadingZeros
  /-- A parameter falls back on nothing. -/
  | noFallback
  /-- A parameter that has to be given something comes after one that need not. -/
  | fallbackOrder
  | repeated (name : String)
  | constant (name : String)
  deriving DecidableEq, Repr

/-- The code point of a character, with at least four digits. -/
def codePoint (c : Char) : String :=
  let digits := (Nat.toDigits 16 c.toNat).map Char.toUpper
  String.ofList (List.replicate (4 - digits.length) '0' ++ digits)

def LineFault.sentence (line : Nat) : LineFault → String
  | misplaced => "invalid syntax"
  | foreign c =>
    if Text.isPrintable c then s!"invalid character '{c}' (U+{codePoint c})"
    else s!"invalid non-printable character U+{codePoint c}"
  | unclosedText => s!"unterminated string literal (detected at line {line})"
  | continued => "unexpected character after line continuation character"
  | unopened closing => s!"unmatched '{closing}'"
  | unmatched closing opening openedIn =>
    let behind := if openedIn = line then "" else s!" on line {openedIn}"
    s!"closing parenthesis '{closing}' does not match opening parenthesis '{opening}'" ++ behind
  | numeral kind => s!"invalid {kind} literal"
  | digit c kind => s!"invalid digit '{c}' in {kind} literal"
  | leadingZeros =>
    "leading zeros in decimal integer literals are not permitted; " ++
      "use an 0o prefix for octal integers"
  | noFallback => "expected default value expression"
  | fallbackOrder => "non-default argument follows default argument"
  | repeated name => s!"duplicate argument '{name}' in function definition"
  | constant name => s!"cannot assign to {name}"

inductive Token where
  | word (text : String)
  | number
  | text
  | mark (text : String)
  deriving DecidableEq, Repr

structure Placed where
  token : Token
  line : Nat
  deriving DecidableEq, Repr

structure PlacedFault where
  fault : LineFault
  line : Nat
  deriving DecidableEq, Repr

def PlacedFault.message (placed : PlacedFault) : String :=
  s!"{placed.fault.sentence placed.line} (<string>, line {placed.line})"

/-- Does a character only part tokens? -/
def isGap (c : Char) : Bool :=
  c = ' ' || c = '\t' || c = '\x0c'

def isLineEnd (c : Char) : Bool :=
  c = '\n' || c = '\r'

def isWordLike (c : Char) : Bool :=
  c.isAlphanum || c = '_' || 128 ≤ c.toNat

/-- Does a character go on where a number should have ended? -/
def continuesNumber (c : Char) : Bool :=
  c.isAlphanum || c = '_'

def marks : List Char :=
  ['!', '$', '%', '&', '*', '+', ',', '-', '.', '/', ':', ';', '<', '=', '>', '?', '@', '^', '`',
    '|', '~']

/-- The marks that make one mark with an equals sign behind them. -/
def joinedMarks : List Char :=
  ['!', '%', '&', '*', '+', '-', '/', ':', '<', '=', '>', '@', '^', '|']

def opening? (closing : Char) : Option Char :=
  [(')', '('), (']', '['), ('}', '{')].lookup closing

/-- The first character of a word that does not belong there. -/
def foreign? : List Char → Option Char
  | [] => none
  | c :: rest => if !Text.isNameStart c then some c else rest.find? (!Text.isNamePart ·)

def decimalFault : LineFault :=
  .numeral "decimal"

/-- What is behind digits in groups that single underscores part. -/
def behindDigits (s : List Char) : Except LineFault (List Char) :=
  let isPart (c : Char) : Bool := c.isDigit || c = '_'
  if (Text.split '_' (s.takeWhile isPart)).all (!List.isEmpty ·) then .ok (s.dropWhile isPart)
  else .error decimalFault

def behindFraction : List Char → Except LineFault (List Char)
  | '.' :: rest => if rest.head?.any Char.isDigit then behindDigits rest else .ok rest
  | s => .ok s

def behindExponent (s : List Char) : Except LineFault (List Char) :=
  match s with
  | e :: rest =>
    let power :=
      match rest with
      | '+' :: power => power
      | '-' :: power => power
      | power => power
    if (e = 'e' || e = 'E') && power.head?.any Char.isDigit then behindDigits power else .ok s
  | [] => .ok []

def behindImaginary : List Char → List Char
  | 'j' :: rest => rest
  | 'J' :: rest => rest
  | s => s

/-- Does a whole number that is not zero begin with zeros? -/
def hasLeadingZeros (s : List Char) : Bool :=
  let whole := s.takeWhile fun c => c.isDigit || c = '_'
  whole.head? = some '0' && whole.any fun d => d ≠ '0' && d ≠ '_'

def behindDecimal (s : List Char) : Except LineFault (List Char) := do
  let whole ← if s.head? = some '.' then .ok s else behindDigits s
  let rest := behindImaginary (← behindExponent (← behindFraction whole))
  if rest.length = whole.length && hasLeadingZeros s then throw .leadingZeros
  if rest.head?.any continuesNumber then throw decimalFault
  return rest

structure Base where
  name : String
  isDigit : Char → Bool

/-- The base that a letter behind a zero stands for. -/
def base? (letter : Char) : Option Base :=
  match letter.toLower with
  | 'x' => some ⟨"hexadecimal", fun c => c.isDigit || ('a' ≤ c.toLower && c.toLower ≤ 'f')⟩
  | 'o' => some ⟨"octal", fun c => '0' ≤ c && c ≤ '7'⟩
  | 'b' => some ⟨"binary", fun c => c = '0' || c = '1'⟩
  | _ => none

/-- What is behind a number in a base; the text begins behind the letter of the base. -/
def behindBased (base : Base) (s : List Char) : Except LineFault (List Char) :=
  let isPart (c : Char) : Bool := base.isDigit c || c = '_'
  let rest := s.dropWhile isPart
  let isGrouped := (Text.split '_' (s.takeWhile isPart)).tail.all (!List.isEmpty ·)
  match rest with
  | c :: _ =>
    if c.isDigit then .error (.digit c base.name)
    else if rest.length = s.length || !isGrouped || continuesNumber c then
      .error (.numeral base.name)
    else .ok rest
  | [] => if s.isEmpty || !isGrouped then .error (.numeral base.name) else .ok rest

def behindNumber (s : List Char) : Except LineFault (List Char) :=
  match s with
  | '0' :: letter :: rest =>
    match base? letter with
    | some base => behindBased base rest
    | none => behindDecimal s
  | s => behindDecimal s

def behindText? (quote : Char) : List Char → Option (List Char)
  | [] => none
  | '\\' :: _ :: rest => behindText? quote rest
  | c :: rest =>
    if c = quote then some rest
    else if isLineEnd c then none
    else behindText? quote rest

structure Place where
  line : Nat := 1
  /-- The brackets that are open and their lines, the innermost first. -/
  brackets : List (Char × Nat) := []
  rest : List Char

def bracket (place : Place) (c : Char) (rest : List Char) :
    Except LineFault (Option Token × Place) :=
  let token := Token.mark (String.ofList [c])
  match opening? c, place.brackets with
  | none, outer => .ok (some token, { place with brackets := (c, place.line) :: outer, rest })
  | some _, [] => .error (.unopened c)
  | some opening, (innermost, line) :: outer =>
    if innermost = opening then .ok (some token, { place with brackets := outer, rest })
    else .error (.unmatched c innermost line)

def mark (place : Place) (c : Char) (rest : List Char) :
    Except LineFault (Option Token × Place) :=
  match rest with
  | d :: behind =>
    if (d = '=' && joinedMarks.contains c) || (c = '-' && d = '>') then
      .ok (some (.mark (String.ofList [c, d])), { place with rest := behind })
    else if marks.contains c then
      .ok (some (.mark (String.ofList [c])), { place with rest })
    else .error (.foreign c)
  | [] =>
    if marks.contains c then .ok (some (.mark (String.ofList [c])), { place with rest })
    else .error (.foreign c)

def word (place : Place) (s : List Char) : Except LineFault (Option Token × Place) :=
  let run := s.takeWhile isWordLike
  match foreign? run with
  | some c => .error (.foreign c)
  | none =>
    .ok (some (.word (String.ofList run)), { place with rest := s.dropWhile isWordLike })

def next (place : Place) (c : Char) (rest : List Char) :
    Except LineFault (Option Token × Place) :=
  if isGap c then .ok (none, { place with rest })
  else if c = '\r' && rest.head? = some '\n' then .ok (none, { place with rest })
  else if isLineEnd c then .ok (none, { place with line := place.line + 1, rest })
  else if c = '#' then .ok (none, { place with rest := rest.dropWhile (!isLineEnd ·) })
  else if c = '\\' then
    if rest.head?.any isLineEnd then .ok (none, { place with rest }) else .error .continued
  else if c.isDigit || (c = '.' && rest.head?.any Char.isDigit) then
    (behindNumber (c :: rest)).map fun rest => (some .number, { place with rest })
  else if isWordLike c then word place (c :: rest)
  else if c = '"' || c = '\'' then
    match behindText? c rest with
    | some rest => .ok (some .text, { place with rest })
    | none => .error .unclosedText
  else if ['(', ')', '[', ']', '{', '}'].contains c then bracket place c rest
  else mark place c rest

/-- The tokens of a text of at most the given length, up to the first place where none can stand. -/
def tokensWithin : (length : Nat) → Place → List Placed × Option PlacedFault
  | 0, _ => ([], none)
  | length + 1, place =>
    match place.rest with
    | [] => ([], none)
    | c :: rest =>
      match next place c rest with
      | .error fault => ([], some ⟨fault, place.line⟩)
      | .ok (token?, after) =>
        let (tokens, fault?) := tokensWithin length after
        (token?.toList.map (fun token => ⟨token, place.line⟩) ++ tokens, fault?)

def tokens (s : String) : List Placed × Option PlacedFault :=
  let chars := s.toList
  tokensWithin chars.length { rest := chars }

end StepPipeline.Catalogue.Signature
