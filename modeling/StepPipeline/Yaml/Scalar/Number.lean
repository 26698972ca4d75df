import StepPipeline.Text.Case
import StepPipeline.Text.Characters
import StepPipeline.Yaml.Fault

/-!
Scalars that are numbers or bytes. Underscores in numbers are ignored. Integers may be written in
base two, eight and sixteen, and both kinds of numbers with places in base sixty, parted by colons.
Bytes are written in base sixty-four: four characters for three bytes, the last group filled up with
equals signs; other characters are ignored.
-/

set_option autoImplicit false

namespace StepPipeline.Yaml.Number

/-- Splits off a sign; `true` if it is a minus. -/
def splitSign : List Nat → Bool × List Nat
  | n :: rest =>
    if n = '-'.toNat then (true, rest)
    else if n = '+'.toNat then (false, rest)
    else (false, n :: rest)
  | [] => (false, [])

def dropUnderscores (text : List Nat) : List Nat :=
  text.filter (· ≠ '_'.toNat)

def places (text : List Nat) : List (List Nat) :=
  Text.split ':'.toNat text

def readDecimal (text : List Nat) : Except Fault Int :=
  match Numeral.readInteger (replacedChars text) with
  | .ok n => .ok n
  | .error .malformed => .error (.integer 10 text)
  | .error (.tooLong digits) => .error (.longInteger digits)

def digitIn? (base : Nat) (c : Char) : Option Nat :=
  let digit :=
    if Numeral.isDigit c then c.toNat - '0'.toNat else c.toLower.toNat - 'a'.toNat + 10
  if c.isAlphanum ∧ digit < base then some digit else none

def baseLetter (base : Nat) : Char :=
  if base = 2 then 'b' else if base = 8 then 'o' else 'x'

def dropBaseMark (base : Nat) : List Char → List Char
  | '0' :: letter :: rest =>
    if letter.toLower = baseLetter base then rest else '0' :: letter :: rest
  | cs => cs

def readInBase (base : Nat) (text : List Nat) : Except Fault Int :=
  let (negative, body) := Numeral.splitSign (Numeral.plainChars (replacedChars text))
  match (dropBaseMark base body).mapM (digitIn? base) with
  | some (d :: ds) =>
    let n := (d :: ds).foldl (fun n d => n * base + d) 0
    .ok (if negative then -(n : Int) else n)
  | _ => .error (.integer base text)

def readMagnitude (text : List Nat) : Except Fault Int :=
  if text.isEmpty then .error .emptyNumeral
  else if text = codes "0" then .ok 0
  else if (codes "0b").isPrefixOf text then readInBase 2 (text.drop 2)
  else if (codes "0x").isPrefixOf text then readInBase 16 (text.drop 2)
  else if (codes "0").isPrefixOf text then readInBase 8 text
  else do
    let digits ← (places text).mapM readDecimal
    return digits.foldl (fun n d => n * 60 + d) 0

def readInt (text : List Nat) : Except Fault Int :=
  let (negative, body) := splitSign (dropUnderscores text)
  (readMagnitude body).map fun n => if negative then -n else n

def readPlace (text : List Nat) : Except Fault Float :=
  match Numeral.readNumber? (replacedChars text) with
  | some x => .ok x
  | none => .error (.number text)

/-- The number that has the given places, the last first, the first of them counting `unit`. -/
def sumPlaces : (sum : Float) → (unit : Nat) → List Float → Except Fault Float
  | sum, _, [] => .ok sum
  | sum, unit, digit :: digits =>
    match Numeral.Binary64.ofInt? unit with
    | some x => sumPlaces (sum + digit * x) (unit * 60) digits
    | none => .error .beyondRange

/-- The sign and the rest of a number, in small letters. -/
def signedBody (text : List Nat) : Bool × List Nat :=
  splitSign (Text.lower (dropUnderscores text))

def isNamedNan (text : List Nat) : Bool :=
  (signedBody text).2 == codes ".nan"

def readFloatMagnitude (text : List Nat) : Except Fault Float :=
  if text = codes ".inf" then
    .ok (Numeral.Binary64.ofMagnitude false Numeral.Binary64.infinityBits)
  else if text = codes ".nan" then .ok Numeral.Binary64.nan
  else if text.contains ':'.toNat then do
    let digits ← (places text).mapM readPlace
    sumPlaces 0.0 1 digits.reverse
  else readPlace text

def readFloat (text : List Nat) : Except Fault Float :=
  if (dropUnderscores text).isEmpty then .error .emptyNumeral
  else
    let (negative, body) := signedBody text
    (readFloatMagnitude body).map fun x => if negative then -x else x

def truthValues : List (String × Bool) := [
  ("yes", true), ("no", false), ("true", true), ("false", false), ("on", true), ("off", false)]

def readBool (text : List Nat) : Except Fault Bool :=
  let word := Text.lower text
  match truthValues.find? fun entry => codes entry.1 == word with
  | some entry => .ok entry.2
  | none => .error (.truthValue word)

end StepPipeline.Yaml.Number

namespace StepPipeline.Yaml.Binary

def sextet? (c : Char) : Option Nat :=
  if 'A' ≤ c ∧ c ≤ 'Z' then some (c.toNat - 'A'.toNat)
  else if 'a' ≤ c ∧ c ≤ 'z' then some (c.toNat - 'a'.toNat + 26)
  else if '0' ≤ c ∧ c ≤ '9' then some (c.toNat - '0'.toNat + 52)
  else if c = '+' then some 62
  else if c = '/' then some 63
  else none

def bytesOf (sextets : List Nat) : List UInt8 :=
  let bits := (sextets ++ List.replicate (4 - sextets.length) 0).foldl (fun n d => n * 64 + d) 0
  [UInt8.ofNat (bits / 0x10000), UInt8.ofNat (bits / 0x100), UInt8.ofNat bits].take
    (sextets.length - 1)

/-- Reads bytes after the sextets of an incomplete group and equals signs that follow them; `none`
if a group stays incomplete. A filled-up group ends the text. -/
def readFrom? : (group : List Nat) → (signs : Nat) → List Char → Option (List UInt8)
  | group, _, [] => if group.isEmpty then some [] else none
  | group, signs, c :: rest =>
    if c = '=' then
      if 2 ≤ group.length then
        if 4 ≤ group.length + signs + 1 then some (bytesOf group)
        else readFrom? group (signs + 1) rest
      else readFrom? group signs rest
    else match sextet? c with
      | none => readFrom? group signs rest
      | some d =>
        let group := group ++ [d]
        if group.length = 4 then (readFrom? [] 0 rest).map (bytesOf group ++ ·)
        else readFrom? group 0 rest

def read? (cs : List Char) : Option (List UInt8) :=
  readFrom? [] 0 cs

end StepPipeline.Yaml.Binary
