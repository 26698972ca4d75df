import StepPipeline.Calendar
import StepPipeline.Numeral.Reading

/-!
Scalars that are dates, or dates and times of day with an optional offset from universal time.
-/

set_option autoImplicit false

namespace StepPipeline.Yaml.Moment

def readDigits? (most : Nat) (cs : List Char) : Option (Nat × List Char) :=
  let digits := (cs.take most).takeWhile Numeral.isDigit
  if digits.isEmpty then none else some (Numeral.naturalOf digits, cs.drop digits.length)

def readExactly? (n : Nat) (cs : List Char) : Option (Nat × List Char) :=
  let digits := (cs.take n).takeWhile Numeral.isDigit
  if digits.length = n then some (Numeral.naturalOf digits, cs.drop n) else none

def dropChar? (c : Char) : List Char → Option (List Char)
  | d :: rest => if d = c then some rest else none
  | [] => none

def dropWhite (cs : List Char) : List Char :=
  cs.dropWhile fun c => c == ' ' || c == '\t'

/-- Drops what separates a time of day from the date before it. -/
def dropSeparator? : List Char → Option (List Char)
  | 'T' :: rest => some rest
  | 't' :: rest => some rest
  | cs => if (dropWhite cs).length < cs.length then some (dropWhite cs) else none

/-- The millionths of a second in a row of digits after a point; further digits do not count. -/
def microseconds (digits : List Char) : Nat :=
  let six := digits.take 6
  Numeral.naturalOf (six ++ List.replicate (6 - six.length) '0')

/-- Reads an offset in minutes, which is absent, a `Z` or signed hours with optional minutes. -/
def readOffset? (cs : List Char) : Option (Option Int) :=
  match cs, dropWhite cs with
  | [], _ => some none
  | _, ['Z'] => some (some 0)
  | _, sign :: rest => do
    let (hours, rest) ← if sign = '+' ∨ sign = '-' then readDigits? 2 rest else none
    let minutes ←
      if rest.isEmpty then some 0
      else do
        let (minutes, stop) ← (dropChar? ':' rest).bind (readExactly? 2)
        if stop.isEmpty then some minutes else none
    let offset : Int := hours * 60 + minutes
    return some (if sign = '-' then -offset else offset)
  | _, [] => none

def readClock? (cs : List Char) : Option Calendar.Clock := do
  let (hour, rest) ← readDigits? 2 cs
  let (minute, rest) ← (dropChar? ':' rest).bind (readExactly? 2)
  let (second, rest) ← (dropChar? ':' rest).bind (readExactly? 2)
  let fraction := (dropChar? '.' rest).map fun rest => rest.takeWhile Numeral.isDigit
  let rest := (dropChar? '.' rest).elim rest fun rest => rest.dropWhile Numeral.isDigit
  let offset ← readOffset? rest
  return ⟨hour, minute, second, microseconds (fraction.getD []), offset⟩

/-- Reads a moment, which need not exist. -/
def read? (cs : List Char) : Option Calendar.Moment := do
  let (year, rest) ← readExactly? 4 cs
  let (month, rest) ← (dropChar? '-' rest).bind (readDigits? 2)
  let (day, rest) ← (dropChar? '-' rest).bind (readDigits? 2)
  if rest.isEmpty then return ⟨year, month, day, none⟩
  else
    let clock ← (dropSeparator? rest).bind readClock?
    return ⟨year, month, day, some clock⟩

def dateLength : Nat := 10

/-- Has the text the form of a moment? A date alone must be written in full. -/
def hasForm (cs : List Char) : Bool :=
  (read? cs).any fun m => m.clock.isSome || cs.length == dateLength

end StepPipeline.Yaml.Moment
