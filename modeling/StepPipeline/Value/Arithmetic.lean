import StepPipeline.Value.Number

/-!
Sums, products and quotients of values, and how they compare with a number. Truth values, integers
and floating-point numbers are added and multiplied as numbers, integers exactly; texts, byte
strings, lists and tuples are sequences, which are joined with their own kind and repeated by an
integer. A quotient is a floating-point number, the one nearest to it if the operands are integers.
-/

set_option autoImplicit false

namespace StepPipeline.Value

inductive OperandFault where
  /-- The operation is not defined for values of these types. -/
  | unsupported (operator left right : String)
  /-- A text, a byte string, a list or a tuple is joined with something else. -/
  | notJoinable (message : String)
  /-- An integer is beyond the range of the floating-point numbers. -/
  | beyondRange
  /-- A sequence is repeated by a value of another type than that of integers. -/
  | noCount (typeName : String)
  /-- A sequence is repeated by an integer that counts nothing. -/
  | countBeyondRange
  /-- A repeated text or byte string would be longer than any can be. -/
  | tooLong (what : String)
  /-- There is no room for a repeated sequence. -/
  | noRoom
  | divisionByZero (exact : Bool)
  /-- The quotient of two integers is beyond the range of the floating-point numbers. -/
  | quotientBeyondRange
  /-- Values of these types have no order. -/
  | unordered (operator left right : String)
  deriving DecidableEq, Repr

def OperandFault.message : OperandFault → String
  | .unsupported operator left right =>
    s!"unsupported operand type(s) for {operator}: '{left}' and '{right}'"
  | .notJoinable message => message
  | .beyondRange => "int too large to convert to float"
  | .noCount typeName => s!"can't multiply sequence by non-int of type '{typeName}'"
  | .countBeyondRange => "cannot fit 'int' into an index-sized integer"
  | .tooLong what => s!"repeated {what} too long"
  | .noRoom => ""
  | .divisionByZero exact => if exact then "division by zero" else "float division by zero"
  | .quotientBeyondRange => "integer division result too large for a float"
  | .unordered operator left right =>
    s!"'{operator}' not supported between instances of '{left}' and '{right}'"

def operand (n : Int) : Except OperandFault Float :=
  match Numeral.Binary64.ofInt? n with
  | some x => .ok x
  | Option.none => .error .beyondRange

/-- An operation on two numbers, exact on integers; nothing if one is no number. -/
def onNumbers (exact : Int → Int → Int) (rounded : Float → Float → Float) (left right : Value) :
    Option (Except OperandFault Value) :=
  match left, right with
  | .float x, .float y => some (.ok (.float (rounded x y)))
  | .float x, right =>
    right.integer?.map fun n => (operand n).map fun y => .float (rounded x y)
  | left, .float y =>
    left.integer?.map fun n => (operand n).map fun x => .float (rounded x y)
  | left, right =>
    left.integer?.bind fun n => right.integer?.map fun m => .ok (.int (exact n m))

def add (left right : Value) : Except OperandFault Value :=
  match left, right with
  | .text a, .text b => .ok (.text (a ++ b))
  | .bytes a, .bytes b => .ok (.bytes (a ++ b))
  | .list a, .list b => .ok (.list (a ++ b))
  | .tuple a, .tuple b => .ok (.tuple (a ++ b))
  | .text _, other =>
    .error (.notJoinable s!"can only concatenate str (not \"{other.typeName}\") to str")
  | .list _, other =>
    .error (.notJoinable s!"can only concatenate list (not \"{other.typeName}\") to list")
  | .tuple _, other =>
    .error (.notJoinable s!"can only concatenate tuple (not \"{other.typeName}\") to tuple")
  | .bytes _, other => .error (.notJoinable s!"can't concat {other.typeName} to bytes")
  | left, right =>
    (onNumbers (· + ·) (· + ·) left right).getD
      (.error (.unsupported "+" left.typeName right.typeName))

/-! ### Quotients and order -/

def quotientOfInts (n m : Int) : Except OperandFault Float :=
  if m = 0 then .error (.divisionByZero true)
  else
    match Numeral.Binary64.ofRatio? (decide (n < 0) != decide (m < 0)) n.natAbs m.natAbs with
    | some x => .ok x
    | Option.none => .error .quotientBeyondRange

def operand? : Value → Option (Except OperandFault Float)
  | .float x => some (.ok x)
  | v => v.integer?.map operand

def div (left right : Value) : Except OperandFault Float :=
  match left.integer?, right.integer? with
  | some n, some m => quotientOfInts n m
  | _, _ =>
    match left.operand?, right.operand? with
    | some x, some y => do
      let x ← x
      let y ← y
      if y == 0.0 then throw (.divisionByZero false)
      return x / y
    | _, _ => .error (.unsupported "/" left.typeName right.typeName)

/-- Is a value below a floating-point number? An integer beyond their range is so if it is below
zero. -/
def isBelow (v : Value) (bound : Float) : Except OperandFault Bool :=
  match v.operand? with
  | some (.ok x) => .ok (x < bound)
  | some (.error _) => .ok (v.integer?.any (· < 0))
  | Option.none => .error (.unordered "<" v.typeName "float")

def isAbove (v : Value) (bound : Float) : Except OperandFault Bool :=
  match v.operand? with
  | some (.ok x) => .ok (bound < x)
  | some (.error _) => .ok (v.integer?.any (0 < ·))
  | Option.none => .error (.unordered ">" v.typeName "float")

/-! ### Repetition -/

def isSequence : Value → Bool
  | .text _ => true
  | .bytes _ => true
  | .list _ => true
  | .tuple _ => true
  | _ => false

/-- Counts and indices are below this. -/
def countLimit : Nat := Numeral.twoTo 63

/-- Can an integer be a count or an index? A negative index counts from the end. -/
def isIndex (n : Int) : Bool :=
  -(countLimit : Int) ≤ n && n < countLimit

/-- There is room for fewer items than this. -/
def roomLimit : Nat := Numeral.twoTo 32

/-- A row repeated, as long as it does not get too long, in which case `excess` is the fault. -/
def repeatRow {α : Type} (excess : OperandFault) (count : Nat) (row : List α) :
    Except OperandFault (List α) :=
  let length := row.length * count
  if countLimit ≤ length then .error excess
  else if roomLimit ≤ length then .error .noRoom
  else if row.isEmpty then .ok []
  else .ok (List.replicate count row).flatten

/-- A sequence repeated; a negative count leaves nothing of it. -/
def repeatBy (n : Int) : Value → Except OperandFault Value
  | .text s =>
    (repeatRow (.tooLong "string is") n.toNat s.toList).map fun cs => .text (String.ofList cs)
  | .bytes bs => (repeatRow (.tooLong "bytes are") n.toNat bs).map .bytes
  | .list items => (repeatRow .noRoom n.toNat items).map .list
  | .tuple items => (repeatRow .noRoom n.toNat items).map .tuple
  | v => .error (.unsupported "*" v.typeName "int")

def repeated (sequence count : Value) : Except OperandFault Value :=
  match count.integer? with
  | Option.none => .error (.noCount count.typeName)
  | some n =>
    if isIndex n then repeatBy n sequence else .error .countBeyondRange

def mul (left right : Value) : Except OperandFault Value :=
  match onNumbers (· * ·) (· * ·) left right with
  | some product => product
  | Option.none =>
    if left.isSequence then repeated left right
    else if right.isSequence then repeated right left
    else .error (.unsupported "*" left.typeName right.typeName)

/-- The sum that replaces its left operand, which is no list. -/
def addInPlace (left right : Value) : Except OperandFault Value :=
  match add left right with
  | .error (.unsupported _ a b) => .error (.unsupported "+=" a b)
  | sum => sum

/-- What is taken from a value item by item; `none` if nothing can be. -/
def iterated? : Value → Option (List Value)
  | .text s => some (s.toList.map fun c => .text (String.ofList [c]))
  | .bytes bs => some (bs.map fun b => .int b.toNat)
  | .list items => some items
  | .tuple items => some items
  | .set items => some items
  | .dict entries => some (entries.map Prod.fst)
  | .mapping entries => some (entries.map Prod.fst)
  | _ => Option.none

end StepPipeline.Value
