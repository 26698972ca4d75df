import StepPipeline.Fault
import StepPipeline.Value.Arithmetic
import StepPipeline.Value.Block

/-!
Why worlds are not made, not changed or not looked at.
-/

set_option autoImplicit false

namespace StepPipeline

inductive WorldFault where
  /-- The variant of an operation is unknown. -/
  | unhandled (variant : String)
  /-- A row or column is no integer, or one beyond any grid. -/
  | noIndex
  /-- A row or column is an integer that has 64 bits but no sign. -/
  | hugeIndex
  /-- Indices are given for more axes than a grid has. -/
  | tooManyIndices (used : Nat)
  /-- What is selected would have more axes than any block. -/
  | tooManyAxes (rank : Nat)
  /-- The marks along an axis are not as many as its lines. -/
  | marksMismatch (axis size marks : Nat)
  /-- The blocks of indices for rows and columns do not go together. -/
  | indexMismatch (blocks : List Extents)
  /-- Nested rows are no block. -/
  | block (fault : Value.BlockFault)
  /-- Several cells are selected where one is asked for. -/
  | notOneCell
  /-- A row (axis 0) or column (axis 1) lies outside the grid. -/
  | outside (index : Int) (axis size : Nat)
  /-- A diffusion number is negative. -/
  | negativeNumber (number : String)
  /-- A diffusion number is too large for the scheme to be stable. -/
  | unstable (number : String)
  /-- A grid without rows (axis 0) or columns (axis 1) has no edge to repeat. -/
  | noEdge (axis : Nat)
  | noPeak
  /-- Values cannot be computed with. -/
  | operands (fault : Value.OperandFault)
  /-- A power is beyond the range of the floating-point numbers. -/
  | powerBeyondRange
  /-- A text or byte string is added to a cell; `code` is how its type is written. -/
  | textAmount (code : String)
  /-- A list or tuple is added to a cell. -/
  | rowAmount
  /-- Values of any kind are added to cells. -/
  | anyAmount
  /-- Amounts with these extents do not go together with the cells that they are added to. -/
  | amountMismatch (cells amounts : Extents)
  /-- There are more amounts than cells that they are added to. -/
  | amountExcess (cells common : Extents)
  /-- A value of this type stands where an integer is asked for. -/
  | notInteger (typeName : String)
  /-- A truth value stands in the place of a size. -/
  | truthSize
  | negativeSize
  /-- A size is beyond any grid. -/
  | hugeSize
  /-- The sizes together are beyond any grid. -/
  | hugeGrid
  | noRoom (height width : Nat)
  | negativeTicks (shown : String)
  /-- An operation is called without a world and a tick. -/
  | call (given : Nat)
  deriving DecidableEq, Repr

/-- The names of the units of room, each 1024 times as large as the one before. -/
def roomUnits : List String :=
  ["bytes", "KiB", "MiB", "GiB", "TiB", "PiB", "EiB"]

/-- The rank of the largest unit that a rounded number of bytes reaches. -/
def roomRank (bytes : Nat) : Nat :=
  let rank := bytes.log2 / 10
  let count := Numeral.Binary64.roundHalfEven bytes (Numeral.twoTo (10 * rank))
  if count = 1024 then rank + 1 else rank

/-- A number of bytes in the largest unit that it reaches, with three digits if it is below 1000 of
that unit. -/
def roomText (bytes : Nat) : String :=
  let rank := roomRank bytes
  let rounded (places : Nat) : Nat :=
    Numeral.Binary64.roundHalfEven (bytes * Numeral.tenTo places) (Numeral.twoTo (10 * rank))
  let places := if rounded 2 < 1000 then 2 else if rounded 1 < 1000 then 1 else 0
  let digits := toString (rounded places)
  let whole := (digits.dropEnd places).toString
  let part := (digits.takeEnd places).toString
  whole ++ "." ++ part ++ " " ++ roomUnits.getD rank "EiB"

def WorldFault.message : WorldFault → String
  | unhandled variant => s!"Unhandled variant {variant}: {variant}()"
  | noIndex =>
    "only integers, slices (`:`), ellipsis (`...`), numpy.newaxis (`None`) and integer or " ++
      "boolean arrays are valid indices"
  | hugeIndex => "Python int too large to convert to C long"
  | tooManyIndices used =>
    s!"too many indices for array: array is 2-dimensional, but {used} were indexed"
  | tooManyAxes rank =>
    s!"number of dimensions must be within [0, {Value.axisLimit}], indexing result would have " ++
      toString rank
  | marksMismatch axis size marks =>
    s!"boolean index did not match indexed array along axis {axis}; size of axis is {size} but " ++
      s!"size of corresponding boolean axis is {marks}"
  | indexMismatch blocks =>
    "shape mismatch: indexing arrays could not be broadcast together with shapes " ++
      Extents.listed blocks
  | block fault => fault.message
  | notOneCell => "only 0-dimensional arrays can be converted to Python scalars"
  | outside index axis size => s!"index {index} is out of bounds for axis {axis} with size {size}"
  | negativeNumber number => s!"diffusion number must be >= 0, got {number}."
  | unstable number => s!"diffusion number {number} exceeds stability limit 0.25."
  | noEdge axis =>
    s!"can't extend empty axis {axis} using modes other than 'constant' or 'empty'"
  | noPeak => "attempt to get argmax of an empty sequence"
  | operands fault => fault.message
  | powerBeyondRange => "(34, 'Numerical result out of range')"
  | textAmount code =>
    "ufunc 'add' did not contain a loop with signature matching types " ++
      s!"(dtype('float64'), dtype('{code}')) -> None"
  | rowAmount => "setting an array element with a sequence."
  | anyAmount =>
    "Cannot cast ufunc 'add' output from dtype('O') to dtype('float64') with casting rule " ++
      "'same_kind'"
  | amountMismatch cells amounts =>
    "operands could not be broadcast together with shapes " ++
      Extents.listed [cells, amounts, cells]
  | amountExcess cells common =>
    s!"non-broadcastable output operand with shape {cells.written} doesn't match the broadcast " ++
      s!"shape {common.written}"
  | notInteger typeName => s!"'{typeName}' object cannot be interpreted as an integer"
  | truthSize => "an integer is required"
  | negativeSize => "negative dimensions are not allowed"
  | hugeSize => "Maximum allowed dimension exceeded"
  | hugeGrid =>
    "array is too big; `arr.size * arr.dtype.itemsize` is larger than the maximum possible size."
  | noRoom height width =>
    s!"Unable to allocate {roomText (height * width * 8)} for an array with shape " ++
      s!"({height}, {width}) and data type float64"
  | negativeTicks shown => s!"ticks must be >= 0, got {shown}."
  | call given => s!"an operation takes a world and a tick, not {given} context object(s)"

instance : Cause WorldFault where
  message := WorldFault.message
  escapes _ := false

end StepPipeline
