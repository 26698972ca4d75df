import StepPipeline.Numeral.Decimal
import StepPipeline.Numeral.Reading
import StepPipeline.Text.Quoted
import StepPipeline.Value

/-!
The text of a value: `shown` is the exact form that messages quote, `plain` the form in which a
text stands for itself.
-/

set_option autoImplicit false

namespace StepPipeline.Value

/-- The items of a tuple; one alone is followed by a comma. -/
def tupleBody : List String → String
  | [one] => one ++ ","
  | items => ", ".intercalate items

mutual

def shown : Value → String
  | .none => "None"
  | .bool b => if b then "True" else "False"
  | .int n => toString n
  | .float x => Numeral.exactText x
  | .text s => Text.quoted s
  | .halves codes => Text.quotedCodes codes
  | .bytes bs => Text.quotedBytes bs
  | .list items => "[" ++ ", ".intercalate (shownItems items) ++ "]"
  | .tuple items => "(" ++ tupleBody (shownItems items) ++ ")"
  | .set items =>
    if items.isEmpty then "set()" else "\x7b" ++ ", ".intercalate (shownItems items) ++ "\x7d"
  | .dict entries => "\x7b" ++ ", ".intercalate (shownEntries entries) ++ "\x7d"
  | .mapping entries =>
    "mappingproxy(\x7b" ++ ", ".intercalate (shownEntries entries) ++ "\x7d)"
  | .moment m => m.shown
  | .enclosingList => "[...]"
  | .enclosingDict => "\x7b...\x7d"

def shownItems : List Value → List String
  | [] => []
  | v :: rest => shown v :: shownItems rest

def shownEntries : List (Value × Value) → List String
  | [] => []
  | (k, v) :: rest => (shown k ++ ": " ++ shown v) :: shownEntries rest

end

/-- The text of a value on its own: a text is itself. -/
def plain : Value → String
  | .text s => s
  | v => shown v

mutual

def holdsLongInteger : Value → Bool
  | .int n => Numeral.tenTo Numeral.digitLimit ≤ n.natAbs
  | .list items => anyLongInteger items
  | .tuple items => anyLongInteger items
  | .set items => anyLongInteger items
  | .dict entries => anyLongEntry entries
  | .mapping entries => anyLongEntry entries
  | _ => false

def anyLongInteger : List Value → Bool
  | [] => false
  | v :: rest => holdsLongInteger v || anyLongInteger rest

def anyLongEntry : List (Value × Value) → Bool
  | [] => false
  | (k, v) :: rest => holdsLongInteger k || holdsLongInteger v || anyLongEntry rest

end

end StepPipeline.Value
