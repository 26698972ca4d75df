/-!
Characters and rows of them: white space, decimal digits, and the parts of a text. The digits of a
script stand in order in ten neighbouring code points, so a script is named by its zero.
-/

set_option autoImplicit false

namespace StepPipeline.Text

/-- The space, the line and page controls, and the spaces of the other scripts. -/
def isBlank (c : Char) : Bool :=
  let n := c.toNat
  (0x9 ≤ n && n ≤ 0xD) || n == 0x20 || n == 0x85 || n == 0xA0 || n == 0x1680 ||
    (0x2000 ≤ n && n ≤ 0x200A) || n == 0x2028 || n == 0x2029 || n == 0x202F || n == 0x205F ||
    n == 0x3000

def strip (drops : Char → Bool) (cs : List Char) : List Char :=
  ((cs.dropWhile drops).reverse.dropWhile drops).reverse

def zeroDigits : List Nat := [
  0x30, 0x660, 0x6F0, 0x7C0, 0x966, 0x9E6, 0xA66, 0xAE6, 0xB66, 0xBE6, 0xC66, 0xCE6, 0xD66,
  0xDE6, 0xE50, 0xED0, 0xF20, 0x1040, 0x1090, 0x17E0, 0x1810, 0x1946, 0x19D0, 0x1A80, 0x1A90,
  0x1B50, 0x1BB0, 0x1C40, 0x1C50, 0xA620, 0xA8D0, 0xA900, 0xA9D0, 0xA9F0, 0xAA50, 0xABF0, 0xFF10,
  0x104A0, 0x10D30, 0x11066, 0x110F0, 0x11136, 0x111D0, 0x112F0, 0x11450, 0x114D0, 0x11650,
  0x116C0, 0x11730, 0x118E0, 0x11950, 0x11C50, 0x11D50, 0x11DA0, 0x16A60, 0x16AC0, 0x16B50,
  0x1D7CE, 0x1D7D8, 0x1D7E2, 0x1D7EC, 0x1D7F6, 0x1E140, 0x1E2F0, 0x1E950, 0x1FBF0]

def digit? (c : Char) : Option Nat :=
  (zeroDigits.find? fun z => z ≤ c.toNat && c.toNat < z + 10).map fun z => c.toNat - z

/-- Splits a row at every mark; there is one part more than there are marks. -/
def split {α : Type} [DecidableEq α] (mark : α) : List α → List (List α)
  | [] => [[]]
  | c :: rest =>
    let parts := split mark rest
    if c = mark then [] :: parts else (c :: parts.headD []) :: parts.tail

/-- The characters that lie whole within a number of bytes, and whether the next one is split. -/
def withinBytes (limit : Nat) : List Char → List Char × Bool
  | [] => ([], false)
  | c :: rest =>
    if limit < c.utf8Size then ([], 0 < limit)
    else
      let (kept, isSplit) := withinBytes (limit - c.utf8Size) rest
      (c :: kept, isSplit)

/-- A text cut to a number of bytes; a character that is split is replaced. -/
def cut (limit : Nat) (s : String) : String :=
  let (kept, isSplit) := withinBytes limit s.toList
  String.ofList (if isSplit then kept ++ ['\uFFFD'] else kept)

def cut? (limit : Nat) (s : String) : Option String :=
  let (kept, isSplit) := withinBytes limit s.toList
  if isSplit then none else some (String.ofList kept)

def withoutLast (s : String) : String :=
  String.ofList s.toList.dropLast

theorem withoutLast_push (s : String) (c : Char) : withoutLast (s.push c) = s := by
  rw [withoutLast, String.toList_push, List.dropLast_concat, String.ofList_toList]

end StepPipeline.Text
