/-!
Texts that are read on while they are needed. The bytes of a text are decoded in blocks, and its
characters are handed out in portions; every end of a line counts as a line feed. UTF-8 is decoded
byte by byte: a byte is refused as soon as no character can be written with it and the bytes before
it. What cannot be decoded is not noticed before the block in which it stands is reached.
-/

set_option autoImplicit false

namespace StepPipeline.Text

structure Begun where
  /-- The number of bytes still to come. -/
  owed : Nat
  /-- The least byte that may come next. -/
  low : Nat := 0x80
  /-- The greatest byte that may come next. -/
  high : Nat := 0xBF
  /-- The bits of the code point that have come. -/
  code : Nat
  deriving DecidableEq, Repr

inductive Decoded where
  | char (c : Char)
  | begun (begun : Begun)
  | refused

def firstByte (b : Nat) : Decoded :=
  if b < 0x80 then .char (Char.ofNat b)
  else if b < 0xC2 then .refused
  else if b < 0xE0 then .begun { owed := 1, code := b - 0xC0 }
  else if b = 0xE0 then .begun { owed := 2, low := 0xA0, code := 0 }
  else if b = 0xED then .begun { owed := 2, high := 0x9F, code := 0xD }
  else if b < 0xF0 then .begun { owed := 2, code := b - 0xE0 }
  else if b = 0xF0 then .begun { owed := 3, low := 0x90, code := 0 }
  else if b < 0xF4 then .begun { owed := 3, code := b - 0xF0 }
  else if b = 0xF4 then .begun { owed := 3, high := 0x8F, code := 4 }
  else .refused

def nextByte (begun : Begun) (b : Nat) : Decoded :=
  if b < begun.low || begun.high < b then .refused
  else
    let code := begun.code * 64 + (b - 0x80)
    if begun.owed = 1 then .char (Char.ofNat code) else .begun { owed := begun.owed - 1, code }

structure Decoding where
  chars : Array Char := #[]
  begun : Option Begun := none
  isRefused : Bool := false

def Decoding.push (decoding : Decoding) (b : UInt8) : Decoding :=
  if decoding.isRefused then decoding
  else
    let decoded :=
      match decoding.begun with
      | none => firstByte b.toNat
      | some begun => nextByte begun b.toNat
    match decoded with
    | .char c => { decoding with chars := decoding.chars.push c, begun := none }
    | .begun begun => { decoding with begun := some begun }
    | .refused => { decoding with isRefused := true }

/-- The characters of a text in which every end of a line is a line feed. -/
def unifyBreaks : List Char → List Char
  | '\r' :: '\n' :: rest => '\n' :: unifyBreaks rest
  | '\r' :: rest => '\n' :: unifyBreaks rest
  | c :: rest => c :: unifyBreaks rest
  | [] => []

/-- The number of bytes in a block at least. -/
def blockSize : Nat := 8192

def portionSize : Nat := 4096

/-- A text that is read on. -/
structure Feed where
  /-- The bytes that have not been decoded. -/
  bytes : List UInt8
  /-- The character that the last block ended in. -/
  begun : Option Begun := none
  /-- Did the last block end in a carriage return? Its meaning depends on what follows. -/
  heldReturn : Bool := false
  /-- The characters that have been decoded but not handed out. -/
  ready : List Char := []
  /-- The number of bytes of the last block. -/
  lastBytes : Nat := 0
  /-- The number of characters of the last block. -/
  lastChars : Nat := 0

namespace Feed

/-- The size of the next block, if so many characters are wanted: as many bytes as that should take,
going by the last block. -/
def nextSize (feed : Feed) (wanted : Nat) : Nat :=
  max blockSize (feed.lastBytes * wanted / feed.lastChars)

/-- Decodes the next block, which is empty at the end of the text; nothing if it cannot be
decoded. -/
def decode? (feed : Feed) (wanted : Nat) : Option Feed :=
  let block := feed.bytes.take (feed.nextSize wanted)
  let atEnd := block.isEmpty
  let decoding := block.foldl Decoding.push { begun := feed.begun }
  if decoding.isRefused || (atEnd && decoding.begun.isSome) then none
  else
    let held := if feed.heldReturn then ['\r'] else []
    let chars := held ++ decoding.chars.toList
    let holds := !atEnd && chars.getLast? == some '\r'
    let chars := unifyBreaks (if holds then chars.dropLast else chars)
    some {
      bytes := feed.bytes.drop block.length
      begun := decoding.begun
      heldReturn := holds
      ready := feed.ready ++ chars
      lastBytes := block.length
      lastChars := chars.length }

/-- Decodes blocks until so many characters can be handed out, or the text ends; `fuel` bounds the
number of blocks. -/
def fill? (count : Nat) : (fuel : Nat) → Feed → Option Feed
  | 0, feed => some feed
  | fuel + 1, feed =>
    if count ≤ feed.ready.length then some feed
    else do
      let filled ← feed.decode? (count - feed.ready.length)
      if filled.lastBytes = 0 && filled.lastChars = 0 then return filled
      else fill? count fuel filled

/-- Hands out a portion, which is smaller at the end of the text; nothing if it cannot be
decoded. -/
def portion? (feed : Feed) : Option (List Char × Feed) := do
  let filled ← fill? portionSize (feed.bytes.length + 2) feed
  return (filled.ready.take portionSize, { filled with ready := filled.ready.drop portionSize })

end Feed

structure Portions where
  portions : List (List Char)
  /-- Is there more that cannot be decoded? -/
  isCut : Bool

namespace Portions

/-- The portions that are left of a text; `fuel` bounds their number. -/
def rest : (fuel : Nat) → Feed → Portions
  | 0, _ => ⟨[], false⟩
  | fuel + 1, feed =>
    match feed.portion? with
    | none => ⟨[], true⟩
    | some (portion, feed) =>
      if portion.isEmpty then ⟨[], false⟩
      else
        let more := rest fuel feed
        { more with portions := portion :: more.portions }

/-- The portions of a text. The first two are handed out together. -/
def ofBytes (bytes : List UInt8) : Portions :=
  match rest (bytes.length + 1) { bytes } with
  | ⟨first :: second :: portions, isCut⟩ => ⟨(first ++ second) :: portions, isCut⟩
  | ⟨[_], true⟩ => ⟨[], true⟩
  | portions => portions

end Portions

end StepPipeline.Text
