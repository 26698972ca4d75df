import StepPipeline.Config.Check
import StepPipeline.Proofs.Numeral.Integer

/-!
Which values are taken for integers. A value denotes an integer if it is one, if it is a
floating-point number that is exactly that integer, or if it is a numeral, as a text or as the bytes
of one in ASCII. Values are taken for the integers that they denote; nothing is rounded, and what
denotes none is refused as such. Main result: `asInteger_exact`.
-/

set_option autoImplicit false
set_option relaxedAutoImplicit false

namespace StepPipeline

open Numeral (IntegerNumeral Binary64.value?)

namespace Value

inductive DenotesInteger : Value → ℤ → Prop
  | int (n : ℤ) : DenotesInteger (.int n) n
  | float {x : Float} {n : ℤ} : Binary64.value? x = some (n : ℚ) → DenotesInteger (.float x) n
  | text {s : String} {n : ℤ} : IntegerNumeral s.toList n → DenotesInteger (.text s) n
  | bytes {s : String} {n : ℤ} : (∀ c ∈ s.toList, c.toNat < 0x80) → IntegerNumeral s.toList n →
      DenotesInteger (.bytes s.toUTF8.data.toList) n

section Ascii

variable {cs : List Char} {bs : List UInt8}

/-- The bytes of characters that are written with one byte each. -/
def asciiBytes (cs : List Char) : List UInt8 :=
  cs.map fun c => UInt8.ofNat c.toNat

theorem utf8_eq_asciiBytes {s : String} (ascii : ∀ c ∈ s.toList, c.toNat < 0x80) :
    s.toUTF8.data.toList = asciiBytes s.toList := by
  have single : ∀ c ∈ s.toList, String.utf8EncodeChar c = [UInt8.ofNat c.toNat] := by
    intro c among
    have : c.val.toNat ≤ 0x7F := Nat.le_of_lt_succ (ascii c among)
    exact if_pos this
  rw [String.toUTF8_eq_toByteArray, ← String.utf8Encode_toList, List.utf8Encode,
    List.data_toByteArray, List.flatMap_congr single, ← List.map_eq_flatMap]
  rfl

theorem asciiChars?_cons (b : UInt8) (rest : List UInt8) :
    asciiChars? (b :: rest) =
      if b.toNat < 0x80 then (asciiChars? rest).map (Char.ofNat b.toNat :: ·) else Option.none := by
  rw [asciiChars?, List.mapM_cons]
  change ((if b.toNat < 0x80 then some (Char.ofNat b.toNat) else Option.none) >>= fun c =>
    asciiChars? rest >>= fun cs => pure (c :: cs)) = _
  split
  · cases asciiChars? rest <;> rfl
  · rfl

theorem toNat_ofNat_byte (b : UInt8) : (Char.ofNat b.toNat).toNat = b.toNat := by
  have small : b.toNat < 256 := b.toNat_lt
  rw [Char.toNat_ofNat, if_pos (by unfold Nat.isValidChar; omega)]

theorem asciiChars?_eq_some_iff :
    asciiChars? bs = some cs ↔ (∀ c ∈ cs, c.toNat < 0x80) ∧ bs = asciiBytes cs := by
  induction bs generalizing cs with
  | nil =>
    show some [] = some cs ↔ _
    cases cs <;> simp [asciiBytes]
  | cons b rest ih =>
    rw [asciiChars?_cons]
    constructor
    · intro read
      split at read
      · next ascii =>
        obtain ⟨others, found, rfl⟩ := Option.map_eq_some_iff.mp read
        obtain ⟨low, rfl⟩ := ih.mp found
        rw [List.forall_mem_cons, toNat_ofNat_byte]
        refine ⟨⟨ascii, low⟩, ?_⟩
        rw [asciiBytes, asciiBytes, List.map_cons, toNat_ofNat_byte, UInt8.ofNat_toNat]
      · cases read
    · rintro ⟨low, bytes⟩
      cases cs with
      | nil => cases bytes
      | cons c others =>
        obtain ⟨rfl, rfl⟩ := List.cons.inj bytes
        obtain ⟨ascii, low⟩ := List.forall_mem_cons.mp low
        have back : (UInt8.ofNat c.toNat).toNat = c.toNat := by
          rw [UInt8.toNat_ofNat']
          omega
        rw [back, if_pos ascii, ih.mpr ⟨low, rfl⟩, Option.map_some, Char.ofNat_toNat]

theorem asciiChars?_eq_toList_iff {s : String} :
    asciiChars? bs = some s.toList ↔
      (∀ c ∈ s.toList, c.toNat < 0x80) ∧ bs = s.toUTF8.data.toList := by
  rw [asciiChars?_eq_some_iff]
  refine and_congr_right fun ascii => ?_
  rw [utf8_eq_asciiBytes ascii]

end Ascii

theorem toOption_eq_some_iff {ε α : Type} {result : Except ε α} {a : α} :
    result.toOption = some a ↔ result = .ok a := by
  cases result <;> simp [Except.toOption]

/-- A value is taken for the integer that it denotes, and for no other. -/
theorem toInteger?_eq_some_iff {found : Value} {n : ℤ} :
    found.toInteger? = some n ↔ DenotesInteger found n := by
  constructor
  · intro taken
    cases found with
    | int m =>
      cases taken
      exact .int n
    | float x => exact .float (Numeral.Binary64.integer?_eq_some_iff.mp taken)
    | text s => exact .text (Numeral.readInteger_eq_ok_iff.mp (toOption_eq_some_iff.mp taken))
    | bytes bs =>
      obtain ⟨cs, chars, read⟩ := Option.bind_eq_some_iff.mp taken
      obtain ⟨s, rfl⟩ : ∃ s : String, cs = s.toList := ⟨.ofList cs, String.toList_ofList.symm⟩
      obtain ⟨ascii, rfl⟩ := asciiChars?_eq_toList_iff.mp chars
      exact .bytes ascii (Numeral.readInteger_eq_ok_iff.mp (toOption_eq_some_iff.mp read))
    | _ => cases taken
  · rintro (n | same | numeral | ⟨ascii, numeral⟩)
    · rfl
    · exact Numeral.Binary64.integer?_eq_some_iff.mpr same
    · exact toOption_eq_some_iff.mpr (Numeral.readInteger_eq_ok_iff.mpr numeral)
    · rw [toInteger?, asciiChars?_eq_toList_iff.mpr ⟨ascii, rfl⟩]
      exact toOption_eq_some_iff.mpr (Numeral.readInteger_eq_ok_iff.mpr numeral)

theorem denotesInteger_toString {n : ℤ}
    (short : (Nat.digits 10 n.natAbs).length ≤ Numeral.digitLimit) :
    DenotesInteger (.text (toString n)) n ∧
      DenotesInteger (.bytes (toString n).toUTF8.data.toList) n := by
  have numeral := Numeral.integerNumeral_toString short
  exact ⟨.text numeral, .bytes (Numeral.ascii_toString n) numeral⟩

end Value

namespace Config

variable {found : Value} {n : ℤ}

theorem asInteger_eq_ok_iff (key place : String) :
    asInteger found key place = .ok n ↔ found.DenotesInteger n := by
  rw [← Value.toInteger?_eq_some_iff, asInteger]
  cases found.toInteger? <;> simp [refuse]

theorem asInteger_of_not (key place : String) (none : ∀ n, ¬ found.DenotesInteger n) :
    asInteger found key place = .error (.invalid (.notInteger place key found)) := by
  have refused : found.toInteger? = Option.none := by
    rw [Option.eq_none_iff_forall_ne_some]
    exact fun n taken => none n (Value.toInteger?_eq_some_iff.mp taken)
  rw [asInteger, refused]
  rfl

/--
Nothing is rounded where an integer is asked for: integers and their decimal texts, as such or as
bytes, are taken for themselves, a floating-point number for an integer just if it is finite and is
that integer exactly, no truth value for one. Whatever is found, it is taken for the integer that
it denotes, and if it denotes none the fault is that it is no integer.
-/
theorem asInteger_exact (key place : String) :
    (∀ n, asInteger (.int n) key place = .ok n) ∧
      (∀ n : ℤ, (Nat.digits 10 n.natAbs).length ≤ 4300 →
        asInteger (.text (toString n)) key place = .ok n ∧
          asInteger (.bytes (toString n).toUTF8.data.toList) key place = .ok n) ∧
      (∀ (x : Float) (n : ℤ), asInteger (.float x) key place = .ok n ↔
        x.isFinite = true ∧ Binary64.value? x = some (n : ℚ)) ∧
      (∀ b, asInteger (.bool b) key place =
        .error (.invalid (.notInteger place key (.bool b)))) ∧
      ∀ found, (∀ n, asInteger found key place = .ok n ↔ found.DenotesInteger n) ∧
        ((∀ n, ¬ found.DenotesInteger n) →
          asInteger found key place = .error (.invalid (.notInteger place key found))) := by
  refine ⟨fun n => rfl, fun n short => ?_, fun x n => ?_, fun b => rfl, fun found =>
    ⟨fun n => asInteger_eq_ok_iff key place, asInteger_of_not key place⟩⟩
  · obtain ⟨text, bytes⟩ := Value.denotesInteger_toString short
    exact ⟨(asInteger_eq_ok_iff key place).mpr text, (asInteger_eq_ok_iff key place).mpr bytes⟩
  · rw [asInteger_eq_ok_iff]
    constructor
    · rintro (_ | same)
      exact ⟨Numeral.Binary64.isSome_value?_iff.mp (Option.isSome_of_mem same), same⟩
    · rintro ⟨-, same⟩
      exact .float same

/-- The floating-point number `2 ^ 1023`. -/
def vast : Float := Float.ofBits 0x7FE0000000000000

theorem value?_vast : Binary64.value? vast = some ((2 ^ 1023 : ℤ) : ℚ) := by
  show some (((2 ^ 52 : ℤ) : ℚ) * 2 ^ (971 : ℤ)) = _
  rw [Int.cast_pow, Int.cast_pow, Int.cast_ofNat, zpow_ofNat, ← pow_add]

theorem asInteger_exact_vast :
    (Nat.digits 10 (-120 : ℤ).natAbs).length ≤ 4300 ∧
      asInteger (.text "-120") "x" "world" = .ok (-120) ∧
      asInteger (.bytes [0x2D, 0x31, 0x32, 0x30]) "x" "world" = .ok (-120) ∧
      asInteger (.float vast) "x" "world" = .ok (2 ^ 1023) ∧
      asInteger (.text "2.5") "x" "world" =
        .error (.invalid (.notInteger "world" "x" (.text "2.5"))) := by
  obtain ⟨-, decimal, float, -, all⟩ := asInteger_exact "x" "world"
  have short : (Nat.digits 10 (-120 : ℤ).natAbs).length ≤ 4300 := by simp
  obtain ⟨text, bytes⟩ := decimal (-120) short
  refine ⟨short, text, bytes, (float vast _).mpr ⟨rfl, value?_vast⟩, (all _).2 ?_⟩
  intro n denotes
  cases (all _).1 n |>.mpr denotes

end Config

end StepPipeline
