import StepPipeline.Numeral.Reading
import StepPipeline.Proofs.Numeral.Rational

/-!
Which texts are integers. An integer is written as a sign, which may be left out, and a row of
digits of any scripts, where single underscores may stand between two digits and white space around
the whole; no more digits count than the limit. Reading accepts these texts and no others, and the
decimal text of an integer is one of them. Main results: `readInteger_eq_ok_iff`,
`integerNumeral_toString`.
-/

set_option autoImplicit false
set_option relaxedAutoImplicit false

namespace StepPipeline.Numeral

open Text (isBlank strip digit? zeroDigits)

/-- A row of digits, with single underscores between them, and the values of the digits. -/
inductive DigitRow : List Char → List ℕ → Prop
  | last {c : Char} {d : ℕ} : digit? c = some d → DigitRow [c] [d]
  | next {c : Char} {d : ℕ} {cs : List Char} {ds : List ℕ} :
      digit? c = some d → DigitRow cs ds → DigitRow (c :: cs) (d :: ds)
  | joined {c : Char} {d : ℕ} {cs : List Char} {ds : List ℕ} :
      digit? c = some d → DigitRow cs ds → DigitRow (c :: '_' :: cs) (d :: ds)

/-- A sign before a row of digits; the flag is set by a minus. -/
inductive SignText : List Char → Bool → Prop
  | absent : SignText [] false
  | plus : SignText ['+'] false
  | minus : SignText ['-'] true

inductive IntegerNumeral : List Char → ℤ → Prop
  | written {before sign row after : List Char} {negative : Bool} {ds : List ℕ} :
      (∀ c ∈ before, isBlank c = true) → SignText sign negative → DigitRow row ds →
      (∀ c ∈ after, isBlank c = true) → ds.length ≤ digitLimit →
      IntegerNumeral (before ++ (sign ++ row) ++ after)
        (signed negative (Nat.ofDigits 10 ds.reverse))

section Characters

variable {c : Char} {d : ℕ}

theorem exists_zero_of_digit? (digit : digit? c = some d) :
    ∃ z ∈ zeroDigits, c.toNat = z + d ∧ d < 10 := by
  obtain ⟨z, found, rfl⟩ := Option.map_eq_some_iff.mp digit
  have near := List.find?_some found
  simp only [Bool.and_eq_true, decide_eq_true_eq] at near
  exact ⟨z, List.mem_of_find?_eq_some found, by omega, by omega⟩

theorem isDigit_iff : isDigit c = true ↔ 0x30 ≤ c.toNat ∧ c.toNat ≤ 0x39 := by
  rw [isDigit, Bool.and_eq_true, decide_eq_true_eq, decide_eq_true_eq]
  exact Iff.rfl

theorem digit?_of_isDigit (digit : isDigit c = true) : digit? c = some (c.toNat - 0x30) := by
  have first : zeroDigits = 0x30 :: zeroDigits.tail := rfl
  obtain ⟨low, high⟩ := isDigit_iff.mp digit
  rw [digit?, first, List.find?_cons_of_pos]
  · rfl
  · simp only [Bool.and_eq_true, decide_eq_true_eq]
    omega

theorem isDigit_digitChar (small : d < 10) : isDigit d.digitChar = true := by
  rw [isDigit_iff, Nat.toNat_digitChar_of_lt_ten small]
  omega

theorem plainChar_of_digit? (digit : digit? c = some d) : plainChar c = d.digitChar := by
  obtain ⟨z, among, here, small⟩ := exists_zero_of_digit? digit
  apply Char.toNat_inj.mp
  rw [Nat.toNat_digitChar_of_lt_ten small]
  unfold plainChar
  split
  · next ascii =>
    have first : ∀ z ∈ zeroDigits, z < 0x7F → z = 0x30 := by decide
    have := first z among (by omega)
    omega
  · rw [digit]
    show (Char.ofNat (0x30 + d)).toNat = 48 + d
    rw [Char.toNat_ofNat, if_pos (by unfold Nat.isValidChar; omega)]

theorem isDigit_plainChar_iff : isDigit (plainChar c) = true ↔ ∃ d, digit? c = some d := by
  constructor
  · intro plain
    by_cases ascii : c.toNat < 0x7F
    · rw [plainChar, if_pos ascii] at plain
      exact ⟨_, digit?_of_isDigit plain⟩
    · cases digit : digit? c with
      | some d => exact ⟨d, rfl⟩
      | none =>
        rw [plainChar, if_neg ascii, digit] at plain
        exact absurd plain (by decide)
  · rintro ⟨d, digit⟩
    obtain ⟨z, -, -, small⟩ := exists_zero_of_digit? digit
    rw [plainChar_of_digit? digit]
    exact isDigit_digitChar small

theorem plainChar_eq_iff {mark : Char} (ascii : mark.toNat < 0x7F) (noDigit : isDigit mark = false)
    (known : mark ≠ '?') : plainChar c = mark ↔ c = mark := by
  constructor
  · rintro rfl
    by_cases plain : c.toNat < 0x7F
    · rw [plainChar, if_pos plain]
    · cases digit : digit? c with
      | some d =>
        rw [isDigit_plainChar_iff.mpr ⟨d, digit⟩] at noDigit
        cases noDigit
      | none => exact absurd (by rw [plainChar, if_neg plain, digit]; rfl) known
  · rintro rfl
    rw [plainChar, if_pos ascii]

theorem isBlank_of_digit? (digit : digit? c = some d) : isBlank c = false := by
  obtain ⟨z, among, here, small⟩ := exists_zero_of_digit? digit
  have apart : ∀ z ∈ zeroDigits, ∀ d < 10, isBlank (Char.ofNat (z + d)) = false := by decide
  rw [← Char.ofNat_toNat c, here]
  exact apart z among d small

end Characters

section Stripping

variable {drops : Char → Bool} {before core after cs : List Char}

theorem strip_eq_rdropWhile (drops : Char → Bool) (cs : List Char) :
    strip drops cs = (cs.dropWhile drops).rdropWhile drops := rfl

/-- What is dropped is cut off at both ends, and nothing of what stands in between. -/
theorem strip_append (dropsBefore : ∀ c ∈ before, drops c = true) (there : core ≠ [])
    (kept : ∀ c ∈ core, drops c = false) (dropsAfter : ∀ c ∈ after, drops c = true) :
    strip drops (before ++ core ++ after) = core := by
  have front : (core ++ after).dropWhile drops = core ++ after := by
    obtain ⟨c, rest, rfl⟩ := List.exists_cons_of_ne_nil there
    simp [kept c List.mem_cons_self]
  have back : (core ++ after).rdropWhile drops = core.rdropWhile drops := by
    rw [List.rdropWhile, List.reverse_append, List.dropWhile_append_of_pos (by simpa)]
    rfl
  rw [strip_eq_rdropWhile, List.append_assoc, List.dropWhile_append_of_pos dropsBefore, front,
    back, List.rdropWhile_eq_self_iff]
  intro there
  simp [kept _ (List.getLast_mem there)]

theorem exists_strip (drops : Char → Bool) (cs : List Char) :
    ∃ before after, (∀ c ∈ before, drops c = true) ∧ (∀ c ∈ after, drops c = true) ∧
      cs = before ++ strip drops cs ++ after := by
  refine ⟨cs.takeWhile drops, (cs.dropWhile drops).rtakeWhile drops,
    fun c => List.mem_takeWhile_imp, fun c => List.mem_rtakeWhile_imp, ?_⟩
  rw [strip_eq_rdropWhile, List.append_assoc, List.rdropWhile_append_rtakeWhile,
    List.takeWhile_append_dropWhile]

end Stripping

section Rows

variable {c : Char} {cs plain : List Char} {ds : List ℕ} {before : Option Char}

theorem ne_underscore (digit : isDigit c = true) : c ≠ '_' := by
  rintro rfl
  cases digit

theorem joinDigits_digit (digit : isDigit c = true) (before : Option Char) (cs : List Char) :
    joinDigits before (c :: cs) = (joinDigits (some c) cs).map (c :: ·) := by
  simp [joinDigits, ne_underscore digit, digit]

theorem joinDigits_underscore (before : Option Char) (cs : List Char) :
    joinDigits before ('_' :: cs) =
      if before.any isDigit then joinDigits (some '_') cs else none := by
  simp [joinDigits]

theorem DigitRow.small (row : DigitRow cs ds) : ∀ d ∈ ds, d < 10 := by
  induction row with
  | last digit =>
    obtain ⟨-, -, -, small⟩ := exists_zero_of_digit? digit
    simpa using small
  | next digit _ ih | joined digit _ ih =>
    obtain ⟨-, -, -, small⟩ := exists_zero_of_digit? digit
    exact List.forall_mem_cons.mpr ⟨small, ih⟩

/-- A row of digits is joined to the ASCII digits of its values, whatever stands before it. -/
theorem joinDigits_of_row (row : DigitRow cs ds) (before : Option Char) :
    joinDigits before (cs.map plainChar) = some (ds.map Nat.digitChar) := by
  induction row generalizing before with
  | last digit =>
    have plain := isDigit_plainChar_iff.mpr ⟨_, digit⟩
    have ends := ne_underscore plain
    rw [plainChar_of_digit? digit] at plain ends
    simp [plainChar_of_digit? digit, joinDigits_digit plain, joinDigits, ends]
  | next digit row ih =>
    have plain := isDigit_plainChar_iff.mpr ⟨_, digit⟩
    rw [List.map_cons, joinDigits_digit plain, ih, plainChar_of_digit? digit]
    rfl
  | joined digit row ih =>
    have plain := isDigit_plainChar_iff.mpr ⟨_, digit⟩
    have mark : plainChar '_' = '_' := rfl
    rw [List.map_cons, List.map_cons, mark, joinDigits_digit plain, joinDigits_underscore,
      Option.any_some, if_pos plain, ih, plainChar_of_digit? digit]
    rfl

def isPart (c : Char) : Bool := isDigit c || c == '_'

theorem isPart_iff : isPart c = true ↔ isDigit c = true ∨ c = '_' := by
  simp [isPart]

theorem DigitRow.parts (row : DigitRow cs ds) : ∀ c ∈ cs, isPart (plainChar c) = true := by
  have part {c : Char} {d : ℕ} (digit : digit? c = some d) : isPart (plainChar c) = true :=
    isPart_iff.mpr (.inl (isDigit_plainChar_iff.mpr ⟨d, digit⟩))
  induction row with
  | last digit => simpa using part digit
  | next digit _ ih => exact List.forall_mem_cons.mpr ⟨part digit, ih⟩
  | joined digit _ ih =>
    exact List.forall_mem_cons.mpr ⟨part digit, List.forall_mem_cons.mpr ⟨rfl, ih⟩⟩

/--
What is joined from digits and underscores is nothing at all or a row of digits; this may be told
apart from the digit before it by an underscore.
-/
theorem row_of_joinDigits (parts : ∀ c ∈ cs, isPart (plainChar c) = true)
    (joined : joinDigits before (cs.map plainChar) = some plain) :
    cs = [] ∧ before ≠ some '_' ∧ plain = [] ∨
      ∃ ds, plain = ds.map Nat.digitChar ∧ (DigitRow cs ds ∨
        ∃ rest, cs = '_' :: rest ∧ before.any isDigit = true ∧ DigitRow rest ds) := by
  induction cs generalizing before plain with
  | nil =>
    simp only [List.map_nil, joinDigits] at joined
    split at joined
    · cases joined
    · next free => exact .inl ⟨rfl, free, (Option.some.inj joined).symm⟩
  | cons c rest ih =>
    right
    obtain ⟨part, later⟩ := List.forall_mem_cons.mp parts
    rw [List.map_cons] at joined
    rcases isPart_iff.mp part with digit | mark
    · rw [joinDigits_digit digit] at joined
      obtain ⟨others, joins, rfl⟩ := Option.map_eq_some_iff.mp joined
      obtain ⟨d, found⟩ := isDigit_plainChar_iff.mp digit
      rw [plainChar_of_digit? found]
      obtain ⟨rfl, -, rfl⟩ | ⟨ds, rfl, row | ⟨rest, rfl, -, row⟩⟩ := ih later joins
      · exact ⟨[d], rfl, .inl (.last found)⟩
      · exact ⟨d :: ds, rfl, .inl (.next found row)⟩
      · exact ⟨d :: ds, rfl, .inl (.joined found row)⟩
    · obtain rfl := (plainChar_eq_iff (by decide) (by decide) (by decide)).mp mark
      rw [mark, joinDigits_underscore] at joined
      split at joined
      · next after =>
        obtain ⟨-, free, -⟩ | ⟨ds, rfl, row | ⟨-, -, underscore, -⟩⟩ := ih later joined
        · exact absurd rfl free
        · exact ⟨ds, rfl, .inr ⟨rest, rfl, after, row⟩⟩
        · cases underscore
      · cases joined

theorem DigitRow.notBlank (row : DigitRow cs ds) : ∀ c ∈ cs, isBlank c = false := by
  induction row with
  | last digit => simpa using isBlank_of_digit? digit
  | next digit _ ih => exact List.forall_mem_cons.mpr ⟨isBlank_of_digit? digit, ih⟩
  | joined digit _ ih =>
    exact List.forall_mem_cons.mpr ⟨isBlank_of_digit? digit, List.forall_mem_cons.mpr ⟨rfl, ih⟩⟩

theorem DigitRow.ne_nil (row : DigitRow cs ds) : cs ≠ [] := by
  cases row <;> exact List.cons_ne_nil _ _

theorem DigitRow.values_ne_nil (row : DigitRow cs ds) : ds ≠ [] := by
  cases row <;> exact List.cons_ne_nil _ _

theorem ofDigits_reverse (ds : List ℕ) :
    Nat.ofDigits 10 ds.reverse = ds.foldl (fun n d => d + 10 * n) 0 := by
  rw [Nat.ofDigits_eq_foldr, List.foldr_reverse]
  rfl

theorem naturalOf_digitChars (small : ∀ d ∈ ds, d < 10) :
    naturalOf (ds.map Nat.digitChar) = Nat.ofDigits 10 ds.reverse := by
  rw [naturalOf, List.foldl_map, ofDigits_reverse]
  apply List.foldl_ext
  intro n d among
  have := Nat.toNat_digitChar_of_lt_ten (small d among)
  omega

end Rows

section Signs

variable {cs sign row : List Char} {ds : List ℕ} {negative : Bool}

theorem splitSign_map (cs : List Char) :
    splitSign (cs.map plainChar) = ((splitSign cs).1, (splitSign cs).2.map plainChar) := by
  cases cs with
  | nil => rfl
  | cons c rest =>
    by_cases minus : c = '-'
    · subst minus
      rfl
    · by_cases plus : c = '+'
      · subst plus
        rfl
      · have noMinus := mt (plainChar_eq_iff (by decide) (by decide) (by decide)).mp minus
        have noPlus := mt (plainChar_eq_iff (by decide) (by decide) (by decide)).mp plus
        simp [splitSign, minus, plus, noMinus, noPlus]

theorem SignText.notBlank (marked : SignText sign negative) : ∀ c ∈ sign, isBlank c = false := by
  cases marked <;> simp [isBlank]

theorem exists_signText (cs : List Char) :
    ∃ sign, SignText sign (splitSign cs).1 ∧ cs = sign ++ (splitSign cs).2 := by
  unfold splitSign
  split
  · exact ⟨_, .minus, rfl⟩
  · exact ⟨_, .plus, rfl⟩
  · exact ⟨_, .absent, rfl⟩

theorem splitSign_row (row : DigitRow cs ds) : splitSign cs = (false, cs) := by
  have noSign {c : Char} {d : ℕ} (digit : digit? c = some d) : c ≠ '-' ∧ c ≠ '+' := by
    constructor <;> rintro rfl <;> cases digit
  cases row with
  | last digit | next digit _ | joined digit _ => simp [splitSign, noSign digit]

theorem splitSign_append (marked : SignText sign negative) (digits : DigitRow row ds) :
    splitSign (sign ++ row) = (negative, row) := by
  cases marked with
  | absent => exact splitSign_row digits
  | plus => rfl
  | minus => rfl

end Signs

section Reading

variable {cs : List Char} {n : ℤ}

/-- Reads an integer of which the sign has been taken off. -/
def readUnsigned (negative : Bool) (body : List Char) : Except IntegerFault ℤ :=
  match joinDigits none (body.takeWhile isPart) with
  | none => .error .malformed
  | some plain =>
    if digitLimit < plain.length then .error (.tooLong plain.length)
    else if plain.isEmpty || !(body.dropWhile isPart).isEmpty then .error .malformed
    else .ok (signed negative (naturalOf plain))

theorem readInteger_eq_readUnsigned (cs : List Char) :
    readInteger cs = readUnsigned (splitSign (strip isBlank cs)).1
      ((splitSign (strip isBlank cs)).2.map plainChar) := by
  rw [readInteger, plainChars, splitSign_map]
  rfl

theorem readUnsigned_eq_ok_iff {negative : Bool} {body : List Char} :
    readUnsigned negative (body.map plainChar) = .ok n ↔ ∃ ds, DigitRow body ds ∧
      ds.length ≤ digitLimit ∧ signed negative (Nat.ofDigits 10 ds.reverse) = n := by
  unfold readUnsigned
  constructor
  · intro read
    split at read
    · cases read
    · next plain joined =>
      split at read
      · cases read
      · next short =>
        split at read
        · cases read
        · next whole =>
          simp only [Bool.or_eq_true, List.isEmpty_iff, Bool.not_eq_true', not_or,
            Bool.not_eq_false, List.dropWhile_eq_nil_iff] at whole
          obtain ⟨there, parts⟩ := whole
          rw [List.takeWhile_eq_self_iff.mpr parts] at joined
          obtain ⟨-, -, rfl⟩ | ⟨ds, rfl, row | ⟨-, -, underscore, -⟩⟩ :=
            row_of_joinDigits (List.forall_mem_map.mp parts) joined
          · exact absurd rfl there
          · rw [naturalOf_digitChars row.small] at read
            exact ⟨ds, row, by simpa using short, Except.ok.inj read⟩
          · cases underscore
  · rintro ⟨ds, row, short, rfl⟩
    have parts : ∀ c ∈ body.map plainChar, isPart c = true := List.forall_mem_map.mpr row.parts
    rw [List.takeWhile_eq_self_iff.mpr parts, List.dropWhile_eq_nil_iff.mpr parts,
      joinDigits_of_row row]
    simp [row.values_ne_nil, naturalOf_digitChars row.small, short]

theorem readInteger_eq_ok_iff : readInteger cs = .ok n ↔ IntegerNumeral cs n := by
  rw [readInteger_eq_readUnsigned, readUnsigned_eq_ok_iff]
  constructor
  · rintro ⟨ds, row, short, rfl⟩
    obtain ⟨before, after, blankBefore, blankAfter, whole⟩ := exists_strip isBlank cs
    obtain ⟨sign, marked, core⟩ := exists_signText (strip isBlank cs)
    have numeral := IntegerNumeral.written blankBefore marked row blankAfter short
    rwa [← core, ← whole] at numeral
  · rintro ⟨blankBefore, marked, row, blankAfter, short⟩
    have core := List.forall_mem_append.mpr ⟨marked.notBlank, row.notBlank⟩
    rw [strip_append blankBefore (List.append_ne_nil_of_right_ne_nil _ row.ne_nil) core blankAfter,
      splitSign_append marked row]
    exact ⟨_, row, short, rfl⟩

end Reading

section Decimal

variable {cs : List Char} {n : ℤ}

theorem IntegerNumeral.bare {sign row : List Char} {negative : Bool} {ds : List ℕ}
    (marked : SignText sign negative) (digits : DigitRow row ds) (short : ds.length ≤ digitLimit) :
    IntegerNumeral (sign ++ row) (signed negative (Nat.ofDigits 10 ds.reverse)) := by
  have blank : ∀ c ∈ ([] : List Char), isBlank c = true := nofun
  simpa using IntegerNumeral.written blank marked digits blank short

theorem digitRow_of_isDigit (there : cs ≠ []) (digits : ∀ c ∈ cs, isDigit c = true) :
    DigitRow cs (cs.map (·.toNat - 0x30)) := by
  induction cs with
  | nil => exact absurd rfl there
  | cons c rest ih =>
    obtain ⟨digit, digits⟩ := List.forall_mem_cons.mp digits
    cases rest with
    | nil => exact .last (digit?_of_isDigit digit)
    | cons => exact .next (digit?_of_isDigit digit) (ih (List.cons_ne_nil _ _) digits)

theorem isDigit_of_mem_toDigits {m : ℕ} {c : Char} (among : c ∈ Nat.toDigits 10 m) :
    isDigit c = true :=
  isDigit_iff.mpr (Char.isDigit_iff_toNat.mp
    (Nat.isDigit_of_mem_toDigits (by decide) (by decide) among))

theorem digitRow_toDigits (m : ℕ) :
    ∃ ds, DigitRow (Nat.toDigits 10 m) ds ∧ ds.length = (Nat.toDigits 10 m).length ∧
      Nat.ofDigits 10 ds.reverse = m := by
  refine ⟨_, digitRow_of_isDigit Nat.toDigits_ne_nil fun _ => isDigit_of_mem_toDigits,
    List.length_map _, ?_⟩
  rw [ofDigits_reverse, List.foldl_map]
  calc _ = Nat.ofDigitChars 10 (Nat.toDigits 10 m) 0 := by
        rw [Nat.ofDigitChars_eq_foldl]
        apply List.foldl_ext
        intro k c _
        exact Nat.add_comm _ _
    _ = m := Nat.ofDigitChars_ten_toDigits

theorem exists_toList_toString (n : ℤ) :
    ∃ sign negative, SignText sign negative ∧ signed negative n.natAbs = n ∧
      (toString n).toList = sign ++ Nat.toDigits 10 n.natAbs := by
  cases n with
  | ofNat m => exact ⟨_, _, .absent, rfl, Nat.toList_repr⟩
  | negSucc m =>
    refine ⟨_, _, .minus, rfl, ?_⟩
    show ("-" ++ (m + 1).repr).toList = _
    rw [String.toList_append, Nat.toList_repr]
    rfl

theorem ascii_toString (n : ℤ) : ∀ c ∈ (toString n).toList, c.toNat < 0x80 := by
  obtain ⟨sign, negative, marked, -, text⟩ := exists_toList_toString n
  rw [text, List.forall_mem_append]
  constructor
  · cases marked <;> simp
  · intro c among
    have := isDigit_iff.mp (isDigit_of_mem_toDigits among)
    omega

/-- The decimal text of an integer is a numeral of it, unless it has too many digits. -/
theorem integerNumeral_toString (short : (Nat.digits 10 n.natAbs).length ≤ digitLimit) :
    IntegerNumeral (toString n).toList n := by
  obtain ⟨ds, row, length, value⟩ := digitRow_toDigits n.natAbs
  obtain ⟨sign, negative, marked, whole, text⟩ := exists_toList_toString n
  have few : ds.length ≤ digitLimit := by
    rw [length, Nat.length_toDigits_le_iff (by decide) (by decide)]
    exact (Nat.digits_length_le_iff (by decide) _).mp short
  have numeral := IntegerNumeral.bare marked row few
  rwa [value, whole, ← text] at numeral

end Decimal

end StepPipeline.Numeral
