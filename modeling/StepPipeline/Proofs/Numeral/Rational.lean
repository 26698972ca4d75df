import StepPipeline.Proofs.Numeral.Binary64

/-!
The rational number that a floating-point number is. It is read off the unpacked number, and the
parts of the bit pattern say the same; the integer of a number is found just where this rational
number is one. Main result: `integer?_eq_some_iff`.
-/

set_option autoImplicit false
set_option relaxedAutoImplicit false

namespace StepPipeline.Numeral.Binary64

open Float.Model

def unpackedValue? : UnpackedFloat → Option ℚ
  | .infinity _ => none
  | .notANumber => none
  | .zero _ => some 0
  | .finite sign mantissa exponent _ => some (sign.apply mantissa * 2 ^ exponent)

/-- The rational number that a number is, if it is finite. -/
def value? (x : Float) : Option ℚ :=
  unpackedValue? x.toModel.unpack

theorem isSome_value?_iff {x : Float} : (value? x).isSome = true ↔ x.isFinite = true := by
  show (unpackedValue? x.toModel.unpack).isSome = true ↔ x.toModel.unpack.isFinite = true
  cases x.toModel.unpack <;> simp [unpackedValue?, UnpackedFloat.isFinite]

def Parts.value? : Parts → Option ℚ
  | .finite negative mantissa exponent => some (signed negative mantissa * 2 ^ exponent)
  | .infinite _ => none
  | .nan => none

private theorem apply_ofBitVec (bit : BitVec 1) (mantissa : ℕ) :
    (UnpackedFloat.Sign.ofBitVec bit).apply mantissa = signed (bit.toNat == 1) mantissa := by
  rcases BitVec.eq_zero_or_eq_one bit with rfl | rfl <;> rfl

private theorem append_one_toNat (mantissa : BitVec 52) :
    (1#1 ++ mantissa).toNat = twoTo 52 + mantissa.toNat := by
  rw [BitVec.toNat_append, ← Nat.shiftLeft_add_eq_or_of_lt mantissa.isLt]
  rfl

theorem value?_parts (x : Float) : (parts x).value? = value? x := by
  show (parts x).value? = unpackedValue? (UnpackedFloat.unpack .binary64 x.toBits.toBitVec)
  have exponent : (@UnpackedFloat.unpackExponent .binary64 x.toBits.toBitVec).toNat =
      x.toBits.toNat / twoTo 52 % 2048 := unpackExponent_toNat _
  have mantissa : (@UnpackedFloat.unpackMantissa .binary64 x.toBits.toBitVec).toNat =
      x.toBits.toNat % twoTo 52 := unpackMantissa_toNat _
  have sign : (@UnpackedFloat.unpackSign .binary64 x.toBits.toBitVec).toNat =
      x.toBits.toNat / twoTo 63 := unpackSign_toNat _
  have top : @UnpackedFloat.unpackExponent .binary64 x.toBits.toBitVec = -1#11 ↔
      x.toBits.toNat / twoTo 52 % 2048 = 2047 := unpackExponent_eq_iff
  have bottom : @UnpackedFloat.unpackExponent .binary64 x.toBits.toBitVec = 0#11 ↔
      x.toBits.toNat / twoTo 52 % 2048 = 0 := unpackExponent_eq_iff
  have blank : @UnpackedFloat.unpackMantissa .binary64 x.toBits.toBitVec = 0#52 ↔
      x.toBits.toNat % twoTo 52 = 0 := unpackMantissa_eq_iff
  unfold parts UnpackedFloat.unpack
  dsimp only
  -- The cases are those of the format: an exponent of ones, one of zeros, and any other.
  by_cases infinite : x.toBits.toNat / twoTo 52 % 2048 = 2047
  · rw [if_pos infinite, if_pos (top.mpr infinite)]
    by_cases zero : x.toBits.toNat % twoTo 52 = 0
    · rw [if_pos zero, if_pos (blank.mpr zero)]
      rfl
    · rw [if_neg zero, if_neg (mt blank.mp zero)]
      rfl
  · rw [if_neg infinite, if_neg (mt top.mp infinite)]
    by_cases subnormal : x.toBits.toNat / twoTo 52 % 2048 = 0
    · rw [if_pos subnormal, if_pos (bottom.mpr subnormal)]
      by_cases zero : x.toBits.toNat % twoTo 52 = 0
      · rw [dif_pos (blank.mpr zero), zero]
        simp [Parts.value?, unpackedValue?, signed]
      · rw [dif_neg (mt blank.mp zero), Parts.value?, unpackedValue?, apply_ofBitVec, sign,
          mantissa, exponent, subnormal]
        rfl
    · rw [if_neg subnormal, if_neg (mt bottom.mp subnormal), Parts.value?, unpackedValue?,
        apply_ofBitVec, sign, append_one_toNat, mantissa, exponent]
      rfl

section Whole

variable {mantissa n : ℕ} {exponent : ℤ}

private theorem mul_two_zpow_nonneg : 0 ≤ (mantissa : ℚ) * 2 ^ exponent := by positivity

/-- A mantissa is scaled to a natural number just if this is what it is exactly. -/
theorem scaled?_eq_some_iff :
    scaled? mantissa exponent = some n ↔ (mantissa : ℚ) * 2 ^ exponent = n := by
  unfold scaled?
  by_cases whole : 0 ≤ exponent
  · obtain ⟨k, rfl⟩ := Int.eq_ofNat_of_zero_le whole
    rw [if_pos whole, Option.some_inj, Int.toNat_natCast, zpow_natCast]
    exact_mod_cast Iff.rfl
  · obtain ⟨k, rfl⟩ : ∃ k : ℕ, exponent = -(k : ℤ) := ⟨(-exponent).toNat, by omega⟩
    have exact : (mantissa : ℚ) * 2 ^ (-(k : ℤ)) = n ↔ mantissa = n * twoTo k := by
      rw [zpow_neg, zpow_natCast, mul_inv_eq_iff_eq_mul₀ (by positivity)]
      exact_mod_cast Iff.rfl
    rw [if_neg whole, neg_neg, Int.toNat_natCast, exact]
    split
    · next divides =>
      rw [Option.some_inj]
      exact Nat.div_eq_iff_eq_mul_left (twoTo_pos k) (Nat.dvd_of_mod_eq_zero divides)
    · next rest =>
      refine iff_of_false nofun ?_
      rintro rfl
      exact rest (Nat.mul_mod_left n (twoTo k))

theorem signed_mul_eq_iff {negative : Bool} {z : ℤ} :
    (signed negative mantissa : ℚ) * 2 ^ exponent = z ↔
      ∃ n : ℕ, (mantissa : ℚ) * 2 ^ exponent = n ∧ signed negative n = z := by
  constructor
  · intro same
    cases negative with
    | false =>
      have same : (mantissa : ℚ) * 2 ^ exponent = z := by simpa [signed] using same
      have above : 0 ≤ z := by exact_mod_cast same ▸ mul_two_zpow_nonneg
      obtain ⟨n, rfl⟩ := Int.eq_ofNat_of_zero_le above
      exact ⟨n, same, rfl⟩
    | true =>
      have same : (mantissa : ℚ) * 2 ^ exponent = (-z : ℤ) := by
        simp [signed] at same ⊢
        linarith
      have above : 0 ≤ -z := by exact_mod_cast same ▸ mul_two_zpow_nonneg
      obtain ⟨n, opposite⟩ := Int.eq_ofNat_of_zero_le above
      exact ⟨n, by rw [same, opposite]; rfl, by simp [signed, ← opposite]⟩
  · rintro ⟨n, same, rfl⟩
    cases negative <;> simp [signed, ← same]

/-- A number is taken for an integer just if it is finite and is that integer exactly. -/
theorem integer?_eq_some_iff {x : Float} {z : ℤ} :
    integer? x = some z ↔ value? x = some (z : ℚ) := by
  rw [← value?_parts]
  cases finite : parts x with
  | finite negative mantissa exponent =>
    rw [integer?_of_finite finite, Option.map_eq_some_iff, Parts.value?, Option.some_inj,
      signed_mul_eq_iff]
    simp only [scaled?_eq_some_iff]
  | infinite negative => simp [integer?, finite, Parts.value?]
  | nan => simp [integer?, finite, Parts.value?]

end Whole

end StepPipeline.Numeral.Binary64
