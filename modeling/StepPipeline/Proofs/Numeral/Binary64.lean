import Mathlib
import StepPipeline.Numeral.Binary64

/-!
The 64-bit binary floating-point format: how a number compares with zero, that products and
quotients have the sign of their operands, which integers have a nearest number, and of which sign
it is. An integer is refused from the midpoint above the largest finite number on; an integer that
is itself a number of the format never is.
-/

set_option autoImplicit false
set_option relaxedAutoImplicit false

namespace StepPipeline.Numeral

theorem twoTo_pos (n : Nat) : 0 < twoTo n := Nat.two_pow_pos n

theorem twoTo_add (m n : Nat) : twoTo (m + n) = twoTo m * twoTo n := Nat.pow_add 2 m n

theorem twoTo_le {m n : Nat} (le : m ≤ n) : twoTo m ≤ twoTo n :=
  Nat.pow_le_pow_right (by decide) le

theorem tenTo_le {m n : Nat} (le : m ≤ n) : tenTo m ≤ tenTo n :=
  Nat.pow_le_pow_right (by decide) le

theorem twoTo_le_tenTo (n : Nat) : twoTo n ≤ tenTo n := Nat.pow_le_pow_left (by decide) n

def signed (negative : Bool) (magnitude : Nat) : Int :=
  if negative then -magnitude else magnitude

theorem natAbs_signed (negative : Bool) (magnitude : Nat) :
    (signed negative magnitude).natAbs = magnitude := by
  cases negative <;> simp [signed]

namespace Binary64

open Float.Model

section Comparison

variable {x y : Float}

theorem lt_iff_unpack : x < y ↔ x.toModel.unpack.lt y.toModel.unpack = true := by
  show decide _ = true ↔ _
  rw [decide_eq_true_iff]
  rfl

theorem le_iff_unpack : x ≤ y ↔ x.toModel.unpack.le y.toModel.unpack = true := by
  show decide _ = true ↔ _
  rw [decide_eq_true_iff]
  rfl

private theorem lt_zero_iff_unpack : x < 0.0 ↔ x.toModel.unpack.lt (.zero .positive) = true :=
  lt_iff_unpack

private theorem zero_lt_iff_unpack :
    0.0 < x ↔ UnpackedFloat.lt (.zero .positive) x.toModel.unpack = true :=
  lt_iff_unpack

private theorem le_zero_iff_unpack : x ≤ 0.0 ↔ x.toModel.unpack.le (.zero .positive) = true :=
  le_iff_unpack

private theorem zero_le_iff_unpack :
    0.0 ≤ x ↔ UnpackedFloat.le (.zero .positive) x.toModel.unpack = true :=
  le_iff_unpack

private theorem isNaN_iff_unpack : x.isNaN = false ↔ x.toModel.unpack.isNaN = false :=
  Iff.rfl

theorem zero_le_float_iff : 0.0 ≤ x ↔ ¬ x < 0.0 ∧ x.isNaN = false := by
  rw [lt_zero_iff_unpack, zero_le_iff_unpack, isNaN_iff_unpack]
  cases x.toModel.unpack with
  | notANumber => decide
  | infinity sign => cases sign <;> decide
  | zero sign => cases sign <;> decide
  | finite sign mantissa exponent positive =>
    cases sign <;>
      simp [UnpackedFloat.lt, UnpackedFloat.le, UnpackedFloat.compare, UnpackedFloat.isNaN]

theorem zero_lt_float_iff : 0.0 < x ↔ ¬ x ≤ 0.0 ∧ x.isNaN = false := by
  rw [le_zero_iff_unpack, zero_lt_iff_unpack, isNaN_iff_unpack]
  cases x.toModel.unpack with
  | notANumber => decide
  | infinity sign => cases sign <;> decide
  | zero sign => cases sign <;> decide
  | finite sign mantissa exponent positive =>
    cases sign <;>
      simp [UnpackedFloat.lt, UnpackedFloat.le, UnpackedFloat.compare, UnpackedFloat.isNaN]

theorem le_of_beq (same : (x == y) = true) : x ≤ y := by
  have compares : x.toModel.unpack.compare y.toModel.unpack = some .eq := beq_iff_eq.mp same
  rw [le_iff_unpack, UnpackedFloat.le, compares]
  rfl

end Comparison

section Fields

variable (word : BitVec 64)

theorem unpackExponent_toNat :
    (@UnpackedFloat.unpackExponent .binary64 word).toNat = word.toNat / 2 ^ 52 % 2048 := by
  rw [UnpackedFloat.unpackExponent_def, BitVec.extractLsb'_toNat, Nat.shiftRight_eq_div_pow]
  rfl

theorem unpackMantissa_toNat :
    (@UnpackedFloat.unpackMantissa .binary64 word).toNat = word.toNat % 2 ^ 52 := by
  rw [UnpackedFloat.unpackMantissa_def, BitVec.extractLsb'_toNat]
  rfl

theorem unpackExponent_eq_iff {word : BitVec 64} {exponent : BitVec 11} :
    @UnpackedFloat.unpackExponent .binary64 word = exponent ↔
      word.toNat / 2 ^ 52 % 2048 = exponent.toNat := by
  rw [← BitVec.toNat_inj, unpackExponent_toNat]

theorem unpackMantissa_eq_iff {word : BitVec 64} {mantissa : BitVec 52} :
    @UnpackedFloat.unpackMantissa .binary64 word = mantissa ↔
      word.toNat % 2 ^ 52 = mantissa.toNat := by
  rw [← BitVec.toNat_inj, unpackMantissa_toNat]

theorem unpackSign_toNat :
    (@UnpackedFloat.unpackSign .binary64 word).toNat = word.toNat / 2 ^ 63 := by
  rw [UnpackedFloat.unpackSign_def, BitVec.extractLsb'_toNat, Nat.shiftRight_eq_div_pow]
  exact Nat.mod_eq_of_lt (Nat.div_lt_of_lt_mul word.isLt)

end Fields

section Sign

private theorem zero_lt_unpack {word : BitVec 64} (positive : 0 < word.toNat)
    (finite : word.toNat < infinityBits) :
    UnpackedFloat.lt (.zero .positive) (UnpackedFloat.unpack .binary64 word) = true := by
  unfold infinityBits at finite
  have sign : @UnpackedFloat.unpackSign .binary64 word = 0#1 := by
    apply BitVec.eq_of_toNat_eq
    rw [unpackSign_toNat]
    exact Nat.div_eq_of_lt (Nat.lt_trans finite (by decide))
  have ordinary : @UnpackedFloat.unpackExponent .binary64 word ≠ -1#11 := by
    rw [ne_eq, unpackExponent_eq_iff]
    show word.toNat / 2 ^ 52 % 2048 ≠ 2047
    omega
  unfold UnpackedFloat.unpack
  dsimp only
  rw [if_neg ordinary, sign]
  split
  -- Without an exponent the pattern is all mantissa, and that is not zero.
  · next low =>
    have low : word.toNat / 2 ^ 52 % 2048 = 0 := unpackExponent_eq_iff.mp low
    have nonzero : @UnpackedFloat.unpackMantissa .binary64 word ≠ 0#52 := by
      rw [ne_eq, unpackMantissa_eq_iff]
      show word.toNat % 2 ^ 52 ≠ 0
      omega
    rw [dif_neg nonzero]
    rfl
  · rfl

private theorem unpack_ofBits (word : UInt64) :
    (Float.ofBits word).toModel.unpack = UnpackedFloat.unpack .binary64 word.toBitVec := by
  show UnpackedFloat.unpack _ (UnpackedFloat.pack _ (UnpackedFloat.unpack _ _)) = _
  rw [UnpackedFloat.pack_unpack]
  split
  · next noNumber =>
    simp only [UnpackedFloat.isNaNBits, decide_eq_true_eq] at noNumber
    rw [UnpackedFloat.unpack_packedNaN]
    simp [UnpackedFloat.unpack, noNumber]
  · rfl

theorem ofBits_pos {bits : Nat} (positive : 0 < bits) (finite : bits < infinityBits) :
    0.0 < Float.ofBits (UInt64.ofNat bits) := by
  have toNat : (UInt64.ofNat bits).toBitVec.toNat = bits :=
    Nat.mod_eq_of_lt (Nat.lt_of_lt_of_le finite (by decide))
  rw [← toNat] at positive finite
  rw [zero_lt_iff_unpack, unpack_ofBits]
  exact zero_lt_unpack positive finite

/-- The sign of a number, also of zero; what is no number has none. -/
def sign? : UnpackedFloat → Option UnpackedFloat.Sign
  | .notANumber => none
  | .infinity sign => some sign
  | .zero sign => some sign
  | .finite sign _ _ _ => some sign

private theorem sign?_unpack_packed (sign : UnpackedFloat.Sign) (exponent : BitVec 11)
    (mantissa : BitVec 52) (ordinary : exponent ≠ -1#11) :
    sign? (UnpackedFloat.unpack .binary64
      (UnpackedFloat.packComponents .binary64 sign exponent mantissa)) = some sign := by
  unfold UnpackedFloat.unpack
  simp only [UnpackedFloat.unpackExponent_packComponents,
    UnpackedFloat.unpackMantissa_packComponents, UnpackedFloat.unpackSign_packComponents,
    UnpackedFloat.Sign.ofBitVec_toBitVec]
  split
  · next top => exact absurd top ordinary
  · split
    · split <;> rfl
    · rfl

private theorem sign?_pack (u : UnpackedFloat) :
    sign? (UnpackedFloat.unpack .binary64 (UnpackedFloat.pack .binary64 u)) = sign? u := by
  cases u with
  | notANumber => rfl
  | infinity sign => cases sign <;> rfl
  | zero sign => cases sign <;> rfl
  | finite sign mantissa exponent nonzero =>
    unfold UnpackedFloat.pack
    dsimp only
    split
    -- An exponent that does not fit packs to an infinity.
    · cases sign <;> rfl
    · next bounded =>
      split
      · apply sign?_unpack_packed
        intro top
        have reached := congrArg BitVec.toNat top
        have small := Nat.lt_of_succ_lt (Nat.lt_of_not_le bounded)
        rw [BitVec.toNat_ofNat, Nat.mod_eq_of_lt small] at reached
        rw [reached] at bounded
        exact bounded (by decide)
      · exact sign?_unpack_packed _ _ _ (by decide)

private theorem le_zero_of_negative {u : UnpackedFloat} (negative : sign? u = some .negative) :
    u.le (.zero .positive) = true := by
  cases u with
  | notANumber => cases negative
  | infinity sign => cases negative; rfl
  | zero sign => rfl
  | finite sign mantissa exponent nonzero => cases negative; rfl

private theorem not_below {u : UnpackedFloat} (unsigned : sign? u ≠ some .negative) :
    u.lt (.zero .positive) = false ∧
      ∀ mantissa exponent nonzero,
        u.le (.finite .negative mantissa exponent nonzero) = false := by
  cases u with
  | notANumber => exact ⟨rfl, fun _ _ _ => rfl⟩
  | zero sign => exact ⟨rfl, fun _ _ _ => rfl⟩
  | infinity sign =>
    cases sign with
    | negative => exact absurd rfl unsigned
    | positive => exact ⟨rfl, fun _ _ _ => rfl⟩
  | finite sign mantissa exponent nonzero =>
    cases sign with
    | negative => exact absurd rfl unsigned
    | positive => exact ⟨rfl, fun _ _ _ => rfl⟩

theorem neg_le_zero {x : Float} (above : 0.0 < x) : -x ≤ 0.0 := by
  rw [zero_lt_iff_unpack] at above
  have opposite : sign? x.toModel.unpack.neg = some .negative := by
    cases unpacked : x.toModel.unpack with
    | notANumber => rw [unpacked] at above; cases above
    | infinity sign => cases sign with
      | positive => rfl
      | negative => rw [unpacked] at above; cases above
    | zero sign => rw [unpacked] at above; cases above
    | finite sign mantissa exponent nonzero => cases sign with
      | positive => rfl
      | negative => rw [unpacked] at above; cases above
  rw [← sign?_pack] at opposite
  exact le_zero_iff_unpack.mpr (le_zero_of_negative opposite)

private theorem sign?_roundWithAccuracy (sign : UnpackedFloat.Sign) (mantissa : Nat)
    (exponent : Int) (accuracy : UnpackedFloat.Accuracy) :
    sign? (UnpackedFloat.roundWithAccuracy .binary64 sign mantissa exponent accuracy) =
      some sign := by
  unfold UnpackedFloat.roundWithAccuracy
  dsimp only
  split <;> rfl

private theorem sign?_mul (u v : UnpackedFloat) :
    sign? (.mul .binary64 u v) = none ∨ ∃ a b, sign? u = some a ∧ sign? v = some b ∧
      sign? (.mul .binary64 u v) = some (a * b) := by
  cases u <;> cases v <;> first
    | exact .inr ⟨_, _, rfl, rfl, sign?_roundWithAccuracy ..⟩
    | exact .inr ⟨_, _, rfl, rfl, rfl⟩
    | exact .inl rfl

private theorem sign?_div (u v : UnpackedFloat) :
    sign? (.div .binary64 u v) = none ∨ ∃ a b, sign? u = some a ∧ sign? v = some b ∧
      sign? (.div .binary64 u v) = some (a / b) := by
  cases u <;> cases v <;> first
    | exact .inr ⟨_, _, rfl, rfl, sign?_roundWithAccuracy ..⟩
    | exact .inr ⟨_, _, rfl, rfl, rfl⟩
    | exact .inl rfl

private theorem sign?_of_not_le_zero {x : Float} (above : ¬ x ≤ 0.0) :
    sign? x.toModel.unpack ≠ some .negative := by
  intro negative
  exact above (le_zero_iff_unpack.mpr (le_zero_of_negative negative))

private theorem eq_positive {sign : UnpackedFloat.Sign} (other : some sign ≠ some .negative) :
    sign = .positive := by
  cases sign with
  | negative => exact absurd rfl other
  | positive => rfl

private theorem unsigned_of_signs {u v w : UnpackedFloat}
    {combined : UnpackedFloat.Sign → UnpackedFloat.Sign → UnpackedFloat.Sign}
    (keeps : combined .positive .positive = .positive)
    (signs : sign? w = none ∨
      ∃ a b, sign? u = some a ∧ sign? v = some b ∧ sign? w = some (combined a b))
    (first : sign? u ≠ some .negative) (second : sign? v ≠ some .negative) :
    sign? w ≠ some .negative := by
  rcases signs with noNumber | ⟨a, b, left, right, combines⟩
  · rw [noNumber]
    exact nofun
  · rw [left] at first
    rw [right] at second
    rw [combines, eq_positive first, eq_positive second, keeps]
    exact nofun

theorem not_mul_lt_zero {x y : Float} (first : ¬ x ≤ 0.0) (second : ¬ y ≤ 0.0) :
    ¬ x * y < 0.0 := by
  have unsigned := unsigned_of_signs rfl (sign?_mul x.toModel.unpack y.toModel.unpack)
    (sign?_of_not_le_zero first) (sign?_of_not_le_zero second)
  rw [← sign?_pack] at unsigned
  rw [lt_zero_iff_unpack, Bool.not_eq_true]
  exact (not_below unsigned).1

theorem not_div_le {x y : Float} (first : ¬ x ≤ 0.0) (second : ¬ y ≤ 0.0) :
    ¬ x / y ≤ -1024.0 := by
  have unsigned := unsigned_of_signs rfl (sign?_div x.toModel.unpack y.toModel.unpack)
    (sign?_of_not_le_zero first) (sign?_of_not_le_zero second)
  rw [← sign?_pack] at unsigned
  rw [le_iff_unpack, Bool.not_eq_true]
  exact (not_below unsigned).2 (2 ^ 52) (-42) (by decide)

end Sign

section Range

/-- The midpoint between the largest finite number and the next power of two. -/
def overflowThreshold : Nat := twoTo 1024 - twoTo 970

theorem overflowThreshold_le : overflowThreshold ≤ tenTo 1024 :=
  Nat.le_trans (Nat.sub_le _ _) (twoTo_le_tenTo 1024)

/-- A rounded quotient stays below an even number just if the quotient does by more than half. -/
theorem roundHalfEven_lt_iff (num : Nat) {den : Nat} (positive : 0 < den) (half : Nat) :
    roundHalfEven num den < 2 * half ↔ 2 * num + den < 4 * half * den := by
  have parts : den * (num / den) + num % den = num := Nat.div_add_mod num den
  have rest : num % den < den := Nat.mod_lt num positive
  unfold roundHalfEven
  generalize num / den = q at parts ⊢
  generalize num % den = r at parts rest ⊢
  subst parts
  dsimp only
  rcases Nat.lt_trichotomy (q + 1) (2 * half) with below | last | above
  · have : den * (q + 2) ≤ den * (2 * half) := Nat.mul_le_mul_left den below
    grind
  · have : den * (q + 1) = den * (2 * half) := congrArg (den * ·) last
    grind
  · have : den * (2 * half) ≤ den * q := Nat.mul_le_mul_left den (Nat.le_of_lt_succ above)
    grind

theorem binaryExponent_one {n : Nat} (positive : 0 < n) : binaryExponent n 1 = n.log2 := by
  have reached : twoTo n.log2 ≤ n := Nat.log2_self_le (Nat.ne_of_gt positive)
  simp [binaryExponent, reached, show Nat.log2 1 = 0 by decide]

theorem nearestBits_one {n : Nat} (positive : 0 < n) :
    nearestBits n 1 = (n.log2 + 1022) * twoTo 52 +
      roundHalfEven (n * twoTo (52 - n.log2)) (twoTo (n.log2 - 52)) := by
  unfold nearestBits
  rw [if_neg (Nat.ne_of_gt positive), binaryExponent_one positive,
    max_eq_left (by omega : (-1074 : Int) ≤ n.log2 - 52)]
  dsimp only
  have field : ((n.log2 : Int) - 52 + 1074).toNat = n.log2 + 1022 := by omega
  have scale : ((n.log2 : Int) - 52).toNat = n.log2 - 52 := by omega
  have lift : (-((n.log2 : Int) - 52)).toNat = 52 - n.log2 := by omega
  rw [field, scale, lift]
  congr 1
  split
  · rw [(by omega : 52 - n.log2 = 0), Nat.one_mul]
    simp [twoTo]
  · rw [(by omega : n.log2 - 52 = 0)]
    rfl

theorem nearestBits_pos {n : Nat} (positive : 0 < n) : 0 < nearestBits n 1 := by
  rw [nearestBits_one positive]
  have := twoTo_pos 52
  positivity

private theorem scaled_bounds {n : Nat} (positive : 0 < n) :
    twoTo 52 * twoTo (n.log2 - 52) ≤ n * twoTo (52 - n.log2) ∧
      n * twoTo (52 - n.log2) < twoTo 53 * twoTo (n.log2 - 52) := by
  have low : twoTo n.log2 ≤ n := Nat.log2_self_le (Nat.ne_of_gt positive)
  have high : n < twoTo (n.log2 + 1) := Nat.lt_log2_self
  constructor
  · calc twoTo 52 * twoTo (n.log2 - 52) = twoTo (n.log2 + (52 - n.log2)) := by
          rw [← twoTo_add, (by omega : 52 + (n.log2 - 52) = n.log2 + (52 - n.log2))]
      _ = twoTo n.log2 * twoTo (52 - n.log2) := twoTo_add _ _
      _ ≤ n * twoTo (52 - n.log2) := Nat.mul_le_mul_right _ low
  · calc n * twoTo (52 - n.log2) < twoTo (n.log2 + 1) * twoTo (52 - n.log2) :=
          Nat.mul_lt_mul_of_pos_right high (twoTo_pos _)
      _ = twoTo (n.log2 + 1 + (52 - n.log2)) := (twoTo_add _ _).symm
      _ = twoTo 53 * twoTo (n.log2 - 52) := by
        rw [← twoTo_add, (by omega : n.log2 + 1 + (52 - n.log2) = 53 + (n.log2 - 52))]

/-- The pattern of an integer is that of a finite number just below the threshold. -/
theorem nearestBits_lt_iff (n : Nat) : nearestBits n 1 < infinityBits ↔ n < overflowThreshold := by
  have unit := twoTo_pos 970
  have top : twoTo 1024 = twoTo 54 * twoTo 970 := twoTo_add 54 970
  rw [(by decide : twoTo 54 = 18014398509481984)] at top
  unfold overflowThreshold
  rcases Nat.eq_zero_or_pos n with rfl | positive
  · have : nearestBits 0 1 < infinityBits := by decide
    omega
  have low : twoTo n.log2 ≤ n := Nat.log2_self_le (Nat.ne_of_gt positive)
  have high : n < twoTo (n.log2 + 1) := Nat.lt_log2_self
  have digits := scaled_bounds positive
  have rounds := roundHalfEven_lt_iff (n * twoTo (52 - n.log2)) (twoTo_pos (n.log2 - 52))
  rw [nearestBits_one positive, (by decide : infinityBits = 2047 * twoTo 52)]
  generalize n.log2 = k at low high digits rounds ⊢
  rw [(by decide : twoTo 52 = 4503599627370496)] at digits ⊢
  rw [(by decide : twoTo 53 = 9007199254740992)] at digits
  rcases Nat.lt_trichotomy k 1023 with below | rfl | above
  · have fits : n < twoTo 1023 := Nat.lt_of_lt_of_le high (twoTo_le below)
    have half : twoTo 1024 = twoTo 1023 * twoTo 1 := twoTo_add 1023 1
    rw [(by decide : twoTo 1 = 2)] at half
    have := rounds (3 * 2251799813685248)
    omega
  -- Only here the rounding decides: the last digit may carry into the pattern of infinity.
  · have step : twoTo 971 = twoTo 1 * twoTo 970 := twoTo_add 1 970
    rw [(by decide : twoTo 1 = 2)] at step
    simp only [(by decide : twoTo (52 - 1023) = 1), Nat.mul_one, Nat.reduceSub, step]
      at rounds ⊢
    have := rounds 4503599627370496
    omega
  · have : twoTo 1024 ≤ n := Nat.le_trans (twoTo_le above) low
    have := rounds 2251799813685248
    omega

theorem overflowThreshold_pos : 0 < overflowThreshold :=
  (nearestBits_lt_iff 0).mp (by decide)

theorem ofInt?_eq_none_iff {n : Int} : ofInt? n = none ↔ overflowThreshold ≤ n.natAbs := by
  rw [← Nat.not_lt, ← nearestBits_lt_iff]
  simp [ofInt?, ofRatio?]

theorem le_zero_iff_of_ofInt? {n : Int} {x : Float} (nearest : ofInt? n = some x) :
    x ≤ 0.0 ↔ n ≤ 0 := by
  obtain ⟨finite, rfl⟩ : nearestBits n.natAbs 1 < infinityBits ∧
      ofMagnitude (n < 0) (nearestBits n.natAbs 1) = x := by
    simpa [ofInt?, ofRatio?] using nearest
  rcases Int.lt_trichotomy n 0 with negative | rfl | positive
  · have above := ofBits_pos (nearestBits_pos (Int.natAbs_pos.mpr (Int.ne_of_lt negative))) finite
    simp only [ofMagnitude, negative, decide_true, if_true]
    exact iff_of_true (neg_le_zero above) (Int.le_of_lt negative)
  · decide
  · have above := ofBits_pos (nearestBits_pos (Int.natAbs_pos.mpr (Int.ne_of_gt positive))) finite
    simp only [ofMagnitude, Int.not_lt.mpr (Int.le_of_lt positive), decide_false,
      Bool.false_eq_true, if_false]
    exact iff_of_false (zero_lt_float_iff.mp above).1 (Int.not_le.mpr positive)

theorem parts_bounds {x : Float} {negative : Bool} {mantissa : Nat} {exponent : Int}
    (finite : parts x = .finite negative mantissa exponent) :
    mantissa < 2 * twoTo 52 ∧ exponent ≤ 971 := by
  have fraction := Nat.mod_lt x.toBits.toNat (twoTo_pos 52)
  have field := Nat.mod_lt (x.toBits.toNat / twoTo 52) (by decide : 0 < 2048)
  unfold parts at finite
  dsimp only at finite
  split at finite
  · split at finite <;> cases finite
  · split at finite
    · cases finite
      omega
    · cases finite
      omega

/-- The natural number that a scaled mantissa is, if it is one. -/
def scaled? (mantissa : Nat) (exponent : Int) : Option Nat :=
  if 0 ≤ exponent then some (mantissa * twoTo exponent.toNat)
  else if mantissa % twoTo (-exponent).toNat = 0 then some (mantissa / twoTo (-exponent).toNat)
  else none

theorem integer?_of_finite {x : Float} {negative : Bool} {mantissa : Nat} {exponent : Int}
    (finite : parts x = .finite negative mantissa exponent) :
    integer? x = (scaled? mantissa exponent).map (signed negative) := by
  unfold integer?
  rw [finite]
  show Option.map _ (scaled? mantissa exponent >>= fun n => pure (n : Int)) = _
  cases negative <;> cases scaled? mantissa exponent <;> rfl

theorem natAbs_le_of_integer? {x : Float} {n : Int} (same : integer? x = some n) :
    n.natAbs ≤ (2 * twoTo 52 - 1) * twoTo 971 := by
  cases finite : parts x with
  | finite negative mantissa exponent =>
    obtain ⟨digits, scale⟩ := parts_bounds finite
    rw [integer?_of_finite finite] at same
    obtain ⟨magnitude, found, rfl⟩ := Option.map_eq_some_iff.mp same
    have bound : magnitude ≤ mantissa * twoTo 971 := by
      unfold scaled? at found
      split at found
      · cases found
        exact Nat.mul_le_mul_left _ (twoTo_le (Int.toNat_le.mpr scale))
      · split at found
        · cases found
          exact Nat.le_trans (Nat.div_le_self _ _) (Nat.le_mul_of_pos_right _ (twoTo_pos 971))
        · cases found
    calc (signed negative magnitude).natAbs = magnitude := natAbs_signed negative magnitude
      _ ≤ mantissa * twoTo 971 := bound
      _ ≤ (2 * twoTo 52 - 1) * twoTo 971 := Nat.mul_le_mul_right _ (Nat.le_sub_one_of_lt digits)
  | infinite negative => simp [integer?, finite] at same
  | nan => simp [integer?, finite] at same

theorem ofInt?_ne_none_of_integer? {x : Float} {n : Int} (same : integer? x = some n) :
    ofInt? n ≠ none := by
  rw [ne_eq, ofInt?_eq_none_iff, Nat.not_le, overflowThreshold]
  have top : twoTo 1024 = twoTo 54 * twoTo 970 := twoTo_add 54 970
  have step : twoTo 971 = twoTo 1 * twoTo 970 := twoTo_add 1 970
  have unit := twoTo_pos 970
  have bound := natAbs_le_of_integer? same
  rw [(by decide : twoTo 54 = 18014398509481984)] at top
  rw [(by decide : twoTo 1 = 2)] at step
  rw [(by decide : 2 * twoTo 52 - 1 = 9007199254740991)] at bound
  omega

end Range

end Binary64

end StepPipeline.Numeral
