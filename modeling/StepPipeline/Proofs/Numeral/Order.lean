import StepPipeline.Proofs.Numeral.Binary64

/-!
The order of the floating-point numbers. Each number has a rank, a row of three integers, and
numbers compare as their ranks do: first by their class and sign, then by exponent and mantissa.
The number that is none has the highest rank, although it compares with nothing. Main results:
`lt_iff_rank_lt`, `le_iff_rank_le`, `beq_iff_rank_eq`.
-/

set_option autoImplicit false
set_option relaxedAutoImplicit false

namespace StepPipeline.Numeral.Binary64

open Float.Model

def unpackedRank : UnpackedFloat → ℤ ×ₗ ℤ ×ₗ ℤ
  | .infinity .negative => toLex (-2, toLex (0, 0))
  | .finite .negative mantissa exponent _ => toLex (-1, toLex (-exponent, -mantissa))
  | .zero _ => toLex (0, toLex (0, 0))
  | .finite .positive mantissa exponent _ => toLex (1, toLex (exponent, mantissa))
  | .infinity .positive => toLex (2, toLex (0, 0))
  | .notANumber => toLex (3, toLex (0, 0))

/-- The rank of a number among all numbers; zeros have one rank, whatever their sign. -/
def rank (x : Float) : ℤ ×ₗ ℤ ×ₗ ℤ :=
  unpackedRank x.toModel.unpack

private theorem compare_toLex (a b c d e f : ℤ) :
    compare (toLex (a, toLex (b, c))) (toLex (d, toLex (e, f))) =
      (compare a d).then ((compare b e).then (compare c f)) := by
  rw [Prod.Lex.compare_def, compareLex, compareOn, compareOn]
  congr 1

private theorem compare_natCast (m n : ℕ) : compare (m : ℤ) (n : ℤ) = compare m n := by
  have same := Nat.strictMono_cast (α := ℤ) |>.cmp_map_eq m n
  rwa [cmp_eq_compare, cmp_eq_compare] at same

private theorem compare_neg (a b : ℤ) : compare (-a) (-b) = (compare a b).swap := by
  have antitone : StrictAnti (fun n : ℤ => -n) := fun _ _ => neg_lt_neg
  have reversed := antitone.cmp_map_eq a b
  rw [cmp_eq_compare, cmp_eq_compare] at reversed
  rw [reversed, Int.compare_swap]

private theorem compare_eq {u v : UnpackedFloat} (left : u.isNaN = false)
    (right : v.isNaN = false) :
    u.compare v = some (compare (unpackedRank u) (unpackedRank v)) := by
  cases u with
  | notANumber => cases left
  | infinity s =>
    cases v with
    | notANumber => cases right
    | infinity t => cases s <;> cases t <;> rfl
    | zero t => cases s <;> rfl
    | finite t m e positive => cases s <;> cases t <;> rfl
  | zero s =>
    cases v with
    | notANumber => cases right
    | infinity t => cases t <;> rfl
    | zero t => rfl
    | finite t m e positive => cases t <;> rfl
  | finite s m e positive =>
    cases v with
    | notANumber => cases right
    | infinity t => cases s <;> cases t <;> rfl
    | zero t => cases s <;> rfl
    | finite t n f _ =>
      -- Only numbers of one sign get as far as their exponents and mantissas.
      cases s with
      | negative =>
        cases t with
        | negative =>
          rw [unpackedRank, unpackedRank, compare_toLex, compare_neg e f, compare_neg m n,
            compare_natCast, ← Ordering.swap_then]
          rfl
        | positive => rfl
      | positive =>
        cases t with
        | negative => rfl
        | positive =>
          rw [unpackedRank, unpackedRank, compare_toLex, compare_natCast]
          rfl

section Comparison

variable {x y : Float} (left : x.isNaN = false) (right : y.isNaN = false)

include left right

theorem lt_iff_rank_lt : x < y ↔ rank x < rank y := by
  rw [lt_iff_unpack, UnpackedFloat.lt, compare_eq left right, beq_iff_eq, Option.some_inj,
    compare_lt_iff_lt]
  rfl

theorem le_iff_rank_le : x ≤ y ↔ rank x ≤ rank y := by
  rw [le_iff_unpack, UnpackedFloat.le, compare_eq left right, Option.any_some,
    Ordering.isLE_iff_ne_gt]
  exact compare_le_iff_le

theorem beq_iff_rank_eq : (x == y) = true ↔ rank x = rank y := by
  have equal : (x == y) = true ↔ x.toModel.unpack.compare y.toModel.unpack = some .eq := by
    show (_ == some Ordering.eq) = true ↔ _
    rw [beq_iff_eq]
  rw [equal, compare_eq left right, Option.some_inj, compare_eq_iff_eq]
  rfl

end Comparison

theorem rank_lt_of_isNaN {x y : Float} (number : x.isNaN = false) (none : y.isNaN = true) :
    rank x < rank y := by
  have top : y.toModel.unpack = .notANumber := UnpackedFloat.isNaN_iff.mp none
  rw [rank, rank, top]
  apply Prod.Lex.lt_iff.mpr
  left
  have number : x.toModel.unpack.isNaN = false := number
  cases unpacked : x.toModel.unpack with
  | notANumber => rw [unpacked] at number; cases number
  | infinity sign => cases sign <;> decide
  | zero sign => cases sign <;> decide
  | finite sign m e positive => cases sign <;> norm_num [unpackedRank]

theorem rank_eq_of_isNaN {x y : Float} (first : x.isNaN = true) (second : y.isNaN = true) :
    rank x = rank y := by
  have left : x.toModel.unpack = .notANumber := UnpackedFloat.isNaN_iff.mp first
  have right : y.toModel.unpack = .notANumber := UnpackedFloat.isNaN_iff.mp second
  rw [rank, rank, left, right]

end StepPipeline.Numeral.Binary64
