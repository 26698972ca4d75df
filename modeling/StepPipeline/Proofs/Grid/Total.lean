import Mathlib.Algebra.BigOperators.Fin
import Mathlib.Algebra.BigOperators.Ring.Finset
import Mathlib.Tactic.Abel
import StepPipeline.World.Measure

/-!
Totals in exact arithmetic. Where addition is associative and commutative the order in which the
cells are added does not matter: the total is the sum over the rows and columns. Main results:
`Grid.total_eq_sum`, `Grid.sum_grown`.
-/

set_option autoImplicit false
set_option relaxedAutoImplicit false

namespace StepPipeline.Grid

variable {height width : Nat} {α : Type}

def places (height width : Nat) : Fin height × Fin width ≃ Fin (height * width) where
  toFun cell := place cell.1 cell.2
  invFun i := (row i, column i)
  left_inv cell := Prod.ext (row_place cell.1 cell.2) (column_place cell.1 cell.2)
  right_inv i := place_row_column i

section Sums

variable [AddCommMonoid α]

theorem foldl_add (first : α) (cells : List α) :
    cells.foldl (· + ·) first = first + cells.sum := by
  induction cells generalizing first with
  | nil => rw [List.foldl_nil, List.sum_nil, add_zero]
  | cons cell rest ih => rw [List.foldl_cons, ih, List.sum_cons, add_assoc]

theorem Columns.sum_add (s t : Columns α) : (s.add t).sum = s.sum + t.sum := by
  simp only [add, sum]
  abel

theorem Columns.sum_mk (a b c d e f g h : α) :
    (⟨a, b, c, d, e, f, g, h⟩ : Columns α).sum = [a, b, c, d, e, f, g, h].sum := by
  simp only [sum, List.sum_cons, List.sum_nil]
  abel

theorem Columns.addAll_eq_sum (s : Columns α) (cells : List α) :
    s.addAll cells = s.sum + cells.sum := by
  induction s, cells using Columns.addAll.induct with
  | case1 s a b c d e f g h rest ih =>
    rw [addAll, ih, sum_add, sum_mk a b c d e f g h, add_assoc, ← List.sum_append]
    rfl
  | case2 s rest short =>
    rw [addAll, foldl_add]
    exact short

theorem shortSum_eq_sum (cells : List α) : shortSum cells = cells.sum := by
  unfold shortSum
  split
  · rw [Columns.addAll_eq_sum, Columns.sum_mk, ← List.sum_append]
    rfl
  · rfl
  · rw [foldl_add, List.sum_cons]

theorem rowSum_eq_sum (cells : List α) : rowSum cells = cells.sum := by
  induction cells using rowSum.induct with
  | case1 cells long front back =>
    rw [rowSum, if_pos long, front, back, ← List.sum_append, List.take_append_drop]
  | case2 cells short => rw [rowSum, if_neg short, shortSum_eq_sum]

theorem total_eq_sum (grid : Grid height width α) :
    grid.total = ∑ y, ∑ x, grid.get y x := by
  have listed : grid.toList = List.ofFn fun i => grid.cells[i] := by
    rw [toList, ← Vector.toList_ofFn]
    congr 1
    exact Vector.ofFn_getElem.symm
  rw [total, zero_add, rowSum_eq_sum, listed, List.sum_ofFn, ← (places height width).sum_comp,
    Fintype.sum_prod_type]
  rfl

theorem sum_grown (grid : Grid height width α) (row : Fin height) (column : Fin width)
    (amount : α) :
    ∑ y, ∑ x, (grid.set row column (grid.get row column + amount)).get y x =
      ∑ y, ∑ x, grid.get y x + amount := by
  have cell (y : Fin height) (x : Fin width) :
      (grid.set row column (grid.get row column + amount)).get y x =
        grid.get y x + if y = row then if x = column then amount else 0 else 0 := by
    rw [get_set]
    by_cases here : y = row ∧ x = column
    · obtain ⟨rfl, rfl⟩ := here
      simp only [and_self, if_true]
    · rw [if_neg here, ← ite_and, if_neg here, add_zero]
  simp only [cell, Finset.sum_add_distrib, Finset.sum_ite_irrel, Finset.sum_const_zero,
    Finset.sum_ite_eq', Finset.mem_univ, if_true]

end Sums

theorem sum_scaled [CommRing α] (grid : Grid height width α) (part : α) :
    ∑ y, ∑ x, (grid.map fun v => v * part).get y x = (∑ y, ∑ x, grid.get y x) * part := by
  simp only [get_map, ← Finset.sum_mul]

end StepPipeline.Grid
