import StepPipeline.World.Measure

/-!
The peak of a grid with cells. It is found in one pass over the places in their order, which keeps
the best place seen so far: no place seen beats it, and it beats all places before it. Main result:
`Grid.peak?_eq_some`.
-/

set_option autoImplicit false
set_option relaxedAutoImplicit false

namespace StepPipeline.Grid

variable {height width : Nat} {α : Type} {beats : α → α → Bool} {grid : Grid height width α}

def valueAt (grid : Grid height width α) (i : Fin (height * width)) : α :=
  grid.get (row i) (column i)

theorem valueAt_place (grid : Grid height width α) (y : Fin height) (x : Fin width) :
    grid.valueAt (place y x) = grid.get y x := by
  rw [valueAt, row_place, column_place]

theorem better_eq (beats : α → α → Bool) (grid : Grid height width α)
    (best new : Fin (height * width)) :
    grid.better beats best new =
      if beats (grid.valueAt new) (grid.valueAt best) then new else best := by
  simp only [better, valueAt, get, place_row_column]

/-- Of some places in their order one is the first that no other beats. -/
structure Leads (beats : α → α → Bool) (grid : Grid height width α)
    (seen : List (Fin (height * width))) (best : Fin (height * width)) : Prop where
  among : best ∈ seen
  unbeaten : ∀ i ∈ seen, beats (grid.valueAt i) (grid.valueAt best) = false
  first : ∀ i ∈ seen, i < best → beats (grid.valueAt best) (grid.valueAt i) = true

/-- Values have ranks: one beats another just if its rank is higher. -/
structure Ranks (beats : α → α → Bool) : Prop where
  asymm : ∀ x y, beats x y = true → beats y x = false
  trans : ∀ x y z, beats x y = false → beats y z = false → beats x z = false

theorem Ranks.irrefl (ranks : Ranks beats) (x : α) : beats x x = false := by
  cases beaten : beats x x with
  | false => rfl
  | true => exact beaten.symm.trans (ranks.asymm x x beaten)

variable (ranks : Ranks beats) {seen rest : List (Fin (height * width))}
  {best new : Fin (height * width)}

include ranks

theorem Leads.single (only : Fin (height * width)) : Leads beats grid [only] only := by
  refine ⟨List.mem_cons_self, fun i among => ?_, fun i among before => ?_⟩
  · obtain rfl := List.mem_singleton.mp among
    exact ranks.irrefl _
  · obtain rfl := List.mem_singleton.mp among
    exact absurd before (Nat.lt_irrefl _)

theorem Leads.better (leads : Leads beats grid seen best) (later : ∀ i ∈ seen, i < new) :
    Leads beats grid (seen ++ [new]) (grid.better beats best new) := by
  rw [better_eq]
  cases wins : beats (grid.valueAt new) (grid.valueAt best) with
  | true =>
    have loses := ranks.asymm _ _ wins
    rw [if_pos rfl]
    refine ⟨List.mem_append_right _ List.mem_cons_self, fun i among => ?_, fun i among before => ?_⟩
    · rcases List.mem_append.mp among with old | last
      · exact ranks.trans _ _ _ (leads.unbeaten i old) loses
      · obtain rfl := List.mem_singleton.mp last
        exact ranks.irrefl _
    · rcases List.mem_append.mp among with old | last
      · cases beaten : beats (grid.valueAt new) (grid.valueAt i) with
        | true => rfl
        | false =>
          -- then no better than a place that is no better than the best so far
          exact (ranks.trans _ _ _ beaten (leads.unbeaten i old)).symm.trans wins
      · obtain rfl := List.mem_singleton.mp last
        exact absurd before (Nat.lt_irrefl _)
  | false =>
    rw [if_neg Bool.false_ne_true]
    refine ⟨List.mem_append_left _ leads.among, fun i among => ?_, fun i among before => ?_⟩
    · rcases List.mem_append.mp among with old | last
      · exact leads.unbeaten i old
      · obtain rfl := List.mem_singleton.mp last
        exact wins
    · rcases List.mem_append.mp among with old | last
      · exact leads.first i old before
      · obtain rfl := List.mem_singleton.mp last
        exact absurd before (Nat.lt_asymm (later best leads.among))

theorem Leads.foldl (leads : Leads beats grid seen best)
    (sorted : (seen ++ rest).Pairwise (· < ·)) :
    Leads beats grid (seen ++ rest) (rest.foldl (grid.better beats) best) := by
  induction rest generalizing seen best with
  | nil =>
    rw [List.append_nil]
    exact leads
  | cons next rest ih =>
    have later : ∀ i ∈ seen, i < next := fun i old =>
      (List.pairwise_append.mp sorted).2.2 i old next List.mem_cons_self
    rw [List.append_cons] at sorted ⊢
    exact ih (leads.better ranks later) sorted

theorem peakPlace?_eq_some (grid : Grid height width α) (tall : 0 < height) (wide : 0 < width) :
    ∃ best, grid.peakPlace? beats = some best ∧
      Leads beats grid (List.finRange (height * width)) best := by
  have sorted := List.pairwise_lt_finRange (height * width)
  unfold peakPlace?
  cases places : List.finRange (height * width) with
  | nil =>
    have none : height * width = 0 := by simpa using congrArg List.length places
    have some : 0 < height * width := Nat.mul_pos tall wide
    omega
  | cons first rest =>
    have leads : Leads beats grid [first] first := .single ranks first
    rw [places] at sorted
    exact ⟨_, rfl, leads.foldl ranks sorted⟩

/-- A grid with cells has a peak: a cell that no cell beats, and that beats all cells before it. -/
theorem peak?_eq_some (grid : Grid height width α) (tall : 0 < height) (wide : 0 < width) :
    ∃ y x, grid.peak? beats = some (grid.get y x, y, x) ∧
      (∀ y' x', beats (grid.get y' x') (grid.get y x) = false) ∧
      ∀ y' x', place y' x' < place y x → beats (grid.get y x) (grid.get y' x') = true := by
  obtain ⟨best, found, leads⟩ := peakPlace?_eq_some ranks grid tall wide
  refine ⟨row best, column best, by rw [peak?, found]; rfl, fun y x => ?_, fun y x before => ?_⟩
  · rw [← valueAt_place]
    exact leads.unbeaten _ (List.mem_finRange _)
  · rw [place_row_column] at before
    rw [← valueAt_place grid y x]
    exact leads.first _ (List.mem_finRange _) before

end StepPipeline.Grid
