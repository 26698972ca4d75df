/-!
Rectangular grids of cells, kept row by row. A grid is what its cells are: `get_ofFn` and `ext_get`
say that a grid and its function from rows and columns determine each other. `padded` repeats the
outermost cells once around a grid, and `window` cuts a grid of the old size out of a padded one, so
that the four neighbours of every cell are four windows; beyond an edge a cell is its own neighbour.
-/

set_option autoImplicit false

namespace StepPipeline

structure Grid (height width : Nat) (α : Type) where
  cells : Vector α (height * width)
  deriving DecidableEq, Repr

namespace Grid

variable {height width : Nat} {α β γ : Type}

/-- The place of a cell in the row order. -/
def place (y : Fin height) (x : Fin width) : Fin (height * width) :=
  ⟨y * width + x, by
    have row : (y : Nat) + 1 ≤ height := y.isLt
    have cells := Nat.mul_le_mul_right width row
    rw [Nat.add_one_mul] at cells
    omega⟩

private theorem width_pos (i : Fin (height * width)) : 0 < width :=
  Nat.pos_of_mul_pos_left (Nat.zero_lt_of_lt i.isLt)

def row (i : Fin (height * width)) : Fin height :=
  ⟨i / width, (Nat.div_lt_iff_lt_mul (width_pos i)).mpr i.isLt⟩

def column (i : Fin (height * width)) : Fin width :=
  ⟨i % width, Nat.mod_lt _ (width_pos i)⟩

theorem row_place (y : Fin height) (x : Fin width) : row (place y x) = y := by
  apply Fin.ext
  change (y * width + x) / width = y
  rw [Nat.mul_comm, Nat.mul_add_div (Nat.zero_lt_of_lt x.isLt), Nat.div_eq_of_lt x.isLt,
    Nat.add_zero]

theorem column_place (y : Fin height) (x : Fin width) : column (place y x) = x := by
  apply Fin.ext
  change (y * width + x) % width = x
  rw [Nat.mul_comm, Nat.mul_add_mod, Nat.mod_eq_of_lt x.isLt]

theorem place_row_column (i : Fin (height * width)) : place (row i) (column i) = i := by
  apply Fin.ext
  change i / width * width + i % width = i
  rw [Nat.mul_comm, Nat.div_add_mod]

def get (grid : Grid height width α) (y : Fin height) (x : Fin width) : α :=
  grid.cells[place y x]

def ofFn (f : Fin height → Fin width → α) : Grid height width α :=
  ⟨Vector.ofFn fun i => f (row i) (column i)⟩

@[simp] theorem get_ofFn (f : Fin height → Fin width → α) (y : Fin height) (x : Fin width) :
    (ofFn f).get y x = f y x := by
  simp [ofFn, get, row_place, column_place]

theorem ext_get {a b : Grid height width α} (same : ∀ y x, a.get y x = b.get y x) : a = b := by
  obtain ⟨a⟩ := a
  obtain ⟨b⟩ := b
  congr
  apply Vector.ext
  intro i bound
  have cell := same (row ⟨i, bound⟩) (column ⟨i, bound⟩)
  simpa [get, place_row_column] using cell

def fill (value : α) : Grid height width α :=
  ofFn fun _ _ => value

@[simp] theorem get_fill (value : α) (y : Fin height) (x : Fin width) :
    (fill value : Grid height width α).get y x = value :=
  get_ofFn ..

def map (f : α → β) (grid : Grid height width α) : Grid height width β :=
  ⟨grid.cells.map f⟩

@[simp] theorem get_map (f : α → β) (grid : Grid height width α) (y : Fin height)
    (x : Fin width) : (grid.map f).get y x = f (grid.get y x) := by
  simp [map, get]

def zipWith (f : α → β → γ) (a : Grid height width α) (b : Grid height width β) :
    Grid height width γ :=
  ⟨Vector.zipWith f a.cells b.cells⟩

@[simp] theorem get_zipWith (f : α → β → γ) (a : Grid height width α) (b : Grid height width β)
    (y : Fin height) (x : Fin width) :
    (zipWith f a b).get y x = f (a.get y x) (b.get y x) := by
  simp [zipWith, get]

def set (grid : Grid height width α) (y : Fin height) (x : Fin width) (value : α) :
    Grid height width α :=
  ⟨grid.cells.set (place y x) value⟩

theorem get_set (grid : Grid height width α) (y y' : Fin height) (x x' : Fin width) (value : α) :
    (grid.set y x value).get y' x' = if y' = y ∧ x' = x then value else grid.get y' x' := by
  by_cases here : y' = y ∧ x' = x
  · obtain ⟨rfl, rfl⟩ := here
    simp [set, get]
  · have other : (place y x : Nat) ≠ place y' x' := by
      intro same
      have places : place y x = place y' x' := Fin.ext same
      apply here
      constructor
      · rw [← row_place y' x', ← places, row_place]
      · rw [← column_place y' x', ← places, column_place]
    simp [set, get, here, other]

/-- The cells in the row order. -/
def toList (grid : Grid height width α) : List α :=
  grid.cells.toList

def rows (grid : Grid height width α) : List (List α) :=
  (List.finRange height).map fun y => (List.finRange width).map fun x => grid.get y x

end Grid

end StepPipeline

namespace StepPipeline.Grid

variable {height width : Nat} {α : Type}

/-- The index inside the border that a padded index repeats. -/
def inward (size : Nat) (positive : 0 < size) (i : Fin (size + 2)) : Fin size :=
  ⟨min (i - 1) (size - 1), by omega⟩

/-- A grid with its outermost cells repeated once around it. -/
def padded (grid : Grid height width α) (tall : 0 < height) (wide : 0 < width) :
    Grid (height + 2) (width + 2) α :=
  ofFn fun y x => grid.get (inward height tall y) (inward width wide x)

/-- The part of a padded grid that begins at a row and a column. -/
def window (grid : Grid (height + 2) (width + 2) α) (top left : Fin 3) : Grid height width α :=
  ofFn fun y x => grid.get ⟨top + y, by omega⟩ ⟨left + x, by omega⟩

end StepPipeline.Grid
