import StepPipeline.Grid.Memory

/-!
What patches show. Storing a grid adds cells behind those that are there, so every patch whose cells
are there shows the same grid as before, and the new patch shares no cell with it. Main results:
`Memory.Shows.mono`, `Memory.shows_store`.
-/

set_option autoImplicit false
set_option relaxedAutoImplicit false

namespace StepPipeline.Memory

variable {height width : Nat} {α : Type}

def Holds (memory : Memory α) (patch : Patch height width) : Prop :=
  ∀ y x, patch.get y x < memory.cells.size

def Lacks (memory : Memory α) (patch : Patch height width) : Prop :=
  ∀ y x, memory.cells.size ≤ patch.get y x

/-- Cells have been added behind those that were there. -/
def Grows (before after : Memory α) : Prop :=
  ∃ more, after.cells = before.cells ++ more

theorem Grows.trans {before middle after : Memory α} (h : before.Grows middle)
    (h' : middle.Grows after) : before.Grows after := by
  obtain ⟨more, added⟩ := h
  obtain ⟨further, added'⟩ := h'
  refine ⟨more ++ further, ?_⟩
  rw [added', added, Array.append_assoc]

theorem Grows.size_le {before after : Memory α} (grows : before.Grows after) :
    before.cells.size ≤ after.cells.size := by
  obtain ⟨more, added⟩ := grows
  rw [added, Array.size_append]
  omega

theorem Grows.holds {before after : Memory α} (grows : before.Grows after)
    {patch : Patch height width} (held : before.Holds patch) : after.Holds patch :=
  fun y x => Nat.lt_of_lt_of_le (held y x) grows.size_le

theorem grows_store (memory : Memory α) (grid : Grid height width α) :
    memory.Grows (memory.store grid).2 :=
  ⟨grid.cells.toArray, rfl⟩

theorem holds_slice {memory : Memory α} {patch : Patch (height + 2) (width + 2)}
    (held : memory.Holds patch) (rows columns : Slice) :
    memory.Holds (patch.slice rows columns) := by
  intro y x
  rw [Patch.slice, Grid.window, Grid.get_ofFn]
  exact held _ _

variable [OfNat α 0]

theorem get_load (memory : Memory α) (patch : Patch height width) (y : Fin height)
    (x : Fin width) :
    (memory.load patch).get y x = memory.cells.getD (patch.get y x) 0 :=
  Grid.get_map ..

theorem Grows.load_eq {before after : Memory α} (grows : before.Grows after)
    {patch : Patch height width} (held : before.Holds patch) :
    after.load patch = before.load patch := by
  obtain ⟨more, added⟩ := grows
  apply Grid.ext_get
  intro y x
  have inside : patch.get y x < before.cells.size := held y x
  rw [get_load, get_load, added, Array.getD_eq_getD_getElem?, Array.getD_eq_getD_getElem?,
    Array.getElem?_append_left inside]

theorem load_slice (memory : Memory α) (patch : Patch (height + 2) (width + 2))
    (rows columns : Slice) :
    memory.load (patch.slice rows columns) =
      (memory.load patch).window rows.offset columns.offset := by
  apply Grid.ext_get
  intro y x
  rw [get_load, Patch.slice, Grid.window, Grid.window, Grid.get_ofFn, Grid.get_ofFn, get_load]

/-- All cells of a patch are there, and they are those of a grid. -/
structure Shows (memory : Memory α) (patch : Patch height width) (grid : Grid height width α) :
    Prop where
  held : memory.Holds patch
  load : memory.load patch = grid

namespace Shows

variable {memory before after : Memory α} {patch : Patch height width}
  {grid : Grid height width α}

theorem mono (shown : before.Shows patch grid) (grows : before.Grows after) :
    after.Shows patch grid where
  held := grows.holds shown.held
  load := (grows.load_eq shown.held).trans shown.load

theorem slice {patch : Patch (height + 2) (width + 2)} {grid : Grid (height + 2) (width + 2) α}
    (shown : memory.Shows patch grid) (rows columns : Slice) :
    memory.Shows (patch.slice rows columns) (grid.window rows.offset columns.offset) where
  held := holds_slice shown.held rows columns
  load := by rw [load_slice, shown.load]

end Shows

/-- A stored grid is shown by the patch that it is given, in cells of its own. -/
theorem shows_store (memory : Memory α) (grid : Grid height width α) :
    (memory.store grid).2.Shows (memory.store grid).1 grid ∧
      memory.Lacks (memory.store grid).1 := by
  have placed (y : Fin height) (x : Fin width) :
      (memory.next height width).get y x = memory.cells.size + Grid.place y x := Grid.get_ofFn ..
  have size : grid.cells.toArray.size = height * width := grid.cells.size_toArray
  refine ⟨⟨?_, ?_⟩, ?_⟩
  · intro y x
    have inside : (Grid.place y x : Nat) < height * width := (Grid.place y x).isLt
    change (memory.next height width).get y x < (memory.cells ++ grid.cells.toArray).size
    rw [placed, Array.size_append, size]
    omega
  · apply Grid.ext_get
    intro y x
    have inside : (Grid.place y x : Nat) < grid.cells.toArray.size := by
      rw [size]
      exact (Grid.place y x).isLt
    rw [get_load]
    change (memory.cells ++ grid.cells.toArray).getD ((memory.next height width).get y x) 0 = _
    rw [placed, Array.getD_eq_getD_getElem?, Array.getElem?_append_right (Nat.le_add_right ..),
      Nat.add_sub_cancel_left, Array.getElem?_eq_getElem inside, Option.getD_some]
    rfl
  · intro y x
    change memory.cells.size ≤ (memory.next height width).get y x
    rw [placed]
    omega

end StepPipeline.Memory
