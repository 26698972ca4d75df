import StepPipeline.Catalogue.Declaration

/-!
What a merged order holds. Merging rows neither adds a class nor leaves one out.
-/

set_option autoImplicit false
set_option relaxedAutoImplicit false

namespace StepPipeline.Catalogue

def places (rows : List (List Nat)) : Nat :=
  rows.flatten.length

theorem mem_heads {rows : List (List Nat)} {id : Nat} :
    id ∈ heads rows ↔ ∃ row ∈ rows, row.head? = some id := by
  simp only [heads, List.mem_eraseDups, List.mem_filterMap]

theorem mem_of_mem_takeHead {chosen id : Nat} {row : List Nat} (member : id ∈ takeHead chosen row) :
    id ∈ row := by
  cases row with
  | nil => exact member
  | cons head rest =>
    simp only [takeHead] at member
    split at member
    · exact List.mem_cons_of_mem head member
    · exact member

theorem eq_or_mem_takeHead (chosen : Nat) {id : Nat} {row : List Nat} (member : id ∈ row) :
    id = chosen ∨ id ∈ takeHead chosen row := by
  cases row with
  | nil => cases member
  | cons head rest =>
    simp only [takeHead]
    split
    · rcases List.mem_cons.mp member with rfl | behind
      · exact .inl (by assumption)
      · exact .inr behind
    · exact .inr member

private theorem length_takeHead_le (chosen : Nat) (row : List Nat) :
    (takeHead chosen row).length ≤ row.length := by
  cases row with
  | nil => exact Nat.le_refl 0
  | cons head rest =>
    simp only [takeHead]
    split <;> simp

private theorem places_takeHead_le (chosen : Nat) (rows : List (List Nat)) :
    places (rows.map (takeHead chosen)) ≤ places rows := by
  induction rows with
  | nil => exact Nat.le_refl 0
  | cons row rest ih =>
    have le := length_takeHead_le chosen row
    simp only [places, List.map_cons, List.flatten_cons, List.length_append] at ih ⊢
    omega

private theorem places_takeHead_lt {chosen : Nat} {rows : List (List Nat)}
    (head : chosen ∈ heads rows) : places (rows.map (takeHead chosen)) < places rows := by
  obtain ⟨row, member, at_head⟩ := mem_heads.mp head
  induction rows with
  | nil => cases member
  | cons first rest ih =>
    have le := length_takeHead_le chosen first
    have rest_le := places_takeHead_le chosen rest
    simp only [places, List.map_cons, List.flatten_cons, List.length_append] at rest_le ⊢
    rcases List.mem_cons.mp member with rfl | behind
    · cases row with
      | nil => cases at_head
      | cons front back =>
        obtain rfl : front = chosen := by simpa using at_head
        simp only [takeHead, if_true, List.length_cons]
        omega
    · have lt := ih (mem_heads.mpr ⟨row, behind, at_head⟩) behind
      simp only [places] at lt
      omega

private theorem mem_rows_of_heads_nil {rows : List (List Nat)} (empty : heads rows = [])
    (id : Nat) :
    id ∈ [] ↔ ∃ row ∈ rows, id ∈ row := by
  refine ⟨fun impossible => absurd impossible List.not_mem_nil, ?_⟩
  rintro ⟨row, member, inside⟩
  cases row with
  | nil => cases inside
  | cons head rest =>
    have held : head ∈ heads rows := mem_heads.mpr ⟨_, member, rfl⟩
    rw [empty] at held
    cases held

private theorem mem_mergeWithin {length : Nat} {rows : List (List Nat)} {order : List Nat}
    (enough : places rows ≤ length) (merged : mergeWithin length rows = .ok order) (id : Nat) :
    id ∈ order ↔ ∃ row ∈ rows, id ∈ row := by
  induction length generalizing rows order with
  | zero =>
    obtain rfl : [] = order := by simpa [mergeWithin] using merged
    refine mem_rows_of_heads_nil (List.eq_nil_iff_forall_not_mem.mpr fun head held => ?_) id
    have used := places_takeHead_lt held
    omega
  | succ length ih =>
    unfold mergeWithin at merged
    split at merged
    · obtain rfl : [] = order := by simpa using merged
      exact mem_rows_of_heads_nil (by assumption) id
    · cases merged
    next chosen found _ =>
      have head : chosen ∈ heads rows := List.mem_of_find?_eq_some found
      rcases rest : mergeWithin length (rows.map (takeHead chosen)) with blocked | left
      · rw [rest] at merged
        cases merged
      · rw [rest] at merged
        obtain rfl : chosen :: left = order := by simpa [Except.map] using merged
        have fewer := places_takeHead_lt head
        rw [List.mem_cons, ih (by omega) rest]
        constructor
        · rintro (rfl | ⟨taken, member, inside⟩)
          · obtain ⟨row, member, at_head⟩ := mem_heads.mp head
            exact ⟨row, member, List.mem_of_head? at_head⟩
          · obtain ⟨row, held, rfl⟩ := List.mem_map.mp member
            exact ⟨row, held, mem_of_mem_takeHead inside⟩
        · rintro ⟨row, member, inside⟩
          rcases eq_or_mem_takeHead chosen inside with rfl | left
          · exact .inl rfl
          · exact .inr ⟨_, List.mem_map_of_mem member, left⟩

theorem mem_merge {rows : List (List Nat)} {order : List Nat} (merged : merge rows = .ok order)
    (id : Nat) : id ∈ order ↔ ∃ row ∈ rows, id ∈ row := by
  refine mem_mergeWithin (Nat.le_of_eq ?_) merged id
  rw [places, List.length_flatten, List.sum_eq_foldl, List.foldl_map]

end StepPipeline.Catalogue
