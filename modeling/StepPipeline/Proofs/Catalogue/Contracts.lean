import Mathlib.Data.Finset.Card
import Mathlib.Order.Monotone.Basic
import StepPipeline.Catalogue.Reflection
import StepPipeline.Proofs.Catalogue.Roots
import StepPipeline.Proofs.Pipeline.Resolution

/-!
Which contracts classes fulfil. Fulfilment is the least relation that contains inheritance and is
closed under the classes below a contract. A class fulfils what its ancestors fulfil, and while
classes keep their ancestors and registrations stay, what is fulfilled stays fulfilled.
-/

set_option autoImplicit false
set_option relaxedAutoImplicit false

namespace StepPipeline.Catalogue

namespace ClassTable

variable {table before after : ClassTable} {id base derived : ClassId} {info : ClassInfo}

/-! ### Fulfilment as a closure -/

/-- A class fulfils what it inherits from, and a contract if it fulfils a class below that. -/
inductive Fulfils (table : ClassTable) (derived : ClassId) : ClassId → Prop
  | inherited {base : ClassId} : table.inherits derived base = true → Fulfils table derived base
  | through {base middle : ClassId} : (table.info base).contractual = true →
      middle ∈ table.below base → Fulfils table derived middle → Fulfils table derived base

theorem fulfilsWithin_succ_iff {distance : Nat} :
    table.fulfilsWithin (distance + 1) derived base = true ↔
      table.inherits derived base = true ∨ ((table.info base).contractual = true ∧
        ∃ middle ∈ table.below base, table.fulfilsWithin distance derived middle = true) := by
  simp only [fulfilsWithin, Bool.or_eq_true, Bool.and_eq_true, List.any_eq_true]

theorem fulfilsWithin_succ {distance : Nat}
    (fulfilled : table.fulfilsWithin distance derived base = true) :
    table.fulfilsWithin (distance + 1) derived base = true := by
  induction distance generalizing base with
  | zero => exact fulfilsWithin_succ_iff.mpr (.inl fulfilled)
  | succ distance ih =>
    apply fulfilsWithin_succ_iff.mpr
    rcases fulfilsWithin_succ_iff.mp fulfilled with
      inherited | ⟨contractual, middle, below, further⟩
    · exact .inl inherited
    · exact .inr ⟨contractual, middle, below, ih further⟩

theorem lt_next_of_contractual (contractual : (table.info id).contractual = true) :
    id < table.next := by
  apply Nat.lt_of_not_le
  intro beyond
  rw [info_of_next_le beyond] at contractual
  cases contractual

theorem WellFormed.lt_next_of_inherits (h : table.WellFormed)
    (inherited : table.inherits derived base = true) : base < table.next := by
  have member : base ∈ (table.info derived).order := by simpa [inherits] using inherited
  exact h.lt_next (lt_next_of_mem_order member) member

theorem WellFormed.lt_next_of_fulfilsWithin (h : table.WellFormed) {distance : Nat}
    (fulfilled : table.fulfilsWithin distance derived base = true) : base < table.next := by
  cases distance with
  | zero => exact h.lt_next_of_inherits fulfilled
  | succ distance =>
    rcases fulfilsWithin_succ_iff.mp fulfilled with inherited | ⟨contractual, _⟩
    · exact h.lt_next_of_inherits inherited
    · exact lt_next_of_contractual contractual

/-- What a class fulfils over at most the given number of intermediate classes. -/
def reached (table : ClassTable) (derived : ClassId) (distance : Nat) : Finset ClassId :=
  (Finset.range table.next).filter fun base => table.fulfilsWithin distance derived base = true

theorem WellFormed.mem_reached_iff (h : table.WellFormed) {distance : Nat} :
    base ∈ table.reached derived distance ↔
      table.fulfilsWithin distance derived base = true := by
  rw [reached, Finset.mem_filter, Finset.mem_range, and_iff_right_iff_imp]
  exact h.lt_next_of_fulfilsWithin

theorem reached_mono (table : ClassTable) (derived : ClassId) :
    Monotone (table.reached derived) := by
  apply monotone_nat_of_le_succ
  intro distance
  apply Finset.monotone_filter_right
  intro base _ fulfilled
  exact fulfilsWithin_succ fulfilled

theorem card_reached_le (table : ClassTable) (derived : ClassId) (distance : Nat) :
    (table.reached derived distance).card ≤ table.next := by
  have filtered := Finset.card_filter_le (Finset.range table.next)
    fun base => table.fulfilsWithin distance derived base = true
  rwa [Finset.card_range] at filtered

theorem WellFormed.reached_stays (h : table.WellFormed) {distance : Nat}
    (same : table.reached derived (distance + 1) = table.reached derived distance) :
    table.reached derived (distance + 2) = table.reached derived (distance + 1) := by
  ext base
  have at_middle (middle : ClassId) : table.fulfilsWithin (distance + 1) derived middle = true ↔
      table.fulfilsWithin distance derived middle = true := by
    rw [← h.mem_reached_iff, ← h.mem_reached_iff, same]
  rw [h.mem_reached_iff, h.mem_reached_iff, fulfilsWithin_succ_iff, fulfilsWithin_succ_iff]
  simp only [at_middle]

/-- There are no more intermediate classes than there are classes. -/
theorem WellFormed.reached_succ_next (h : table.WellFormed) (derived : ClassId) :
    table.reached derived (table.next + 1) = table.reached derived table.next := by
  have grows := table.reached_mono derived
  have card_grows : Monotone fun distance => (table.reached derived distance).card :=
    fun _ _ le => Finset.card_le_card (grows le)
  have stays (distance : Nat)
      (same : (table.reached derived distance).card = (table.reached derived (distance + 1)).card) :
      (table.reached derived (distance + 1)).card =
        (table.reached derived (distance + 2)).card := by
    have equal := Finset.eq_of_subset_of_card_le (grows (Nat.le_succ distance)) same.ge
    rw [h.reached_stays equal.symm]
  -- a number that grows until it stays, and never exceeds `next`, stays from `next` on
  have settled := Nat.stabilises_of_monotone card_grows (table.card_reached_le derived) stays
    (Nat.le_succ table.next)
  exact (Finset.eq_of_subset_of_card_le (grows (Nat.le_succ table.next)) settled.le).symm

theorem WellFormed.fulfils_iff (h : table.WellFormed) :
    table.fulfils derived base = true ↔ table.Fulfils derived base := by
  constructor
  · intro fulfilled
    unfold fulfils at fulfilled
    generalize table.next = distance at fulfilled
    induction distance generalizing base with
    | zero => exact .inherited fulfilled
    | succ distance ih =>
      rcases fulfilsWithin_succ_iff.mp fulfilled with inherited | ⟨contractual, _, below, further⟩
      · exact .inherited inherited
      · exact .through contractual below (ih further)
  · intro fulfilled
    unfold fulfils
    -- a distance of one more than there are classes leaves room for the last step of the closure
    rw [← h.mem_reached_iff, ← h.reached_succ_next, h.mem_reached_iff]
    induction fulfilled with
    | inherited inherited => exact fulfilsWithin_succ_iff.mpr (.inl inherited)
    | @through base middle contractual below _ ih =>
      rw [← h.mem_reached_iff, h.reached_succ_next, h.mem_reached_iff] at ih
      exact fulfilsWithin_succ_iff.mpr (.inr ⟨contractual, middle, below, ih⟩)

theorem WellFormed.fulfils_eq_true_iff (h : table.WellFormed) :
    table.fulfils derived base = true ↔
      table.inherits derived base = true ∨ ((table.info base).contractual = true ∧
        ∃ middle ∈ table.below base, table.fulfils derived middle = true) := by
  simp only [h.fulfils_iff]
  constructor
  · intro fulfilled
    cases fulfilled with
    | inherited inherited => exact .inl inherited
    | through contractual below further => exact .inr ⟨contractual, _, below, further⟩
  · rintro (inherited | ⟨contractual, middle, below, further⟩)
    · exact .inherited inherited
    · exact .through contractual below further

/-! ### Tables that widen -/

/-- A table widens if its classes keep what they inherit from and its registrations stay. -/
structure Widens (before after : ClassTable) : Prop where
  next_le : before.next ≤ after.next
  order : ∀ id < before.next, (after.info id).order = (before.info id).order
  bases : ∀ id < before.next, (after.info id).bases = (before.info id).bases
  contractual : ∀ id < before.next, (after.info id).contractual = (before.info id).contractual
  registered : before.registered ⊆ after.registered

namespace Widens

variable {middle : ClassTable}

theorem refl (table : ClassTable) : table.Widens table :=
  ⟨Nat.le_refl _, fun _ _ => rfl, fun _ _ => rfl, fun _ _ => rfl, List.Subset.refl _⟩

theorem trans (h : before.Widens middle) (h' : middle.Widens after) : before.Widens after where
  next_le := Nat.le_trans h.next_le h'.next_le
  order id old := (h'.order id (Nat.lt_of_lt_of_le old h.next_le)).trans (h.order id old)
  bases id old := (h'.bases id (Nat.lt_of_lt_of_le old h.next_le)).trans (h.bases id old)
  contractual id old :=
    (h'.contractual id (Nat.lt_of_lt_of_le old h.next_le)).trans (h.contractual id old)
  registered := List.Subset.trans h.registered h'.registered

theorem of_grows (grown : before.Grows after) (registered : before.registered ⊆ after.registered) :
    before.Widens after := by
  refine ⟨grown.next_le, ?_, ?_, ?_, registered⟩ <;>
  · intro id old
    obtain ⟨variants, same⟩ := grown.kept id old
    rw [same]

theorem add (table : ClassTable) (info : ClassInfo) : table.Widens (table.add info) :=
  of_grows ((Grows.refl table).add info) (List.Subset.refl _)

theorem update {change : ClassInfo → ClassInfo}
    (order : (change (table.info id)).order = (table.info id).order)
    (bases : (change (table.info id)).bases = (table.info id).bases)
    (contractual : (change (table.info id)).contractual = (table.info id).contractual) :
    table.Widens (table.update id change) := by
  have changed (other : ClassId) (old : other < table.next) :
      (table.update id change).info other = table.info other ∨
        other = id ∧ (table.update id change).info other = change (table.info id) := by
    by_cases same : other = id
    · subst same
      exact .inr ⟨rfl, info_update_same old⟩
    · exact .inl (info_update_of_ne same)
  refine ⟨by rw [next_update], ?_, ?_, ?_, List.Subset.refl _⟩
  · intro other old
    rcases changed other old with same | ⟨rfl, same⟩
    · rw [same]
    · rw [same, order]
  · intro other old
    rcases changed other old with same | ⟨rfl, same⟩
    · rw [same]
    · rw [same, bases]
  · intro other old
    rcases changed other old with same | ⟨rfl, same⟩
    · rw [same]
    · rw [same, contractual]

theorem inherits (widens : before.Widens after) (inherited : before.inherits derived base = true) :
    after.inherits derived base = true := by
  have member : base ∈ (before.info derived).order := by
    simpa [ClassTable.inherits] using inherited
  simpa [ClassTable.inherits, widens.order derived (lt_next_of_mem_order member)] using member

theorem mem_below (widens : before.Widens after) {middle : ClassId}
    (below : middle ∈ before.below base) : middle ∈ after.below base := by
  rw [ClassTable.below, List.mem_append] at below ⊢
  rcases below with registered | direct
  · refine .inl ?_
    obtain ⟨entry, member, rfl⟩ := List.mem_map.mp registered
    obtain ⟨there, same⟩ := List.mem_filter.mp member
    exact List.mem_map_of_mem (List.mem_filter.mpr ⟨widens.registered there, same⟩)
  · refine .inr ?_
    obtain ⟨old, is_base⟩ := List.mem_filter.mp direct
    have old := List.mem_range.mp old
    rw [List.mem_filter, List.mem_range, widens.bases middle old]
    exact ⟨Nat.lt_of_lt_of_le old widens.next_le, is_base⟩

theorem fulfils (widens : before.Widens after) (fulfilled : before.Fulfils derived base) :
    after.Fulfils derived base := by
  induction fulfilled with
  | inherited inherited => exact .inherited (widens.inherits inherited)
  | through contractual below _ ih =>
    have old := lt_next_of_contractual contractual
    refine .through ?_ (widens.mem_below below) ih
    rw [widens.contractual _ old]
    exact contractual

end Widens

theorem Fulfils.of_inherits (h : table.WellFormed) {middle : ClassId}
    (inherited : table.inherits derived middle = true) (fulfilled : table.Fulfils middle base) :
    table.Fulfils derived base := by
  induction fulfilled with
  | inherited further =>
    simp only [inherits, List.contains_iff_mem] at inherited further
    have old := lt_next_of_mem_order inherited
    refine .inherited ?_
    simpa only [inherits, List.contains_iff_mem] using h.mem_trans old inherited further
  | through contractual below _ ih => exact .through contractual below ih

theorem WellFormed.inherits_self (h : table.WellFormed) (old : id < table.next) :
    table.inherits id id = true := by
  have member := (h.ordered id old).mem_iff.mpr (.inl rfl)
  simpa only [inherits, List.contains_iff_mem] using member

/-! ### Contracts and shapes -/

theorem mem_contracts_iff {shape : Shape} :
    shape ∈ table.contracts id ↔ table.fulfils id (contractId shape) = true := by
  have listed : shape ∈ Shape.all := by cases shape <;> decide
  rw [contracts, List.mem_filter, and_iff_right listed]

theorem Widens.contracts_subset (widens : before.Widens after) (h : before.WellFormed)
    (h' : after.WellFormed) (inherited : after.inherits derived base = true) :
    before.contracts base ⊆ after.contracts derived := by
  intro shape member
  have fulfilled := h.fulfils_iff.mp (mem_contracts_iff.mp member)
  have inherits_it := Fulfils.of_inherits h' inherited (widens.fulfils fulfilled)
  exact mem_contracts_iff.mpr (h'.fulfils_iff.mpr inherits_it)

/-- A class has a shape, and no other one alone. -/
def Commits (table : ClassTable) (id : ClassId) (shape : Shape) : Prop :=
  table.shapeOf id = .ok shape ∨
    ∃ shapes, 2 ≤ shapes.length ∧ shape ∈ shapes ∧
      table.shapeOf id = .error (.several (table.info id).name shapes)

theorem commits_of_mem_contracts {shape : Shape} (member : shape ∈ table.contracts id) :
    table.Commits id shape := by
  unfold Commits shapeOf
  match fulfilled : table.contracts id with
  | [] =>
    rw [fulfilled] at member
    cases member
  | [only] =>
    rw [fulfilled] at member
    obtain rfl := List.mem_singleton.mp member
    exact .inl rfl
  | first :: second :: others =>
    refine .inr ⟨first :: second :: others, ?_, ?_, rfl⟩
    · simp
    · rwa [fulfilled] at member

theorem mem_contracts_of_shapeOf {shape : Shape} (single : table.shapeOf id = .ok shape) :
    shape ∈ table.contracts id := by
  rw [Facts.ofContracts_eq_ok_iff.mp single]
  exact List.mem_singleton.mpr rfl

end ClassTable

end StepPipeline.Catalogue
