import StepPipeline.Catalogue.Initial
import StepPipeline.Proofs.Catalogue.Linearization
import StepPipeline.Proofs.Catalogue.Table

/-!
Tables that come about by declarations. In such a table a class inherits from earlier classes only,
and from all that these inherit from; roots list variants that are there. The operations on tables
keep this, and they leave the earlier classes as they are but for the variants that a root lists.
-/

set_option autoImplicit false
set_option relaxedAutoImplicit false

namespace StepPipeline.Catalogue

namespace ClassTable

/-! ### Well-formed tables -/

/-- Is a class in a catalogue without being a root? -/
def IsVariant (table : ClassTable) (id : ClassId) : Prop :=
  table.inCatalogue id = true ∧ id ≠ catalogueId ∧ (table.info id).isRoot = false

instance (table : ClassTable) (id : ClassId) : Decidable (table.IsVariant id) :=
  inferInstanceAs (Decidable (_ ∧ _ ∧ _))

/-- An order of the class at an address: first the class, then what it inherits from. -/
structure Ordered (table : ClassTable) (id : ClassId) (order : List ClassId) : Prop where
  head : order.head? = some id
  below : ∀ ancestor ∈ order.tail, ancestor < id
  closed : ∀ ancestor ∈ order.tail, ∀ other ∈ (table.info ancestor).order, other ∈ order.tail

/-- What every table that comes about by declarations keeps to. -/
structure WellFormed (table : ClassTable) : Prop where
  catalogue : catalogueId < table.next
  ordered : ∀ id < table.next, table.Ordered id (table.info id).order
  listed : ∀ root, ∀ variant ∈ (table.info root).variants,
    variant < table.next ∧ table.IsVariant variant
  roots : ∀ root, (table.info root).isRoot = true → root ≠ objectId ∧ root ≠ catalogueId ∧
    ∀ fields, (table.info root).fields = some fields → fields.slotted = false ∧ fields.slots = []

structure Admissible (table : ClassTable) (info : ClassInfo) : Prop where
  ordered : table.Ordered table.next info.order
  bases : ∀ base ∈ info.bases, base < table.next
  isRoot : info.isRoot = false
  variants : info.variants = []

variable {table before after : ClassTable} {id : ClassId} {info : ClassInfo}

theorem inCatalogue_iff : table.inCatalogue id = true ↔ catalogueId ∈ (table.info id).order := by
  simp [inCatalogue, inherits]

theorem inCatalogue_congr (same : (after.info id).order = (before.info id).order) :
    after.inCatalogue id = before.inCatalogue id := by
  simp only [inCatalogue, inherits, same]

theorem isVariant_congr (same_order : (after.info id).order = (before.info id).order)
    (same_root : (after.info id).isRoot = (before.info id).isRoot) :
    after.IsVariant id ↔ before.IsVariant id := by
  simp only [IsVariant, inCatalogue_congr same_order, same_root]

theorem Ordered.eq_cons {order : List ClassId} (h : table.Ordered id order) :
    order = id :: order.tail := by
  cases order with
  | nil => cases h.head
  | cons head tail =>
    obtain rfl : head = id := by simpa using h.head
    rfl

theorem Ordered.mem_iff {order : List ClassId} (h : table.Ordered id order) {ancestor : ClassId} :
    ancestor ∈ order ↔ ancestor = id ∨ ancestor ∈ order.tail := by
  rw [h.eq_cons]
  simp

theorem Ordered.le {order : List ClassId} (h : table.Ordered id order) {ancestor : ClassId}
    (member : ancestor ∈ order) : ancestor ≤ id := by
  rcases h.mem_iff.mp member with rfl | behind
  · exact Nat.le_refl _
  · exact Nat.le_of_lt (h.below _ behind)

theorem Ordered.congr {order : List ClassId} (h : before.Ordered id order)
    (same : ∀ ancestor ∈ order.tail, (after.info ancestor).order = (before.info ancestor).order) :
    after.Ordered id order where
  head := h.head
  below := h.below
  closed ancestor member := by
    rw [same ancestor member]
    exact h.closed ancestor member

namespace WellFormed

theorem mem_trans (h : table.WellFormed) (old : id < table.next) {ancestor other : ClassId}
    (member : ancestor ∈ (table.info id).order) (further : other ∈ (table.info ancestor).order) :
    other ∈ (table.info id).order := by
  have ordered := h.ordered id old
  rcases ordered.mem_iff.mp member with rfl | behind
  · exact further
  · exact List.mem_of_mem_tail (ordered.closed ancestor behind other further)

theorem lt_next (h : table.WellFormed) (old : id < table.next) {ancestor : ClassId}
    (member : ancestor ∈ (table.info id).order) : ancestor < table.next :=
  Nat.lt_of_le_of_lt ((h.ordered id old).le member) old

theorem add (h : table.WellFormed) (admissible : table.Admissible info) :
    (table.add info).WellFormed where
  catalogue := by
    rw [next_add]
    exact Nat.lt_succ_of_lt h.catalogue
  ordered := by
    intro id old
    have kept : ∀ ancestor < table.next,
        ((table.add info).info ancestor).order = (table.info ancestor).order := by
      intro ancestor lt
      rw [info_add_of_ne (Nat.ne_of_lt lt)]
    by_cases last : id = table.next
    · subst last
      rw [info_add_next]
      exact admissible.ordered.congr fun ancestor member =>
        kept ancestor (admissible.ordered.below ancestor member)
    · have old : id < table.next := by
        rw [next_add] at old
        exact Nat.lt_of_le_of_ne (Nat.le_of_lt_succ old) last
      rw [info_add_of_ne last]
      refine (h.ordered id old).congr fun ancestor member => ?_
      exact kept ancestor (h.lt_next old (List.mem_of_mem_tail member))
  listed := by
    intro root variant member
    by_cases last : root = table.next
    · subst last
      rw [info_add_next, admissible.variants] at member
      cases member
    · rw [info_add_of_ne last] at member
      obtain ⟨lt, is_variant⟩ := h.listed root variant member
      have same : (table.add info).info variant = table.info variant :=
        info_add_of_ne (Nat.ne_of_lt lt)
      rw [next_add]
      exact ⟨Nat.lt_succ_of_lt lt, (isVariant_congr (by rw [same]) (by rw [same])).mpr is_variant⟩
  roots := by
    intro root is_root
    by_cases last : root = table.next
    · subst last
      rw [info_add_next, admissible.isRoot] at is_root
      cases is_root
    · rw [info_add_of_ne last] at is_root ⊢
      exact h.roots root is_root

theorem update (h : table.WellFormed) (old : id < table.next) {change : ClassInfo → ClassInfo}
    (order : (change (table.info id)).order = (table.info id).order)
    (listed : ∀ variant ∈ (change (table.info id)).variants,
      variant < table.next ∧ (table.update id change).IsVariant variant)
    (roots : (change (table.info id)).isRoot = true → id ≠ objectId ∧ id ≠ catalogueId ∧
      (∀ fields, (change (table.info id)).fields = some fields →
        fields.slotted = false ∧ fields.slots = []) ∧
      ((table.info id).isRoot = true ∨ ∀ root, id ∉ (table.info root).variants)) :
    (table.update id change).WellFormed := by
  have same_order : ∀ other,
      ((table.update id change).info other).order = (table.info other).order := by
    intro other
    by_cases same : other = id
    · rw [same, info_update_same old, order]
    · rw [info_update_of_ne same]
  refine ⟨by rw [next_update]; exact h.catalogue, ?_, ?_, ?_⟩
  · intro other lt
    rw [next_update] at lt
    rw [same_order]
    exact (h.ordered other lt).congr fun ancestor _ => same_order ancestor
  · intro root variant member
    rw [next_update]
    by_cases same : root = id
    · subst same
      rw [info_update_same old] at member
      exact listed variant member
    · rw [info_update_of_ne same] at member
      obtain ⟨lt, inside, distinct, not_root⟩ := h.listed root variant member
      refine ⟨lt, by rw [inCatalogue_congr (same_order variant)]; exact inside, distinct, ?_⟩
      by_cases changed : variant = id
      · subst changed
        rw [info_update_same old, ← Bool.not_eq_true]
        intro is_root
        rcases (roots is_root).2.2.2 with was_root | unlisted
        · rw [was_root] at not_root
          cases not_root
        · exact unlisted root member
      · rw [info_update_of_ne changed]
        exact not_root
  · intro root is_root
    by_cases same : root = id
    · subst same
      rw [info_update_same old] at is_root ⊢
      obtain ⟨not_object, not_catalogue, unslotted, _⟩ := roots is_root
      exact ⟨not_object, not_catalogue, unslotted⟩
    · rw [info_update_of_ne same] at is_root ⊢
      exact h.roots root is_root

end WellFormed

/-! ### Tables that grow -/

/-- A table grows into another that keeps its classes, but for the variants that roots list. -/
structure Grows (before after : ClassTable) : Prop where
  next_le : before.next ≤ after.next
  kept : ∀ id < before.next, ∃ variants, after.info id = { before.info id with variants }

namespace Grows

variable {middle : ClassTable}

theorem refl (table : ClassTable) : table.Grows table :=
  ⟨Nat.le_refl _, fun id _ => ⟨(table.info id).variants, rfl⟩⟩

theorem trans (h : before.Grows middle) (h' : middle.Grows after) : before.Grows after where
  next_le := Nat.le_trans h.next_le h'.next_le
  kept id old := by
    obtain ⟨variants, same⟩ := h.kept id old
    obtain ⟨variants', same'⟩ := h'.kept id (Nat.lt_of_lt_of_le old h.next_le)
    exact ⟨variants', by rw [same', same]⟩

theorem order_eq (h : before.Grows after) (old : id < before.next) :
    (after.info id).order = (before.info id).order := by
  obtain ⟨variants, same⟩ := h.kept id old
  rw [same]

theorem isRoot_eq (h : before.Grows after) (old : id < before.next) :
    (after.info id).isRoot = (before.info id).isRoot := by
  obtain ⟨variants, same⟩ := h.kept id old
  rw [same]

theorem isVariant_iff (h : before.Grows after) (old : id < before.next) :
    after.IsVariant id ↔ before.IsVariant id :=
  isVariant_congr (h.order_eq old) (h.isRoot_eq old)

theorem add (h : before.Grows middle) (info : ClassInfo) : before.Grows (middle.add info) where
  next_le := by
    rw [next_add]
    exact Nat.le_succ_of_le h.next_le
  kept id old := by
    rw [info_add_of_ne (Nat.ne_of_lt (Nat.lt_of_lt_of_le old h.next_le))]
    exact h.kept id old

theorem update_later (h : before.Grows middle) (later : before.next ≤ id)
    (change : ClassInfo → ClassInfo) : before.Grows (middle.update id change) where
  next_le := by
    rw [next_update]
    exact h.next_le
  kept other old := by
    rw [info_update_of_ne (Nat.ne_of_lt (Nat.lt_of_lt_of_le old later))]
    exact h.kept other old

theorem update_variants (h : before.Grows middle) (variants : List ClassId → List ClassId) :
    before.Grows
      (middle.update id fun info => { info with variants := variants info.variants }) where
  next_le := by
    rw [next_update]
    exact h.next_le
  kept other old := by
    obtain ⟨held, same⟩ := h.kept other old
    by_cases changed : other = id
    · subst changed
      rw [info_update_same (Nat.lt_of_lt_of_le old h.next_le), same]
      exact ⟨variants held, rfl⟩
    · rw [info_update_of_ne changed]
      exact ⟨held, same⟩

end Grows

end ClassTable

/-! ### Declarations keep tables well-formed -/

namespace Declaration

open ClassTable (Grows WellFormed)

variable {table after : ClassTable} {declaration : Declaration} {info : ClassInfo}

def Valid (table : ClassTable) (declaration : Declaration) : Prop :=
  ∀ base ∈ declaration.bases, base < table.next

instance (table : ClassTable) (declaration : Declaration) : Decidable (declaration.Valid table) :=
  inferInstanceAs (Decidable (∀ base ∈ declaration.bases, base < table.next))

theorem Valid.parents (valid : Valid table declaration) (h : table.WellFormed) :
    ∀ base ∈ declaration.parents, base < table.next := by
  intro base member
  unfold Declaration.parents at member
  split at member
  · obtain rfl : base = objectId := by simpa using member
    exact Nat.lt_of_le_of_lt (Nat.zero_le _) h.catalogue
  · exact valid base member

theorem Describes.mem_order_tail_iff (described : Describes table declaration info)
    (h : table.WellFormed) (valid : Valid table declaration) (ancestor : ClassId) :
    ancestor ∈ info.order.tail ↔
      ∃ base ∈ declaration.parents, ancestor ∈ (table.info base).order := by
  obtain ⟨merged, order, same⟩ := described.order
  rw [order, List.tail_cons, mem_merge same, described.bases]
  constructor
  · rintro ⟨row, member, inside⟩
    rcases List.mem_append.mp member with of_base | of_bases
    · obtain ⟨base, is_base, rfl⟩ := List.mem_map.mp of_base
      exact ⟨base, is_base, inside⟩
    · obtain rfl : row = declaration.parents := by simpa using of_bases
      have ordered := h.ordered ancestor (valid.parents h ancestor inside)
      exact ⟨ancestor, inside, ordered.mem_iff.mpr (.inl rfl)⟩
  · rintro ⟨base, member, inside⟩
    exact ⟨_, List.mem_append_left _ (List.mem_map_of_mem member), inside⟩

theorem Describes.admissible (described : Describes table declaration info)
    (h : table.WellFormed) (valid : Valid table declaration) : table.Admissible info where
  ordered := by
    obtain ⟨merged, order, _⟩ := described.order
    refine ⟨by rw [order]; rfl, ?_, ?_⟩
    · intro ancestor member
      obtain ⟨base, is_base, inside⟩ := (described.mem_order_tail_iff h valid ancestor).mp member
      exact h.lt_next (valid.parents h base is_base) inside
    · intro ancestor member other further
      obtain ⟨base, is_base, inside⟩ := (described.mem_order_tail_iff h valid ancestor).mp member
      refine (described.mem_order_tail_iff h valid other).mpr ⟨base, is_base, ?_⟩
      exact h.mem_trans (valid.parents h base is_base) inside further
  bases base member := by
    rw [described.bases] at member
    exact valid.parents h base member
  isRoot := described.isRoot
  variants := described.variants

section Enrolled

variable {root : Option Bool}

theorem Enrolled.next (enrolled : Enrolled table info root after) :
    after.next = table.next + 1 := by
  cases enrolled <;> simp [list]

theorem Enrolled.info_next (enrolled : Enrolled table info root after)
    (admissible : table.Admissible info) :
    after.info table.next = { info with isRoot := decide (root = some true) } := by
  have last : table.next < (table.add info).next := by
    rw [ClassTable.next_add]
    exact Nat.lt_succ_self _
  have unrooted := admissible.isRoot
  cases enrolled with
  | outside => simp [← unrooted]
  | root => simp [ClassTable.info_update_same last]
  | @variant _ parent _ no_root _ direct =>
    have distinct : table.next ≠ parent := (Nat.ne_of_lt (admissible.bases parent direct)).symm
    rw [list, ClassTable.info_update_of_ne distinct, ClassTable.info_add_next]
    simp [no_root, ← unrooted]

theorem list_grows {before : ClassTable} (h : before.Grows table) (parent variant : ClassId) :
    before.Grows (list table parent variant) := by
  rw [list_eq]
  exact h.update_variants (relisted table variant)

theorem Enrolled.grows (enrolled : Enrolled table info root after) : table.Grows after := by
  have added : table.Grows (table.add info) := (Grows.refl table).add info
  cases enrolled with
  | outside => exact added
  | root => exact added.update_later (Nat.le_refl _) _
  | variant => exact list_grows added _ _

private theorem rooted_wellFormed (h : table.WellFormed) (admissible : table.Admissible info)
    (fresh : info.fields = none) :
    ((table.add info).update table.next fun info => { info with isRoot := true }).WellFormed := by
  have last : table.next < (table.add info).next := by
    rw [ClassTable.next_add]
    exact Nat.lt_succ_self _
  refine (h.add admissible).update last rfl ?_ ?_
  · intro variant member
    rw [ClassTable.info_add_next] at member
    simp only [admissible.variants] at member
    cases member
  · intro _
    refine ⟨Nat.ne_of_gt (Nat.lt_of_le_of_lt (Nat.zero_le _) h.catalogue), Nat.ne_of_gt h.catalogue,
      ?_, .inr ?_⟩
    · intro fields held
      rw [ClassTable.info_add_next] at held
      simp only [fresh] at held
      cases held
    · intro root member
      by_cases same : root = table.next
      · rw [same, ClassTable.info_add_next, admissible.variants] at member
        cases member
      · rw [ClassTable.info_add_of_ne same] at member
        exact Nat.lt_irrefl _ (h.listed root _ member).1

private theorem list_wellFormed (h : table.WellFormed) {parent variant : ClassId}
    (older : parent < table.next) (last : variant < table.next)
    (is_variant : table.IsVariant variant) : (list table parent variant).WellFormed := by
  have grown : table.Grows (list table parent variant) := list_grows (Grows.refl _) parent variant
  rw [list_eq] at grown ⊢
  refine h.update older rfl ?_ ?_
  · intro other member
    rcases List.mem_append.mp member with kept | new
    · obtain ⟨lt, was_variant⟩ := h.listed parent other (List.mem_filter.mp kept).1
      exact ⟨lt, (grown.isVariant_iff lt).mpr was_variant⟩
    · obtain rfl : other = variant := by simpa using new
      exact ⟨last, (grown.isVariant_iff last).mpr is_variant⟩
  · intro is_root
    obtain ⟨not_object, not_catalogue, unslotted⟩ := h.roots parent is_root
    exact ⟨not_object, not_catalogue, unslotted, .inl is_root⟩

theorem Enrolled.wellFormed (enrolled : Enrolled table info root after) (h : table.WellFormed)
    (admissible : table.Admissible info) (fresh : root = some true → info.fields = none) :
    after.WellFormed := by
  have last : table.next < (table.add info).next := by
    rw [ClassTable.next_add]
    exact Nat.lt_succ_self _
  cases enrolled with
  | outside => exact h.add admissible
  | root => exact rooted_wellFormed h admissible (fresh rfl)
  | @variant _ parent inside _ _ direct =>
    refine list_wellFormed (h.add admissible) (Nat.lt_trans (admissible.bases parent direct) last)
      last ⟨inside, Nat.ne_of_gt h.catalogue, ?_⟩
    rw [ClassTable.info_add_next, admissible.isRoot]

end Enrolled

end Declaration

end StepPipeline.Catalogue
