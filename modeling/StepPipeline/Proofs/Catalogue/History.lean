import StepPipeline.Proofs.Catalogue.WellFormed

/-!
Histories of declarations. A history starts with the classes that are there from the beginning and
goes on by declarations, accepted or not, and by registrations with contracts. Every table in it is
well-formed, and every later one has grown from it.
-/

set_option autoImplicit false
set_option relaxedAutoImplicit false

namespace StepPipeline.Catalogue

open ClassTable (Admissible Grows WellFormed)

namespace Declaration

variable {table created after : ClassTable} {declaration : Declaration} {info : ClassInfo}
  {id : ClassId} {fields : Fields}

/-! ### Creation -/

theorem create_spec (accepted : create table declaration = .ok created) :
    ∃ info, declaration.describe table = .ok info ∧ hidesHook table info.order.tail = false ∧
      Enrolled table info declaration.root created := by
  obtain ⟨info, described, enrolled⟩ := create_eq_ok_iff.mp accepted
  obtain ⟨seen, enrolled⟩ := enrol_eq_ok_iff.mp enrolled
  exact ⟨info, described, seen, enrolled⟩

theorem fieldsOf_unslotted {owner : String} {own : List String}
    (fielded : fieldsOf table id owner own = .ok fields) :
    fields.slotted = false ∧ fields.slots = [] := by
  unfold fieldsOf at fielded
  dsimp only at fielded
  split at fielded
  · cases fielded
  · cases fielded
    exact ⟨rfl, rfl⟩

/-! ### Completion -/

structure Latest (table : ClassTable) (id : ClassId) : Prop where
  next : table.next = id + 1
  bases : ∀ base ∈ (table.info id).bases, base < id
  variants : (table.info id).variants = []

theorem Latest.lt_next (latest : Latest table id) : id < table.next := by
  rw [latest.next]
  exact Nat.lt_succ_self id

theorem Enrolled.latest {root : Option Bool} (enrolled : Enrolled table info root after)
    (admissible : table.Admissible info) : Latest after table.next where
  next := enrolled.next
  bases := by
    rw [enrolled.info_next admissible]
    exact admissible.bases
  variants := by
    rw [enrolled.info_next admissible]
    exact admissible.variants

theorem info_withFields (latest : Latest table id) :
    (withFields table id fields).info id = { table.info id with fields := some fields } :=
  ClassTable.info_update_same latest.lt_next

theorem Latest.withFields (latest : Latest table id) (fields : Fields) :
    Latest (withFields table id fields) id where
  next := by
    rw [Declaration.withFields, ClassTable.next_update]
    exact latest.next
  bases := by
    rw [info_withFields latest]
    exact latest.bases
  variants := by
    rw [info_withFields latest]
    exact latest.variants

theorem withFields_wellFormed (h : table.WellFormed) (latest : Latest table id)
    (unslotted : fields.slotted = false ∧ fields.slots = []) :
    (withFields table id fields).WellFormed := by
  refine h.update latest.lt_next rfl ?_ ?_
  · intro variant member
    simp only [latest.variants] at member
    cases member
  · intro is_root
    obtain ⟨not_object, not_catalogue, _⟩ := h.roots id is_root
    refine ⟨not_object, not_catalogue, ?_, .inl is_root⟩
    intro held same
    cases same
    exact unslotted

theorem withSlots_admissible (h : table.WellFormed) (latest : Latest table id) (fields : Fields) :
    table.Admissible (withSlots table (table.info id) fields) where
  ordered := by
    have ordered := h.ordered id latest.lt_next
    refine ⟨rfl, ?_, ordered.closed⟩
    intro ancestor member
    exact Nat.lt_trans (ordered.below ancestor member) latest.lt_next
  bases base member := Nat.lt_trans (latest.bases base member) latest.lt_next
  isRoot := rfl
  variants := latest.variants

theorem createSlotted_spec (latest : Latest table id)
    (again : createSlotted table (table.info id) fields = .ok after) :
    ((table.info id).isRoot = true → fields.names.contains ClassTable.rootName = true) ∧
      ∃ enrolled, Enrolled table (withSlots table (table.info id) fields) none enrolled ∧
        after = enrolled.update (id + 1) fun created =>
          { created with qualifiedName := (table.info id).qualifiedName } := by
  obtain ⟨unhindered, enrolled, accepted, same⟩ := createSlotted_eq_ok_iff.mp again
  rw [latest.next] at same
  exact ⟨unhindered, enrolled, (enrol_eq_ok_iff.mp accepted).2, same⟩

theorem createSlotted_wellFormed (h : table.WellFormed) (latest : Latest table id)
    (again : createSlotted table (table.info id) fields = .ok after) : after.WellFormed := by
  obtain ⟨_, enrolled, second, rfl⟩ := createSlotted_spec latest again
  have admissible := withSlots_admissible h latest fields
  have second_latest := second.latest admissible
  have second_info := second.info_next admissible
  rw [latest.next] at second_latest second_info
  refine (second.wellFormed h admissible (fun impossible => nomatch impossible)).update
    second_latest.lt_next rfl ?_ ?_
  · intro variant member
    simp only [second_latest.variants] at member
    cases member
  · intro is_root
    simp [second_info] at is_root

theorem Completed.wellFormed (completed : Completed table declaration id after)
    (h : table.WellFormed) (latest : Latest table id) : after.WellFormed := by
  cases completed with
  | bare => exact h
  | plain _ fielded _ => exact withFields_wellFormed h latest (fieldsOf_unslotted fielded)
  | @slotted _ fields _ _ fielded _ again =>
    have first := withFields_wellFormed h latest (fieldsOf_unslotted fielded)
    exact createSlotted_wellFormed first (latest.withFields fields) again

theorem Completed.next_le (completed : Completed table declaration id after)
    (latest : Latest table id) : table.next ≤ after.next := by
  cases completed with
  | bare => exact Nat.le_refl _
  | plain => exact Nat.le_of_eq ClassTable.next_update.symm
  | @slotted _ fields _ _ _ _ again =>
    obtain ⟨_, enrolled, second, rfl⟩ := createSlotted_spec (latest.withFields fields) again
    rw [ClassTable.next_update, second.next, Declaration.withFields, ClassTable.next_update]
    exact Nat.le_succ _

theorem Completed.grows {before : ClassTable} (completed : Completed table declaration id after)
    (grown : before.Grows table) (earlier : before.next ≤ id) (latest : Latest table id) :
    before.Grows after := by
  cases completed with
  | bare => exact grown
  | plain => exact grown.update_later earlier _
  | @slotted _ fields _ _ _ _ again =>
    obtain ⟨_, enrolled, second, rfl⟩ := createSlotted_spec (latest.withFields fields) again
    have first : before.Grows (Declaration.withFields table id fields) :=
      grown.update_later earlier _
    exact (first.trans second.grows).update_later (Nat.le_succ_of_le earlier) _

end Declaration

/-! ### Histories -/

open Declaration (Valid)

namespace ClassTable

variable {table : ClassTable} {declaration : Declaration}

theorem declare_wellFormed (h : table.WellFormed) (valid : declaration.Valid table) :
    (table.declare declaration).1.WellFormed := by
  rw [Declaration.declare_eq]
  cases accepted : Declaration.create table declaration with
  | error fault => exact h
  | ok created =>
    obtain ⟨info, described, _, enrolled⟩ := Declaration.create_spec accepted
    have described := Declaration.describes_of_ok described
    have admissible := described.admissible h valid
    have well_formed := enrolled.wellFormed h admissible fun _ => described.fields
    dsimp only
    cases completed : created.complete declaration table.next with
    | error fault => exact well_formed
    | ok after =>
      exact (Declaration.complete_eq_ok_iff.mp completed).wellFormed well_formed
        (enrolled.latest admissible)

theorem declare_grows (h : table.WellFormed) (valid : declaration.Valid table) :
    table.Grows (table.declare declaration).1 := by
  rw [Declaration.declare_eq]
  cases accepted : Declaration.create table declaration with
  | error fault => exact .refl table
  | ok created =>
    obtain ⟨info, described, _, enrolled⟩ := Declaration.create_spec accepted
    have admissible := (Declaration.describes_of_ok described).admissible h valid
    dsimp only
    cases completed : created.complete declaration table.next with
    | error fault => exact enrolled.grows
    | ok after =>
      exact (Declaration.complete_eq_ok_iff.mp completed).grows enrolled.grows (Nat.le_refl _)
        (enrolled.latest admissible)

theorem register_classes {after : ClassTable} {contract id : ClassId}
    (registered : table.register contract id = .ok after) : after.classes = table.classes := by
  unfold register at registered
  split at registered
  · cases registered
  · split at registered
    · cases registered
      rfl
    · split at registered
      · cases registered
      · cases registered
        rfl

theorem WellFormed.of_classes_eq {after : ClassTable} (h : table.WellFormed)
    (same : after.classes = table.classes) : after.WellFormed := by
  obtain ⟨classes, registered⟩ := after
  obtain rfl : classes = table.classes := same
  exact ⟨h.catalogue, fun id old => ⟨(h.ordered id old).head, (h.ordered id old).below,
    (h.ordered id old).closed⟩, h.listed, h.roots⟩

theorem Grows.of_classes_eq {after : ClassTable} (same : after.classes = table.classes) :
    table.Grows after := by
  obtain ⟨classes, registered⟩ := after
  obtain rfl : classes = table.classes := same
  exact ⟨Nat.le_refl _, (Grows.refl table).kept⟩

private theorem initial_next : initial.next = 13 := by
  decide

private theorem initial_classes : ∀ id < 13,
    (initial.info id).order.head? = some id ∧
      (∀ ancestor ∈ (initial.info id).order.tail, ancestor < id ∧
        ∀ other ∈ (initial.info ancestor).order, other ∈ (initial.info id).order.tail) ∧
      (∀ variant ∈ (initial.info id).variants, variant < 13 ∧ initial.inCatalogue variant = true ∧
        variant ≠ catalogueId ∧ (initial.info variant).isRoot = false) ∧
      ((initial.info id).isRoot = true → id ≠ objectId ∧ id ≠ catalogueId ∧
        (initial.info id).fields.isNone = true) := by
  decide

theorem initial_wellFormed : initial.WellFormed where
  catalogue := by decide
  ordered id old := by
    rw [initial_next] at old
    obtain ⟨head, tail, _⟩ := initial_classes id old
    exact ⟨head, fun ancestor member => (tail ancestor member).1,
      fun ancestor member => (tail ancestor member).2⟩
  listed root variant member := by
    rw [initial_next]
    by_cases old : root < 13
    · obtain ⟨lt, is_variant⟩ := (initial_classes root old).2.2.1 variant member
      exact ⟨lt, is_variant⟩
    · rw [info_of_next_le (by rw [initial_next]; exact Nat.le_of_not_lt old)] at member
      cases member
  roots root is_root := by
    obtain ⟨not_object, not_catalogue, fieldless⟩ :=
      (initial_classes root (lt_next_of_isRoot is_root)).2.2.2 is_root
    refine ⟨not_object, not_catalogue, fun fields held => ?_⟩
    rw [held] at fieldless
    cases fieldless

end ClassTable

structure Attempt where
  table : ClassTable
  declaration : Declaration

/-- The declarations that lead to a table, each with the table that it has met. -/
inductive History : List Attempt → ClassTable → Prop
  | initial : History [] .initial
  | declared {past : List Attempt} {table : ClassTable} {declaration : Declaration} :
      History past table → declaration.Valid table →
      History (past ++ [⟨table, declaration⟩]) (table.declare declaration).1
  | registered {past : List Attempt} {table after : ClassTable} {contract id : ClassId} :
      History past table → table.register contract id = .ok after → History past after

theorem History.wellFormed {past : List Attempt} {table : ClassTable}
    (history : History past table) :
    table.WellFormed := by
  induction history with
  | initial => exact ClassTable.initial_wellFormed
  | declared _ valid ih => exact ClassTable.declare_wellFormed ih valid
  | registered _ registered ih => exact ih.of_classes_eq (ClassTable.register_classes registered)

theorem History.attempt {past : List Attempt} {table : ClassTable} (history : History past table)
    {attempt : Attempt} (member : attempt ∈ past) :
    attempt.table.WellFormed ∧ attempt.declaration.Valid attempt.table ∧
      (attempt.table.declare attempt.declaration).1.Grows table := by
  induction history with
  | initial => cases member
  | @declared past table declaration history valid ih =>
    rcases List.mem_append.mp member with earlier | last
    · obtain ⟨well_formed, was_valid, grown⟩ := ih earlier
      exact ⟨well_formed, was_valid,
        grown.trans (ClassTable.declare_grows history.wellFormed valid)⟩
    · obtain rfl : attempt = ⟨table, declaration⟩ := by simpa using last
      exact ⟨history.wellFormed, valid, .refl _⟩
  | registered _ registered ih =>
    obtain ⟨well_formed, was_valid, grown⟩ := ih member
    exact ⟨well_formed, was_valid,
      grown.trans (.of_classes_eq (ClassTable.register_classes registered))⟩

end StepPipeline.Catalogue
