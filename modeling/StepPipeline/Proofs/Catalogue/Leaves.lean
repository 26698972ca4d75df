import StepPipeline.Proofs.Catalogue.History
import StepPipeline.Proofs.Catalogue.Roots

/-!
Variants as leaves. A class that would inherit from a variant is refused unless it is declared as a
root of its own or the root it inherits first is one of its bases; both let it pass the check on
variants. So the variants of a history are leaves just if no declaration of it has passed like that.
Main result: `History.leaves_iff`.
-/

set_option autoImplicit false
set_option relaxedAutoImplicit false

namespace StepPipeline.Catalogue

open ClassTable (WellFormed rootName)

/-- No class inherits from a variant. -/
def ClassTable.Leaves (table : ClassTable) : Prop :=
  ∀ id < table.next, ∀ ancestor ∈ (table.info id).order.tail, ¬table.IsVariant ancestor

namespace ClassTable

def InheritsVariant (table : ClassTable) (id : ClassId) : Prop :=
  ∃ ancestor ∈ (table.info id).order.tail, table.IsVariant ancestor

theorem leaves_iff_not_inheritsVariant {table : ClassTable} :
    table.Leaves ↔ ∀ id < table.next, ¬table.InheritsVariant id := by
  simp [Leaves, InheritsVariant]

theorem Grows.inheritsVariant_iff {before after : ClassTable} (grown : before.Grows after)
    (h : before.WellFormed) {id : ClassId} (old : id < before.next) :
    after.InheritsVariant id ↔ before.InheritsVariant id := by
  rw [InheritsVariant, grown.order_eq old]
  refine exists_congr fun ancestor => and_congr_right fun member => ?_
  exact grown.isVariant_iff (Nat.lt_trans ((h.ordered id old).below ancestor member) old)

end ClassTable

namespace Declaration

variable {table created : ClassTable} {declaration : Declaration} {info : ClassInfo}
  {variant : ClassId}

def Extends (table : ClassTable) (declaration : Declaration) (ancestor : ClassId) : Prop :=
  ∃ base ∈ declaration.bases, ancestor ∈ (table.info base).order

def ExtendsVariant (table : ClassTable) (declaration : Declaration) : Prop :=
  ∃ variant, table.IsVariant variant ∧ declaration.Extends table variant

/-- Does a declaration in a catalogue pass the check on variants? The class is a root of its own
with a single shape, or the root that it inherits first is one of its bases. -/
def Escapes (table : ClassTable) (declaration : Declaration) : Prop :=
  ∃ info, declaration.describe table = .ok info ∧ hidesHook table info.order.tail = false ∧
    if declaration.root = some true then
      ∃ shape, (table.add info).shapeOf table.next = .ok shape
    else ∃ root ∈ declaration.bases,
      table.inheritedRoot? info.order.tail = some (.shared (.cls root))

/-! ### Declarations that extend a variant -/

theorem Extends.parents_eq (extended : declaration.Extends table variant) :
    declaration.parents = declaration.bases := by
  obtain ⟨base, member, _⟩ := extended
  have held : declaration.bases.isEmpty = false := by
    cases bases : declaration.bases with
    | nil =>
      rw [bases] at member
      cases member
    | cons => rfl
  rw [Declaration.parents, held]
  rfl

theorem Describes.inCatalogue_of_extends (described : Describes table declaration info)
    (h : table.WellFormed) (valid : declaration.Valid table) (is_variant : table.IsVariant variant)
    (extended : declaration.Extends table variant) :
    (table.add info).inCatalogue table.next = true := by
  have parents := extended.parents_eq
  obtain ⟨base, member, inside⟩ := extended
  have catalogued : catalogueId ∈ (table.info base).order :=
    h.mem_trans (valid base member) inside (ClassTable.inCatalogue_iff.mp is_variant.1)
  rw [ClassTable.inCatalogue_iff, ClassTable.info_add_next]
  refine List.mem_of_mem_tail ((described.mem_order_tail_iff h valid catalogueId).mpr ?_)
  rw [parents]
  exact ⟨base, member, catalogued⟩

theorem Describes.attribute?_rootName_iff (described : Describes table declaration info)
    (h : table.WellFormed) (valid : declaration.Valid table) {root : ClassId} :
    (table.add info).attribute? table.next rootName = some (.cls root) ↔
      table.inheritedRoot? info.order.tail = some (.shared (.cls root)) := by
  have visible : ClassTable.hidesRoot info.fields = false := by
    rw [described.fields]
    rfl
  rw [ClassTable.attribute?_rootName_eq_cls_iff, ClassTable.info_add_next,
    ClassTable.inheritedRoot?_add_eq_cls_iff h (described.admissible h valid), visible]
  simp

/-- A declaration that extends a variant creates a class just if it passes the check. -/
theorem create_iff_escapes (h : table.WellFormed) (valid : declaration.Valid table)
    (extends_variant : declaration.ExtendsVariant table) :
    (∃ created, create table declaration = .ok created) ↔ declaration.Escapes table := by
  obtain ⟨variant, is_variant, extended⟩ := extends_variant
  constructor
  · rintro ⟨created, accepted⟩
    obtain ⟨info, same, seen, enrolled⟩ := create_spec accepted
    have described := describes_of_ok same
    have inside := described.inCatalogue_of_extends h valid is_variant extended
    refine ⟨info, same, seen, ?_⟩
    generalize role : declaration.root = root at enrolled
    cases enrolled with
    | outside outside =>
      rw [inside] at outside
      cases outside
    | root _ shaped =>
      rw [if_pos rfl]
      exact ⟨_, shaped⟩
    | @variant _ parent _ no_root held direct =>
      rw [if_neg no_root]
      rw [described.bases, extended.parents_eq] at direct
      exact ⟨parent, direct, (described.attribute?_rootName_iff h valid).mp held⟩
  · rintro ⟨info, same, seen, passes⟩
    have described := describes_of_ok same
    have inside := described.inCatalogue_of_extends h valid is_variant extended
    have enrolled : ∃ created, Enrolled table info declaration.root created := by
      by_cases is_root : declaration.root = some true
      · rw [if_pos is_root] at passes
        obtain ⟨shape, shaped⟩ := passes
        rw [is_root]
        exact ⟨_, .root inside shaped⟩
      · rw [if_neg is_root] at passes
        obtain ⟨parent, direct, held⟩ := passes
        rw [← extended.parents_eq, ← described.bases] at direct
        exact ⟨_, .variant inside is_root
          ((described.attribute?_rootName_iff h valid).mpr held) direct⟩
    obtain ⟨created, enrolled⟩ := enrolled
    exact ⟨created, create_eq_ok_iff.mpr ⟨info, same, enrol_eq_ok_iff.mpr ⟨seen, enrolled⟩⟩⟩

theorem Escapes.root_or_base (escapes : declaration.Escapes table) :
    declaration.root = some true ∨
      ∃ base ∈ declaration.bases, (table.info base).isRoot = true := by
  obtain ⟨info, _, _, passes⟩ := escapes
  by_cases is_root : declaration.root = some true
  · exact .inl is_root
  · rw [if_neg is_root] at passes
    obtain ⟨root, direct, held⟩ := passes
    exact .inr ⟨root, direct, (ClassTable.inheritedRoot?_spec held).2.1⟩

theorem declare_of_not_escapes (h : table.WellFormed) (valid : declaration.Valid table)
    (extends_variant : declaration.ExtendsVariant table)
    (caught : ¬declaration.Escapes table) :
    ∃ fault, table.declare declaration = (table, some fault) ∧
      (fault.isTypeError = true ∨ declaration.describe table = .error fault) := by
  cases accepted : create table declaration with
  | ok created =>
    exact absurd ((create_iff_escapes h valid extends_variant).mp ⟨created, accepted⟩) caught
  | error fault =>
    refine ⟨fault, by rw [declare_eq, accepted], ?_⟩
    cases described : declaration.describe table with
    | error other =>
      simp only [create, described, bind, Except.bind, Except.error.injEq] at accepted
      exact .inr (by rw [accepted])
    | ok info =>
      simp only [create, described, bind, Except.bind] at accepted
      rcases enrol_cases table info declaration.root with
        ⟨_, after, same, _⟩ | ⟨other, same, is_type⟩
      · rw [accepted] at same
        cases same
      · rw [accepted] at same
        cases same
        exact .inl is_type

/-! ### The classes of a declaration -/

theorem Completed.order_tail {id : ClassId} {after : ClassTable}
    (completed : Completed table declaration id after) (h : table.WellFormed)
    (latest : Latest table id) {other : ClassId} (new : id ≤ other) (there : other < after.next) :
    (after.info other).order.tail = (table.info id).order.tail := by
  have is_last {table : ClassTable} (latest : Latest table id) (there : other < table.next) :
      other = id := by
    rw [latest.next] at there
    exact Nat.le_antisymm (Nat.le_of_lt_succ there) new
  cases completed with
  | bare => rw [is_last latest there]
  | plain => rw [is_last (latest.withFields _) there, info_withFields latest]
  | @slotted _ fields _ _ fielded _ again =>
    have first := latest.withFields fields
    have first_wf := withFields_wellFormed h latest (fieldsOf_unslotted fielded)
    have order_first : ((Declaration.withFields table id fields).info id).order =
        (table.info id).order := by
      rw [info_withFields latest]
    have admissible := withSlots_admissible first_wf first fields
    obtain ⟨_, enrolled, second, rfl⟩ := createSlotted_spec first again
    rw [ClassTable.next_update, second.next, first.next] at there
    by_cases same : other = id
    · rw [same, ClassTable.info_update_of_ne (Nat.ne_of_lt (Nat.lt_succ_self id)),
        second.grows.order_eq first.lt_next, order_first]
    · obtain rfl : other = id + 1 :=
        Nat.le_antisymm (Nat.le_of_lt_succ there) (Nat.lt_of_le_of_ne new (Ne.symm same))
      have second_info := second.info_next admissible
      have second_latest := second.latest admissible
      rw [first.next] at second_info second_latest
      rw [ClassTable.info_update_same second_latest.lt_next, second_info, ← order_first]
      rfl

theorem declare_order_tail (h : table.WellFormed) (valid : declaration.Valid table)
    (described : declaration.describe table = .ok info)
    (accepted : create table declaration = .ok created) {id : ClassId} (new : table.next ≤ id)
    (there : id < (table.declare declaration).1.next) :
    ((table.declare declaration).1.info id).order.tail = info.order.tail := by
  obtain ⟨other, same, _, enrolled⟩ := create_spec accepted
  obtain rfl : info = other := by
    rw [described] at same
    exact Except.ok.inj same
  have description := describes_of_ok described
  have admissible := description.admissible h valid
  have latest := enrolled.latest admissible
  have well_formed := enrolled.wellFormed h admissible fun _ => description.fields
  have created_tail : (created.info table.next).order.tail = info.order.tail := by
    rw [enrolled.info_next admissible]
  rw [← created_tail]
  rw [declare_eq, accepted] at there ⊢
  dsimp only at there ⊢
  cases completed : created.complete declaration table.next with
  | ok after =>
    rw [completed] at there
    exact (complete_eq_ok_iff.mp completed).order_tail well_formed latest new there
  | error fault =>
    rw [completed] at there
    have bare : Completed created { declaration with fields := none } table.next created :=
      .bare rfl
    exact bare.order_tail well_formed latest new there

theorem next_lt_declare (h : table.WellFormed) (valid : declaration.Valid table)
    (accepted : create table declaration = .ok created) :
    table.next < (table.declare declaration).1.next := by
  obtain ⟨info, described, _, enrolled⟩ := create_spec accepted
  have latest := enrolled.latest ((describes_of_ok described).admissible h valid)
  rw [declare_eq, accepted]
  dsimp only
  cases completed : created.complete declaration table.next with
  | error fault => exact latest.lt_next
  | ok after =>
    exact Nat.lt_of_lt_of_le latest.lt_next ((complete_eq_ok_iff.mp completed).next_le latest)

theorem Describes.extendsVariant_iff (described : Describes table declaration info)
    (h : table.WellFormed) (valid : declaration.Valid table) :
    declaration.ExtendsVariant table ↔
      ∃ ancestor ∈ info.order.tail, table.IsVariant ancestor := by
  constructor
  · rintro ⟨variant, is_variant, extended⟩
    have parents := extended.parents_eq
    obtain ⟨base, member, inside⟩ := extended
    refine
      ⟨variant, (described.mem_order_tail_iff h valid variant).mpr ⟨base, ?_, inside⟩, is_variant⟩
    rw [parents]
    exact member
  · rintro ⟨ancestor, member, is_variant⟩
    obtain ⟨base, is_parent, inside⟩ := (described.mem_order_tail_iff h valid ancestor).mp member
    refine ⟨ancestor, is_variant, base, ?_, inside⟩
    unfold Declaration.parents at is_parent
    split at is_parent
    · obtain rfl : base = objectId := by simpa using is_parent
      -- the class that all inherit from is the first of the table, so it is in no catalogue
      have object_old : objectId < table.next := Nat.lt_of_le_of_lt (Nat.zero_le _) h.catalogue
      have inside_object :=
        h.mem_trans object_old inside (ClassTable.inCatalogue_iff.mp is_variant.1)
      have impossible := (h.ordered objectId object_old).le inside_object
      exact absurd impossible (by decide)
    · exact is_parent

theorem inheritsVariant_declare_iff (h : table.WellFormed) (valid : declaration.Valid table)
    (accepted : create table declaration = .ok created) {id : ClassId} (new : table.next ≤ id)
    (there : id < (table.declare declaration).1.next) :
    (table.declare declaration).1.InheritsVariant id ↔ declaration.ExtendsVariant table := by
  obtain ⟨info, described, _, _⟩ := create_spec accepted
  have description := describes_of_ok described
  have admissible := description.admissible h valid
  have grown := ClassTable.declare_grows h valid
  rw [ClassTable.InheritsVariant, declare_order_tail h valid described accepted new there,
    description.extendsVariant_iff h valid]
  refine exists_congr fun ancestor => and_congr_right fun member => ?_
  exact grown.isVariant_iff (admissible.ordered.below ancestor member)

theorem declare_leaves_iff (h : table.WellFormed) (valid : declaration.Valid table) :
    (table.declare declaration).1.Leaves ↔
      table.Leaves ∧ (declaration.ExtendsVariant table → ¬declaration.Escapes table) := by
  have grown := ClassTable.declare_grows h valid
  simp only [ClassTable.leaves_iff_not_inheritsVariant]
  constructor
  · intro leaves
    refine ⟨?_, ?_⟩
    · intro id old
      rw [← grown.inheritsVariant_iff h old]
      exact leaves id (Nat.lt_of_lt_of_le old grown.next_le)
    · intro extends_variant escapes
      obtain ⟨created, accepted⟩ := (create_iff_escapes h valid extends_variant).mpr escapes
      have there := next_lt_declare h valid accepted
      refine leaves table.next there ?_
      exact (inheritsVariant_declare_iff h valid accepted (Nat.le_refl _) there).mpr extends_variant
  · rintro ⟨leaves, caught⟩ id there
    by_cases old : id < table.next
    · rw [grown.inheritsVariant_iff h old]
      exact leaves id old
    · cases accepted : create table declaration with
      | error fault =>
        rw [declare_eq, accepted] at there
        exact absurd there old
      | ok created =>
        rw [inheritsVariant_declare_iff h valid accepted (Nat.le_of_not_lt old) there]
        intro extends_variant
        exact caught extends_variant
          ((create_iff_escapes h valid extends_variant).mp ⟨created, accepted⟩)

end Declaration

/-! ### The main result -/

private theorem initial_leaves : ClassTable.initial.Leaves := by
  have checked : ∀ id < 13, ∀ ancestor ∈ (ClassTable.initial.info id).order.tail,
      ¬(ClassTable.initial.inCatalogue ancestor = true ∧ ancestor ≠ catalogueId ∧
        (ClassTable.initial.info ancestor).isRoot = false) := by
    decide
  exact checked

private theorem leaves_of_classes_eq {table after : ClassTable}
    (same : after.classes = table.classes) : table.Leaves ↔ after.Leaves := by
  obtain ⟨classes, registered⟩ := after
  obtain rfl : classes = table.classes := same
  exact Iff.rfl

/--
The variants of a history are leaves just if no declaration of it that extends a variant has passed
the check; all classes that roots list are variants. A declaration that extends a variant and does
not pass leaves the table as it is and fails, with a type error if the class can be laid out at all.
One that passes adds a class, and is accepted if it has no fields. To pass it is declared as a root
or has one among its bases.
-/
theorem History.leaves_iff {past : List Attempt} {table : ClassTable}
    (history : History past table) :
    (table.Leaves ↔ ∀ attempt ∈ past, attempt.declaration.ExtendsVariant attempt.table →
      ¬attempt.declaration.Escapes attempt.table) ∧
    (∀ root, ∀ variant ∈ (table.info root).variants, table.IsVariant variant) ∧
    ∀ attempt ∈ past, attempt.declaration.ExtendsVariant attempt.table →
      let declared := attempt.table.declare attempt.declaration
      (¬attempt.declaration.Escapes attempt.table →
        ∃ fault, declared = (attempt.table, some fault) ∧
          (fault.isTypeError = true ∨ attempt.declaration.describe attempt.table = .error fault)) ∧
      (attempt.declaration.Escapes attempt.table →
        attempt.table.next < declared.1.next ∧
          (attempt.declaration.fields = none → declared.2 = none) ∧
          (attempt.declaration.root = some true ∨
            ∃ base ∈ attempt.declaration.bases, (attempt.table.info base).isRoot = true)) := by
  refine ⟨?_, ?_, ?_⟩
  · induction history with
    | initial => simp [initial_leaves]
    | @declared past table declaration history valid ih =>
      rw [Declaration.declare_leaves_iff history.wellFormed valid, ih]
      simp only [List.mem_append, List.mem_singleton, or_imp, forall_and, forall_eq]
    | registered _ registered ih =>
      rw [← ih, leaves_of_classes_eq (ClassTable.register_classes registered)]
  · intro root variant member
    exact (history.wellFormed.listed root variant member).2
  · intro attempt member extends_variant
    obtain ⟨well_formed, valid, _⟩ := history.attempt member
    refine ⟨Declaration.declare_of_not_escapes well_formed valid extends_variant, ?_⟩
    intro escapes
    obtain ⟨created, accepted⟩ :=
      (Declaration.create_iff_escapes well_formed valid extends_variant).mpr escapes
    refine ⟨Declaration.next_lt_declare well_formed valid accepted, ?_, escapes.root_or_base⟩
    intro fieldless
    rw [Declaration.declare_eq, accepted]
    simp only [ClassTable.complete, fieldless]

private def leafRoot : Declaration :=
  { name := "Op", home := "m", qualifiedName := "Op", bases := [catalogueId, contractId .single]
    root := some true, handled := some ["A"] }

private def leaf : Declaration :=
  { name := "A", home := "m", qualifiedName := "A", bases := [13] }

/-- A class that extends the variant and has the root as its second base. -/
private def extendedLeaf : Declaration :=
  { name := "B", home := "m", qualifiedName := "B", bases := [14, 13] }

private def leafTable : ClassTable :=
  ((ClassTable.initial.declare leafRoot).1.declare leaf).1

theorem History.leaves_iff_extendedLeaf :
    ∃ past, History past (leafTable.declare extendedLeaf).1 ∧
      extendedLeaf.ExtendsVariant leafTable ∧ extendedLeaf.Escapes leafTable ∧
      (leafTable.declare extendedLeaf).2 = none ∧ ¬(leafTable.declare extendedLeaf).1.Leaves := by
  have before : History _ leafTable := .declared (.declared .initial (by decide)) (by decide)
  have history : History _ (leafTable.declare extendedLeaf).1 := .declared before (by decide)
  have extends_variant : extendedLeaf.ExtendsVariant leafTable :=
    ⟨14, by decide, 14, by decide, by decide⟩
  have escapes : extendedLeaf.Escapes leafTable :=
    ⟨_, rfl, rfl, 13, by decide, rfl⟩
  obtain ⟨leaves_iff, _, passed⟩ := History.leaves_iff history
  obtain ⟨_, accepted, _⟩ := (passed ⟨leafTable, extendedLeaf⟩ (by simp) extends_variant).2 escapes
  refine ⟨_, history, extends_variant, escapes, accepted rfl, ?_⟩
  intro leaves
  exact leaves_iff.mp leaves ⟨leafTable, extendedLeaf⟩ (by simp) extends_variant escapes

end StepPipeline.Catalogue
