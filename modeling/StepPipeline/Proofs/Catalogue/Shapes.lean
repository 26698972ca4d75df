import StepPipeline.Catalogue.Instance
import StepPipeline.Proofs.Catalogue.Contracts
import StepPipeline.Proofs.Catalogue.History

/-!
For how long classes have their shapes. Declarations, accepted or not, and registrations only add to
what is fulfilled. So a class that has had a single shape keeps it or comes to have several, and the
same holds of all that inherit from it; the instances below one root never show two different
single shapes. Main result: `History.shapes_accumulate`.
-/

set_option autoImplicit false
set_option relaxedAutoImplicit false

namespace StepPipeline

namespace Pipeline

variable {ι ρ ε : Type} {facts : ι → Facts} {items : List ι} {shape : Shape}

/-- What comes of items as a pipeline without a pin if they have a shape in common: they have that
shape, or one of them has several. -/
inductive OfOneShape (shape : Shape) (items : List ι) :
    Except (Fault ι ρ ε) (Pipeline ι) → Prop
  | empty : items = [] → OfOneShape shape items (.ok { steps := [], shape := none })
  | single : items ≠ [] → OfOneShape shape items (.ok { steps := items, shape := some shape })
  | several {index : Nat} {typeName : String} {shapes : List Shape} :
      2 ≤ shapes.length → shape ∈ shapes →
      OfOneShape shape items (.error (.misfit (.shapelessItem index (.several typeName shapes))))

theorem eq_of_expectedShape? {expected : Shape}
    (common : ∀ item ∈ items, shape ∈ (facts item).contracts)
    (is_expected : expectedShape? facts items none = some expected) : expected = shape := by
  cases items with
  | nil => cases is_expected
  | cons first rest =>
    have of_first : (facts first).shape? = some expected := is_expected
    have single := (Facts.hasShape_iff.mp (Facts.shape?_eq_some_iff.mp of_first)).2
    have member := common first List.mem_cons_self
    rw [single] at member
    exact (List.mem_singleton.mp member).symm

theorem ofSource_ofOneShape (values : ∀ item ∈ items, (facts item).className? = none)
    (common : ∀ item ∈ items, shape ∈ (facts item).contracts) :
    OfOneShape shape items
      (ofSource facts (⟨items, none⟩ : Source ι (Fault ι ρ ε)) none) := by
  unfold ofSource
  dsimp only
  cases resolved : resolveShape facts items none with
  | ok found =>
    obtain ⟨rfl, fit⟩ := resolveShape_eq_ok_iff.mp resolved
    cases items with
    | nil => exact .empty rfl
    | cons first rest =>
      obtain ⟨_, expected, _, is_expected⟩ := fit first List.mem_cons_self
      have same := eq_of_expectedShape? common is_expected
      rw [is_expected, same]
      exact .single (List.cons_ne_nil first rest)
  | error fault =>
    obtain ⟨index, _, item, at_index, unfit⟩ := resolveShape_eq_error_iff.mp resolved
    have among := List.mem_of_getElem? at_index
    have member := common item among
    cases unfit with
    | isClass named =>
      rw [values item among] at named
      cases named
    | shapeless _ nothing =>
      rw [nothing] at member
      cases member
    | several _ many => exact .several many member
    | otherShape _ single is_expected differ =>
      rw [single] at member
      have same := eq_of_expectedShape? common is_expected
      exact absurd ((List.mem_singleton.mp member).symm.trans same.symm) differ

end Pipeline

namespace Catalogue

namespace ClassTable

variable {before after : ClassTable}

def Shaped (table : ClassTable) : Prop :=
  ∀ root, (table.info root).isRoot = true → ∃ shape, shape ∈ table.contracts root

theorem Shaped.widens (shaped : before.Shaped) (widens : before.Widens after)
    (h : before.WellFormed) (h' : after.WellFormed)
    (roots : ∀ root, (after.info root).isRoot = true →
      (before.info root).isRoot = true ∨ ∃ shape, shape ∈ after.contracts root) :
    after.Shaped := by
  intro root is_root
  rcases roots root is_root with was_root | new_shape
  · have there := Nat.lt_of_lt_of_le (lt_next_of_isRoot was_root) widens.next_le
    obtain ⟨shape, member⟩ := shaped root was_root
    exact ⟨shape, widens.contracts_subset h h' (h'.inherits_self there) member⟩
  · exact new_shape

end ClassTable

/-! ### Declarations and registrations widen tables -/

namespace Declaration

variable {table created after : ClassTable} {declaration : Declaration} {info : ClassInfo}
  {id : ClassId} {root : Option Bool}

theorem Enrolled.registered_eq (enrolled : Enrolled table info root after) :
    after.registered = table.registered := by
  cases enrolled <;> rfl

theorem Completed.registered_eq (completed : Completed table declaration id after)
    (latest : Latest table id) : after.registered = table.registered := by
  cases completed with
  | bare => rfl
  | plain => rfl
  | @slotted _ fields _ _ _ _ again =>
    obtain ⟨_, enrolled, second, rfl⟩ := createSlotted_spec (latest.withFields fields) again
    exact second.registered_eq

theorem Enrolled.shaped (enrolled : Enrolled table info root after) (shaped : table.Shaped)
    (h : table.WellFormed) (h' : after.WellFormed) (admissible : table.Admissible info) :
    after.Shaped := by
  have added : (table.add info).WellFormed := h.add admissible
  have added_shaped : (table.add info).Shaped := by
    refine shaped.widens (.add table info) h added ?_
    intro other is_root
    by_cases last : other = table.next
    · rw [last, ClassTable.info_add_next, admissible.isRoot] at is_root
      cases is_root
    · rw [ClassTable.info_add_of_ne last] at is_root
      exact .inl is_root
  cases enrolled with
  | outside => exact added_shaped
  | @root shape _ single =>
    have widens : (table.add info).Widens
        ((table.add info).update table.next fun info => { info with isRoot := true }) :=
      .update rfl rfl rfl
    refine added_shaped.widens widens added h' ?_
    intro other is_root
    by_cases last : other = table.next
    · have there : table.next < ((table.add info).update table.next fun info =>
          { info with isRoot := true }).next := by simp
      subst last
      exact .inr ⟨shape, widens.contracts_subset added h' (h'.inherits_self there)
        (ClassTable.mem_contracts_of_shapeOf single)⟩
    · rw [ClassTable.info_update_of_ne last] at is_root
      exact .inl is_root
  | @variant _ parent _ _ _ direct =>
    -- that the parent lists the class makes no new root
    rw [list_eq] at h' ⊢
    refine added_shaped.widens (.update rfl rfl rfl) added h' ?_
    intro other is_root
    by_cases lists : other = parent
    · have there : parent < (table.add info).next := by
        rw [ClassTable.next_add]
        exact Nat.lt_succ_of_lt (admissible.bases parent direct)
      subst lists
      rw [ClassTable.info_update_same there] at is_root
      exact .inl is_root
    · rw [ClassTable.info_update_of_ne lists] at is_root
      exact .inl is_root

theorem shaped_update {change : ClassInfo → ClassInfo} (shaped : table.Shaped)
    (h : table.WellFormed) (h' : (table.update id change).WellFormed) (old : id < table.next)
    (order : (change (table.info id)).order = (table.info id).order)
    (bases : (change (table.info id)).bases = (table.info id).bases)
    (contractual : (change (table.info id)).contractual = (table.info id).contractual)
    (isRoot : (change (table.info id)).isRoot = (table.info id).isRoot) :
    (table.update id change).Shaped := by
  refine shaped.widens (.update order bases contractual) h h' ?_
  intro other is_root
  by_cases same : other = id
  · subst same
    rw [ClassTable.info_update_same old, isRoot] at is_root
    exact .inl is_root
  · rw [ClassTable.info_update_of_ne same] at is_root
    exact .inl is_root

theorem Completed.shaped (completed : Completed table declaration id after) (shaped : table.Shaped)
    (h : table.WellFormed) (latest : Latest table id) : after.Shaped := by
  have well_formed := completed.wellFormed h latest
  cases completed with
  | bare => exact shaped
  | plain => exact shaped_update shaped h well_formed latest.lt_next rfl rfl rfl rfl
  | @slotted _ fields _ _ fielded _ again =>
    have first := withFields_wellFormed h latest (fieldsOf_unslotted fielded)
    -- the class is created a second time, from what the first one has got
    have first_shaped : (withFields table id fields).Shaped :=
      shaped_update shaped h first latest.lt_next rfl rfl rfl rfl
    have first_latest := latest.withFields fields
    have admissible := withSlots_admissible first first_latest fields
    obtain ⟨_, enrolled, second, rfl⟩ := createSlotted_spec first_latest again
    have second_latest := second.latest admissible
    have second_next := first_latest.next
    have enrolled_formed := second.wellFormed first admissible fun impossible => nomatch impossible
    have enrolled_shaped := second.shaped first_shaped first enrolled_formed admissible
    rw [second_next] at second_latest
    exact shaped_update enrolled_shaped enrolled_formed well_formed second_latest.lt_next
      rfl rfl rfl rfl

end Declaration

open Declaration (Valid)

namespace ClassTable

variable {table after later : ClassTable} {declaration : Declaration} {contract id : ClassId}

theorem declare_registered (h : table.WellFormed) (valid : declaration.Valid table) :
    (table.declare declaration).1.registered = table.registered := by
  rw [Declaration.declare_eq]
  cases accepted : Declaration.create table declaration with
  | error fault => rfl
  | ok created =>
    obtain ⟨info, described, _, enrolled⟩ := Declaration.create_spec accepted
    have admissible := (Declaration.describes_of_ok described).admissible h valid
    dsimp only
    cases completed : created.complete declaration table.next with
    | error fault => exact enrolled.registered_eq
    | ok after =>
      have same := (Declaration.complete_eq_ok_iff.mp completed).registered_eq
        (enrolled.latest admissible)
      exact same.trans enrolled.registered_eq

theorem declare_widens (h : table.WellFormed) (valid : declaration.Valid table) :
    table.Widens (table.declare declaration).1 :=
  .of_grows (declare_grows h valid) fun _ member => by rwa [declare_registered h valid]

theorem declare_shaped (h : table.WellFormed) (valid : declaration.Valid table)
    (shaped : table.Shaped) : (table.declare declaration).1.Shaped := by
  rw [Declaration.declare_eq]
  cases accepted : Declaration.create table declaration with
  | error fault => exact shaped
  | ok created =>
    obtain ⟨info, described, _, enrolled⟩ := Declaration.create_spec accepted
    have described := Declaration.describes_of_ok described
    have admissible := described.admissible h valid
    have well_formed := enrolled.wellFormed h admissible fun _ => described.fields
    have created_shaped := enrolled.shaped shaped h well_formed admissible
    dsimp only
    cases completed : created.complete declaration table.next with
    | error fault => exact created_shaped
    | ok after =>
      exact (Declaration.complete_eq_ok_iff.mp completed).shaped created_shaped well_formed
        (enrolled.latest admissible)

theorem register_widens (registered : table.register contract id = .ok after) :
    table.Widens after := by
  have same := register_classes registered
  refine .of_grows (.of_classes_eq same) ?_
  unfold register at registered
  split at registered
  · cases registered
  · split at registered
    · cases registered
      exact List.Subset.refl _
    · split at registered
      · cases registered
      · cases registered
        exact List.subset_append_left _ _

/-- A table comes of another one by further declarations, accepted or not, and registrations. -/
inductive Leads (table : ClassTable) : ClassTable → Prop
  | here : Leads table table
  | declared {after : ClassTable} {declaration : Declaration} :
      Leads table after → declaration.Valid after → Leads table (after.declare declaration).1
  | registered {after later : ClassTable} {contract id : ClassId} :
      Leads table after → after.register contract id = .ok later → Leads table later

theorem Leads.widens (leads : table.Leads later) (h : table.WellFormed) :
    later.WellFormed ∧ table.Widens later := by
  induction leads with
  | here => exact ⟨h, .refl table⟩
  | declared _ valid ih =>
    obtain ⟨well_formed, widens⟩ := ih
    exact ⟨declare_wellFormed well_formed valid, widens.trans (declare_widens well_formed valid)⟩
  | registered _ registered ih =>
    obtain ⟨well_formed, widens⟩ := ih
    exact ⟨well_formed.of_classes_eq (register_classes registered),
      widens.trans (register_widens registered)⟩

end ClassTable

private theorem initial_shaped : ClassTable.initial.Shaped := by
  have classes : ∀ id < 13, (ClassTable.initial.info id).isRoot = true →
      ClassTable.initial.contracts id ≠ [] := by decide
  intro root is_root
  exact List.exists_mem_of_ne_nil _ (classes root (ClassTable.lt_next_of_isRoot is_root) is_root)

theorem History.shaped {past : List Attempt} {table : ClassTable} (history : History past table) :
    table.Shaped := by
  induction history with
  | initial => exact initial_shaped
  | declared history valid ih => exact ClassTable.declare_shaped history.wellFormed valid ih
  | registered history registered ih =>
    have h := history.wellFormed
    have same := ClassTable.register_classes registered
    refine ih.widens (ClassTable.register_widens registered) h (h.of_classes_eq same) ?_
    intro root is_root
    refine .inl ?_
    rwa [ClassTable.info, same] at is_root

theorem ofSource_of_common {table : ClassTable} {shape : Shape} {items : List Item}
    (common : ∀ item ∈ items, ∃ object, item = .object object ∧
      shape ∈ table.contracts object.cls) :
    Pipeline.OfOneShape (ρ := Value) (ε := ClassFault) shape items
      (Pipeline.ofSource (Item.facts table) ⟨items, none⟩ none) := by
  apply Pipeline.ofSource_ofOneShape
  · intro item member
    obtain ⟨object, rfl, _⟩ := common item member
    rfl
  · intro item member
    obtain ⟨object, rfl, fulfilled⟩ := common item member
    exact fulfilled

/--
Whatever is declared or registered later, accepted or not, the contracts of a class stay and all
that inherit from it fulfil them too. So of a class with a single shape, and of all that inherit
from it, that shape is the only one that is ever shown alone, and instances of what inherits from
one root are never turned into pipelines of two different shapes. Fulfilment itself is
inheritance or, for a contract, the fulfilment of a class that is registered with it or derived
directly from it.
-/
theorem History.shapes_accumulate {past : List Attempt} {table : ClassTable}
    (history : History past table) :
    (∀ derived base, table.fulfils derived base = true ↔
      table.inherits derived base = true ∨ ((table.info base).contractual = true ∧
        ∃ middle ∈ table.below base, table.fulfils derived middle = true)) ∧
    (∀ later, table.Leads later → ∀ base derived, later.inherits derived base = true →
      table.contracts base ⊆ later.contracts derived ∧
        ∀ shape, table.shapeOf base = .ok shape → later.Commits derived shape) ∧
    ∀ root, (table.info root).isRoot = true → ∃ shape, ∀ later, table.Leads later →
      ∀ items : List Item,
        (∀ item ∈ items, ∃ object, item = .object object ∧
          later.inherits object.cls root = true) →
        Pipeline.OfOneShape (ρ := Value) (ε := ClassFault) shape items
          (Pipeline.ofSource (Item.facts later) ⟨items, none⟩ none) := by
  have h := history.wellFormed
  have kept {later : ClassTable} (leads : table.Leads later) {base derived : ClassId}
      (inherited : later.inherits derived base = true) :
      table.contracts base ⊆ later.contracts derived := by
    obtain ⟨well_formed, widens⟩ := leads.widens h
    exact widens.contracts_subset h well_formed inherited
  refine ⟨fun derived base => h.fulfils_eq_true_iff, ?_, ?_⟩
  · intro later leads base derived inherited
    refine ⟨kept leads inherited, ?_⟩
    intro shape single
    have fulfilled := ClassTable.mem_contracts_of_shapeOf single
    exact ClassTable.commits_of_mem_contracts (kept leads inherited fulfilled)
  · intro root is_root
    obtain ⟨shape, fulfilled⟩ := history.shaped root is_root
    refine ⟨shape, ?_⟩
    intro later leads items below
    apply ofSource_of_common
    intro item member
    obtain ⟨object, rfl, inherited⟩ := below item member
    exact ⟨object, rfl, kept leads inherited fulfilled⟩

private def derivedContract : Declaration :=
  { name := "Narrow", home := "m", qualifiedName := "Narrow", bases := [contractId .single] }

private def heir : Declaration :=
  { name := "Heir", home := "m", qualifiedName := "Heir", bases := [mixinId] }

/-- A class in no catalogue is registered with a class that is derived from a contract. -/
private def enlisted : ClassTable :=
  { (ClassTable.initial.declare derivedContract).1 with registered := [(13, mixinId)] }

/-- After a class has been derived from it, it is registered with another contract. -/
private def doublyEnlisted : ClassTable :=
  { (enlisted.declare heir).1 with registered := [(13, mixinId), (contractId .bare, mixinId)] }

private def enlistedPast : List Attempt := [⟨.initial, derivedContract⟩]

private theorem enlisted_history : History enlistedPast enlisted := by
  have declared : History enlistedPast (ClassTable.initial.declare derivedContract).1 :=
    .declared .initial (by decide)
  have accepted : (ClassTable.initial.declare derivedContract).1.register 13 mixinId =
      .ok enlisted := rfl
  exact .registered declared accepted

private theorem enlisted_leads : enlisted.Leads doublyEnlisted := by
  have declared : enlisted.Leads (enlisted.declare heir).1 := .declared .here (by decide)
  have accepted : (enlisted.declare heir).1.register (contractId .bare) mixinId =
      .ok doublyEnlisted := rfl
  exact .registered declared accepted

theorem History.shapes_accumulate_enlisted :
    History enlistedPast enlisted ∧ enlisted.Leads doublyEnlisted ∧
      enlisted.shapeOf mixinId = .ok .single ∧
      doublyEnlisted.shapeOf 14 = .error (.several "Heir" [.bare, .single]) ∧
      doublyEnlisted.Commits 14 .single ∧
      (enlisted.info worldOpId).isRoot = true ∧
      ∃ shape, Pipeline.OfOneShape (ρ := Value) (ε := ClassFault) shape
        [.object ⟨depositId, []⟩, .object ⟨11, []⟩]
        (Pipeline.ofSource (Item.facts doublyEnlisted)
          ⟨[.object ⟨depositId, []⟩, .object ⟨11, []⟩], none⟩ none) := by
  obtain ⟨_, kept, rooted⟩ := History.shapes_accumulate enlisted_history
  have single : enlisted.shapeOf mixinId = .ok .single := rfl
  have inherited : doublyEnlisted.inherits 14 mixinId = true := rfl
  have commits := (kept _ enlisted_leads mixinId 14 inherited).2 .single single
  obtain ⟨shape, one_shape⟩ := rooted worldOpId rfl
  refine ⟨enlisted_history, enlisted_leads, single, rfl, commits, rfl, shape, ?_⟩
  apply one_shape _ enlisted_leads
  intro item member
  simp only [List.mem_cons, List.not_mem_nil, or_false] at member
  rcases member with rfl | rfl
  · exact ⟨_, rfl, rfl⟩
  · exact ⟨_, rfl, rfl⟩

end Catalogue

end StepPipeline
