import Mathlib.Tactic.ByContra
import Mathlib.Tactic.Set
import StepPipeline.Proofs.Catalogue.Listing

/-!
Slots. A class with slots is created twice, and the second class is meant to take the place of the
first in the listing of its root. It does so just if it is listed as the same: if its plain name is
its qualified name and it keeps its home. Main result: `History.slotsTransparent_iff`.
-/

set_option autoImplicit false
set_option relaxedAutoImplicit false

namespace StepPipeline.Catalogue

open ClassTable (Grows WellFormed hidesRoot)

namespace Declaration

variable {table created first after : ClassTable} {declaration : Declaration} {info : ClassInfo}
  {id parent root : ClassId} {fields : Fields}

/-! ### The second creation of a class -/

def reslotted (first : ClassTable) (id parent : ClassId) (fields : Fields) : ClassTable :=
  let second := withSlots first (first.info id) fields
  (list (first.add second) parent first.next).update first.next fun created =>
    { created with qualifiedName := (first.info id).qualifiedName }

theorem reslotted_grows (first : ClassTable) (id parent : ClassId) (fields : Fields) :
    first.Grows (reslotted first id parent fields) := by
  have listed := list_grows ((Grows.refl first).add (withSlots first (first.info id) fields)) parent
    first.next
  rw [reslotted]
  exact listed.update_later (Nat.le_refl _) _

theorem next_reslotted (first : ClassTable) (id parent : ClassId) (fields : Fields) :
    (reslotted first id parent fields).next = first.next + 1 := by
  simp [reslotted, list]

theorem info_reslotted (id : ClassId) (fields : Fields) (old : parent < first.next) :
    (reslotted first id parent fields).info first.next =
      { withSlots first (first.info id) fields with
        qualifiedName := (first.info id).qualifiedName } := by
  have there : first.next < (list (first.add (withSlots first (first.info id) fields)) parent
      first.next).next := by
    simp [list]
  rw [reslotted, ClassTable.info_update_same there, info_list_of_ne (Nat.ne_of_gt old),
    ClassTable.info_add_next]

private theorem shown_again_iff {before : List (String × String)}
    {key second last : String × String} :
    (before.filter (· != key) ++ [key]).filter (· != second) ++ [last] =
        before.filter (· != key) ++ [key] ↔
      second = key ∧ last = key := by
  constructor
  · intro same
    obtain ⟨front, back⟩ := List.append_inj' same rfl
    refine ⟨?_, by simpa using back⟩
    by_contra distinct
    have kept : key ∈ (before.filter (· != key) ++ [key]).filter (· != second) :=
      List.mem_filter.mpr ⟨by simp, by simpa using Ne.symm distinct⟩
    rw [front] at kept
    simp at kept
  · rintro ⟨rfl, rfl⟩
    simp

/-- The last class of a table, in a catalogue and with fields but without slots. -/
structure Catalogued (first : ClassTable) (id : ClassId) (fields : Fields) : Prop where
  wellFormed : first.WellFormed
  latest : Latest first id
  inside : catalogueId ∈ (first.info id).order.tail
  seen : hidesHook first (first.info id).order.tail = false
  fielded : (first.info id).fields = some fields
  unslotted : fields.slots = []

namespace Catalogued

variable (catalogued : Catalogued first id fields)

include catalogued

theorem admissible : first.Admissible (withSlots first (first.info id) fields) :=
  withSlots_admissible catalogued.wellFormed catalogued.latest fields

theorem below : ∀ ancestor ∈ (first.info id).order.tail, ancestor < first.next := by
  intro ancestor member
  exact catalogued.wellFormed.lt_next catalogued.latest.lt_next (List.mem_of_mem_tail member)

/-- A class in a catalogue is created once more just if its slots leave the root of its ancestors
in view, that root is one of its bases, and the class is no root that holds itself. -/
theorem createSlotted_iff :
    createSlotted first (first.info id) fields = .ok after ↔
      ((first.info id).isRoot = true → fields.names.contains ClassTable.rootName = true) ∧
        hidesRoot (withSlots first (first.info id) fields).fields = false ∧
        ∃ parent ∈ (first.info id).bases,
          first.inheritedRoot? (first.info id).order.tail = some (.shared (.cls parent)) ∧
            after = reslotted first id parent fields := by
  have admissible := catalogued.admissible
  have inside :
      (first.add (withSlots first (first.info id) fields)).inCatalogue first.next = true := by
    rw [ClassTable.inCatalogue_iff, ClassTable.info_add_next]
    exact List.mem_cons_of_mem _ catalogued.inside
  have held (parent : ClassId) :
      (first.add (withSlots first (first.info id) fields)).attribute? first.next
          ClassTable.rootName = some (.cls parent) ↔
        hidesRoot (withSlots first (first.info id) fields).fields = false ∧
          first.inheritedRoot? (first.info id).order.tail = some (.shared (.cls parent)) := by
    rw [ClassTable.attribute?_rootName_eq_cls_iff, ClassTable.info_add_next,
      ClassTable.inheritedRoot?_add_eq_cls_iff catalogued.wellFormed admissible]
    rfl
  constructor
  · intro again
    obtain ⟨unhindered, enrolled, accepted, same⟩ := createSlotted_eq_ok_iff.mp again
    obtain ⟨_, second⟩ := enrol_eq_ok_iff.mp accepted
    cases second with
    | outside outside =>
      rw [inside] at outside
      cases outside
    | @variant _ parent _ _ reached direct =>
      obtain ⟨visible, inherited⟩ := (held parent).mp reached
      exact ⟨unhindered, visible, parent, direct, inherited, same⟩
  · rintro ⟨unhindered, visible, parent, direct, inherited, rfl⟩
    refine createSlotted_eq_ok_iff.mpr
      ⟨unhindered, _, enrol_eq_ok_iff.mpr ⟨catalogued.seen, ?_⟩, rfl⟩
    exact .variant inside nofun ((held parent).mpr ⟨visible, inherited⟩) direct

theorem keys_reslotted (old : parent < first.next) :
    (reslotted first id parent fields).keys parent =
      (first.keys parent).filter (· != (withSlots first (first.info id) fields).key) ++
        [((withSlots first (first.info id) fields).home, (first.info id).qualifiedName)] := by
  have there : parent < (first.add (withSlots first (first.info id) fields)).next := by
    rw [ClassTable.next_add]
    exact Nat.lt_succ_of_lt old
  have variants : ((reslotted first id parent fields).info parent).variants =
      relisted (first.add (withSlots first (first.info id) fields)) first.next
        (first.info parent).variants := by
    rw [reslotted, ClassTable.info_update_of_ne (Nat.ne_of_lt old), info_list_same there,
      ClassTable.info_add_of_ne (Nat.ne_of_lt old)]
  rw [keys_relisted catalogued.wellFormed variants (reslotted_grows first id parent fields),
    info_reslotted id fields old]
  rfl

theorem keys_reslotted_of_ne (old : root < first.next) (distinct : root ≠ parent) :
    (reslotted first id parent fields).keys root = first.keys root := by
  refine keys_unlisted catalogued.wellFormed ?_ (reslotted_grows first id parent fields)
  rw [reslotted, ClassTable.info_update_of_ne (Nat.ne_of_lt old), info_list_of_ne distinct,
    ClassTable.info_add_of_ne (Nat.ne_of_lt old)]

theorem listing_first (unrooted : (first.info id).isRoot = false)
    (inherited : first.inheritedRoot? (first.info id).order.tail = some (.shared (.cls parent))) :
    first.listing id = .ok (first.keys parent) := by
  have ordered := catalogued.wellFormed.ordered id catalogued.latest.lt_next
  have visible : hidesRoot (first.info id).fields = false := by
    rw [catalogued.fielded]
    simp [hidesRoot, catalogued.unslotted]
  have not_catalogue : id ≠ catalogueId :=
    Nat.ne_of_gt (ordered.below catalogueId catalogued.inside)
  refine ClassTable.listing_of_held ?_
  rw [ordered.inheritedRoot?_eq visible unrooted not_catalogue]
  exact inherited

theorem listing_reslotted (old : parent < first.next)
    (visible : hidesRoot (withSlots first (first.info id) fields).fields = false)
    (inherited : first.inheritedRoot? (first.info id).order.tail = some (.shared (.cls parent))) :
    (reslotted first id parent fields).listing first.next =
      .ok ((reslotted first id parent fields).keys parent) := by
  have grown := reslotted_grows first id parent fields
  have second := info_reslotted id fields old
  have ordered : (reslotted first id parent fields).Ordered first.next
      (withSlots first (first.info id) fields).order :=
    catalogued.admissible.ordered.congr fun ancestor member =>
      grown.order_eq (catalogued.below ancestor member)
  refine ClassTable.listing_of_held ?_
  rw [second, ordered.inheritedRoot?_eq (by rw [second]; exact visible) (by rw [second]; rfl)
    (Nat.ne_of_gt catalogued.wellFormed.catalogue)]
  exact (grown.inheritedRoot?_eq catalogued.below).trans inherited

theorem keys_reslotted_eq_iff (old : parent < first.next) {before : List (String × String)}
    (shown : first.keys parent =
      before.filter (· != (first.info id).key) ++ [(first.info id).key]) :
    (reslotted first id parent fields).keys parent = first.keys parent ↔
      (first.info id).name = (first.info id).qualifiedName ∧
        (withSlots first (first.info id) fields).home = (first.info id).home := by
  rw [catalogued.keys_reslotted old, shown, shown_again_iff]
  constructor
  · rintro ⟨second, last⟩
    exact ⟨congrArg Prod.snd second, congrArg Prod.fst last⟩
  · rintro ⟨name, home⟩
    exact ⟨Prod.ext home name, Prod.ext home rfl⟩

end Catalogued

/-! ### Declarations with and without slots -/

theorem plain_accepted {own : List String} (given : declaration.fields = some own)
    (accepted : (table.declare { declaration with slots := false }).2 = none) :
    ∃ created fields, create table declaration = .ok created ∧
      fieldsOf created table.next declaration.qualifiedName own = .ok fields := by
  rw [declare_eq] at accepted
  have same : create table { declaration with slots := false } = create table declaration := rfl
  rw [same] at accepted
  cases creation : create table declaration with
  | error fault =>
    rw [creation] at accepted
    cases accepted
  | ok created =>
    rw [creation] at accepted
    dsimp only at accepted
    cases fielded : fieldsOf created table.next declaration.qualifiedName own with
    | error fault =>
      simp [ClassTable.complete, given, fielded, bind, Except.bind] at accepted
    | ok fields => exact ⟨created, fields, rfl, fielded⟩

theorem declare_slots {own : List String} (given : declaration.fields = some own)
    (creation : create table declaration = .ok created)
    (fielded : fieldsOf created table.next declaration.qualifiedName own = .ok fields) :
    let first := withFields created table.next fields
    table.declare { declaration with slots := false } = (first, none) ∧
      table.declare { declaration with slots := true } =
        match createSlotted first (first.info table.next) fields with
        | .error fault => (created, some fault)
        | .ok after => (after, none) := by
  intro first
  have same (slots : Bool) : create table { declaration with slots } = .ok created := creation
  refine ⟨?_, ?_⟩
  · rw [declare_eq, same]
    simp [ClassTable.complete, given, fielded, bind, Except.bind, pure, Except.pure, first,
      withFields]
  · rw [declare_eq, same]
    simp only [ClassTable.complete, given, fielded, bind, Except.bind, if_true]
    rfl

theorem catalogued_of_created (h : table.WellFormed) (valid : declaration.Valid table)
    (described : declaration.describe table = .ok info)
    (seen : hidesHook table info.order.tail = false)
    (enrolled : Enrolled table info declaration.root created) {owner : String} {own : List String}
    (fielded : fieldsOf created table.next owner own = .ok fields)
    (inside : (withFields created table.next fields).inCatalogue table.next = true) :
    Catalogued (withFields created table.next fields) table.next fields := by
  have description := describes_of_ok described
  have admissible := description.admissible h valid
  have latest := enrolled.latest admissible
  have well_formed := enrolled.wellFormed h admissible fun _ => description.fields
  have unslotted := fieldsOf_unslotted fielded
  have grown : table.Grows (withFields created table.next fields) :=
    enrolled.grows.update_later (Nat.le_refl _) _
  have order : ((withFields created table.next fields).info table.next).order = info.order := by
    rw [info_withFields latest, enrolled.info_next admissible]
  refine ⟨withFields_wellFormed well_formed latest unslotted, latest.withFields fields, ?_, ?_, ?_,
    unslotted.2⟩
  · rw [ClassTable.inCatalogue_iff, order, admissible.ordered.mem_iff] at inside
    rw [order]
    exact inside.resolve_left (Nat.ne_of_lt h.catalogue)
  · rw [order, grown.hidesHook_eq admissible.ordered.below]
    exact seen
  · rw [info_withFields latest]

/-- Do slots leave in place what all roots show, and what the declared class shows? -/
def SlotsTransparent (table : ClassTable) (declaration : Declaration) : Prop :=
  let plain := table.declare { declaration with slots := false }
  let slotted := table.declare { declaration with slots := true }
  slotted.2 = none ∧
    (∀ root < table.next, (table.info root).isRoot = true →
      slotted.1.listing root = plain.1.listing root) ∧
    slotted.1.listing (slotted.1.next - 1) = plain.1.listing (plain.1.next - 1)

theorem Enrolled.listed {root : Option Bool} (enrolled : Enrolled table info root created)
    (h : table.WellFormed) (admissible : table.Admissible info) (no_root : root ≠ some true)
    (inside : catalogueId ∈ info.order) :
    ∃ parent ∈ info.bases, table.inheritedRoot? info.order.tail = some (.shared (.cls parent)) ∧
      created = list (table.add info) parent table.next := by
  cases enrolled with
  | outside outside =>
    rw [← Bool.not_eq_true, ClassTable.inCatalogue_iff, ClassTable.info_add_next] at outside
    exact absurd inside outside
  | root => exact absurd rfl no_root
  | @variant _ parent _ _ reached direct =>
    rw [ClassTable.attribute?_rootName_eq_cls_iff, ClassTable.info_add_next,
      ClassTable.inheritedRoot?_add_eq_cls_iff h admissible] at reached
    exact ⟨parent, direct, reached.2, rfl⟩

theorem keys_withFields (h : table.WellFormed) {parent : ClassId} (older : parent < table.next)
    (enrolled : created = list (table.add info) parent table.next)
    (grown : table.Grows (withFields created table.next fields))
    (key : ((withFields created table.next fields).info table.next).key = info.key) :
    (withFields created table.next fields).keys parent =
      (table.keys parent).filter (· != info.key) ++ [info.key] := by
  have there : parent < (table.add info).next := by
    rw [ClassTable.next_add]
    exact Nat.lt_succ_of_lt older
  have variants : ((withFields created table.next fields).info parent).variants =
      relisted (table.add info) table.next (table.info parent).variants := by
    rw [withFields, ClassTable.info_update_of_ne (Nat.ne_of_lt older), enrolled,
      info_list_same there, ClassTable.info_add_of_ne (Nat.ne_of_lt older)]
  rw [keys_relisted h variants grown, key]

theorem withSlots_home_eq_iff :
    (withSlots table info fields).home = info.home ↔
      (fields.names.contains "__module__" = true → makerHome info = info.home) := by
  have home : (withSlots table info fields).home =
      if fields.names.contains "__module__" then makerHome info else info.home := rfl
  rw [home]
  split
  next moved => exact ⟨fun same _ => same, fun same => same moved⟩
  next stays => exact ⟨fun _ moved => absurd moved stays, fun _ => rfl⟩

/--
A class of a catalogue that is declared as a frozen record and accepted without slots: `created` is
the table in which it is listed, and `first` the one in which it has its fields.
-/
structure Frozen (table : ClassTable) (declaration : Declaration) (info : ClassInfo)
    (created first : ClassTable) (fields : Fields) : Prop where
  wellFormed : table.WellFormed
  admissible : table.Admissible info
  key : info.key = (declaration.home, declaration.qualifiedName)
  name : info.name = declaration.name
  enrolled : Enrolled table info declaration.root created
  completed : first = withFields created table.next fields
  plain : table.declare { declaration with slots := false } = (first, none)
  slotted : table.declare { declaration with slots := true } =
    match createSlotted first (first.info table.next) fields with
    | .error fault => (created, some fault)
    | .ok after => (after, none)
  catalogued : Catalogued first table.next fields

theorem frozen_of_accepted {own : List String} (h : table.WellFormed)
    (valid : declaration.Valid table) (given : declaration.fields = some own)
    (accepted : (table.declare { declaration with slots := false }).2 = none)
    (inside : (table.declare { declaration with slots := false }).1.inCatalogue table.next = true) :
    ∃ info created first fields, Frozen table declaration info created first fields := by
  obtain ⟨created, fields, creation, fieldsOf_ok⟩ := plain_accepted given accepted
  obtain ⟨plain, slotted⟩ := declare_slots given creation fieldsOf_ok
  obtain ⟨info, described, seen, enrolled⟩ := create_spec creation
  have description := describes_of_ok described
  refine ⟨info, created, _, fields, h, description.admissible h valid, description.key,
    description.name, enrolled, rfl, plain, slotted, ?_⟩
  refine catalogued_of_created h valid described seen enrolled fieldsOf_ok ?_
  rwa [plain] at inside

namespace Frozen

variable (frozen : Frozen table declaration info created first fields)

include frozen

theorem grown : table.Grows first := by
  rw [frozen.completed]
  exact frozen.enrolled.grows.update_later (Nat.le_refl _) _

theorem info_first :
    first.info table.next =
      { info with isRoot := decide (declaration.root = some true), fields := some fields } := by
  rw [frozen.completed, info_withFields (frozen.enrolled.latest frozen.admissible),
    frozen.enrolled.info_next frozen.admissible]

theorem key_first :
    (first.info table.next).key = (declaration.home, declaration.qualifiedName) := by
  rw [frozen.info_first]
  exact frozen.key

theorem listed (no_root : declaration.root ≠ some true) :
    ∃ parent ∈ (first.info table.next).bases,
      first.inheritedRoot? (first.info table.next).order.tail = some (.shared (.cls parent)) ∧
        first.keys parent =
          (table.keys parent).filter (· != (declaration.home, declaration.qualifiedName)) ++
            [(declaration.home, declaration.qualifiedName)] := by
  have inside : catalogueId ∈ info.order := by
    have tail := List.mem_of_mem_tail frozen.catalogued.inside
    rwa [frozen.info_first] at tail
  obtain ⟨parent, direct, inherited, listed⟩ :=
    frozen.enrolled.listed frozen.wellFormed frozen.admissible no_root inside
  rw [frozen.info_first]
  refine ⟨parent, direct, ?_, ?_⟩
  · exact (frozen.grown.inheritedRoot?_eq frozen.admissible.ordered.below).trans inherited
  · have key : (first.info table.next).key = info.key := frozen.key_first.trans frozen.key.symm
    have grown := frozen.grown
    rw [frozen.completed] at key grown ⊢
    rw [← frozen.key]
    exact keys_withFields frozen.wellFormed (frozen.admissible.bases parent direct) listed grown key

theorem not_slotsTransparent_of_root (is_root : declaration.root = some true) :
    ¬declaration.SlotsTransparent table := by
  have catalogued := frozen.catalogued
  have root_info : (first.info table.next).isRoot = true := by
    rw [frozen.info_first]
    exact decide_eq_true is_root
  rintro ⟨accepted, _, last⟩
  rw [frozen.plain] at last
  cases again : createSlotted first (first.info table.next) fields with
  | error fault =>
    rw [frozen.slotted, again] at accepted
    cases accepted
  | ok after =>
    rw [frozen.slotted, again] at last
    obtain ⟨_, visible, parent, direct, inherited, rfl⟩ := catalogued.createSlotted_iff.mp again
    have old : parent < first.next :=
      Nat.lt_trans (catalogued.latest.bases parent direct) catalogued.latest.lt_next
    have listed := catalogued.listing_reslotted old visible inherited
    have empty : first.keys table.next = [] := by
      rw [ClassTable.keys, catalogued.latest.variants]
      rfl
    rw [next_reslotted, Nat.add_sub_cancel, listed, catalogued.keys_reslotted old,
      catalogued.latest.next, Nat.add_sub_cancel, catalogued.wellFormed.listing_root root_info,
      empty] at last
    simp at last

theorem same_of_transparent (direct : parent ∈ (first.info table.next).bases)
    (inherited : first.inheritedRoot? (first.info table.next).order.tail =
      some (.shared (.cls parent)))
    (transparent : declaration.SlotsTransparent table) :
    hidesRoot (withSlots first (first.info table.next) fields).fields = false ∧
      (reslotted first table.next parent fields).keys parent = first.keys parent := by
  obtain ⟨accepted, roots, _⟩ := transparent
  have catalogued := frozen.catalogued
  have earlier : parent < table.next := catalogued.latest.bases parent direct
  have old : parent < first.next := Nat.lt_trans earlier catalogued.latest.lt_next
  have is_root : (first.info parent).isRoot = true :=
    (ClassTable.inheritedRoot?_spec inherited).2.1
  cases again : createSlotted first (first.info table.next) fields with
  | error fault =>
    rw [frozen.slotted, again] at accepted
    cases accepted
  | ok after =>
    have after_wf := createSlotted_wellFormed catalogued.wellFormed catalogued.latest again
    have same := roots parent earlier (by rw [← frozen.grown.isRoot_eq earlier]; exact is_root)
    rw [frozen.plain, frozen.slotted, again] at same
    obtain ⟨_, visible, other, _, other_inherited, rfl⟩ := catalogued.createSlotted_iff.mp again
    obtain rfl : other = parent := by
      rw [inherited] at other_inherited
      simpa using other_inherited.symm
    have still_root :=
      ((reslotted_grows first table.next other fields).isRoot_eq old).trans is_root
    rw [after_wf.listing_root still_root, catalogued.wellFormed.listing_root is_root] at same
    exact ⟨visible, Except.ok.inj same⟩

theorem transparent_of_same (no_root : declaration.root ≠ some true)
    (direct : parent ∈ (first.info table.next).bases)
    (inherited : first.inheritedRoot? (first.info table.next).order.tail =
      some (.shared (.cls parent)))
    (visible : hidesRoot (withSlots first (first.info table.next) fields).fields = false)
    (same : (reslotted first table.next parent fields).keys parent = first.keys parent) :
    declaration.SlotsTransparent table := by
  have catalogued := frozen.catalogued
  have unrooted : (first.info table.next).isRoot = false := by
    rw [frozen.info_first]
    exact decide_eq_false no_root
  have old : parent < first.next :=
    Nat.lt_trans (catalogued.latest.bases parent direct) catalogued.latest.lt_next
  have again : createSlotted first (first.info table.next) fields =
      .ok (reslotted first table.next parent fields) :=
    catalogued.createSlotted_iff.mpr ⟨by simp [unrooted], visible, parent, direct, inherited, rfl⟩
  have after_wf := createSlotted_wellFormed catalogued.wellFormed catalogued.latest again
  refine ⟨by rw [frozen.slotted, again], ?_, ?_⟩
  · intro root lt was_root
    have there : root < first.next := Nat.lt_trans lt catalogued.latest.lt_next
    have first_root := (frozen.grown.isRoot_eq lt).trans was_root
    have still_root :=
      ((reslotted_grows first table.next parent fields).isRoot_eq there).trans first_root
    rw [frozen.plain, frozen.slotted, again, catalogued.wellFormed.listing_root first_root,
      after_wf.listing_root still_root]
    by_cases is_parent : root = parent
    · rw [is_parent, same]
    · rw [catalogued.keys_reslotted_of_ne there is_parent]
  · rw [frozen.plain, frozen.slotted, again]
    dsimp only
    rw [next_reslotted, Nat.add_sub_cancel, catalogued.listing_reslotted old visible inherited,
      same, catalogued.latest.next, Nat.add_sub_cancel,
      catalogued.listing_first unrooted inherited]

/-- Slots leave a class as it is shown just if it is no root, it is listed as the same class twice,
and the slots leave its root in view. -/
theorem transparent_iff :
    declaration.SlotsTransparent table ↔
      declaration.root ≠ some true ∧ declaration.name = declaration.qualifiedName ∧
        (fields.names.contains "__module__" = true →
          makerHome (first.info table.next) = declaration.home) ∧
        hidesRoot (withSlots first (first.info table.next) fields).fields = false := by
  by_cases is_root : declaration.root = some true
  · simp [is_root, frozen.not_slotsTransparent_of_root is_root]
  obtain ⟨parent, direct, inherited, shown⟩ := frozen.listed is_root
  have old : parent < first.next :=
    Nat.lt_trans (frozen.catalogued.latest.bases parent direct) frozen.catalogued.latest.lt_next
  have name : (first.info table.next).name = declaration.name := by
    rw [frozen.info_first]
    exact frozen.name
  have home : (first.info table.next).home = declaration.home := congrArg Prod.fst frozen.key_first
  have qualified_name : (first.info table.next).qualifiedName = declaration.qualifiedName :=
    congrArg Prod.snd frozen.key_first
  rw [← frozen.key_first] at shown
  have same_iff := frozen.catalogued.keys_reslotted_eq_iff old shown
  rw [withSlots_home_eq_iff, name, home, qualified_name] at same_iff
  constructor
  · intro transparent
    obtain ⟨visible, same⟩ := frozen.same_of_transparent direct inherited transparent
    obtain ⟨same_name, same_home⟩ := same_iff.mp same
    exact ⟨is_root, same_name, same_home, visible⟩
  · rintro ⟨_, same_name, same_home, visible⟩
    exact frozen.transparent_of_same is_root direct inherited visible
      (same_iff.mpr ⟨same_name, same_home⟩)

theorem shown (no_root : declaration.root ≠ some true) :
    ∃ root shown, (table.info root).isRoot = true ∧ table.listing root = .ok shown ∧
      first.listing root =
        .ok (shown.filter (· != (declaration.home, declaration.qualifiedName)) ++
          [(declaration.home, declaration.qualifiedName)]) := by
  obtain ⟨parent, direct, inherited, shown⟩ := frozen.listed no_root
  have earlier : parent < table.next := frozen.catalogued.latest.bases parent direct
  have is_root : (first.info parent).isRoot = true :=
    (ClassTable.inheritedRoot?_spec inherited).2.1
  have was_root : (table.info parent).isRoot = true :=
    (frozen.grown.isRoot_eq earlier).symm.trans is_root
  refine ⟨parent, table.keys parent, was_root, frozen.wellFormed.listing_root was_root, ?_⟩
  rw [frozen.catalogued.wellFormed.listing_root is_root, shown]

end Frozen

end Declaration

/-! ### The main result -/

/--
A class in a catalogue that is accepted as a frozen record is shown with slots as it is shown
without them just if it is no root, its plain name is its qualified name, it stays in its home, and
its slots leave the root in view. Without slots a variant is shown once by its root, as the last one,
and what the root has shown otherwise stays.
-/
theorem History.slotsTransparent_iff {past : List Attempt} {table : ClassTable}
    (history : History past table) {declaration : Declaration} (valid : declaration.Valid table)
    (fielded : declaration.fields ≠ none) :
    let plain := table.declare { declaration with slots := false }
    let info := plain.1.info table.next
    let key := (declaration.home, declaration.qualifiedName)
    plain.2 = none → plain.1.inCatalogue table.next = true →
      ∃ fields, info.fields = some fields ∧
        (declaration.SlotsTransparent table ↔
          declaration.root ≠ some true ∧ declaration.name = declaration.qualifiedName ∧
            (fields.names.contains "__module__" = true →
              Declaration.makerHome info = declaration.home) ∧
            hidesRoot (Declaration.withSlots plain.1 info fields).fields = false) ∧
        (declaration.root ≠ some true → ∃ root shown, (table.info root).isRoot = true ∧
          table.listing root = .ok shown ∧
          plain.1.listing root = .ok (shown.filter (· != key) ++ [key])) := by
  intro plain info key accepted inside
  obtain ⟨own, given⟩ := Option.ne_none_iff_exists'.mp fielded
  obtain ⟨described, created, first, fields, frozen⟩ :=
    Declaration.frozen_of_accepted history.wellFormed valid given accepted inside
  have plain_first : plain.1 = first := congrArg Prod.fst frozen.plain
  have info_first : info = first.info table.next := by
    simp only [info, plain_first]
  rw [plain_first, info_first]
  exact ⟨fields, frozen.catalogued.fielded, frozen.transparent_iff, frozen.shown⟩

private def emptyRoot : Declaration :=
  { name := "Op", home := "m", qualifiedName := "Op", bases := [catalogueId, contractId .single]
    root := some true, handled := some ["A"] }

private def emptyCatalogue : ClassTable :=
  (ClassTable.initial.declare emptyRoot).1

/-- A variant without fields that is declared within another class. -/
private def nestedVariant : Declaration :=
  { name := "A", home := "m", qualifiedName := "Outer.A", bases := [13], fields := some [] }

private theorem signature_of_no_fields : Signature.fault? [] = none := by
  decide +kernel

private def nestedInfo : ClassInfo :=
  { name := "A", home := "m", qualifiedName := "Outer.A", bases := [13]
    order := [14, 13, 2, 4, 1, 0], contractual := true, references := some 2 }

private def nestedTable : ClassTable :=
  Declaration.list (emptyCatalogue.add nestedInfo) 13 14

private theorem nestedVariant_created :
    Declaration.create emptyCatalogue nestedVariant = .ok nestedTable :=
  Declaration.create_eq_ok_iff.mpr ⟨nestedInfo, rfl, rfl⟩

private theorem nestedVariant_fields :
    Declaration.fieldsOf nestedTable 14 "Outer.A" [] = .ok { all := [], owner := "Outer.A" } := by
  have visible :
      [13, 2, 4, 1, 0].reverse.findSome? (Declaration.hiddenFields? nestedTable) = none := rfl
  have fault : Declaration.fieldsFault? nestedTable 14 [] [] = none := by
    have order : (nestedTable.info 14).order.tail = [13, 2, 4, 1, 0] := rfl
    rw [Declaration.fieldsFault?, order, visible]
    simp [Declaration.misplaced?, signature_of_no_fields]
  have inherited :
      Declaration.inheritedFields nestedTable (nestedTable.info 14).order.tail = [] := rfl
  have unfinished : (nestedTable.attribute? 14 ClassTable.finishName).isSome = false := rfl
  simp only [Declaration.fieldsOf, List.map_nil, List.foldl_nil, inherited, fault, unfinished]

theorem History.slotsTransparent_iff_nestedVariant :
    ∃ past, History past emptyCatalogue ∧ nestedVariant.Valid emptyCatalogue ∧
      (emptyCatalogue.declare nestedVariant).2 = none ∧
      (emptyCatalogue.declare nestedVariant).1.inCatalogue emptyCatalogue.next = true ∧
      ¬nestedVariant.SlotsTransparent emptyCatalogue := by
  have history : History _ emptyCatalogue := .declared .initial (by decide)
  have valid : nestedVariant.Valid emptyCatalogue := by decide
  have plain := (Declaration.declare_slots rfl nestedVariant_created nestedVariant_fields).1
  have accepted : (emptyCatalogue.declare nestedVariant).2 = none := congrArg Prod.snd plain
  have inside :
      (emptyCatalogue.declare nestedVariant).1.inCatalogue emptyCatalogue.next = true := by
    rw [show (emptyCatalogue.declare nestedVariant).1 = _ from congrArg Prod.fst plain]
    rfl
  obtain ⟨_, _, transparent_iff, _⟩ :=
    History.slotsTransparent_iff history valid (by decide) accepted inside
  refine ⟨_, history, valid, accepted, inside, ?_⟩
  intro transparent
  have same_name := (transparent_iff.mp transparent).2.1
  exact absurd same_name (by decide)

end StepPipeline.Catalogue
