import StepPipeline.Proofs.Catalogue.Closed

/-!
What roots list after a whole history of declarations without slots. A root lists the classes that
have it as their nearest root and are no roots themselves, in the order of their creation, and of
those that are shown as the same only the latest. Main result: `History.roots_list_latest`.
-/

set_option autoImplicit false
set_option relaxedAutoImplicit false

namespace StepPipeline.Catalogue

open ClassTable (Grows WellFormed)

/-! ### The latest of each key -/

section Latest

variable {α κ : Type} [DecidableEq κ] {key : α → κ}

def latestRows (key : α → κ) : List α → List α
  | [] => []
  | row :: later =>
    if key row ∈ later.map key then latestRows key later else row :: latestRows key later

theorem mem_of_mem_latestRows {rows : List α} {row : α} (kept : row ∈ latestRows key rows) :
    row ∈ rows := by
  induction rows with
  | nil => exact kept
  | cons first later ih =>
    simp only [latestRows] at kept
    split at kept
    · exact List.mem_cons_of_mem first (ih kept)
    · rcases List.mem_cons.mp kept with rfl | kept
      · exact List.mem_cons_self
      · exact List.mem_cons_of_mem first (ih kept)

theorem nodup_keys_latestRows (rows : List α) : ((latestRows key rows).map key).Nodup := by
  induction rows with
  | nil => exact List.nodup_nil
  | cons first later ih =>
    simp only [latestRows]
    split
    · exact ih
    next fresh =>
      refine List.nodup_cons.mpr ⟨fun again => fresh ?_, ih⟩
      obtain ⟨other, kept, same⟩ := List.mem_map.mp again
      exact List.mem_map.mpr ⟨other, mem_of_mem_latestRows kept, same⟩

theorem latestRows_append_singleton (rows : List α) (row : α) :
    latestRows key (rows ++ [row]) =
      (latestRows key rows).filter (fun other => key other ≠ key row) ++ [row] := by
  induction rows with
  | nil => rfl
  | cons first later ih =>
    simp only [List.cons_append, latestRows, List.map_append, List.map_cons, List.map_nil,
      List.mem_append, List.mem_singleton]
    by_cases again : key first ∈ later.map key
    · simp only [again, true_or, if_true, ih]
    · rw [if_neg again]
      by_cases taken : key first = key row
      · simp [taken, ih]
      · simp only [again, taken, or_self, if_false, ih]
        simp [taken]

theorem latestRows_congr {key' : α → κ} {rows : List α}
    (same : ∀ row ∈ rows, key' row = key row) : latestRows key' rows = latestRows key rows := by
  induction rows with
  | nil => rfl
  | cons first later ih =>
    have later_same : ∀ row ∈ later, key' row = key row :=
      fun row member => same row (List.mem_cons_of_mem first member)
    simp only [latestRows, same first List.mem_cons_self, List.map_congr_left later_same,
      ih later_same]

end Latest

/-! ### Nearest roots -/

namespace ClassTable

variable {table before after : ClassTable} {id root : ClassId}

/-- Is a class no root itself, and the given one its nearest root? -/
def isVariantOf (table : ClassTable) (root id : ClassId) : Bool :=
  !(table.info id).isRoot && table.nearestRoot? id == some root

/-- What a root lists if the given classes have been created in this order. -/
def roll (table : ClassTable) (created : List ClassId) (root : ClassId) : List ClassId :=
  latestRows (fun id => (table.info id).key) (created.filter (table.isVariantOf root))

theorem Grows.isVariantOf_eq (grown : before.Grows after) (h : before.WellFormed)
    (old : id < before.next) : after.isVariantOf root id = before.isVariantOf root id := by
  simp only [isVariantOf, grown.isRoot_eq old, grown.nearestRoot?_eq h old]

theorem Grows.roll_eq (grown : before.Grows after) (h : before.WellFormed) {created : List ClassId}
    (old : ∀ id ∈ created, id < before.next) :
    after.roll created root = before.roll created root := by
  have same_filter : created.filter (after.isVariantOf root) =
      created.filter (before.isVariantOf root) :=
    List.filter_congr fun id member => grown.isVariantOf_eq h (old id member)
  unfold roll
  rw [same_filter]
  exact latestRows_congr fun id member => grown.key_eq (old id (List.mem_filter.mp member).1)

theorem Closed.isVariantOf_eq_false (closed : table.Closed) (h : table.WellFormed)
    (unlisted : table.inCatalogue id = false ∨ (table.info id).isRoot = true) (root : ClassId) :
    table.isVariantOf root id = false := by
  rw [← Bool.not_eq_true, isVariantOf, Bool.and_eq_true, beq_iff_eq]
  rintro ⟨unrooted, near⟩
  obtain ⟨inherited, is_root⟩ := nearestRoot?_spec near
  rcases unlisted with outside | rooted
  · rw [(closed.inCatalogue_of_inherits h is_root inherited).1] at outside
    cases outside
  · simp [rooted] at unrooted

theorem Belongs.isVariantOf_iff (belongs : table.Belongs id root) (h : table.WellFormed)
    (old : id < table.next) (unrooted : (table.info id).isRoot = false) {other : ClassId} :
    table.isVariantOf other id = true ↔ other = root := by
  have near : table.nearestRoot? id = some root := belongs.nearestRoot?_eq h old unrooted
  rw [isVariantOf, unrooted, near, Bool.not_false, Bool.true_and, beq_iff_eq, Option.some.injEq]
  exact eq_comm

/-- What a root lists by the classes of a table, and that no class of it has slots. -/
structure Registers (table : ClassTable) : Prop where
  unslotted : ∀ id fields, (table.info id).fields = some fields → fields.slots = []
  listed : ∀ root, (table.info root).isRoot = true →
    (table.info root).variants = table.roll (List.range table.next) root

/-- One more class takes the place of what is shown as the same in the roll of its nearest root. -/
theorem Grows.roll_succ (grown : before.Grows after) (h : before.WellFormed) :
    after.roll (List.range (before.next + 1)) root =
      if after.isVariantOf root before.next then
        (before.roll (List.range before.next) root).filter
          (fun other => (before.info other).key != (after.info before.next).key) ++ [before.next]
      else before.roll (List.range before.next) root := by
  have old : ∀ id ∈ List.range before.next, id < before.next := fun id member =>
    List.mem_range.mp member
  have earlier : after.roll (List.range before.next) root =
      before.roll (List.range before.next) root := grown.roll_eq h old
  unfold roll at earlier ⊢
  rw [List.range_succ, List.filter_append]
  split
  next listed =>
    rw [List.filter_cons_of_pos listed, List.filter_nil, latestRows_append_singleton, earlier]
    congr 1
    refine List.filter_congr fun other member => ?_
    have lt := old other (List.mem_filter.mp (mem_of_mem_latestRows member)).1
    rw [grown.key_eq lt, Bool.eq_iff_iff, decide_eq_true_iff, bne_iff_ne]
  next unlisted =>
    rw [List.filter_cons_of_neg unlisted, List.filter_nil, List.append_nil, earlier]

theorem roll_of_last (h : table.WellFormed) (last : table.next = root + 1)
    (is_root : (table.info root).isRoot = true) :
    table.roll (List.range table.next) root = [] := by
  have no_variant : ∀ id ∈ List.range table.next, ¬ table.isVariantOf root id = true := by
    intro id member is_variant
    rw [isVariantOf, Bool.and_eq_true, beq_iff_eq] at is_variant
    obtain ⟨inherited, _⟩ := nearestRoot?_spec is_variant.2
    have there : id < table.next := List.mem_range.mp member
    have le := (h.ordered id there).le inherited
    rw [last] at there
    obtain rfl : id = root := Nat.le_antisymm (Nat.le_of_lt_succ there) le
    simp [is_root] at is_variant
  rw [roll, List.filter_eq_nil_iff.mpr no_variant]
  rfl

end ClassTable

/-! ### Declarations without slots -/

namespace Declaration

variable {table created after : ClassTable} {declaration : Declaration} {info : ClassInfo}
  {id : ClassId}

/-- A table in which the last class may have been given fields, none of them in slots. -/
structure Fielded (created after : ClassTable) (last : ClassId) : Prop where
  next : after.next = created.next
  others : ∀ id, id ≠ last → after.info id = created.info id
  last : ∃ fields, after.info last = { created.info last with fields } ∧
    ∀ held, fields = some held → held.slots = []

theorem Fielded.settles (fielded : Fielded created after id) : Settles created after id := by
  obtain ⟨fields, last, unslotted⟩ := fielded.last
  refine ⟨fielded.next, fielded.others, by rw [last], by rw [last], by rw [last], fun _ => ?_⟩
  rw [last]
  cases fields with
  | none => rfl
  | some held => simp [ClassTable.hidesRoot, unslotted held rfl]

theorem declare_fielded (h : table.WellFormed) (valid : declaration.Valid table)
    (unslotted : declaration.slots = false) (accepted : create table declaration = .ok created) :
    Fielded created (table.declare declaration).1 table.next := by
  obtain ⟨info, described, _, enrolled⟩ := create_spec accepted
  have description := describes_of_ok described
  have admissible := description.admissible h valid
  have latest := enrolled.latest admissible
  have fieldless : (created.info table.next).fields = none := by
    rw [enrolled.info_next admissible]
    exact description.fields
  have unchanged : Fielded created created table.next :=
    ⟨rfl, fun _ _ => rfl, none, by rw [← fieldless], nofun⟩
  rw [declare_eq, accepted]
  dsimp only
  cases completed : created.complete declaration table.next with
  | error fault => exact unchanged
  | ok after =>
    cases complete_eq_ok_iff.mp completed with
    | bare => exact unchanged
    | @plain _ fields _ fielded _ =>
      refine ⟨ClassTable.next_update, fun _ distinct => ClassTable.info_update_of_ne distinct,
        some fields, info_withFields latest, ?_⟩
      rintro _ ⟨⟩
      exact (fieldsOf_unslotted fielded).2
    | slotted _ _ slots =>
      rw [unslotted] at slots
      cases slots

theorem info_declare (h : table.WellFormed) (valid : declaration.Valid table)
    (unslotted : declaration.slots = false) (accepted : create table declaration = .ok created) :
    let after := (table.declare declaration).1
    after.next = table.next + 1 ∧
      (after.info table.next).key = (declaration.home, declaration.qualifiedName) ∧
      (after.info table.next).bases = declaration.parents ∧
      (after.info table.next).isRoot = decide (declaration.root = some true) := by
  intro after
  obtain ⟨info, described, _, enrolled⟩ := create_spec accepted
  have description := describes_of_ok described
  have fielded := declare_fielded h valid unslotted accepted
  obtain ⟨fields, last, _⟩ := fielded.last
  rw [enrolled.info_next (description.admissible h valid)] at last
  refine ⟨fielded.next.trans enrolled.next, ?_, ?_, ?_⟩
  · rw [last]
    exact description.key
  · rw [last]
    exact description.bases
  · rw [last]

theorem Enrolled.variants_eq {root : Option Bool} (enrolled : Enrolled table info root created)
    (h : table.WellFormed) (admissible : table.Admissible info)
    (settles : Settles created after table.next) (closed : after.Closed) (after_wf : after.WellFormed) {parent : ClassId}
    (old : parent < table.next) :
    (after.info parent).variants =
      if after.isVariantOf parent table.next then
        (table.info parent).variants.filter
          (fun other => (table.info other).key != (created.info table.next).key) ++ [table.next]
      else (table.info parent).variants := by
  have last := enrolled.info_next admissible
  have same := info_eq_of_settles settles old
  have not_last : parent ≠ table.next := Nat.ne_of_lt old
  have there : table.next < after.next := by
    rw [settles.next, enrolled.next]
    exact Nat.lt_succ_self _
  have unlisted (missing : after.inCatalogue table.next = false ∨
      (after.info table.next).isRoot = true) : after.isVariantOf parent table.next = false :=
    closed.isVariantOf_eq_false after_wf missing parent
  cases enrolled with
  | outside outside =>
    rw [ClassTable.info_add_of_ne not_last] at same
    have outside : after.inCatalogue table.next = false := by
      rw [ClassTable.inCatalogue_congr settles.order]
      exact outside
    rw [unlisted (.inl outside), same]
    rfl
  | root =>
    rw [ClassTable.info_update_of_ne not_last, ClassTable.info_add_of_ne not_last] at same
    have rooted : (after.info table.next).isRoot = true := by
      rw [settles.isRoot, last]
      rfl
    rw [unlisted (.inr rooted), same]
    rfl
  | @variant _ other catalogued no_root reached direct =>
    have enrolled : Enrolled table info root _ := .variant catalogued no_root reached direct
    have belongs := enrolled.belongs h admissible settles reached direct
    have unrooted : (after.info table.next).isRoot = false := by
      rw [settles.isRoot, last]
      exact decide_eq_false no_root
    have listed : after.isVariantOf parent table.next = true ↔ parent = other :=
      belongs.isVariantOf_iff after_wf there unrooted
    by_cases is_other : parent = other
    · subst is_other
      have there : parent < (table.add info).next := by
        rw [ClassTable.next_add]
        exact Nat.lt_succ_of_lt old
      rw [if_pos (listed.mpr rfl), same, info_list_same there, ClassTable.info_add_of_ne not_last,
        relisted_add h, last]
      rfl
    · rw [if_neg (fun is_variant => is_other (listed.mp is_variant)), same,
        info_list_of_ne is_other, ClassTable.info_add_of_ne not_last]

theorem declare_registers (h : table.WellFormed) (valid : declaration.Valid table)
    (unslotted : declaration.slots = false)
    (closed : (table.declare declaration).1.Closed) (registers : table.Registers) :
    (table.declare declaration).1.Registers := by
  have after_wf := ClassTable.declare_wellFormed h valid
  have grown := ClassTable.declare_grows h valid
  cases accepted : create table declaration with
  | error fault =>
    rw [declare_eq, accepted]
    exact registers
  | ok created =>
    obtain ⟨info, described, _, enrolled⟩ := create_spec accepted
    have admissible := (describes_of_ok described).admissible h valid
    have fielded := declare_fielded h valid unslotted accepted
    obtain ⟨fields, last, fields_unslotted⟩ := fielded.last
    have next : (table.declare declaration).1.next = table.next + 1 :=
      fielded.next.trans enrolled.next
    generalize (table.declare declaration).1 = after at *
    refine ⟨fun id held same => ?_, fun root is_root => ?_⟩
    · rcases Nat.lt_trichotomy id table.next with old | rfl | later
      · rw [fielded.others id (Nat.ne_of_lt old)] at same
        obtain ⟨variants, kept⟩ := enrolled.grows.kept id old
        rw [kept] at same
        exact registers.unslotted id held same
      · rw [last] at same
        exact fields_unslotted held same
      -- Beyond the last class there is none, and so there are no fields.
      · rw [ClassTable.info_of_next_le (next.symm ▸ later)] at same
        cases same
    · by_cases is_last : root = table.next
      · subst is_last
        rw [ClassTable.roll_of_last after_wf next is_root, last]
        exact (enrolled.latest admissible).variants
      · have old : root < table.next := by
          have there := ClassTable.lt_next_of_isRoot is_root
          rw [next] at there
          exact Nat.lt_of_le_of_ne (Nat.le_of_lt_succ there) is_last
        have was_root := (grown.isRoot_eq old).symm.trans is_root
        have key : (created.info table.next).key = (after.info table.next).key := by
          rw [last]
          rfl
        rw [enrolled.variants_eq h admissible fielded.settles closed after_wf old, next,
          grown.roll_succ h, registers.listed root was_root, key]

theorem variants_declare_of_ne (h : table.WellFormed) (valid : declaration.Valid table)
    (unslotted : declaration.slots = false)
    (closed : (table.declare declaration).1.Closed) {root : ClassId}
    (old : root < table.next)
    (other : (table.declare declaration).1.nearestRoot? table.next ≠ some root) :
    ((table.declare declaration).1.info root).variants = (table.info root).variants := by
  cases accepted : create table declaration with
  | error fault => rw [declare_eq, accepted]
  | ok created =>
    obtain ⟨info, described, _, enrolled⟩ := create_spec accepted
    have admissible := (describes_of_ok described).admissible h valid
    have fielded := declare_fielded h valid unslotted accepted
    have after_wf := ClassTable.declare_wellFormed h valid
    rw [enrolled.variants_eq h admissible fielded.settles closed after_wf old, if_neg]
    simp [ClassTable.isVariantOf, other]

end Declaration

/-! ### Listings -/

namespace ClassTable

variable {table : ClassTable} {id root : ClassId}

theorem ownMember?_variants (unslotted : ∀ fields, (table.info id).fields = some fields →
    fields.slots = []) :
    table.ownMember? "variants" id = if id = catalogueId then some .listing else none := by
  have recorded : (table.info id).fields.bind (recordMember? · "variants") = none := by
    cases held : (table.info id).fields with
    | none => rfl
    | some fields =>
      have not_state : stateRoutines.contains "variants" = false := by decide
      have not_routine : recordRoutines.contains "variants" = false := by decide
      simp only [Option.bind_some, recordMember?, unslotted fields held, not_state, not_routine,
        List.contains_nil, Bool.and_false, Bool.false_eq_true, if_false]
      split <;> rfl
  have by_catalogue : catalogueMember? "variants" = some .listing := rfl
  have by_object : objectMember? "variants" = none := rfl
  have by_role : table.roleMember? "variants" id = none := by
    have not_references : "variants" ≠ referencesName := by decide
    have not_root : ("variants" == rootName) = false := by decide
    have not_variants : ("variants" == variantsName) = false := by decide
    simp [roleMember?, not_references, not_root, not_variants]
  simp [ownMember?, recorded, by_catalogue, by_object, by_role]

theorem Registers.listingOf_eq (registers : table.Registers)
    (inside : table.inCatalogue id = true) : table.listingOf id = table.listing id := by
  have own (ancestor : ClassId) := ownMember?_variants (registers.unslotted ancestor)
  have member : table.member? id "variants" = some .listing := by
    have found : ((table.info id).order.findSome? (table.ownMember? "variants")).isSome = true := by
      rw [List.findSome?_isSome_iff]
      exact ⟨catalogueId, inCatalogue_iff.mp inside, by rw [own]; rfl⟩
    obtain ⟨member, same⟩ := Option.isSome_iff_exists.mp found
    obtain ⟨ancestor, _, held⟩ := List.exists_of_findSome?_eq_some same
    rw [own] at held
    split at held
    · rw [member?, same, held]
    · cases held
  have no_fact : table.fact? id "variants" = none := rfl
  simp only [listingOf, attribute?, no_fact, member, listingBy]

theorem Closed.held_of_nearestRoot? (closed : table.Closed) (h : table.WellFormed)
    (near : table.nearestRoot? id = some root) :
    table.inheritedRoot? (table.info id).order = some (.shared (.cls root)) := by
  obtain ⟨inherited, is_root⟩ := nearestRoot?_spec near
  obtain ⟨inside, not_catalogue⟩ := closed.inCatalogue_of_inherits h is_root inherited
  have old := lt_next_of_mem_order inherited
  by_cases rooted : (table.info id).isRoot = true
  · have itself : table.nearestRoot? id = some id := h.nearestRoot?_root rooted
    obtain rfl : id = root := Option.some.inj (itself.symm.trans near)
    exact h.held_by_root is_root
  · have unrooted : (table.info id).isRoot = false := by simpa using rooted
    obtain ⟨first, belongs, _⟩ := closed.shown id old ⟨inside, not_catalogue, unrooted⟩
    obtain rfl : first = root :=
      Option.some.inj ((belongs.nearestRoot?_eq h old unrooted).symm.trans near)
    rw [(h.ordered id old).inheritedRoot?_eq belongs.visible unrooted not_catalogue]
    exact belongs.inherited

theorem Closed.direct (closed : table.Closed) (h : table.WellFormed) (variant : table.isVariantOf root id = true) :
    root ∈ (table.info id).bases := by
  rw [isVariantOf, Bool.and_eq_true, beq_iff_eq, Bool.not_eq_true'] at variant
  obtain ⟨unrooted, near⟩ := variant
  obtain ⟨inherited, is_root⟩ := nearestRoot?_spec near
  obtain ⟨inside, not_catalogue⟩ := closed.inCatalogue_of_inherits h is_root inherited
  have old := lt_next_of_mem_order inherited
  obtain ⟨first, belongs, _⟩ := closed.shown id old ⟨inside, not_catalogue, unrooted⟩
  obtain rfl : first = root :=
    Option.some.inj ((belongs.nearestRoot?_eq h old unrooted).symm.trans near)
  exact belongs.direct

end ClassTable

/-! ### Histories -/

/-- Does a declaration create its class? Completing the class may fail still. -/
def Attempt.creates (attempt : Attempt) : Bool :=
  (Declaration.create attempt.table attempt.declaration).isOk

theorem Attempt.creates_iff {attempt : Attempt} :
    attempt.creates = true ↔
      ∃ created, Declaration.create attempt.table attempt.declaration = .ok created := by
  unfold Attempt.creates
  cases Declaration.create attempt.table attempt.declaration <;> simp [Except.isOk, Except.toBool]

/-- The classes that are there after some declarations, in the order of their creation: those of the
beginning, and then one for each declaration that creates its class. -/
def createdClasses (past : List Attempt) : List ClassId :=
  List.range ClassTable.initial.next ++
    (past.filter Attempt.creates).map fun attempt => attempt.table.next

namespace ClassTable

private theorem initial_unslotted : ∀ id < 13,
    ((initial.info id).fields.all fun fields => fields.slots.isEmpty) = true := by
  decide

private theorem initial_listed : ∀ root < 13, (initial.info root).isRoot = true →
    (initial.info root).variants = initial.roll (List.range 13) root := by
  decide

theorem initial_registers : initial.Registers where
  unslotted id fields held := by
    by_cases old : id < 13
    · have empty := initial_unslotted id old
      rw [held] at empty
      simpa using empty
    · have beyond : initial.next ≤ id := Nat.le_of_not_lt old
      rw [info_of_next_le beyond] at held
      cases held
  listed root is_root := initial_listed root (lt_next_of_isRoot is_root) is_root

end ClassTable

namespace History

variable {past : List Attempt} {table : ClassTable}

theorem earlier (history : History past table) {attempt : Attempt} (member : attempt ∈ past) :
    ∃ before, History before attempt.table ∧ attempt.declaration.Valid attempt.table ∧
      ∀ other ∈ before, other ∈ past := by
  induction history with
  | initial => cases member
  | @declared past table declaration history valid ih =>
    rcases List.mem_append.mp member with earlier | last
    · obtain ⟨before, first, was_valid, within⟩ := ih earlier
      exact ⟨before, first, was_valid,
        fun other inside => List.mem_append_left _ (within other inside)⟩
    · obtain rfl : attempt = ⟨table, declaration⟩ := by simpa using last
      exact ⟨past, history, valid, fun other inside => List.mem_append_left _ inside⟩
  | registered _ _ ih => exact ih member

theorem createdClasses_eq_range (history : History past table)
    (unslotted : ∀ attempt ∈ past, attempt.declaration.slots = false) :
    createdClasses past = List.range table.next := by
  induction history with
  | initial => simp [createdClasses]
  | @declared past table declaration history valid ih =>
    have last_unslotted : declaration.slots = false := unslotted ⟨table, declaration⟩ (by simp)
    have ih := ih fun attempt member => unslotted attempt (List.mem_append_left _ member)
    cases accepted : Declaration.create table declaration with
    | error fault =>
      have refused : Attempt.creates ⟨table, declaration⟩ = false := by
        simp [← Bool.not_eq_true, Attempt.creates_iff, accepted]
      rw [Declaration.declare_eq, accepted, ← ih]
      simp [createdClasses, refused]
    | ok created =>
      have creates : Attempt.creates ⟨table, declaration⟩ = true :=
        Attempt.creates_iff.mpr ⟨created, accepted⟩
      obtain ⟨next, _⟩ :=
        Declaration.info_declare history.wellFormed valid last_unslotted accepted
      rw [next, List.range_succ, ← ih]
      simp [createdClasses, creates]
  | registered _ registered ih =>
    rw [ih unslotted, ClassTable.next, ClassTable.next, ClassTable.register_classes registered]

theorem registers (history : History past table)
    (unslotted : ∀ attempt ∈ past, attempt.declaration.slots = false) : table.Registers := by
  induction history with
  | initial => exact ClassTable.initial_registers
  | @declared past table declaration history valid ih =>
    have last_unslotted : declaration.slots = false := unslotted ⟨table, declaration⟩ (by simp)
    refine Declaration.declare_registers history.wellFormed valid last_unslotted
      (History.declared history valid).closed (ih fun attempt member => ?_)
    exact unslotted attempt (List.mem_append_left _ member)
  | @registered past table after contract id _ registered ih =>
    have same := ClassTable.register_classes registered
    have ih := ih unslotted
    obtain ⟨classes, _⟩ := after
    obtain rfl : classes = table.classes := same
    exact ⟨ih.unslotted, ih.listed⟩

/--
After any declarations without slots, accepted or not, a root lists the classes that have been
created, are no roots and have it as their nearest root, in the order of their creation, and of
those with the same module and qualified name only the latest. It is a base of each of them, and all
classes whose nearest root it is list the same. A declaration that creates no class changes what no
root lists, and one that creates a class at most what the nearest root of that class lists.
-/
theorem roots_list_latest (history : History past table)
    (unslotted : ∀ attempt ∈ past, attempt.declaration.slots = false) :
    (∀ root, (table.info root).isRoot = true →
      (table.info root).variants = table.roll (createdClasses past) root ∧
        (table.keys root).Nodup ∧
        (∀ variant ∈ (table.info root).variants, root ∈ (table.info variant).bases) ∧
        table.nearestRoot? root = some root ∧
        ∀ id, table.nearestRoot? id = some root → table.listingOf id = .ok (table.keys root)) ∧
    ∀ attempt ∈ past,
      let declaration := attempt.declaration
      let after := (attempt.table.declare declaration).1
      let created := attempt.table.next
      if attempt.creates = true then
        (table.info created).key = (declaration.home, declaration.qualifiedName) ∧
          (table.info created).bases = declaration.parents ∧
          (table.info created).isRoot = decide (declaration.root = some true) ∧
          ∀ root, (attempt.table.info root).isRoot = true →
            after.nearestRoot? created ≠ some root →
              (after.info root).variants = (attempt.table.info root).variants
      else ∀ root, (after.info root).variants = (attempt.table.info root).variants := by
  have h := history.wellFormed
  have closed := history.closed
  have registers := history.registers unslotted
  refine ⟨fun root is_root => ?_, fun attempt member => ?_⟩
  · have listed := registers.listed root is_root
    refine ⟨?_, ?_, fun variant member => ?_, ?_, fun id near => ?_⟩
    · rw [history.createdClasses_eq_range unslotted]
      exact listed
    · rw [ClassTable.keys, listed]
      exact nodup_keys_latestRows _
    · rw [listed] at member
      exact closed.direct h (List.mem_filter.mp (mem_of_mem_latestRows member)).2
    · exact h.nearestRoot?_root is_root
    · obtain ⟨inherited, _⟩ := ClassTable.nearestRoot?_spec near
      rw [registers.listingOf_eq (closed.inCatalogue_of_inherits h is_root inherited).1]
      exact ClassTable.listing_of_held (closed.held_of_nearestRoot? h near)
  · intro declaration after created
    obtain ⟨before, earlier, valid, within⟩ := history.earlier member
    have last_unslotted : declaration.slots = false := unslotted attempt member
    have grown := (history.attempt member).2.2
    split
    next creates =>
      obtain ⟨_, accepted⟩ := Attempt.creates_iff.mp creates
      obtain ⟨next, key, bases, is_root⟩ :=
        Declaration.info_declare earlier.wellFormed valid last_unslotted accepted
      have old : created < after.next := by
        rw [next]
        exact Nat.lt_succ_self _
      obtain ⟨variants, kept⟩ := grown.kept created old
      refine ⟨?_, ?_, ?_, fun root was_root other => ?_⟩
      · exact (grown.key_eq old).trans key
      · rw [kept]
        exact bases
      · rw [kept]
        exact is_root
      · exact Declaration.variants_declare_of_ne earlier.wellFormed valid last_unslotted
          (History.declared earlier valid).closed (ClassTable.lt_next_of_isRoot was_root) other
    next refused =>
      intro root
      cases accepted : Declaration.create attempt.table attempt.declaration with
      | error fault => simp only [after, declaration, Declaration.declare_eq, accepted]
      | ok table => exact absurd (Attempt.creates_iff.mpr ⟨table, accepted⟩) refused

end History

/-! ### Declarations one after the other -/

private def rollRoot : Declaration :=
  { name := "Op", home := "m", qualifiedName := "Op", bases := [catalogueId, contractId .single]
    root := some true, handled := some ["A", "B"] }

private def rollVariant (name : String) (bases : List ClassId) (fields : Option (List String)) :
    Declaration :=
  { name, home := "m", qualifiedName := name, bases, fields }

private def declareAll (table : ClassTable) (declarations : List Declaration) : ClassTable :=
  declarations.foldl (fun table declaration => (table.declare declaration).1) table

private def attempts : ClassTable → List Declaration → List Attempt
  | _, [] => []
  | table, declaration :: rest =>
    ⟨table, declaration⟩ :: attempts (table.declare declaration).1 rest

/-- Two variants, an attempt to extend the first of them, and the first of them once more. -/
private def redeclaring : List Declaration :=
  [rollRoot, rollVariant "A" [13] none, rollVariant "B" [13] none, rollVariant "C" [14] none,
    rollVariant "A" [13] none]

private theorem redeclaring_history :
    History (attempts .initial redeclaring) (declareAll .initial redeclaring) :=
  .declared (.declared (.declared (.declared (.declared .initial (by decide)) (by decide))
    (by decide)) (by decide)) (by decide)

theorem History.roots_list_latest_redeclaring :
    History (attempts .initial redeclaring) (declareAll .initial redeclaring) ∧
      (∀ attempt ∈ attempts .initial redeclaring, attempt.declaration.slots = false) ∧
      ((declareAll .initial redeclaring).info 13).isRoot = true ∧
      createdClasses (attempts .initial redeclaring) = List.range 17 ∧
      ((declareAll .initial redeclaring).info 13).variants = [15, 16] ∧
      (declareAll .initial redeclaring).listingOf 14 = .ok [("m", "B"), ("m", "A")] := by
  have unslotted : ∀ attempt ∈ attempts .initial redeclaring,
      attempt.declaration.slots = false := by
    simp [attempts, redeclaring, rollRoot, rollVariant]
  have is_root : ((declareAll .initial redeclaring).info 13).isRoot = true := rfl
  have near : (declareAll .initial redeclaring).nearestRoot? 14 = some 13 := rfl
  have created : createdClasses (attempts .initial redeclaring) = List.range 17 := rfl
  obtain ⟨listed, _, _, _, listing⟩ :=
    (History.roots_list_latest redeclaring_history unslotted).1 13 is_root
  refine ⟨redeclaring_history, unslotted, is_root, created, ?_, listing 14 near⟩
  rw [listed, created]
  rfl

/-- A class that has been created stays listed if its fields are refused afterwards: here one field
falls back on what the root holds under its name, and the next one on nothing. -/
theorem History.refused_record_listed :
    let table := (ClassTable.initial.declare rollRoot).1
    let record := rollVariant "A" [13] (some ["variants", "x"])
    History [⟨.initial, rollRoot⟩] table ∧ record.Valid table ∧ record.slots = false ∧
      (table.info 13).isRoot = true ∧ table.listingOf 13 = .ok [] ∧
      (table.declare record).2 = some (.fieldOrder "x") ∧
      (table.declare record).1.listingOf 13 = .ok [("m", "A")] :=
  ⟨.declared .initial (by decide), by decide, rfl, rfl, rfl, rfl, rfl⟩

end StepPipeline.Catalogue
