import StepPipeline.Catalogue.Instance
import StepPipeline.Proofs.Catalogue.Listing

/-!
Closed catalogues. What can be instantiated in a catalogue belongs to its nearest root, which is one
of its bases, and that root shows it. A root that another one is declared under leaves to that what
belongs to it. Main result: `History.first_root_shows`.
-/

set_option autoImplicit false
set_option relaxedAutoImplicit false

namespace StepPipeline.Catalogue

namespace ClassTable

variable {table before after : ClassTable} {id root : ClassId}

/-! ### Classes and their roots -/

/-- The nearest root of a class: the first one in its order. -/
def nearestRoot? (table : ClassTable) (id : ClassId) : Option ClassId :=
  (table.info id).order.find? fun ancestor => (table.info ancestor).isRoot

theorem nearestRoot?_spec (near : table.nearestRoot? id = some root) :
    root ∈ (table.info id).order ∧ (table.info root).isRoot = true :=
  ⟨List.mem_of_find?_eq_some near, by simpa using List.find?_some near⟩

theorem Grows.nearestRoot?_eq (grown : before.Grows after) (h : before.WellFormed)
    (old : id < before.next) : after.nearestRoot? id = before.nearestRoot? id := by
  have same : (before.info id).order.filter (fun ancestor => (after.info ancestor).isRoot) =
      (before.info id).order.filter (fun ancestor => (before.info ancestor).isRoot) :=
    List.filter_congr fun ancestor member => grown.isRoot_eq (h.lt_next old member)
  rw [nearestRoot?, grown.order_eq old, ← List.head?_filter, same, List.head?_filter, nearestRoot?]

theorem WellFormed.nearestRoot?_root (h : table.WellFormed)
    (is_root : (table.info root).isRoot = true) : table.nearestRoot? root = some root := by
  rw [nearestRoot?, (h.ordered root (lt_next_of_isRoot is_root)).eq_cons, List.find?_cons, is_root]

/-- Two classes are listed by the same root as the same. -/
def Alike (table : ClassTable) (id other : ClassId) : Prop :=
  table.nearestRoot? id = table.nearestRoot? other ∧ (table.info id).key = (table.info other).key

/-- Was a class with slots listed under a key that it has not kept? It is created once more under its
plain name, which need not be its qualified name. -/
def ListedAs (table : ClassTable) (slotted : ClassId) (key : String × String) : Prop :=
  (∃ fields, (table.info slotted).fields = some fields ∧ fields.slotted = true) ∧
    (table.info slotted).name ≠ (table.info slotted).qualifiedName ∧
    ((table.info slotted).home, (table.info slotted).name) = key

/-- A class with slots takes the place of what its root shows another class as. -/
def Displaces (table : ClassTable) (slotted id : ClassId) : Prop :=
  table.ListedAs slotted (table.info id).key ∧ table.nearestRoot? slotted = table.nearestRoot? id

theorem Alike.symm {other : ClassId} (alike : table.Alike id other) : table.Alike other id :=
  ⟨alike.1.symm, alike.2.symm⟩

theorem Alike.trans {other third : ClassId} (alike : table.Alike id other)
    (further : table.Alike other third) : table.Alike id third :=
  ⟨alike.1.trans further.1, alike.2.trans further.2⟩

theorem Displaces.of_alike {slotted other : ClassId} (displaces : table.Displaces slotted id)
    (alike : table.Alike id other) : table.Displaces slotted other :=
  ⟨alike.2 ▸ displaces.1, displaces.2.trans alike.1⟩

theorem ListedAs.lt_next {key : String × String} (listed : table.ListedAs id key) :
    id < table.next := by
  obtain ⟨⟨fields, held, _⟩, _⟩ := listed
  rcases Nat.lt_or_ge id table.next with old | beyond
  · exact old
  · rw [info_of_next_le beyond] at held
    cases held

theorem ListedAs.grows {key : String × String} (listed : before.ListedAs id key)
    (grown : before.Grows after) : after.ListedAs id key := by
  obtain ⟨variants, same⟩ := grown.kept id listed.lt_next
  rw [ListedAs, same]
  exact listed

/-- A class belongs to a root: it has the root from its ancestors, and as one of its bases. -/
structure Belongs (table : ClassTable) (id root : ClassId) : Prop where
  direct : root ∈ (table.info id).bases
  inherited : table.inheritedRoot? (table.info id).order.tail = some (.shared (.cls root))
  visible : hidesRoot (table.info id).fields = false

/-- Every variant belongs to a root that shows it, unless a later class of the root with slots was
listed in its place. -/
structure Closed (table : ClassTable) : Prop where
  bases : ∀ id < table.next, ∀ base ∈ (table.info id).bases, base ∈ (table.info id).order
  roots : ∀ root, (table.info root).isRoot = true → table.inCatalogue root = true
  shown : ∀ id < table.next, table.IsVariant id → ∃ root, table.Belongs id root ∧
    ((table.info id).key ∈ table.keys root ∨
      ∃ slotted, id < slotted ∧ table.Belongs slotted root ∧
        table.ListedAs slotted (table.info id).key)

theorem Belongs.grows (belongs : before.Belongs id root) (h : before.WellFormed)
    (grown : before.Grows after) (old : id < before.next) : after.Belongs id root := by
  obtain ⟨variants, same⟩ := grown.kept id old
  have below : ∀ ancestor ∈ (before.info id).order.tail, ancestor < before.next :=
    fun ancestor member => h.lt_next old (List.mem_of_mem_tail member)
  refine ⟨?_, ?_, ?_⟩
  · rw [same]
    exact belongs.direct
  · rw [same]
    exact (grown.inheritedRoot?_eq below).trans belongs.inherited
  · rw [same]
    exact belongs.visible

end ClassTable

namespace Declaration

open ClassTable (hidesRoot)

variable {table created after : ClassTable} {declaration : Declaration} {info : ClassInfo}
  {root : Option Bool}

/-! ### Declarations keep catalogues closed -/

/-- A table in which the last class has been completed: it keeps its place and its role, and no slot
that is new hides its root. -/
structure Settles (created after : ClassTable) (last : ClassId) : Prop where
  next : after.next = created.next
  others : ∀ id, id ≠ last → after.info id = created.info id
  bases : (after.info last).bases = (created.info last).bases
  order : (after.info last).order = (created.info last).order
  isRoot : (after.info last).isRoot = (created.info last).isRoot
  visible : hidesRoot (created.info last).fields = false →
    hidesRoot (after.info last).fields = false

theorem Settles.refl (table : ClassTable) (last : ClassId) : Settles table table last :=
  ⟨rfl, fun _ _ => rfl, rfl, rfl, rfl, fun visible => visible⟩

theorem info_eq_of_settles (settles : Settles created after table.next) {id : ClassId}
    (old : id < table.next) : after.info id = created.info id :=
  settles.others id (Nat.ne_of_lt old)

theorem Enrolled.grows_settled (enrolled : Enrolled table info root created)
    (settles : Settles created after table.next) : table.Grows after where
  next_le := by
    rw [settles.next]
    exact enrolled.grows.next_le
  kept id old := by
    rw [info_eq_of_settles settles old]
    exact enrolled.grows.kept id old

theorem keys_of_settles (h : table.WellFormed) {parent : ClassId} (old : parent < table.next)
    (settles : Settles (list (table.add info) parent table.next) after table.next)
    (grown : table.Grows after) :
    after.keys parent =
      (table.keys parent).filter (· != info.key) ++ [(after.info table.next).key] := by
  have there : parent < (table.add info).next := by
    rw [ClassTable.next_add]
    exact Nat.lt_succ_of_lt old
  refine keys_relisted h ?_ grown
  rw [info_eq_of_settles settles old, info_list_same there,
    ClassTable.info_add_of_ne (Nat.ne_of_lt old)]

theorem Enrolled.belongs (enrolled : Enrolled table info root created) (h : table.WellFormed)
    (admissible : table.Admissible info) (settles : Settles created after table.next)
    {parent : ClassId}
    (reached : (table.add info).attribute? table.next ClassTable.rootName = some (.cls parent))
    (direct : parent ∈ info.bases) : after.Belongs table.next parent := by
  have grown := enrolled.grows_settled settles
  have last := enrolled.info_next admissible
  rw [ClassTable.attribute?_rootName_eq_cls_iff, ClassTable.info_add_next,
    ClassTable.inheritedRoot?_add_eq_cls_iff h admissible] at reached
  obtain ⟨visible, inherited⟩ := reached
  refine ⟨?_, ?_, settles.visible ?_⟩
  · rw [settles.bases, last]
    exact direct
  · rw [settles.order, last]
    exact (grown.inheritedRoot?_eq admissible.ordered.below).trans inherited
  · rw [last]
    exact visible

theorem Enrolled.mem_keys (enrolled : Enrolled table info root created) (h : table.WellFormed)
    (admissible : table.Admissible info) (settles : Settles created after table.next)
    {key : String × String} {parent : ClassId} (old : parent < table.next)
    (shown : key ∈ table.keys parent) :
    key ∈ after.keys parent ∨
      key = info.key ∧ (after.info table.next).key ≠ info.key ∧
        after.Belongs table.next parent := by
  have grown := enrolled.grows_settled settles
  have same := info_eq_of_settles settles old
  have not_last : parent ≠ table.next := Nat.ne_of_lt old
  cases enrolled with
  | outside =>
    rw [ClassTable.info_add_of_ne not_last] at same
    exact .inl (by rwa [keys_unlisted h (by rw [same]) grown])
  | root =>
    rw [ClassTable.info_update_of_ne not_last, ClassTable.info_add_of_ne not_last] at same
    exact .inl (by rwa [keys_unlisted h (by rw [same]) grown])
  | @variant _ other catalogued no_root reached direct =>
    by_cases lists : parent = other
    · subst lists
      have enrolled : Enrolled table info root _ := .variant catalogued no_root reached direct
      rw [keys_of_settles h old settles grown, List.mem_append, List.mem_singleton]
      by_cases taken : key = info.key
      · by_cases kept : (after.info table.next).key = info.key
        · exact .inl (.inr (taken.trans kept.symm))
        · exact .inr ⟨taken, kept, enrolled.belongs h admissible settles reached direct⟩
      · exact .inl (.inl (List.mem_filter.mpr ⟨shown, by simpa using taken⟩))
    · rw [info_list_of_ne lists, ClassTable.info_add_of_ne not_last] at same
      exact .inl (by rwa [keys_unlisted h (by rw [same]) grown])

theorem Enrolled.shown (enrolled : Enrolled table info root created) (h : table.WellFormed)
    (admissible : table.Admissible info) (settles : Settles created after table.next)
    (is_variant : after.IsVariant table.next) :
    ∃ parent, after.Belongs table.next parent ∧
      (after.info table.next).key ∈ after.keys parent := by
  have grown := enrolled.grows_settled settles
  have last := enrolled.info_next admissible
  obtain ⟨inside, _, unrooted⟩ := is_variant
  rw [ClassTable.inCatalogue_iff, settles.order, last] at inside
  rw [settles.isRoot, last] at unrooted
  cases enrolled with
  | outside outside =>
    rw [← Bool.not_eq_true, ClassTable.inCatalogue_iff, ClassTable.info_add_next] at outside
    exact absurd inside outside
  | root => cases unrooted
  | @variant _ parent catalogued no_root reached direct =>
    have enrolled : Enrolled table info root _ := .variant catalogued no_root reached direct
    refine ⟨parent, enrolled.belongs h admissible settles reached direct, ?_⟩
    rw [keys_of_settles h (admissible.bases parent direct) settles grown]
    exact List.mem_append_right _ (List.mem_singleton.mpr rfl)

theorem Enrolled.old_or_last (enrolled : Enrolled table info root created)
    (settles : Settles created after table.next) {id : ClassId} (there : id < after.next) :
    id < table.next ∨ id = table.next := by
  rw [settles.next, enrolled.next] at there
  exact Nat.lt_or_eq_of_le (Nat.le_of_lt_succ there)

theorem Enrolled.root_inCatalogue (enrolled : Enrolled table info root created)
    (admissible : table.Admissible info) (settles : Settles created after table.next)
    (is_root : (after.info table.next).isRoot = true) : after.inCatalogue table.next = true := by
  have last := enrolled.info_next admissible
  rw [settles.isRoot, last] at is_root
  rw [ClassTable.inCatalogue_iff, settles.order, last]
  cases enrolled with
  | outside => cases is_root
  | root catalogued =>
    rwa [ClassTable.inCatalogue_iff, ClassTable.info_add_next] at catalogued
  | variant _ no_root => exact absurd (of_decide_eq_true is_root) no_root

/-- Adding a class keeps catalogues closed. It may have another key when it is settled than it was
listed under if it is a class with slots. -/
theorem Enrolled.closed (enrolled : Enrolled table info root created) (h : table.WellFormed)
    (admissible : table.Admissible info) (direct : ∀ base ∈ info.bases, base ∈ info.order)
    (settles : Settles created after table.next) (closed : table.Closed)
    (named : (after.info table.next).key = info.key ∨ after.ListedAs table.next info.key) :
    after.Closed := by
  have grown := enrolled.grows_settled settles
  refine ⟨?_, ?_, ?_⟩
  · intro id there
    rcases enrolled.old_or_last settles there with old | rfl
    · obtain ⟨variants, same⟩ := grown.kept id old
      rw [same]
      exact closed.bases id old
    · rw [settles.bases, settles.order, enrolled.info_next admissible]
      exact direct
  · intro id is_root
    rcases enrolled.old_or_last settles (ClassTable.lt_next_of_isRoot is_root) with old | rfl
    · rw [grown.isRoot_eq old] at is_root
      rw [ClassTable.inCatalogue_congr (grown.order_eq old)]
      exact closed.roots id is_root
    · exact enrolled.root_inCatalogue admissible settles is_root
  · intro id there is_variant
    rcases enrolled.old_or_last settles there with old | rfl
    · obtain ⟨parent, belongs, shown⟩ :=
        closed.shown id old ((grown.isVariant_iff old).mp is_variant)
      have parent_old : parent < table.next :=
        h.lt_next old (closed.bases id old parent belongs.direct)
      rw [grown.key_eq old]
      refine ⟨parent, belongs.grows h grown old, ?_⟩
      rcases shown with shown | ⟨slotted, later, slotted_belongs, listed⟩
      · rcases enrolled.mem_keys h admissible settles parent_old shown with
          kept | ⟨taken, renamed, last_belongs⟩
        · exact .inl kept
        · refine .inr ⟨table.next, old, last_belongs, ?_⟩
          rw [taken]
          exact named.resolve_left renamed
      · exact .inr ⟨slotted, later, slotted_belongs.grows h grown listed.lt_next,
          listed.grows grown⟩
    · obtain ⟨parent, belongs, shown⟩ := enrolled.shown h admissible settles is_variant
      exact ⟨parent, belongs, .inl shown⟩

theorem Describes.direct (described : Describes table declaration info) (h : table.WellFormed)
    (valid : declaration.Valid table) : ∀ base ∈ info.bases, base ∈ info.order := by
  intro base member
  rw [described.bases] at member
  refine List.mem_of_mem_tail ((described.mem_order_tail_iff h valid base).mpr ⟨base, member, ?_⟩)
  exact (h.ordered base (valid.parents h base member)).mem_iff.mpr (.inl rfl)

theorem settles_withFields {id : ClassId} {fields : Fields} (latest : Latest created id)
    (unslotted : fields.slots = []) : Settles created (withFields created id fields) id := by
  have last : (withFields created id fields).info id =
      { created.info id with fields := some fields } := info_withFields latest
  refine ⟨ClassTable.next_update, fun other distinct => ClassTable.info_update_of_ne distinct,
    ?_, ?_, ?_, fun _ => ?_⟩
  · rw [last]
  · rw [last]
  · rw [last]
  · rw [last]
    simp [hidesRoot, unslotted]

theorem settles_renamed {id : ClassId} (there : id < created.next) (qualifiedName : String) :
    Settles created (created.update id fun info => { info with qualifiedName }) id := by
  have last : (created.update id fun info => { info with qualifiedName }).info id =
      { created.info id with qualifiedName } := ClassTable.info_update_same there
  refine ⟨ClassTable.next_update, fun other distinct => ClassTable.info_update_of_ne distinct,
    ?_, ?_, ?_, ?_⟩
  · rw [last]
  · rw [last]
  · rw [last]
  · rw [last]
    exact fun visible => visible

theorem listedAs_withSlots {first enrolled : ClassTable} {id last : ClassId} {fields : Fields}
    (there : last < enrolled.next)
    (second : enrolled.info last = withSlots first (first.info id) fields)
    (renamed : (first.info id).name ≠ (first.info id).qualifiedName) :
    (enrolled.update last fun created =>
        { created with qualifiedName := (first.info id).qualifiedName }).ListedAs last
      (withSlots first (first.info id) fields).key := by
  rw [ClassTable.ListedAs, ClassTable.info_update_same there, second]
  exact ⟨⟨_, rfl, rfl⟩, renamed, rfl⟩

theorem createSlotted_closed {first : ClassTable} {id : ClassId} {fields : Fields}
    (h : first.WellFormed) (latest : Latest first id) (closed : first.Closed)
    (again : createSlotted first (first.info id) fields = .ok after) : after.Closed := by
  obtain ⟨_, enrolled, second, rfl⟩ := createSlotted_spec latest again
  have admissible := withSlots_admissible h latest fields
  have direct : ∀ base ∈ (withSlots first (first.info id) fields).bases,
      base ∈ (withSlots first (first.info id) fields).order := by
    intro base member
    have inside := closed.bases id latest.lt_next base member
    rcases (h.ordered id latest.lt_next).mem_iff.mp inside with rfl | behind
    · exact absurd (latest.bases base member) (Nat.lt_irrefl base)
    · exact List.mem_cons_of_mem _ behind
  have there : first.next < enrolled.next := by
    rw [second.next]
    exact Nat.lt_succ_self _
  have last : enrolled.info first.next = withSlots first (first.info id) fields :=
    second.info_next admissible
  rw [← latest.next]
  refine second.closed h admissible direct (settles_renamed there _) closed ?_
  by_cases same : (first.info id).name = (first.info id).qualifiedName
  · left
    rw [ClassTable.info_update_same there, last]
    exact congrArg (Prod.mk _) same.symm
  · exact .inr (listedAs_withSlots there last same)

theorem declare_closed (h : table.WellFormed) (valid : declaration.Valid table)
    (closed : table.Closed) : (table.declare declaration).1.Closed := by
  rw [declare_eq]
  cases accepted : create table declaration with
  | error fault => exact closed
  | ok created =>
    obtain ⟨info, described, _, enrolled⟩ := create_spec accepted
    have description := describes_of_ok described
    have admissible := description.admissible h valid
    have latest := enrolled.latest admissible
    have direct := description.direct h valid
    have last := enrolled.info_next admissible
    have created_closed : created.Closed :=
      enrolled.closed h admissible direct (.refl created _) closed (.inl (by rw [last]; rfl))
    have first_closed {fields : Fields} (unslotted : fields.slots = []) :
        (withFields created table.next fields).Closed :=
      enrolled.closed h admissible direct (settles_withFields latest unslotted) closed
        (.inl (by rw [info_withFields latest, last]; rfl))
    dsimp only
    cases completed : created.complete declaration table.next with
    | error fault => exact created_closed
    | ok after =>
      cases complete_eq_ok_iff.mp completed with
      | bare => exact created_closed
      | plain _ fielded _ => exact first_closed (fieldsOf_unslotted fielded).2
      | @slotted _ fields _ _ fielded slots again =>
        have unslotted := fieldsOf_unslotted fielded
        have well_formed := enrolled.wellFormed h admissible fun _ => description.fields
        exact createSlotted_closed (withFields_wellFormed well_formed latest unslotted)
          (latest.withFields fields) (first_closed unslotted.2) again

end Declaration

/-! ### Histories -/

namespace ClassTable

variable {table : ClassTable} {id root : ClassId}

private theorem initial_bases_roots : ∀ id < 13,
    (∀ base ∈ (initial.info id).bases, base ∈ (initial.info id).order) ∧
      ((initial.info id).isRoot = true → initial.inCatalogue id = true) ∧
      (initial.IsVariant id → 8 ≤ id) := by
  decide

private theorem initial_belongs (id : Nat) (old : id < 13) (variant : 8 ≤ id) :
    initial.Belongs id worldOpId ∧ (initial.info id).key ∈ initial.keys worldOpId := by
  obtain rfl | rfl | rfl | rfl | rfl : id = 8 ∨ id = 9 ∨ id = 10 ∨ id = 11 ∨ id = 12 := by omega
  all_goals exact ⟨⟨by decide, rfl, rfl⟩, by decide⟩

theorem initial_closed : initial.Closed where
  bases id old := (initial_bases_roots id old).1
  roots root is_root := (initial_bases_roots root (lt_next_of_isRoot is_root)).2.1 is_root
  shown id old is_variant := by
    obtain ⟨belongs, shown⟩ :=
      initial_belongs id old ((initial_bases_roots id old).2.2 is_variant)
    exact ⟨worldOpId, belongs, .inl shown⟩

theorem Closed.of_classes_eq {after : ClassTable} (closed : table.Closed)
    (h : table.WellFormed) (same : after.classes = table.classes) : after.Closed := by
  have grown : table.Grows after := .of_classes_eq same
  obtain ⟨classes, registered⟩ := after
  obtain rfl : classes = table.classes := same
  refine ⟨closed.bases, closed.roots, fun id old is_variant => ?_⟩
  obtain ⟨root, belongs, shown | ⟨slotted, later, slotted_belongs, listed⟩⟩ :=
    closed.shown id old is_variant
  · exact ⟨root, belongs.grows h grown old, .inl shown⟩
  · exact ⟨root, belongs.grows h grown old, .inr ⟨slotted, later,
      slotted_belongs.grows h grown listed.lt_next, listed⟩⟩

end ClassTable

theorem History.closed {past : List Attempt} {table : ClassTable} (history : History past table) :
    table.Closed := by
  induction history with
  | initial => exact ClassTable.initial_closed
  | declared history valid ih => exact Declaration.declare_closed history.wellFormed valid ih
  | registered history registered ih =>
    exact ih.of_classes_eq history.wellFormed (ClassTable.register_classes registered)

/-! ### Instances -/

namespace Instance

variable {table : ClassTable} {id : ClassId} {args : List Value} {object after : Instance}

theorem cls_keep {name : String} {a : Attribute} (kept : object.keep table name a = .ok after) :
    after.cls = object.cls := by
  unfold keep at kept
  dsimp only at kept
  split at kept
  · cases kept
  · cases kept
    rfl

theorem cls_fill {fields : List Field} (filled : fill table object fields args = .ok after) :
    after.cls = object.cls := by
  unfold fill at filled
  dsimp only at filled
  generalize fields.zipIdx = entries at filled
  induction entries generalizing object with
  | nil =>
    cases filled
    rfl
  | cons entry rest ih =>
    simp only [List.foldlM_cons, bind, Except.bind] at filled
    split at filled
    · cases filled
    next kept => exact (ih filled).trans (cls_keep kept)

theorem eq_of_finish {fields : Fields} (finished : finish table object fields = .ok after) :
    after = object := by
  unfold finish at finished
  split at finished
  · simp only [bind, Except.bind] at finished
    split at finished <;> cases finished
  · cases finished
    rfl

theorem create_spec (created : create table id args = .ok object) :
    object.cls = id ∧ ¬(table.inCatalogue id = true ∧ table.root? id = some id) := by
  unfold create at created
  dsimp only at created
  split at created
  · cases created
  split at created
  · cases created
  next unrooted =>
    refine ⟨?_, by simpa using unrooted⟩
    split at created
    · cases created
    split at created
    · cases created
    split at created
    · cases created
    split at created
    · cases created
      rfl
    next fields _ =>
      split at created
      · cases created
      · simp only [bind, Except.bind] at created
        split at created
        · cases created
        next filled_object filled =>
          rw [eq_of_finish created]
          exact cls_fill filled

end Instance

namespace ClassTable

variable {table : ClassTable} {id root : ClassId}

theorem Closed.inherits_of_fulfils (closed : table.Closed) (h : table.WellFormed)
    (unregistered : table.registered = []) {derived base : ClassId}
    (fulfilled : table.fulfils derived base = true) : table.inherits derived base = true := by
  unfold fulfils at fulfilled
  generalize table.next = distance at fulfilled
  induction distance generalizing base with
  | zero => exact fulfilled
  | succ distance ih =>
    rw [fulfilsWithin, Bool.or_eq_true, Bool.and_eq_true, List.any_eq_true] at fulfilled
    rcases fulfilled with inherited | ⟨_, middle, below, further⟩
    · exact inherited
    · have from_middle := ih further
      simp only [ClassTable.below, unregistered, List.filter_nil, List.map_nil, List.nil_append,
        List.mem_filter, List.mem_range, List.contains_iff_mem] at below
      simp only [inherits, List.contains_iff_mem] at from_middle ⊢
      exact h.mem_trans (lt_next_of_mem_order from_middle) from_middle
        (closed.bases middle below.1 base below.2)

theorem Belongs.nearestRoot?_eq (belongs : table.Belongs id root) (h : table.WellFormed)
    (old : id < table.next) (unrooted : (table.info id).isRoot = false) :
    table.nearestRoot? id = some root := by
  obtain ⟨before, ancestor, behind, split, own, none_before⟩ :=
    List.findSome?_eq_some_iff.mp belongs.inherited
  obtain ⟨rfl, is_root, _⟩ := eq_of_ownMember?_rootName own
  refine List.find?_eq_some_iff_append.mpr ⟨is_root, id :: before, behind, ?_, ?_⟩
  · rw [(h.ordered id old).eq_cons, split, List.cons_append]
  · intro other member
    rw [Bool.not_eq_true', ← Bool.not_eq_true]
    intro other_root
    rcases List.mem_cons.mp member with rfl | earlier
    · rw [unrooted] at other_root
      cases other_root
    · -- a root would have been held before
      have nothing := none_before other earlier
      rw [ownMember?_rootName] at nothing
      simp only [other_root, ne_eq, (h.roots other other_root).1, not_false_eq_true, and_self,
        if_true] at nothing
      split at nothing
      · cases nothing
      · split at nothing <;> cases nothing

theorem Closed.inCatalogue_of_inherits (closed : table.Closed) (h : table.WellFormed)
    (is_root : (table.info root).isRoot = true) (inherited : root ∈ (table.info id).order) :
    table.inCatalogue id = true ∧ id ≠ catalogueId := by
  have old := lt_next_of_mem_order inherited
  have root_inside := inCatalogue_iff.mp (closed.roots root is_root)
  have root_old := h.lt_next old inherited
  refine ⟨inCatalogue_iff.mpr (h.mem_trans old inherited root_inside), ?_⟩
  -- the base of all catalogues would have to come before and after the root
  rintro rfl
  have before : root ≤ catalogueId := (h.ordered catalogueId old).le inherited
  have behind : catalogueId ≤ root := (h.ordered root root_old).le root_inside
  exact (h.roots root is_root).2.1 (Nat.le_antisymm before behind)

theorem Closed.isVariant_of_create (closed : table.Closed) (h : table.WellFormed)
    {args : List Value} {object : Instance} (created : Instance.create table id args = .ok object)
    (is_root : (table.info root).isRoot = true) (inherited : root ∈ (table.info id).order) :
    table.IsVariant id := by
  obtain ⟨inside, not_catalogue⟩ := closed.inCatalogue_of_inherits h is_root inherited
  refine ⟨inside, not_catalogue, ?_⟩
  rw [← Bool.not_eq_true]
  intro own_root
  have reached := attribute?_rootName_eq_cls_iff.mpr (h.held_by_root own_root)
  exact (Instance.create_spec created).2 ⟨inside, by simp only [root?, reached]⟩

theorem ListedAs.isRoot_eq_false {key : String × String} (listed : table.ListedAs id key)
    (h : table.WellFormed) : (table.info id).isRoot = false := by
  obtain ⟨⟨fields, held, slotted⟩, _⟩ := listed
  rw [← Bool.not_eq_true]
  intro is_root
  rw [((h.roots id is_root).2.2 fields held).1] at slotted
  cases slotted

theorem Closed.isVariant_of_nearestRoot? (closed : table.Closed) (h : table.WellFormed)
    (near : table.nearestRoot? id = some root) (other : root ≠ id) : table.IsVariant id := by
  obtain ⟨inherited, is_root⟩ := nearestRoot?_spec near
  obtain ⟨inside, not_catalogue⟩ := closed.inCatalogue_of_inherits h is_root inherited
  refine ⟨inside, not_catalogue, ?_⟩
  rw [← Bool.not_eq_true]
  intro own_root
  exact other (Option.some.inj (near.symm.trans (h.nearestRoot?_root own_root)))

/-- A variant is shown if, whatever with slots has displaced it, a class like it came later. -/
theorem Closed.shown_latest (closed : table.Closed) (h : table.WellFormed)
    (is_variant : table.IsVariant id)
    (again : ∀ slotted, table.Displaces slotted id →
      ∃ later, slotted < later ∧ table.Alike later id) :
    ∃ root, table.Belongs id root ∧ (table.info id).key ∈ table.keys root := by
  -- from the last class down: each that is displaced has a later one like it
  induction left : table.next - id using Nat.strongRecOn generalizing id with
  | _ left ih =>
    have old : id < table.next := lt_next_of_mem_order (inCatalogue_iff.mp is_variant.1)
    obtain ⟨root, belongs, shown | ⟨slotted, after, slotted_belongs, listed⟩⟩ :=
      closed.shown id old is_variant
    · exact ⟨root, belongs, shown⟩
    · have near := belongs.nearestRoot?_eq h old is_variant.2.2
      have slotted_near :=
        slotted_belongs.nearestRoot?_eq h listed.lt_next (listed.isRoot_eq_false h)
      obtain ⟨later, behind, alike⟩ := again slotted ⟨listed, slotted_near.trans near.symm⟩
      have later_near := alike.1.trans near
      have id_lt : id < later := Nat.lt_trans after behind
      have root_le : root ≤ id := (h.ordered id old).le (nearestRoot?_spec near).1
      have later_variant := closed.isVariant_of_nearestRoot? h later_near
        (Nat.ne_of_lt (Nat.lt_of_le_of_lt root_le id_lt))
      have later_old := lt_next_of_mem_order (nearestRoot?_spec later_near).1
      have again_later (other : ClassId) (displaces : table.Displaces other later) :
          ∃ further, other < further ∧ table.Alike further later := by
        obtain ⟨further, behind, alike_further⟩ := again other (displaces.of_alike alike)
        exact ⟨further, behind, alike_further.trans alike.symm⟩
      obtain ⟨other, later_belongs, shown⟩ :=
        ih (table.next - later) (left ▸ Nat.sub_lt_sub_left old id_lt) later_variant again_later rfl
      have other_near := later_belongs.nearestRoot?_eq h later_old later_variant.2.2
      obtain rfl : other = root := Option.some.inj (other_near.symm.trans later_near)
      rw [alike.2] at shown
      exact ⟨other, belongs, shown⟩

end ClassTable

/-! ### The main result -/

/--
Whatever is an instance of a root belongs to the nearest root of its class. That is one of the bases
of the class, and it lists the class by its module and qualified name. So a root lists the class of
every instance whose nearest root it is. Left out are registrations with contracts, and classes that
one with slots has displaced unless a later class is listed as the same.
-/
theorem History.first_root_shows {past : List Attempt} {table : ClassTable}
    (history : History past table) (unregistered : table.registered = []) {id : ClassId}
    {args : List Value} {object : Instance} (created : Instance.create table id args = .ok object)
    {root : ClassId} (is_root : (table.info root).isRoot = true)
    (instance_of : table.fulfils object.cls root = true)
    (shown_again : ∀ slotted, table.Displaces slotted object.cls →
      ∃ later, slotted < later ∧ table.Alike later object.cls) :
    ∃ first listed, table.nearestRoot? object.cls = some first ∧
      first ∈ (table.info object.cls).bases ∧ table.listing first = .ok listed ∧
      (table.info object.cls).key ∈ listed := by
  have h := history.wellFormed
  have closed := history.closed
  obtain ⟨rfl, _⟩ := Instance.create_spec created
  have inherited : root ∈ (table.info object.cls).order := by
    simpa [ClassTable.inherits] using closed.inherits_of_fulfils h unregistered instance_of
  have old := ClassTable.lt_next_of_mem_order inherited
  have is_variant := closed.isVariant_of_create h created is_root inherited
  obtain ⟨first, belongs, shown⟩ := closed.shown_latest h is_variant shown_again
  have first_root := (ClassTable.inheritedRoot?_spec belongs.inherited).2.1
  exact ⟨first, table.keys first, belongs.nearestRoot?_eq h old is_variant.2.2, belongs.direct,
    h.listing_root first_root, shown⟩

private def declaredRoot (name : String) (bases : List ClassId) (handled : Option (List String)) :
    Declaration :=
  { name, home := "m", qualifiedName := name, bases, root := some true, handled }

private def declaredVariant (bases : List ClassId) : Declaration :=
  { name := "A", home := "m", qualifiedName := "A", bases }

private def nestedSlotted (bases : List ClassId) : Declaration :=
  { name := "A", home := "m", qualifiedName := "Outer.A", bases, fields := some [],
    slots := true }

private def twoRoots : ClassTable :=
  ((ClassTable.initial.declare
    (declaredRoot "Op" [catalogueId, contractId .single] (some ["A"]))).1.declare
      (declaredRoot "Sub" [13] none)).1

private def twoRootsPast : List Attempt :=
  [⟨.initial, declaredRoot "Op" [catalogueId, contractId .single] (some ["A"])⟩,
    ⟨(ClassTable.initial.declare
      (declaredRoot "Op" [catalogueId, contractId .single] (some ["A"]))).1,
      declaredRoot "Sub" [13] none⟩]

private theorem twoRoots_history : History twoRootsPast twoRoots :=
  .declared (.declared .initial (by decide)) (by decide)

/-- A variant of the root under the other one, after one with slots that was listed as the same. -/
private def afterSlotted : ClassTable :=
  ((twoRoots.declare (nestedSlotted [14])).1.declare (declaredVariant [14])).1

private def afterSlottedPast : List Attempt :=
  twoRootsPast ++ [⟨twoRoots, nestedSlotted [14]⟩] ++
    [⟨(twoRoots.declare (nestedSlotted [14])).1, declaredVariant [14]⟩]

private theorem afterSlotted_history : History afterSlottedPast afterSlotted := by
  have valid : (nestedSlotted [14]).Valid twoRoots := by decide
  have grown := ClassTable.declare_grows twoRoots_history.wellFormed valid
  exact .declared (.declared twoRoots_history valid) fun base member =>
    Nat.lt_of_lt_of_le (valid base member) grown.next_le

set_option maxRecDepth 4000 in
/-- An instance of two roots is shown by the one that is declared under the other, also if a class
with slots was listed as the same before. -/
theorem History.first_root_shows_underRoot :
    History afterSlottedPast afterSlotted ∧ afterSlotted.registered = [] ∧
      Instance.create afterSlotted 17 [] = .ok ⟨17, []⟩ ∧
      (afterSlotted.info 13).isRoot = true ∧ afterSlotted.fulfils 17 13 = true ∧
      afterSlotted.Displaces 16 17 ∧
      (∀ slotted, afterSlotted.Displaces slotted 17 →
        ∃ later, slotted < later ∧ afterSlotted.Alike later 17) ∧
      ∃ listed, afterSlotted.listing 14 = .ok listed ∧ ("m", "A") ∈ listed := by
  have unregistered : afterSlotted.registered = [] := rfl
  have created : Instance.create afterSlotted 17 [] = .ok ⟨17, []⟩ := rfl
  have is_root : (afterSlotted.info 13).isRoot = true := rfl
  have instance_of : afterSlotted.fulfils 17 13 = true := rfl
  have renamed : (afterSlotted.info 16).name ≠ (afterSlotted.info 16).qualifiedName := by
    show "A" ≠ "Outer.A"
    decide
  have displaces : afterSlotted.Displaces 16 17 := ⟨⟨⟨_, rfl, rfl⟩, renamed, rfl⟩, rfl⟩
  have shown_again : ∀ slotted, afterSlotted.Displaces slotted 17 →
      ∃ later, slotted < later ∧ afterSlotted.Alike later 17 := by
    rintro slotted ⟨listed, _⟩
    have inside : slotted < 18 := listed.lt_next
    have not_last : slotted ≠ 17 := by
      rintro rfl
      obtain ⟨⟨_, held, _⟩, _⟩ := listed
      cases held
    exact ⟨17, Nat.lt_of_le_of_ne (Nat.le_of_lt_succ inside) not_last, rfl, rfl⟩
  obtain ⟨first, listed, is_first, _, lists, shown⟩ :=
    History.first_root_shows afterSlotted_history unregistered created is_root instance_of
      shown_again
  obtain rfl : 14 = first := Option.some.inj is_first
  exact ⟨afterSlotted_history, unregistered, created, is_root, instance_of, displaces, shown_again,
    listed, lists, shown⟩

/-- A root that another one is declared under does not show what belongs to that. -/
theorem History.outer_root_omits :
    let declared := twoRoots.declare (declaredVariant [14])
    History (twoRootsPast ++ [⟨twoRoots, declaredVariant [14]⟩]) declared.1 ∧
      declared.2 = none ∧ declared.1.registered = [] ∧
      Instance.create declared.1 15 [] = .ok ⟨15, []⟩ ∧
      (declared.1.info 13).isRoot = true ∧ declared.1.fulfils 15 13 = true ∧
      (declared.1.info 15).key = ("m", "A") ∧ declared.1.listing 13 = .ok [] :=
  ⟨.declared twoRoots_history (by decide), rfl, rfl, rfl, rfl, rfl, rfl, rfl⟩

end StepPipeline.Catalogue
