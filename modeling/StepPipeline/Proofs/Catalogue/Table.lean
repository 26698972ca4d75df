import StepPipeline.Catalogue.Declaration

/-!
What the operations on a table of classes do. Adding a class or changing one leaves the others as
they are. A declaration describes a class, enrols it and completes it; each of these either fails
or does what is said of it here, and everything else about declarations is derived from that.
-/

set_option autoImplicit false
set_option relaxedAutoImplicit false

namespace StepPipeline.Catalogue

namespace ClassTable

variable {table : ClassTable} {id other : ClassId} {info : ClassInfo}
  {change : ClassInfo → ClassInfo}

/-! ### Classes of a table -/

@[simp]
theorem next_add : (table.add info).next = table.next + 1 := by
  simp [next, add]

@[simp]
theorem next_update : (table.update id change).next = table.next := by
  simp [next, update]

theorem info_of_next_le (beyond : table.next ≤ id) : table.info id = default := by
  simp only [ClassTable.info, List.getElem?_eq_none beyond, Option.getD_none]

theorem lt_next_of_mem_order {ancestor : ClassId} (member : ancestor ∈ (table.info id).order) :
    id < table.next := by
  refine Nat.lt_of_not_le fun beyond => ?_
  rw [info_of_next_le beyond] at member
  cases member

theorem lt_next_of_isRoot (is_root : (table.info id).isRoot = true) : id < table.next := by
  refine Nat.lt_of_not_le fun beyond => ?_
  rw [info_of_next_le beyond] at is_root
  cases is_root

@[simp]
theorem info_add_next : (table.add info).info table.next = info := by
  simp [ClassTable.info, add, next]

theorem info_add_of_ne (distinct : id ≠ table.next) : (table.add info).info id = table.info id := by
  rcases Nat.lt_or_gt_of_ne distinct with old | beyond
  · simp only [ClassTable.info, add, List.getElem?_append_left old]
  · have le : (table.add info).next ≤ id := by
      rw [next_add]
      exact beyond
    rw [info_of_next_le le, info_of_next_le (Nat.le_of_lt beyond)]

theorem info_update_same (old : id < table.next) :
    (table.update id change).info id = change (table.info id) := by
  simp only [ClassTable.info, update, List.getElem?_set_self old, Option.getD_some]

theorem info_update_of_ne (distinct : other ≠ id) :
    (table.update id change).info other = table.info other := by
  simp only [ClassTable.info, update, List.getElem?_set_ne (Ne.symm distinct)]

end ClassTable

namespace Declaration

open ClassTable (rootName)

variable {table after : ClassTable} {declaration : Declaration} {info : ClassInfo}

/-! ### Descriptions -/

/-- The bases of the declared class; a class without bases has the one that all inherit from. -/
def parents (declaration : Declaration) : List ClassId :=
  if declaration.bases.isEmpty then [objectId] else declaration.bases

structure Describes (table : ClassTable) (declaration : Declaration) (info : ClassInfo) : Prop where
  name : info.name = declaration.name
  key : info.key = (declaration.home, declaration.qualifiedName)
  bases : info.bases = declaration.parents
  order : ∃ merged, info.order = table.next :: merged ∧
    merge (info.bases.map (fun base => (table.info base).order) ++ [info.bases]) = .ok merged
  isRoot : info.isRoot = false
  variants : info.variants = []
  fields : info.fields = none

theorem describes_of_ok (described : describe table declaration = .ok info) :
    Describes table declaration info := by
  simp only [describe, bind, Except.bind] at described
  split at described
  · cases described
  · split at described
    · cases described
    · simp only [pure, Except.pure] at described
      split at described
      · cases described
      next order ordered =>
        simp only [Except.ok.injEq] at described
        subst described
        refine ⟨rfl, rfl, rfl, ?_, rfl, rfl, rfl⟩
        simp only [orderOf] at ordered
        split at ordered
        · cases ordered
        · split at ordered
          next merged same =>
            simp only [Except.ok.injEq] at ordered
            exact ⟨merged, ordered.symm, same⟩
          · cases ordered

/-! ### Enrolment -/

/-- The variants of a root that lists one more: an older one that is listed as the same is left
out. -/
def relisted (table : ClassTable) (variant : ClassId) (variants : List ClassId) : List ClassId :=
  variants.filter (fun other => (table.info other).key != (table.info variant).key) ++ [variant]

theorem list_eq (table : ClassTable) (root variant : ClassId) :
    list table root variant = table.update root fun info =>
      { info with variants := relisted table variant info.variants } := rfl

inductive Enrolled (table : ClassTable) (info : ClassInfo) : Option Bool → ClassTable → Prop
  | outside (open_class : (table.add info).inCatalogue table.next = false) :
      Enrolled table info none (table.add info)
  | root {shape : Shape} (catalogued : (table.add info).inCatalogue table.next = true)
      (shaped : (table.add info).shapeOf table.next = .ok shape) :
      Enrolled table info (some true)
        ((table.add info).update table.next fun info => { info with isRoot := true })
  | variant {root : Option Bool} {parent : ClassId}
      (catalogued : (table.add info).inCatalogue table.next = true) (no_root : root ≠ some true)
      (held : (table.add info).attribute? table.next rootName = some (.cls parent))
      (direct : parent ∈ info.bases) :
      Enrolled table info root (list (table.add info) parent table.next)

theorem enrol_cases (table : ClassTable) (info : ClassInfo) (root : Option Bool) :
    (hidesHook table info.order.tail = false ∧
        ∃ after, enrol table info root = .ok after ∧ Enrolled table info root after) ∨
      ∃ fault, enrol table info root = .error fault ∧ fault.isTypeError = true := by
  cases seen : hidesHook table info.order.tail with
  | true => exact .inr ⟨.notCallable "member_descriptor", by simp [enrol, seen], rfl⟩
  | false =>
    cases inside : (table.add info).inCatalogue table.next with
    | false =>
      cases root with
      | some root => exact .inr ⟨.noKeyword info.qualifiedName, by simp [enrol, seen, inside], rfl⟩
      | none => exact .inl ⟨rfl, table.add info, by simp [enrol, seen, inside], .outside inside⟩
    | true =>
      by_cases is_root : root = some true
      · subst is_root
        cases shaped : (table.add info).shapeOf table.next with
        | error fault =>
          exact .inr ⟨.shapeless fault, by simp [enrol, seen, inside, shaped], rfl⟩
        | ok shape =>
          exact .inl ⟨rfl, _, by simp [enrol, seen, inside, shaped], .root inside shaped⟩
      · simp only [enrol, seen, inside, is_root, Bool.not_true, Bool.false_eq_true, if_false]
        split
        next parent held =>
          split
          next direct =>
            exact .inl ⟨trivial, _, rfl, .variant inside is_root held (by simpa using direct)⟩
          next => exact .inr ⟨_, rfl, rfl⟩
        next => exact .inr ⟨_, rfl, rfl⟩
        next => exact .inr ⟨_, rfl, rfl⟩

theorem enrol_eq_ok_iff {root : Option Bool} :
    enrol table info root = .ok after ↔
      hidesHook table info.order.tail = false ∧ Enrolled table info root after := by
  constructor
  · intro accepted
    rcases enrol_cases table info root with ⟨seen, other, same, enrolled⟩ | ⟨fault, refused, _⟩
    · rw [accepted] at same
      cases same
      exact ⟨seen, enrolled⟩
    · rw [accepted] at refused
      cases refused
  · rintro ⟨seen, enrolled⟩
    cases enrolled with
    | outside outside => simp [enrol, seen, outside]
    | root inside shaped => simp [enrol, seen, inside, shaped]
    | variant inside no_root held direct => simp [enrol, seen, inside, no_root, held, direct]

/-! ### Completion -/

def create (table : ClassTable) (declaration : Declaration) : Except ClassFault ClassTable := do
  let info ← declaration.describe table
  enrol table info declaration.root

theorem create_eq_ok_iff :
    create table declaration = .ok after ↔
      ∃ info, declaration.describe table = .ok info ∧
        enrol table info declaration.root = .ok after := by
  simp only [create, bind, Except.bind]
  cases declaration.describe table <;> simp

def withFields (table : ClassTable) (id : ClassId) (fields : Fields) : ClassTable :=
  table.update id fun info => { info with fields := some fields }

theorem createSlotted_eq_ok_iff {fields : Fields} :
    createSlotted table info fields = .ok after ↔
      (info.isRoot = true → fields.names.contains rootName = true) ∧
        ∃ enrolled, enrol table (withSlots table info fields) none = .ok enrolled ∧
          after = enrolled.update table.next fun created =>
            { created with qualifiedName := info.qualifiedName } := by
  simp only [createSlotted, bind, Except.bind, throw, throwThe, MonadExceptOf.throw, pure,
    Except.pure]
  by_cases refused : (info.isRoot && !fields.names.contains rootName) = true
  · rw [if_pos refused]
    simp_all
  · rw [if_neg refused]
    cases enrol table (withSlots table info fields) none with
    | error fault => simp
    | ok enrolled =>
      simp only [Bool.and_eq_true, Bool.not_eq_true', not_and, Bool.not_eq_false] at refused
      constructor
      · intro same
        exact ⟨refused, enrolled, rfl, (Except.ok.inj same).symm⟩
      · rintro ⟨_, other, same, rfl⟩
        cases same
        rfl

/-- What completes a class that has been created: nothing, its fields, or its fields in slots of a
second class. -/
inductive Completed (table : ClassTable) (declaration : Declaration) (id : ClassId) :
    ClassTable → Prop
  | bare (fieldless : declaration.fields = none) : Completed table declaration id table
  | plain {own : List String} {fields : Fields} (given : declaration.fields = some own)
      (fielded : fieldsOf table id declaration.qualifiedName own = .ok fields)
      (unslotted : declaration.slots = false) :
      Completed table declaration id (withFields table id fields)
  | slotted {own : List String} {fields : Fields} {after : ClassTable}
      (given : declaration.fields = some own)
      (fielded : fieldsOf table id declaration.qualifiedName own = .ok fields)
      (slots : declaration.slots = true)
      (again : createSlotted (withFields table id fields) ((withFields table id fields).info id)
        fields = .ok after) :
      Completed table declaration id after

theorem complete_eq_ok_iff {id : ClassId} :
    table.complete declaration id = .ok after ↔ Completed table declaration id after := by
  constructor
  · intro completed
    unfold ClassTable.complete at completed
    split at completed
    next fieldless =>
      cases completed
      exact .bare fieldless
    next own given =>
      simp only [bind, Except.bind, pure, Except.pure] at completed
      split at completed
      · cases completed
      next fields fielded =>
        split at completed
        next slots => exact .slotted given fielded slots completed
        next unslotted =>
          cases completed
          exact .plain given fielded (by simpa using unslotted)
  · intro completed
    cases completed with
    | bare fieldless => simp [ClassTable.complete, fieldless]
    | plain given fielded unslotted =>
      simp only [ClassTable.complete, given, fielded, unslotted, bind, Except.bind,
        Bool.false_eq_true, if_false]
      rfl
    | slotted given fielded slots again =>
      simp only [ClassTable.complete, given, fielded, slots, bind, Except.bind, if_true]
      exact again

/-- A declaration that is refused leaves the table as it is, and one that fails late leaves the
class that has been created. -/
theorem declare_eq (table : ClassTable) (declaration : Declaration) :
    table.declare declaration =
      match create table declaration with
      | .error fault => (table, some fault)
      | .ok created =>
        match created.complete declaration table.next with
        | .error fault => (created, some fault)
        | .ok completed => (completed, none) := rfl

end Declaration

end StepPipeline.Catalogue
