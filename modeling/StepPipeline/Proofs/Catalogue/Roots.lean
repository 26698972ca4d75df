import StepPipeline.Catalogue.Instance
import StepPipeline.Proofs.Catalogue.WellFormed

/-!
Which root a class belongs to. Under the name of the root a class holds itself a slot, itself if it
is a root, or nothing; what it does not hold it has from the first of its ancestors that does.
-/

set_option autoImplicit false
set_option relaxedAutoImplicit false

namespace StepPipeline.Catalogue.ClassTable

variable {table before after : ClassTable} {id root : ClassId} {info : ClassInfo}

/-- Does a class with the given fields keep one of them in a slot under the name of the root? -/
def hidesRoot (fields : Option Fields) : Bool :=
  fields.any fun fields => fields.slots.contains rootName

/-- What a class has from its ancestors under the name of the root. -/
def inheritedRoot? (table : ClassTable) (ancestors : List ClassId) : Option Member :=
  ancestors.findSome? (table.ownMember? rootName)

private theorem recordMember?_rootName (fields : Fields) :
    recordMember? fields rootName =
      if fields.slots.contains rootName then some .slot else none := by
  have not_state : stateRoutines.contains rootName = false := by decide
  have not_routine : recordRoutines.contains rootName = false := by decide
  simp only [recordMember?, not_state, not_routine, Bool.and_false, Bool.false_eq_true, if_false]
  split
  · rfl
  · split
    · rfl
    · rfl

private theorem roleMember?_rootName (table : ClassTable) (id : ClassId) :
    table.roleMember? rootName id =
      if (table.info id).isRoot = true then some (.cls id) else none := by
  have not_execute : rootName ≠ "execute" := by decide
  have not_shape : rootName ≠ "__shape__" := by decide
  have not_slots : rootName ≠ "__slots__" := by decide
  have not_references : rootName ≠ referencesName := by decide
  have not_variants : (rootName == variantsName) = false := by decide
  simp only [roleMember?, not_execute, not_shape, not_slots, not_references, not_variants,
    false_and, if_false, beq_self_eq_true, Bool.and_true, Bool.and_false, Bool.false_eq_true]

theorem ownMember?_rootName (table : ClassTable) (id : ClassId) :
    table.ownMember? rootName id =
      if hidesRoot (table.info id).fields then some .slot
      else if id = catalogueId then some (.shared (.value .none))
      else if id ≠ objectId ∧ (table.info id).isRoot = true then some (.shared (.cls id))
      else none := by
  have recorded : (table.info id).fields.bind (recordMember? · rootName) =
      if hidesRoot (table.info id).fields then some .slot else none := by
    cases (table.info id).fields with
    | none => rfl
    | some fields => exact recordMember?_rootName fields
  have by_catalogue : catalogueMember? rootName = some (.shared (.value .none)) := rfl
  have by_object : objectMember? rootName = none := rfl
  simp only [ownMember?, recorded, by_catalogue, by_object, roleMember?_rootName]
  by_cases hidden : hidesRoot (table.info id).fields = true
  · simp only [hidden, if_true]
  · simp only [hidden, Bool.false_eq_true, if_false]
    by_cases catalogue : id = catalogueId
    · simp only [catalogue, if_true]
    · by_cases object : id = objectId
      · simp [object, objectId, catalogueId]
      · by_cases is_root : (table.info id).isRoot = true <;> simp [catalogue, object, is_root]

theorem member?_rootName (table : ClassTable) (id : ClassId) :
    table.member? id rootName = table.inheritedRoot? (table.info id).order := rfl

/-- The root that is reached by way of a class is what the class holds as such. -/
theorem attribute?_rootName_eq_cls_iff :
    table.attribute? id rootName = some (.cls root) ↔
      table.inheritedRoot? (table.info id).order = some (.shared (.cls root)) := by
  have no_fact : table.fact? id rootName = none := rfl
  have no_kind : table.kindMember? id rootName = none := by
    have not_register : rootName ≠ "register" := by decide
    have not_check : checkRoutines.contains rootName = false := by decide
    have not_kind : kindRoutines.contains rootName = false := by decide
    have not_contract : contractRoutines.contains rootName = false := by decide
    simp only [kindMember?, not_register, not_check, not_kind, not_contract, false_and, if_false,
      Bool.and_false, Bool.or_false, Bool.false_eq_true]
  rw [← member?_rootName]
  simp only [attribute?, no_fact, no_kind]
  cases table.member? id rootName with
  | none => simp
  | some member => cases member <;> simp [plainAttribute, Attribute.bound]

theorem eq_of_ownMember?_rootName
    (own : table.ownMember? rootName id = some (.shared (.cls root))) :
    id = root ∧ (table.info root).isRoot = true ∧ root ≠ catalogueId := by
  rw [ownMember?_rootName] at own
  split at own
  · cases own
  · split at own
    · cases own
    next not_catalogue =>
      split at own
      next is_root =>
        obtain rfl : id = root := by simpa using own
        exact ⟨rfl, is_root.2, not_catalogue⟩
      · cases own

theorem inheritedRoot?_spec {ancestors : List ClassId}
    (held : table.inheritedRoot? ancestors = some (.shared (.cls root))) :
    root ∈ ancestors ∧ (table.info root).isRoot = true ∧ root ≠ catalogueId := by
  obtain ⟨_, ancestor, _, split, own, _⟩ := List.findSome?_eq_some_iff.mp held
  obtain ⟨rfl, is_root⟩ := eq_of_ownMember?_rootName own
  refine ⟨?_, is_root⟩
  rw [split]
  simp

theorem findSome?_ownMember?_congr {ancestors : List ClassId} {name : String}
    (same : ∀ ancestor ∈ ancestors,
      after.ownMember? name ancestor = before.ownMember? name ancestor) :
    ancestors.findSome? (after.ownMember? name) = ancestors.findSome? (before.ownMember? name) := by
  induction ancestors with
  | nil => rfl
  | cons ancestor rest ih =>
    have rest_same := ih fun other member => same other (List.mem_cons_of_mem ancestor member)
    simp only [List.findSome?_cons, same ancestor List.mem_cons_self, rest_same]

theorem ownMember?_congr_variants {variants : List ClassId} {name : String}
    (same : after.info id = { before.info id with variants }) (distinct : name ≠ variantsName) :
    after.ownMember? name id = before.ownMember? name id := by
  have other : (name == variantsName) = false := by simpa using distinct
  simp only [ownMember?, roleMember?, same, other, Bool.and_false, Bool.false_eq_true, if_false]

theorem Grows.findSome?_ownMember?_eq (grown : before.Grows after) {ancestors : List ClassId}
    (old : ∀ ancestor ∈ ancestors, ancestor < before.next) {name : String}
    (distinct : name ≠ variantsName) :
    ancestors.findSome? (after.ownMember? name) = ancestors.findSome? (before.ownMember? name) := by
  refine findSome?_ownMember?_congr fun ancestor member => ?_
  obtain ⟨variants, same⟩ := grown.kept ancestor (old ancestor member)
  exact ownMember?_congr_variants same distinct

theorem Grows.inheritedRoot?_eq (grown : before.Grows after) {ancestors : List ClassId}
    (old : ∀ ancestor ∈ ancestors, ancestor < before.next) :
    after.inheritedRoot? ancestors = before.inheritedRoot? ancestors :=
  grown.findSome?_ownMember?_eq old (by decide)

theorem Grows.hidesHook_eq (grown : before.Grows after) {ancestors : List ClassId}
    (old : ∀ ancestor ∈ ancestors, ancestor < before.next) :
    Declaration.hidesHook after ancestors = Declaration.hidesHook before ancestors := by
  have distinct : subclassName ≠ variantsName := by decide
  simp only [Declaration.hidesHook, grown.findSome?_ownMember?_eq old distinct]

theorem Ordered.inheritedRoot?_eq {order : List ClassId} (ordered : table.Ordered id order)
    (visible : hidesRoot (table.info id).fields = false) (unrooted : (table.info id).isRoot = false)
    (not_catalogue : id ≠ catalogueId) :
    table.inheritedRoot? order = table.inheritedRoot? order.tail := by
  have own : table.ownMember? rootName id = none := by
    rw [ownMember?_rootName]
    simp [visible, unrooted, not_catalogue]
  rw [ordered.eq_cons, List.tail_cons]
  simp only [inheritedRoot?, List.findSome?_cons, own]

theorem inheritedRoot?_add_eq_cls_iff (h : table.WellFormed) (admissible : table.Admissible info) :
    (table.add info).inheritedRoot? info.order = some (.shared (.cls root)) ↔
      hidesRoot info.fields = false ∧
        table.inheritedRoot? info.order.tail = some (.shared (.cls root)) := by
  have grown : table.Grows (table.add info) := (Grows.refl table).add info
  have not_catalogue : table.next ≠ catalogueId := Nat.ne_of_gt h.catalogue
  have ordered : (table.add info).Ordered table.next info.order :=
    admissible.ordered.congr fun ancestor member =>
      grown.order_eq (admissible.ordered.below ancestor member)
  rw [← grown.inheritedRoot?_eq admissible.ordered.below]
  cases visible : hidesRoot info.fields with
  | true =>
    have own : (table.add info).ownMember? rootName table.next = some .slot := by
      rw [ownMember?_rootName, info_add_next]
      simp [visible]
    rw [ordered.eq_cons]
    simp [inheritedRoot?, own]
  | false =>
    rw [ordered.inheritedRoot?_eq (by rw [info_add_next]; exact visible)
      (by rw [info_add_next]; exact admissible.isRoot) not_catalogue]
    simp

end StepPipeline.Catalogue.ClassTable
