import StepPipeline.Proofs.Catalogue.History
import StepPipeline.Proofs.Catalogue.Roots

/-!
What roots list. A root shows its variants by their modules and qualified names. Enrolling a variant
appends it to what its root shows, without what was shown as the same before; other roots show what
they have shown.
-/

set_option autoImplicit false
set_option relaxedAutoImplicit false

namespace StepPipeline.Catalogue

namespace ClassTable

variable {table before after : ClassTable} {id root : ClassId}

def keys (table : ClassTable) (root : ClassId) : List (String × String) :=
  (table.info root).variants.map fun variant => (table.info variant).key

theorem listing_of_held
    (held : table.inheritedRoot? (table.info id).order = some (.shared (.cls root))) :
    table.listing id = .ok (table.keys root) := by
  have reached := attribute?_rootName_eq_cls_iff.mpr held
  simp only [listing, reached, keys]

theorem WellFormed.held_by_root (h : table.WellFormed) (is_root : (table.info root).isRoot = true) :
    table.inheritedRoot? (table.info root).order = some (.shared (.cls root)) := by
  have old := lt_next_of_isRoot is_root
  obtain ⟨not_object, not_catalogue, unslotted⟩ := h.roots root is_root
  have visible : hidesRoot (table.info root).fields = false := by
    cases held : (table.info root).fields with
    | none => rfl
    | some fields =>
      have slots := (unslotted fields held).2
      simp [hidesRoot, slots]
  have own : table.ownMember? rootName root = some (.shared (.cls root)) := by
    rw [ownMember?_rootName]
    simp [visible, not_catalogue, not_object, is_root]
  rw [(h.ordered root old).eq_cons]
  simp only [inheritedRoot?, List.findSome?_cons, own]

theorem WellFormed.listing_root (h : table.WellFormed) (is_root : (table.info root).isRoot = true) :
    table.listing root = .ok (table.keys root) :=
  listing_of_held (h.held_by_root is_root)

theorem keys_congr (same_variants : (after.info root).variants = (before.info root).variants)
    (same_keys : ∀ variant ∈ (before.info root).variants,
      (after.info variant).key = (before.info variant).key) :
    after.keys root = before.keys root := by
  rw [keys, keys, same_variants]
  exact List.map_congr_left same_keys

theorem Grows.key_eq (grown : before.Grows after) (old : id < before.next) :
    (after.info id).key = (before.info id).key := by
  obtain ⟨variants, same⟩ := grown.kept id old
  rw [same]
  rfl

end ClassTable

namespace Declaration

variable {table after : ClassTable} {info : ClassInfo} {parent root : ClassId}

theorem relisted_add (h : table.WellFormed) (parent : ClassId) (info : ClassInfo) :
    relisted (table.add info) table.next (table.info parent).variants =
      (table.info parent).variants.filter (fun other => (table.info other).key != info.key) ++
        [table.next] := by
  rw [relisted, ClassTable.info_add_next]
  congr 1
  refine List.filter_congr fun other member => ?_
  rw [ClassTable.info_add_of_ne (Nat.ne_of_lt (h.listed parent other member).1)]

theorem keys_relisted (h : table.WellFormed)
    (variants : (after.info parent).variants =
      relisted (table.add info) table.next (table.info parent).variants)
    (grown : table.Grows after) :
    after.keys parent =
      (table.keys parent).filter (· != info.key) ++ [(after.info table.next).key] := by
  rw [ClassTable.keys, variants, relisted_add h, List.map_append, List.map_singleton,
    ClassTable.keys, List.filter_map]
  congr 1
  refine List.map_congr_left fun other member => ?_
  exact grown.key_eq (h.listed parent other (List.mem_filter.mp member).1).1

theorem keys_unlisted (h : table.WellFormed)
    (variants : (after.info root).variants = (table.info root).variants)
    (grown : table.Grows after) : after.keys root = table.keys root :=
  ClassTable.keys_congr variants fun variant member =>
    grown.key_eq (h.listed root variant member).1

theorem info_list_same (old : parent < table.next) (variant : ClassId) :
    (list table parent variant).info parent =
      { table.info parent with
        variants := relisted table variant (table.info parent).variants } := by
  rw [list_eq, ClassTable.info_update_same old]

theorem info_list_of_ne (distinct : root ≠ parent) (variant : ClassId) :
    (list table parent variant).info root = table.info root := by
  rw [list_eq, ClassTable.info_update_of_ne distinct]

end Declaration

end StepPipeline.Catalogue
