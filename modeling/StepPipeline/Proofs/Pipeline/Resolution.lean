import StepPipeline.Proofs.Pipeline.Arity

/-!
The shape of a row of items. One shape is expected of all items: the pinned one or else that of the
first item. A row is accepted just if each of its items is an operation value of that single shape,
so its order does not matter; otherwise it is refused for the first item that is not, and what
stands behind that item does not matter. Main result: `Pipeline.resolveShape_exact`.
-/

set_option autoImplicit false
set_option relaxedAutoImplicit false

namespace StepPipeline

variable {ι : Type}

namespace Facts

def shape? (facts : Facts) : Option Shape :=
  match facts.className?, facts.contracts with
  | none, [shape] => some shape
  | _, _ => none

/-- An item is an operation value whose single shape is the expected one. -/
def Fits (facts : Facts) (expected : Option Shape) : Prop :=
  facts.className? = none ∧ ∃ shape, facts.contracts = [shape] ∧ expected = some shape

/-- Why the item at an index is refused. Of several reasons the first one counts: it is a class, its
type has no shape or several, its single shape is not the expected one. -/
inductive Unfit (facts : Facts) (index : Nat) (expected : Option Shape) : ShapeFault → Prop
  | isClass {className : String} :
      facts.className? = some className →
      Unfit facts index expected (.classItem index className)
  | shapeless :
      facts.className? = none → facts.contracts = [] →
      Unfit facts index expected (.shapelessItem index (.none facts.typeName))
  | several :
      facts.className? = none → 2 ≤ facts.contracts.length →
      Unfit facts index expected (.shapelessItem index (.several facts.typeName facts.contracts))
  | otherShape {found wanted : Shape} :
      facts.className? = none → facts.contracts = [found] → expected = some wanted →
      found ≠ wanted →
      Unfit facts index expected (.otherShape index facts.typeName found wanted)

theorem ofContracts_eq_ok_iff {typeName : String} {contracts : List Shape} {shape : Shape} :
    Shape.ofContracts typeName contracts = .ok shape ↔ contracts = [shape] := by
  cases contracts with
  | nil => simp [Shape.ofContracts]
  | cons first rest => cases rest <;> simp [Shape.ofContracts]

theorem hasShape_iff {facts : Facts} {shape : Shape} :
    facts.HasShape shape ↔ facts.className? = none ∧ facts.contracts = [shape] := by
  rw [HasShape, ofContracts_eq_ok_iff]

theorem fits_some_iff {facts : Facts} {shape : Shape} :
    facts.Fits (some shape) ↔ facts.HasShape shape := by
  rw [hasShape_iff, Fits]
  constructor
  · rintro ⟨value, found, single, same⟩
    cases same
    exact ⟨value, single⟩
  · rintro ⟨value, single⟩
    exact ⟨value, shape, single, rfl⟩

theorem shape?_eq_some_iff {facts : Facts} {shape : Shape} :
    facts.shape? = some shape ↔ facts.HasShape shape := by
  rw [hasShape_iff, shape?]
  split
  · next found value single => simp [value, single]
  · next other =>
    constructor
    · intro impossible
      cases impossible
    · rintro ⟨value, single⟩
      exact absurd single (other shape value)

theorem Unfit.not_fits {facts : Facts} {index : Nat} {expected : Option Shape} {fault : ShapeFault}
    (unfit : facts.Unfit index expected fault) : ¬facts.Fits expected := by
  rintro ⟨value, shape, single, fits⟩
  cases unfit with
  | isClass named =>
    rw [named] at value
    cases value
  | shapeless _ kinds =>
    rw [kinds] at single
    cases single
  | several _ many => simp [single] at many
  | otherShape _ kinds expected differ =>
    have same : _ = shape := List.singleton_inj.mp (kinds.symm.trans single)
    exact differ (same.trans (Option.some.inj (fits.symm.trans expected)))

private theorem index_first (index : Nat) {bracket mark : String} (text : String)
    (divided : bracket = "]" ++ mark) :
    "steps[" ++ toString index ++ bracket ++ text = s!"steps[{index}]" ++ (mark ++ text) := by
  change _ = "steps[" ++ toString index ++ "]" ++ (mark ++ text)
  simp only [divided, String.append_assoc]

/-- What is said of an item begins with its index. -/
theorem Unfit.names {facts : Facts} {index : Nat} {expected : Option Shape} {fault : ShapeFault}
    (unfit : facts.Unfit index expected fault) :
    ∃ reason, fault.message = s!"steps[{index}]" ++ reason := by
  have colon : "]: " = "]" ++ ": " := rfl
  have opening : "] (" = "]" ++ " (" := rfl
  cases unfit with
  | @isClass className =>
    have said : (ShapeFault.classItem index className).message =
        "steps[" ++ toString index ++ "]: " ++
          (className ++ " is a class, not an operation value.") := by
      simp only [← String.append_assoc]
      rfl
    exact ⟨_, said.trans (index_first index _ colon)⟩
  | shapeless => exact ⟨_, index_first index _ colon⟩
  | several => exact ⟨_, index_first index _ colon⟩
  | @otherShape found wanted =>
    have said : (ShapeFault.otherShape index facts.typeName found wanted).message =
        "steps[" ++ toString index ++ "] (" ++ (facts.typeName ++ ") has shape " ++
          found.name ++ ", expected " ++ wanted.name ++ ".") := by
      simp only [← String.append_assoc]
      rfl
    exact ⟨_, said.trans (index_first index _ opening)⟩

end Facts

namespace Pipeline

def expectedShape? (facts : ι → Facts) (items : List ι) (pin : Option Shape) : Option Shape :=
  match pin with
  | some shape => some shape
  | none => items.head?.bind fun item => (facts item).shape?

/-- The item at an index is the first one that does not fit, for the reason that a fault gives. -/
def FirstUnfit (facts : ι → Facts) (expected : Option Shape) (items : List ι) (index : Nat)
    (fault : ShapeFault) : Prop :=
  (∀ earlier ∈ items.take index, (facts earlier).Fits expected) ∧
    ∃ item, items[index]? = some item ∧ (facts item).Unfit index expected fault

/-! ### One item -/

theorem itemShape_eq_error_iff {facts : Facts} {index : Nat} {expected : Option Shape}
    {fault : ShapeFault} :
    itemShape facts index expected = .error fault ↔ facts.Unfit index expected fault := by
  constructor
  · intro refused
    unfold itemShape at refused
    cases value : facts.className? with
    | some className =>
      rw [value] at refused
      cases refused
      exact .isClass value
    | none =>
      rw [value] at refused
      cases kinds : facts.contracts with
      | nil =>
        rw [kinds] at refused
        cases refused
        exact .shapeless value kinds
      | cons found rest =>
        cases rest with
        | nil =>
          rw [kinds] at refused
          cases expected with
          | none => cases refused
          | some wanted =>
            by_cases same : found = wanted
            · simp [Shape.ofContracts, same] at refused
            · simp only [Shape.ofContracts, same, if_false, Except.error.injEq] at refused
              cases refused
              exact .otherShape value kinds rfl same
        | cons second others =>
          rw [kinds] at refused
          cases refused
          rw [← kinds]
          refine .several value ?_
          rw [kinds]
          simp
  · intro unfit
    unfold itemShape
    cases unfit with
    | isClass value => rw [value]
    | shapeless value kinds => rw [value, kinds]; rfl
    | several value kinds =>
      rw [value]
      match contracts : facts.contracts with
      | [] => simp [contracts] at kinds
      | [_] => simp [contracts] at kinds
      | _ :: _ :: _ => rfl
    | otherShape value kinds wanted other =>
      rw [value, kinds, wanted]
      simp [Shape.ofContracts, other]

/-! ### Rows of items -/

/-- A row is resolved as if what is expected of it had been pinned. -/
theorem resolveShape_eq_resolveFrom (facts : ι → Facts) (items : List ι) (pin : Option Shape) :
    resolveShape facts items pin =
      resolveFrom facts 0 (expectedShape? facts items pin) items := by
  cases pin with
  | some shape => rfl
  | none =>
    cases items with
    | nil => rfl
    | cons first rest =>
      cases single : (facts first).shape? with
      | none => simp [resolveShape, expectedShape?, single]
      | some shape =>
        have fit : (facts first).HasShape shape := Facts.shape?_eq_some_iff.mp single
        have free : itemShape (facts first) 0 none = .ok shape :=
          itemShape_eq_ok_iff.mpr ⟨fit, .inl rfl⟩
        have held : itemShape (facts first) 0 (some shape) = .ok shape :=
          itemShape_eq_ok_iff.mpr ⟨fit, .inr rfl⟩
        simp only [resolveShape, expectedShape?, List.head?_cons, Option.bind_some, single,
          resolveFrom, free, held]

theorem itemShape_of_unexpected {facts : ι → Facts} {first : ι} {rest : List ι}
    {pin : Option Shape} (unexpected : expectedShape? facts (first :: rest) pin = none) :
    ∃ fault, itemShape (facts first) 0 none = .error fault := by
  cases pin with
  | some shape => cases unexpected
  | none =>
    have shapeless : (facts first).shape? = none := unexpected
    cases found : itemShape (facts first) 0 none with
    | error fault => exact ⟨fault, rfl⟩
    | ok shape =>
      rw [Facts.shape?_eq_some_iff.mpr (itemShape_eq_ok_iff.mp found).1] at shapeless
      cases shapeless

theorem exists_unfit_of_head {facts : ι → Facts} {start : Nat} {expected : Option Shape}
    {first : ι} {refused : ShapeFault}
    (found : itemShape (facts first) start expected = .error refused) (rest : List ι)
    (fault : ShapeFault) :
    (∃ index, (∀ earlier ∈ (first :: rest).take index, (facts earlier).Fits expected) ∧
        ∃ item, (first :: rest)[index]? = some item ∧
          (facts item).Unfit (start + index) expected fault) ↔ refused = fault := by
  constructor
  · rintro ⟨index, earlier, item, at_index, unfit⟩
    cases index with
    | zero =>
      cases at_index
      rw [Nat.add_zero, ← itemShape_eq_error_iff, found] at unfit
      exact Except.error.inj unfit
    | succ index =>
      exact absurd (earlier first (by simp)) (itemShape_eq_error_iff.mp found).not_fits
  · rintro rfl
    exact ⟨0, by simp, first, rfl, itemShape_eq_error_iff.mp found⟩

theorem resolveFrom_some_eq_error_iff {facts : ι → Facts} {start : Nat} {shape : Shape}
    {items : List ι} {fault : ShapeFault} :
    resolveFrom facts start (some shape) items = .error fault ↔
      ∃ index, (∀ earlier ∈ items.take index, (facts earlier).Fits (some shape)) ∧
        ∃ item, items[index]? = some item ∧
          (facts item).Unfit (start + index) (some shape) fault := by
  induction items generalizing start with
  | nil => simp [resolveFrom]
  | cons first rest ih =>
    rw [resolveFrom]
    cases found : itemShape (facts first) start (some shape) with
    | error refused =>
      rw [exists_unfit_of_head found rest fault]
      dsimp only
      rw [Except.error.injEq]
    | ok other =>
      obtain ⟨fit, expected⟩ := itemShape_eq_ok_iff.mp found
      obtain rfl : shape = other := by simpa using expected
      dsimp only
      rw [ih]
      constructor
      · rintro ⟨index, earlier, item, at_index, unfit⟩
        refine ⟨index + 1, ?_, item, at_index, ?_⟩
        · rw [List.take_succ_cons, List.forall_mem_cons]
          exact ⟨Facts.fits_some_iff.mpr fit, earlier⟩
        · rw [← Nat.add_assoc, Nat.add_right_comm]
          exact unfit
      · rintro ⟨index, earlier, item, at_index, unfit⟩
        cases index with
        | zero =>
          cases at_index
          rw [Nat.add_zero, ← itemShape_eq_error_iff, found] at unfit
          cases unfit
        | succ index =>
          rw [List.take_succ_cons, List.forall_mem_cons] at earlier
          refine ⟨index, earlier.2, item, at_index, ?_⟩
          rw [Nat.add_right_comm, Nat.add_assoc]
          exact unfit

theorem resolveShape_eq_ok_iff {facts : ι → Facts} {items : List ι} {pin resolved : Option Shape} :
    resolveShape facts items pin = .ok resolved ↔
      resolved = expectedShape? facts items pin ∧
        ∀ item ∈ items, (facts item).Fits (expectedShape? facts items pin) := by
  rw [resolveShape_eq_resolveFrom]
  cases expected : expectedShape? facts items pin with
  | some shape =>
    simp only [Facts.fits_some_iff]
    exact resolveFrom_some_eq_ok_iff
  | none =>
    cases items with
    | nil => simp [resolveFrom, eq_comm]
    | cons first rest =>
      obtain ⟨fault, found⟩ := itemShape_of_unexpected expected
      rw [resolveFrom, found]
      constructor
      · intro impossible
        cases impossible
      · rintro ⟨_, fit⟩
        exact absurd (fit first List.mem_cons_self) (itemShape_eq_error_iff.mp found).not_fits

theorem resolveShape_eq_error_iff {facts : ι → Facts} {items : List ι} {pin : Option Shape}
    {fault : ShapeFault} :
    resolveShape facts items pin = .error fault ↔
      ∃ index, FirstUnfit facts (expectedShape? facts items pin) items index fault := by
  rw [resolveShape_eq_resolveFrom]
  cases expected : expectedShape? facts items pin with
  | some shape =>
    rw [resolveFrom_some_eq_error_iff]
    simp only [FirstUnfit, Nat.zero_add]
  | none =>
    cases items with
    | nil => simp [resolveFrom, FirstUnfit]
    | cons first rest =>
      obtain ⟨refused, found⟩ := itemShape_of_unexpected expected
      have head := exists_unfit_of_head found rest fault
      simp only [Nat.zero_add] at head
      rw [resolveFrom, found]
      dsimp only
      rw [Except.error.injEq]
      exact head.symm

theorem expectedShape?_take_append (facts : ι → Facts) (items others : List ι)
    (pin : Option Shape) {index : Nat} (inside : index < items.length) :
    expectedShape? facts (items.take (index + 1) ++ others) pin =
      expectedShape? facts items pin := by
  cases items with
  | nil => cases inside
  | cons first rest => rfl

theorem FirstUnfit.take_append {facts : ι → Facts} {expected : Option Shape} {items : List ι}
    {index : Nat} {fault : ShapeFault} (first : FirstUnfit facts expected items index fault)
    (others : List ι) :
    FirstUnfit facts expected (items.take (index + 1) ++ others) index fault := by
  obtain ⟨earlier, item, at_index, unfit⟩ := first
  have inside : index < items.length := (List.getElem?_eq_some_iff.mp at_index).1
  have length : (items.take (index + 1)).length = index + 1 := by
    rw [List.length_take]
    omega
  refine ⟨?_, item, ?_, unfit⟩
  · rw [List.take_append_of_le_length (by omega), List.take_take, Nat.min_eq_left (by omega)]
    exact earlier
  · rw [List.getElem?_append_left (by omega), List.getElem?_take_of_lt (by omega)]
    exact at_index

theorem expectedShape?_of_perm {facts : ι → Facts} {items others : List ι} {pin : Option Shape}
    (rearranged : items.Perm others)
    (fit : ∀ item ∈ items, (facts item).Fits (expectedShape? facts items pin)) :
    expectedShape? facts others pin = expectedShape? facts items pin := by
  cases pin with
  | some shape => rfl
  | none =>
    cases others with
    | nil => rw [rearranged.eq_nil]
    | cons first rest =>
      have among : first ∈ items := rearranged.mem_iff.mpr List.mem_cons_self
      obtain ⟨value, shape, single, expected⟩ := fit first among
      rw [expected]
      exact Facts.shape?_eq_some_iff.mpr (Facts.hasShape_iff.mpr ⟨value, single⟩)

theorem resolveShape_ok_of_perm {facts : ι → Facts} {items others : List ι}
    {pin resolved : Option Shape} (rearranged : items.Perm others)
    (accepted : resolveShape facts items pin = .ok resolved) :
    resolveShape facts others pin = .ok resolved := by
  obtain ⟨same, fit⟩ := resolveShape_eq_ok_iff.mp accepted
  have expected := expectedShape?_of_perm rearranged fit
  refine resolveShape_eq_ok_iff.mpr ⟨same.trans expected.symm, fun item among => ?_⟩
  rw [expected]
  exact fit item (rearranged.mem_iff.mpr among)

/-! ### The main result -/

/--
A row of items is resolved to the shape that is expected of it, which is the pinned one or else that
of its first item, just if every item is an operation value of this single shape. It is refused just
for the first item that is not. The fault then names the index of that item, and it stays the same
whatever stands behind the item. No order of the items makes a difference to their acceptance.
-/
theorem resolveShape_exact (facts : ι → Facts) (items : List ι) (pin : Option Shape) :
    let expected := expectedShape? facts items pin
    (∀ resolved, resolveShape facts items pin = .ok resolved ↔
        resolved = expected ∧ ∀ item ∈ items, (facts item).Fits expected) ∧
      (∀ fault, resolveShape facts items pin = .error fault ↔
        ∃ index, FirstUnfit facts expected items index fault) ∧
      (∀ index fault, FirstUnfit facts expected items index fault →
        (∃ reason, fault.message = s!"steps[{index}]" ++ reason) ∧
          ∀ others, resolveShape facts (items.take (index + 1) ++ others) pin = .error fault) ∧
      ∀ rearranged, items.Perm rearranged → ∀ resolved,
        (resolveShape facts items pin = .ok resolved ↔
          resolveShape facts rearranged pin = .ok resolved) := by
  intro expected
  refine ⟨fun _ => resolveShape_eq_ok_iff, fun _ => resolveShape_eq_error_iff, ?_, ?_⟩
  · intro index fault first
    obtain ⟨item, at_index, unfit⟩ := first.2
    refine ⟨unfit.names, fun others => ?_⟩
    have inside : index < items.length := (List.getElem?_eq_some_iff.mp at_index).1
    rw [resolveShape_eq_error_iff, expectedShape?_take_append facts items others pin inside]
    exact ⟨index, first.take_append others⟩
  · intro rearranged same resolved
    exact ⟨resolveShape_ok_of_perm same, resolveShape_ok_of_perm same.symm⟩

/-- Steps of one shape, two of them from a catalogue, before one of two shapes and a class. -/
private def mixedSteps : List (Session.Step Session.Operation) :=
  [.own (.push (.int 1)), .nest [], .own .virtual, .own .both, .own (.classItem "Push")]

theorem resolveShape_exact_mixed :
    let refused := ShapeFault.shapelessItem 3 (.several "Both" [.bare, .single])
    FirstUnfit Session.Step.facts (some .single) mixedSteps 3 refused ∧
      resolveShape Session.Step.facts mixedSteps none = .error refused ∧
      resolveShape Session.Step.facts (mixedSteps.take 4 ++ [.own .plain]) none =
        .error refused ∧
      (mixedSteps.take 3).Perm (mixedSteps.take 3).reverse ∧
      resolveShape Session.Step.facts (mixedSteps.take 3).reverse none = .ok (some .single) := by
  intro refused
  have earlier : ∀ step ∈ mixedSteps.take 3, step.facts.Fits (some .single) := by
    intro step among
    simp only [mixedSteps, List.take_succ_cons, List.take_zero, List.mem_cons, List.not_mem_nil,
      or_false] at among
    rcases among with rfl | rfl | rfl
    · exact ⟨rfl, .single, rfl, rfl⟩
    · exact ⟨rfl, .single, rfl, rfl⟩
    · exact ⟨rfl, .single, rfl, rfl⟩
  have first : FirstUnfit Session.Step.facts (some .single) mixedSteps 3 refused :=
    ⟨earlier, .own .both, rfl, .several rfl (by decide)⟩
  have reversed := (List.reverse_perm (mixedSteps.take 3)).symm
  obtain ⟨_, refused_iff, stays, _⟩ := resolveShape_exact Session.Step.facts mixedSteps none
  obtain ⟨accepted_iff, _, _, any_order⟩ :=
    resolveShape_exact Session.Step.facts (mixedSteps.take 3) none
  have accepted := (accepted_iff (some .single)).mpr ⟨rfl, earlier⟩
  exact ⟨first, (refused_iff refused).mpr ⟨3, first⟩, (stays 3 refused first).2 _, reversed,
    (any_order _ reversed (some .single)).mp accepted⟩

end Pipeline

end StepPipeline
