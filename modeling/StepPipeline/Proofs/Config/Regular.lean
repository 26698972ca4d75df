import StepPipeline.Proofs.Config.Format

/-!
Reading payloads whose numbers are regular: none of their integers is out of the range of the
floating-point numbers, and no quantity is the number that is none. Such a payload is read just if
it describes a valid configuration. Otherwise the first check that fails is one for a fault, and
what is said of it shows the values that it names. Main result: `read_format`.
-/

set_option autoImplicit false
set_option relaxedAutoImplicit false

namespace StepPipeline

open Numeral.Binary64 (overflowThreshold)

namespace Value

mutual

/-- The integers that a value holds, at any depth. -/
def integersIn : Value → List Int
  | .int n => [n]
  | .list items => integersInAll items
  | .tuple items => integersInAll items
  | .set items => integersInAll items
  | .dict entries => integersInEntries entries
  | .mapping entries => integersInEntries entries
  | _ => []

def integersInAll : List Value → List Int
  | [] => []
  | v :: rest => integersIn v ++ integersInAll rest

/-- The integers in a row of entries, in keys as well as in values. -/
def integersInEntries : List (Value × Value) → List Int
  | [] => []
  | (k, v) :: rest => integersIn k ++ integersIn v ++ integersInEntries rest

end

/-- An integer of more digits than can be written. -/
def TooLong (n : Int) : Prop :=
  Numeral.tenTo Numeral.digitLimit ≤ n.natAbs

mutual

theorem tooLong_of_holds (v : Value) (long : holdsLongInteger v = true) :
    ∃ n ∈ integersIn v, TooLong n := by
  cases v with
  | int n =>
    rw [holdsLongInteger] at long
    have exceeds := of_decide_eq_true long
    exact ⟨n, by simp [integersIn], exceeds⟩
  | list items => exact tooLong_of_any items long
  | tuple items => exact tooLong_of_any items long
  | set items => exact tooLong_of_any items long
  | dict entries => exact tooLong_of_anyEntry entries long
  | mapping entries => exact tooLong_of_anyEntry entries long
  | _ => simp [holdsLongInteger] at long

theorem tooLong_of_any : (items : List Value) → anyLongInteger items = true →
    ∃ n ∈ integersInAll items, TooLong n
  | v :: rest, long => by
    rw [anyLongInteger, Bool.or_eq_true] at long
    rcases long with here | later
    · obtain ⟨n, mem, long⟩ := tooLong_of_holds v here
      exact ⟨n, List.mem_append_left _ mem, long⟩
    · obtain ⟨n, mem, long⟩ := tooLong_of_any rest later
      exact ⟨n, List.mem_append_right _ mem, long⟩

theorem tooLong_of_anyEntry : (entries : List (Value × Value)) → anyLongEntry entries = true →
    ∃ n ∈ integersInEntries entries, TooLong n
  | (k, v) :: rest, long => by
    rw [anyLongEntry, Bool.or_eq_true, Bool.or_eq_true] at long
    rcases long with (key | value) | later
    · obtain ⟨n, mem, long⟩ := tooLong_of_holds k key
      exact ⟨n, List.mem_append_left _ (List.mem_append_left _ mem), long⟩
    · obtain ⟨n, mem, long⟩ := tooLong_of_holds v value
      exact ⟨n, List.mem_append_left _ (List.mem_append_right _ mem), long⟩
    · obtain ⟨n, mem, long⟩ := tooLong_of_anyEntry rest later
      exact ⟨n, List.mem_append_right _ mem, long⟩

end

theorem integersIn_subset_all {v : Value} {items : List Value} (mem : v ∈ items) :
    integersIn v ⊆ integersInAll items := by
  induction items with
  | nil => cases mem
  | cons item rest ih =>
    rcases List.mem_cons.mp mem with rfl | later
    · exact List.subset_append_left _ _
    · exact List.Subset.trans (ih later) (List.subset_append_right _ _)

theorem integersIn_subset_entries {entry : Value × Value} {entries : List (Value × Value)}
    (mem : entry ∈ entries) : integersIn entry.2 ⊆ integersInEntries entries := by
  induction entries with
  | nil => cases mem
  | cons first rest ih =>
    rcases List.mem_cons.mp mem with rfl | later
    · exact List.Subset.trans (List.subset_append_right _ _) (List.subset_append_left _ _)
    · exact List.Subset.trans (ih later) (List.subset_append_right _ _)

theorem integersIn_subset_of_lookup? {key v : Value} {entries : List (Value × Value)}
    (stored : lookup? key entries = some v) : integersIn v ⊆ integersInEntries entries := by
  obtain ⟨entry, found, rfl⟩ := Option.map_eq_some_iff.mp stored
  exact integersIn_subset_entries (List.mem_of_find?_eq_some found)

/-- Is the value a numeral, should it denote a number at all? -/
def isNumeral : Value → Bool
  | .text _ => true
  | .bytes _ => true
  | _ => false

end Value

namespace Config

def integerFields (payload : Value) : List Value :=
  ["Nx", "Ny"].filterMap (field? (worldEntries payload)) ++
    (sourceItems (worldEntries payload)).flatMap fun item =>
      ["x", "y"].filterMap (field? (entriesOf item))

structure Regular (payload : Value) : Prop where
  /-- No integer in it is out of range. -/
  integers : ∀ n ∈ payload.integersIn, n.natAbs < overflowThreshold
  /-- No numeral that is given for an integer denotes one out of range. -/
  numerals : ∀ found ∈ integerFields payload, found.isNumeral = true →
    ∀ n ∈ found.toInteger?, n.natAbs < overflowThreshold
  /-- No quantity is the number that is none. -/
  numbers : ∀ found ∈ quantityFields payload, ∀ x ∈ found.quantity?, x.isNaN = false

section Fields

variable {payload : Value}

theorem integersIn_entriesOf (found : Value) :
    Value.integersInEntries (entriesOf found) ⊆ found.integersIn := by
  cases found <;> simp [entriesOf, Value.integersInEntries, Value.integersIn]

theorem integersIn_fieldOf (entries : List (Value × Value)) (key : String) :
    (fieldOf entries key).integersIn ⊆ Value.integersInEntries entries := by
  unfold fieldOf
  cases stored : field? entries key with
  | none => simp [Value.integersIn]
  | some found => exact Value.integersIn_subset_of_lookup? stored

theorem integersIn_worldEntries (payload : Value) :
    Value.integersInEntries (worldEntries payload) ⊆ payload.integersIn := by
  have members : Value.integersInEntries ((members? payload).getD []) ⊆ payload.integersIn := by
    cases payload <;> simp [members?, Value.integersInEntries, Value.integersIn]
  exact List.Subset.trans (integersIn_entriesOf _)
    (List.Subset.trans (integersIn_fieldOf _ _) members)

theorem integersIn_sourceItems {entries : List (Value × Value)} {item : Value}
    (mem : item ∈ sourceItems entries) : item.integersIn ⊆ Value.integersInEntries entries := by
  unfold sourceItems at mem
  split at mem
  · next items given =>
    have list : (Value.list items).integersIn ⊆ Value.integersInEntries entries :=
      Value.integersIn_subset_of_lookup? given
    rw [Value.integersIn] at list
    exact List.Subset.trans (Value.integersIn_subset_all mem) list
  · cases mem

end Fields

def Fault.shows : Fault → List Value
  | .missing key _ => [key]
  | .notNumber _ _ found => [found]
  | .notInteger _ _ found => [found]
  | .outside _ x y _ _ => [.tuple [.int x, .int y]]
  | _ => []

/-- Nothing that the message of a fault shows is too long to be written. -/
def Fault.Legible (fault : Fault) : Prop :=
  ∀ shown ∈ fault.shows, shown.holdsLongInteger = false

theorem Fault.Legible.message_eq {fault : Fault} (legible : fault.Legible) :
    fault.message =
      match fault with
      | .missing key place => s!"Missing required key '{key.plain}' in {place}."
      | .notNumber place key found => s!"{place}.{key} must be a number, got {found.shown}."
      | .notInteger place key found => s!"{place}.{key} must be an integer, got {found.shown}."
      | .outside place x y width height =>
        s!"{place} {(Value.tuple [.int x, .int y]).shown} lies outside the {width}x{height} grid."
      | other => other.message := by
  cases fault with
  | missing key place => simp [Fault.message, naming, legible key (List.mem_singleton_self _)]
  | notNumber place key found =>
    simp [Fault.message, showing, legible found (List.mem_singleton_self _)]
  | notInteger place key found =>
    simp [Fault.message, showing, legible found (List.mem_singleton_self _)]
  | outside place x y width height =>
    simp [Fault.message, showing, legible _ (List.mem_singleton_self _)]
  | _ => rfl

def Check.Legible : Check → Prop
  | holds _ fault => fault.Legible
  | inRange _ => True

section Numbers

variable {payload : Value}

theorem integersIn_worldField (payload : Value) (key : String) :
    (fieldOf (worldEntries payload) key).integersIn ⊆ payload.integersIn :=
  List.Subset.trans (integersIn_fieldOf _ _) (integersIn_worldEntries payload)

theorem integersIn_item {item : Value} (mem : item ∈ sourceItems (worldEntries payload)) :
    item.integersIn ⊆ payload.integersIn :=
  List.Subset.trans (integersIn_sourceItems mem) (integersIn_worldEntries payload)

theorem integersIn_sourceField {item : Value} (mem : item ∈ sourceItems (worldEntries payload))
    (key : String) : (fieldOf (entriesOf item) key).integersIn ⊆ payload.integersIn :=
  List.Subset.trans (integersIn_fieldOf _ _)
    (List.Subset.trans (integersIn_entriesOf _) (integersIn_item mem))

theorem int_mem_fieldOf {entries : List (Value × Value)} {key : String} {n : Int}
    (stored : field? entries key = some (.int n)) : n ∈ (fieldOf entries key).integersIn := by
  simp [fieldOf_eq stored, Value.integersIn]

theorem not_tooLong {n : Int} (small : n.natAbs < overflowThreshold) : ¬ Value.TooLong n := by
  intro long
  have limit : Numeral.tenTo 1024 ≤ Numeral.tenTo Numeral.digitLimit :=
    Numeral.tenTo_le (by decide)
  have bound := Numeral.Binary64.overflowThreshold_le
  unfold Value.TooLong at long
  omega

/-- A value of which all integers are in range can be written. -/
theorem short_of_inRange {found : Value}
    (small : ∀ n ∈ found.integersIn, n.natAbs < overflowThreshold) :
    found.holdsLongInteger = false := by
  by_contra held
  obtain ⟨n, mem, long⟩ := Value.tooLong_of_holds found (by simpa using held)
  exact not_tooLong (small n mem) long

theorem exists_item_of_forall₂ {items : List Value} {sources : List (Source Float)}
    {source : Source Float} (described : List.Forall₂ DescribesSource items sources)
    (among : source ∈ sources) : ∃ item ∈ items, DescribesSource item source := by
  induction described with
  | nil => cases among
  | @cons item first items sources here others ih =>
    rcases List.mem_cons.mp among with rfl | later
    · exact ⟨item, List.mem_cons_self, here⟩
    · obtain ⟨other, mem, described⟩ := ih later
      exact ⟨other, List.mem_cons_of_mem _ mem, described⟩

theorem DescribesSources.exists_item {entries : List (Value × Value)}
    {sources : List (Source Float)} {source : Source Float}
    (described : DescribesSources (field? entries "sources") sources) (among : source ∈ sources) :
    ∃ item ∈ sourceItems entries, DescribesSource item source := by
  unfold sourceItems
  cases given : field? entries "sources" with
  | none => rw [given] at described; cases described; cases among
  | some found =>
    rw [given] at described
    cases described with
    | empty => cases among
    | given paired => exact exists_item_of_forall₂ paired among

namespace Regular

variable (regular : Regular payload)

include regular

theorem short {found : Value} (within : found.integersIn ⊆ payload.integersIn) :
    found.holdsLongInteger = false :=
  short_of_inRange fun n mem => regular.integers n (within mem)

theorem inRange {found : Value} {n : Int} (mem : found ∈ integerFields payload)
    (within : found.integersIn ⊆ payload.integersIn) (meant : found.toInteger? = some n) :
    n.natAbs < overflowThreshold := by
  cases found with
  | int m =>
    cases meant
    exact regular.integers n (within (by simp [Value.integersIn]))
  -- A floating-point number that is whole is in range by itself.
  | float x =>
    rw [← Nat.not_le, ← Numeral.Binary64.ofInt?_eq_none_iff]
    exact Numeral.Binary64.ofInt?_ne_none_of_integer? meant
  | text s => exact regular.numerals _ mem rfl n meant
  | bytes bs => exact regular.numerals _ mem rfl n meant
  | _ => cases meant

theorem integerOf_inRange {entries : List (Value × Value)} {key : String}
    (among : ∀ found, field? entries key = some found → found ∈ integerFields payload)
    (within : (fieldOf entries key).integersIn ⊆ payload.integersIn) :
    (integerOf entries key).natAbs < overflowThreshold := by
  unfold integerOf
  cases meant : (fieldOf entries key).toInteger? with
  | none => exact Numeral.Binary64.overflowThreshold_pos
  | some n =>
    have there : fieldOf entries key ≠ .none := by
      intro absent
      rw [absent] at meant
      cases meant
    exact regular.inRange (among _ (field?_of_fieldOf rfl there)) within meant

theorem worldInteger_inRange {key : String} (named : key ∈ ["Nx", "Ny"]) :
    (integerOf (worldEntries payload) key).natAbs < overflowThreshold :=
  regular.integerOf_inRange
    (fun _ stored => List.mem_append_left _ (List.mem_filterMap.mpr ⟨key, named, stored⟩))
    (integersIn_worldField payload key)

theorem sourceInteger_inRange {item : Value} {key : String}
    (among : item ∈ sourceItems (worldEntries payload)) (named : key ∈ ["x", "y"]) :
    (integerOf (entriesOf item) key).natAbs < overflowThreshold :=
  regular.integerOf_inRange
    (fun _ stored => List.mem_append_right _ (List.mem_flatMap.mpr
      ⟨item, among, List.mem_filterMap.mpr ⟨key, named, stored⟩⟩))
    (integersIn_sourceField among key)

theorem ofInt?_ne_none {n : Int} (checked : .inRange n ∈ checks payload) :
    Numeral.Binary64.ofInt? n ≠ none := by
  rw [ne_eq, Numeral.Binary64.ofInt?_eq_none_iff, Nat.not_le]
  rcases range_checked checked with extent | quantity
  · obtain ⟨key, named, rfl⟩ := List.mem_map.mp extent
    exact regular.worldInteger_inRange named
  · apply regular.integers
    rcases List.mem_append.mp quantity with world | source
    · obtain ⟨key, -, stored⟩ := List.mem_filterMap.mp world
      exact integersIn_worldField payload key (int_mem_fieldOf stored)
    · obtain ⟨item, among, stored⟩ := List.mem_filterMap.mp source
      exact integersIn_sourceField among "amount" (int_mem_fieldOf stored)

theorem isNaN_of_hasQuantity {entries : List (Value × Value)} {key : String} {x : Float}
    (among : ∀ found, field? entries key = some found → found ∈ quantityFields payload)
    (has : HasQuantity entries key x) : x.isNaN = false := by
  obtain ⟨found, stored, meant⟩ := Option.bind_eq_some_iff.mp has
  exact regular.numbers found (among found stored) x meant

theorem isNaN_of_hasQuantityOr {entries : List (Value × Value)} {key : String} {x fallback : Float}
    (among : ∀ found, field? entries key = some found → found ∈ quantityFields payload)
    (has : HasQuantityOr fallback entries key x) (number : fallback.isNaN = false) :
    x.isNaN = false := by
  rcases has with has | ⟨-, rfl⟩
  · exact regular.isNaN_of_hasQuantity among has
  · exact number

theorem isNaN_of_describes {config : Config Float}
    (described : DescribesWorld (worldEntries payload) config) :
    ∀ x ∈ quantities config, x.isNaN = false := by
  have among (key : String) (named : key ∈ ["dt_s", "diffusivity", "half_life_s"])
      (found : Value) (stored : field? (worldEntries payload) key = some found) :
      found ∈ quantityFields payload :=
    List.mem_append_left _ (List.mem_filterMap.mpr ⟨key, named, stored⟩)
  intro x mem
  simp only [quantities, List.mem_append, List.mem_cons, List.not_mem_nil, or_false,
    Option.mem_toList, List.mem_map] at mem
  rcases mem with ((rfl | rfl) | halfLife) | ⟨source, mem, rfl⟩
  -- The quantities that may be absent have a number to fall back on.
  · exact regular.isNaN_of_hasQuantityOr (among "dt_s" (by simp)) described.tickLength rfl
  · exact regular.isNaN_of_hasQuantityOr (among "diffusivity" (by simp)) described.diffusivity rfl
  · have halfLives := described.halfLife
    rw [halfLife] at halfLives
    generalize given : field? (worldEntries payload) "half_life_s" = stored at halfLives
    cases halfLives with
    | given meant => exact regular.numbers _ (among "half_life_s" (by simp) _ given) x meant
  · obtain ⟨item, listed, entries, rfl, -, -, has⟩ := described.sources.exists_item mem
    refine regular.isNaN_of_hasQuantity (fun found stored => ?_) has
    exact List.mem_append_right _ (List.mem_filterMap.mpr ⟨_, listed, stored⟩)

/-- The configurations that a regular payload describes are admitted just if they are valid. -/
theorem admitted_iff {config : Config Float}
    (described : DescribesWorld (worldEntries payload) config) :
    Admitted config ↔ Valid config := by
  have inRange {key : String} {n : Int} (named : key ∈ ["Nx", "Ny"])
      (has : HasInteger (worldEntries payload) key n) : Numeral.Binary64.ofInt? n ≠ none := by
    rw [ne_eq, Numeral.Binary64.ofInt?_eq_none_iff, Nat.not_le,
      ← (pass_integerChecks_iff "world").mpr has |>.2]
    exact regular.worldInteger_inRange named
  constructor
  · intro admitted
    exact admitted.valid_iff.mpr (regular.isNaN_of_describes described)
  · intro valid
    exact valid.admitted (inRange (by simp) described.width) (inRange (by simp) described.height)

end Regular

section Legible

variable {entries : List (Value × Value)} {key place : String}

theorem legible_present : (present entries key place).Legible := by
  simp [present, Check.Legible, Fault.Legible, Fault.shows, Value.holdsLongInteger]

theorem legible_integerChecks (short : (fieldOf entries key).holdsLongInteger = false) :
    ∀ check ∈ integerChecks entries key place, check.Legible := by
  refine List.forall_mem_cons.mpr ⟨legible_present, ?_⟩
  simp [Check.Legible, Fault.Legible, Fault.shows, short]

theorem legible_quantityChecks {found : Value} (short : found.holdsLongInteger = false) :
    ∀ check ∈ quantityChecks key place found, check.Legible := by
  have ranges : ∀ check ∈ rangeChecks found, check.Legible := by
    cases found <;> simp [rangeChecks, Check.Legible]
  refine List.forall_mem_append.mpr ⟨ranges, ?_⟩
  simp [Check.Legible, Fault.Legible, Fault.shows, short]

theorem legible_optionalChecks (short : (fieldOf entries key).holdsLongInteger = false) :
    ∀ check ∈ optionalChecks entries key, check.Legible := by
  unfold optionalChecks
  unfold fieldOf at short
  cases given : field? entries key with
  | none => simp
  | some found =>
    rw [given] at short
    exact legible_quantityChecks short

theorem legible_notNegative {name : String} {x : Float} : (notNegative name x).Legible := by
  simp [notNegative, Check.Legible, Fault.Legible, Fault.shows]

theorem legible_notZeroOrLess {name : String} {x : Float} : (notZeroOrLess name x).Legible := by
  simp [notZeroOrLess, Check.Legible, Fault.Legible, Fault.shows]

theorem legible_halfLifeChecks
    (short : (fieldOf entries "half_life_s").holdsLongInteger = false) :
    ∀ check ∈ halfLifeChecks (field? entries "half_life_s"), check.Legible := by
  unfold fieldOf at short
  cases given : field? entries "half_life_s" with
  | none => simp [halfLifeChecks]
  | some found =>
    rw [given] at short
    have numeric : ∀ check ∈ quantityChecks "half_life_s" "world" found ++
        [notZeroOrLess "world.half_life_s" (quantityOf found)], check.Legible :=
      List.forall_mem_append.mpr ⟨legible_quantityChecks short, by simp [legible_notZeroOrLess]⟩
    cases found with
    | none => simp [halfLifeChecks]
    | _ => exact numeric

theorem legible_outside (place : String) (width height : Int) {x y : Int}
    (xSmall : x.natAbs < overflowThreshold) (ySmall : y.natAbs < overflowThreshold) :
    (Fault.outside place x y width height).Legible := by
  intro shown mem
  obtain rfl := List.mem_singleton.mp mem
  apply short_of_inRange
  simp [Value.integersIn, Value.integersInAll, xSmall, ySmall]

section Payload

variable (regular : Regular payload)

include regular

theorem legible_sourceChecks {width height : Int} {index : Nat} {item : Value}
    (among : item ∈ sourceItems (worldEntries payload)) :
    ∀ check ∈ sourceChecks width height index item, check.Legible := by
  have short (key : String) : (fieldOf (entriesOf item) key).holdsLongInteger = false :=
    regular.short (integersIn_sourceField among key)
  have small (key : String) (named : key ∈ ["x", "y"]) :=
    regular.sourceInteger_inRange among named
  have outside := legible_outside (sourcePlace index) width height (small "x" (by simp))
    (small "y" (by simp))
  simp only [sourceChecks, List.forall_mem_cons, List.forall_mem_append]
  refine ⟨?_, ⟨⟨legible_integerChecks (short "x"), legible_integerChecks (short "y")⟩,
    legible_present, legible_quantityChecks (short "amount")⟩, outside, legible_notNegative,
    List.forall_mem_nil _⟩
  simp [Check.Legible, Fault.Legible, Fault.shows]

theorem legible_sourcesChecks {width height : Int} {index : Nat} {items : List Value}
    (among : ∀ item ∈ items, item ∈ sourceItems (worldEntries payload)) :
    ∀ check ∈ sourcesChecks width height index items, check.Legible := by
  induction items generalizing index with
  | nil => simp [sourcesChecks]
  | cons item rest ih =>
    rw [List.forall_mem_cons] at among
    exact List.forall_mem_append.mpr ⟨legible_sourceChecks regular among.1, ih among.2⟩

theorem legible_sourceListChecks {width height : Int} :
    ∀ check ∈ sourceListChecks width height (field? (worldEntries payload) "sources"),
      check.Legible := by
  cases given : field? (worldEntries payload) "sources" with
  | none => simp [sourceListChecks]
  | some found =>
    cases found with
    | none => simp [sourceListChecks]
    | list items =>
      refine legible_sourcesChecks regular fun item mem => ?_
      rw [sourceItems, given]
      exact mem
    | _ => simp [sourceListChecks, Check.Legible, Fault.Legible, Fault.shows]

theorem legible_checks : ∀ check ∈ checks payload, check.Legible := by
  have short (key : String) : (fieldOf (worldEntries payload) key).holdsLongInteger = false :=
    regular.short (integersIn_worldField payload key)
  simp only [checks, worldChecks, extentChecks, List.forall_mem_cons, List.forall_mem_append,
    and_assoc]
  have ended := List.forall_mem_nil Check.Legible
  refine ⟨?_, legible_present, ?_, ended, legible_integerChecks (short "Nx"),
    legible_integerChecks (short "Ny"), trivial, ?_, ended, trivial, ?_, ended,
    legible_optionalChecks (short "dt_s"), legible_notZeroOrLess, ended,
    legible_optionalChecks (short "diffusivity"), legible_notNegative, ended,
    legible_halfLifeChecks (short "half_life_s"), legible_sourceListChecks regular⟩
  all_goals simp [Check.Legible, Fault.Legible, Fault.shows]

end Payload

end Legible

/--
A payload with regular numbers is read just if it describes a valid configuration, and then as this
one. Otherwise it has a fault: that of the first check that fails, said with all that it shows.
-/
theorem read_format {payload : Value} (regular : Regular payload) :
    (∀ config, read payload = .ok config ↔ Describes payload config ∧ Valid config) ∧
      ((∀ config, ¬ (Describes payload config ∧ Valid config)) →
        ∃ before fault after, checks payload = before ++ .holds false fault :: after ∧
          Pass before ∧ fault.Legible ∧ read payload = .error (.invalid fault)) := by
  have accepts (config : Config Float) :
      read payload = .ok config ↔ Describes payload config ∧ Valid config := by
    rw [read_eq_ok_iff]
    refine and_congr_right fun ⟨members, entries, given, world, described⟩ => ?_
    rw [← worldEntries_eq given world] at described
    exact regular.admitted_iff described
  refine ⟨accepts, fun undescribed => ?_⟩
  cases result : read payload with
  | ok config => exact absurd ((accepts config).mp result) (undescribed config)
  | error refusal =>
    obtain ⟨before, check, after, split, passed, ⟨fault, rfl, rfl⟩ | ⟨n, rfl, beyond, -⟩⟩ :=
      read_eq_error result
    · have mem : .holds false fault ∈ checks payload := by simp [split]
      exact ⟨before, fault, after, split, passed, legible_checks regular _ mem, rfl⟩
    · have mem : .inRange n ∈ checks payload := by simp [split]
      exact absurd beyond (regular.ofInt?_ne_none mem)

/-- A world of three columns and two rows, with one source in the given column. -/
def heated (column : Int) : Value :=
  .dict [(.text "world", .dict [(.text "Nx", .int 3), (.text "Ny", .text " 2 "),
    (.text "dt_s", .text "0.5"), (.text "half_life_s", .none), (.text "sources", .list [.dict
      [(.text "x", .int column), (.text "y", .float 1.0), (.text "amount", .int 4)]])])]

theorem regular_heated (column : Int) (small : column.natAbs < overflowThreshold) :
    Regular (heated column) where
  integers := by
    have fits : 4 < overflowThreshold := by decide +kernel
    simp only [heated, Value.integersIn, Value.integersInEntries, Value.integersInAll]
    simp [small]
    omega
  numerals := by
    have fields : integerFields (heated column) =
        [.int 3, .text " 2 ", .int column, .float 1.0] := rfl
    rw [fields]
    intro found mem numeral n meant
    simp only [List.mem_cons, List.not_mem_nil, or_false] at mem
    rcases mem with rfl | rfl | rfl | rfl
    · cases numeral
    · obtain rfl : 2 = n := Option.some.inj meant
      decide +kernel
    · cases numeral
    · cases numeral
  numbers := by
    have fields : quantityFields (heated column) = [.text "0.5", .none, .int 4] := rfl
    rw [fields]
    intro found mem x meant
    simp only [List.mem_cons, List.not_mem_nil, or_false] at mem
    rcases mem with rfl | rfl | rfl
    · obtain rfl : 0.5 = x := Option.some.inj meant
      rfl
    · cases meant
    · obtain rfl : 4.0 = x := Option.some.inj meant
      rfl

theorem read_format_heated :
    (Describes (heated 1) ⟨3, 2, 0.5, 0.0, none, [⟨1, 1, 4.0⟩]⟩ ∧
        Valid ⟨3, 2, 0.5, 0.0, none, [⟨1, 1, 4.0⟩]⟩) ∧
      ∃ before fault after, checks (heated 3) = before ++ .holds false fault :: after ∧
        Pass before ∧ fault.Legible ∧ read (heated 3) = .error (.invalid fault) := by
  have second := read_format (regular_heated 1 (by decide +kernel))
  have fourth := read_format (regular_heated 3 (by decide +kernel))
  refine ⟨(second.1 _).mp rfl, fourth.2 fun config described => ?_⟩
  have refused : read (heated 3) =
      .error (.invalid (.outside "world.sources[0]" 3 1 3 2)) := rfl
  rw [(fourth.1 config).mpr described] at refused
  cases refused

end Numbers

end Config

end StepPipeline
