import StepPipeline.Proofs.Config.Checks

/-!
What configurations are read from. A payload describes a configuration if its fields convert to
what the configuration holds; it is read as that one if the configuration is admitted. The checks
admit what is not found to be invalid, which a quantity that is no number never is. Main results:
`read_eq_ok_iff`, `read_signs`.
-/

set_option autoImplicit false
set_option relaxedAutoImplicit false

namespace StepPipeline.Config

open Numeral (Binary64.ofInt?)

def Source.Inside (source : Source Float) (width height : Int) : Prop :=
  0 ≤ source.x ∧ source.x < width ∧ 0 ≤ source.y ∧ source.y < height

def quantities (config : Config Float) : List Float :=
  [config.tickLength, config.diffusivity] ++ config.halfLife.toList ++ config.sources.map (·.amount)

/-- The extents and quantities of a configuration are of the right sign, its sources inside. -/
structure Valid (config : Config Float) : Prop where
  wide : 0 < config.width
  tall : 0 < config.height
  ticking : 0.0 < config.tickLength
  spreading : 0.0 ≤ config.diffusivity
  decaying : ∀ halfLife ∈ config.halfLife, 0.0 < halfLife
  inside : ∀ source ∈ config.sources, source.Inside config.width config.height
  feeding : ∀ source ∈ config.sources, 0.0 ≤ source.amount

/-- What the checks make sure of: the extents are in range, no quantity is found to be of the wrong
sign, and the sources lie inside. -/
structure Admitted (config : Config Float) : Prop where
  wide : 0 < config.width
  tall : 0 < config.height
  widthInRange : Binary64.ofInt? config.width ≠ none
  heightInRange : Binary64.ofInt? config.height ≠ none
  ticking : ¬ config.tickLength ≤ 0.0
  spreading : ¬ config.diffusivity < 0.0
  decaying : ∀ halfLife ∈ config.halfLife, ¬ halfLife ≤ 0.0
  inside : ∀ source ∈ config.sources, source.Inside config.width config.height
  feeding : ∀ source ∈ config.sources, ¬ source.amount < 0.0

def HasInteger (entries : List (Value × Value)) (key : String) (n : Int) : Prop :=
  (field? entries key).bind Value.toInteger? = some n

def HasQuantity (entries : List (Value × Value)) (key : String) (x : Float) : Prop :=
  (field? entries key).bind Value.quantity? = some x

/-- A field denotes a quantity, or it is absent and the quantity is the given one. -/
def HasQuantityOr (fallback : Float) (entries : List (Value × Value)) (key : String) (x : Float) :
    Prop :=
  HasQuantity entries key x ∨ field? entries key = none ∧ x = fallback

def DescribesSource (item : Value) (source : Source Float) : Prop :=
  ∃ entries, item = .dict entries ∧ HasInteger entries "x" source.x ∧
    HasInteger entries "y" source.y ∧ HasQuantity entries "amount" source.amount

/-- A half-life is described by a field that is not none, and by no other. -/
inductive DescribesHalfLife : Option Value → Option Float → Prop
  | absent : DescribesHalfLife none none
  | empty : DescribesHalfLife (some .none) none
  | given {found : Value} {x : Float} : found.quantity? = some x →
      DescribesHalfLife (some found) (some x)

/-- Sources are described by a list, one by each item and in the same order; there are none if the
field is absent or none. -/
inductive DescribesSources : Option Value → List (Source Float) → Prop
  | absent : DescribesSources none []
  | empty : DescribesSources (some .none) []
  | given {items : List Value} {sources : List (Source Float)} :
      List.Forall₂ DescribesSource items sources → DescribesSources (some (.list items)) sources

structure DescribesWorld (entries : List (Value × Value)) (config : Config Float) : Prop where
  width : HasInteger entries "Nx" config.width
  height : HasInteger entries "Ny" config.height
  tickLength : HasQuantityOr 1.0 entries "dt_s" config.tickLength
  diffusivity : HasQuantityOr 0.0 entries "diffusivity" config.diffusivity
  halfLife : DescribesHalfLife (field? entries "half_life_s") config.halfLife
  sources : DescribesSources (field? entries "sources") config.sources

/-- A payload is a mapping whose world is a dictionary that describes a configuration. -/
def Describes (payload : Value) (config : Config Float) : Prop :=
  ∃ members entries, members? payload = some members ∧
    field? members "world" = some (.dict entries) ∧ DescribesWorld entries config

section Reading

theorem isDict_iff {found : Value} : isDict found = true ↔ ∃ entries, found = .dict entries := by
  cases found <;> simp [isDict]

variable {entries : List (Value × Value)} {key : String}

theorem pass_integerChecks_iff (place : String) {n : Int} :
    Pass (integerChecks entries key place) ∧ integerOf entries key = n ↔
      HasInteger entries key n := by
  unfold integerChecks integerOf HasInteger fieldOf
  cases given : field? entries key with
  | none => simp [given]
  | some found => cases meant : found.toInteger? <;> simp [given, meant]

theorem pass_quantityChecks_iff (key place : String) {found : Value} {x : Float} :
    Pass (quantityChecks key place found) ∧ quantityOf found = x ↔ found.quantity? = some x := by
  unfold quantityChecks quantityOf
  cases meant : found.quantity? with
  | none => simp
  | some y =>
    have ranged : Pass (rangeChecks found) := by
      cases found with
      | int n =>
        cases nearest : Binary64.ofInt? n with
        | none =>
          simp [Value.quantity?, Value.toNumber, Value.numberOfInt, nearest, Except.toOption]
            at meant
        | some x => simp [rangeChecks, nearest]
      | _ => exact pass_nil
    simp [ranged]

theorem pass_optionalChecks_iff {fallback x : Float} :
    Pass (optionalChecks entries key) ∧ optionalOf entries fallback key = x ↔
      HasQuantityOr fallback entries key x := by
  unfold optionalChecks optionalOf HasQuantityOr HasQuantity
  cases field? entries key with
  | none => simp [eq_comm]
  | some found => simpa using pass_quantityChecks_iff key "world"

theorem pass_presentQuantity_iff (place : String) {x : Float} :
    (present entries key place).refusal? = none ∧
        Pass (quantityChecks key place (fieldOf entries key)) ∧
        quantityOf (fieldOf entries key) = x ↔
      HasQuantity entries key x := by
  rw [pass_quantityChecks_iff, present_refusal?, HasQuantity, fieldOf]
  cases field? entries key <;> simp

theorem pass_givenHalfLife_iff {found : Value} {halfLife : Option Float} (given : found ≠ .none) :
    Pass (quantityChecks "half_life_s" "world" found ++
          [notZeroOrLess "world.half_life_s" (quantityOf found)]) ∧
        some (quantityOf found) = halfLife ↔
      DescribesHalfLife (some found) halfLife ∧ ∀ x ∈ halfLife, ¬ x ≤ 0.0 := by
  constructor
  · rintro ⟨passed, rfl⟩
    simp only [pass_append, pass_cons, notZeroOrLess_refusal?] at passed
    obtain ⟨numeric, sign, -⟩ := passed
    exact ⟨.given ((pass_quantityChecks_iff _ _).mp ⟨numeric, rfl⟩), by simpa using sign⟩
  · rintro ⟨described, signs⟩
    cases described with
    | empty => exact absurd rfl given
    | given meant =>
      obtain ⟨numeric, rfl⟩ :=
        (pass_quantityChecks_iff "half_life_s" "world").mpr meant
      simpa [numeric] using signs

theorem pass_halfLifeChecks_iff {given : Option Value} {halfLife : Option Float} :
    Pass (halfLifeChecks given) ∧ halfLifeOf given = halfLife ↔
      DescribesHalfLife given halfLife ∧ ∀ x ∈ halfLife, ¬ x ≤ 0.0 := by
  cases given with
  | none =>
    constructor
    · rintro ⟨-, rfl⟩
      exact ⟨.absent, by simp [halfLifeOf]⟩
    · rintro ⟨⟨⟩, -⟩
      exact ⟨pass_nil, rfl⟩
  | some found =>
    cases found with
    | none =>
      constructor
      · rintro ⟨-, rfl⟩
        exact ⟨.empty, by simp [halfLifeOf]⟩
      · rintro ⟨described, -⟩
        cases described with
        | empty => exact ⟨pass_nil, rfl⟩
        -- None denotes no quantity, so the case of a given half-life does not arise.
        | given meant => cases meant
    | _ => exact pass_givenHalfLife_iff nofun

theorem pass_sourceChecks_iff {width height : Int} {index : Nat} {item : Value}
    {source : Source Float} :
    Pass (sourceChecks width height index item) ∧ sourceOf item = source ↔
      DescribesSource item source ∧ source.Inside width height ∧ ¬ source.amount < 0.0 := by
  constructor
  · rintro ⟨passed, rfl⟩
    simp only [sourceChecks, pass_append, pass_cons, Check.holds_refusal?,
      notNegative_refusal?] at passed
    obtain ⟨dict, ⟨⟨xPassed, yPassed⟩, there, numeric⟩, inside, sign, -⟩ := passed
    obtain ⟨entries, rfl⟩ := isDict_iff.mp dict
    have inside := of_decide_eq_true inside
    exact ⟨⟨entries, rfl, (pass_integerChecks_iff _).mp ⟨xPassed, rfl⟩,
      (pass_integerChecks_iff _).mp ⟨yPassed, rfl⟩,
      (pass_presentQuantity_iff _).mp ⟨there, numeric, rfl⟩⟩, inside, sign⟩
  · rintro ⟨⟨entries, rfl, x, y, amount⟩, inside, sign⟩
    cases source with
    | mk sourceX sourceY sourceAmount =>
      obtain ⟨xPassed, rfl⟩ := (pass_integerChecks_iff (sourcePlace index)).mpr x
      obtain ⟨yPassed, rfl⟩ := (pass_integerChecks_iff (sourcePlace index)).mpr y
      obtain ⟨there, numeric, rfl⟩ :=
        (pass_presentQuantity_iff (sourcePlace index)).mpr amount
      refine ⟨?_, rfl⟩
      simp only [sourceChecks, pass_append, pass_cons, Check.holds_refusal?,
        notNegative_refusal?]
      exact ⟨rfl, ⟨⟨xPassed, yPassed⟩, there, numeric⟩, decide_eq_true inside, sign, pass_nil⟩

theorem pass_sourcesChecks_iff {width height : Int} {index : Nat} {items : List Value}
    {sources : List (Source Float)} :
    Pass (sourcesChecks width height index items) ∧ items.map sourceOf = sources ↔
      List.Forall₂ DescribesSource items sources ∧
        ∀ source ∈ sources, source.Inside width height ∧ ¬ source.amount < 0.0 := by
  induction items generalizing index sources with
  | nil =>
    constructor
    · rintro ⟨-, rfl⟩
      exact ⟨.nil, by simp⟩
    · rintro ⟨⟨⟩, -⟩
      exact ⟨pass_nil, rfl⟩
  | cons item rest ih =>
    simp only [sourcesChecks, pass_append, List.map_cons]
    constructor
    · rintro ⟨⟨here, later⟩, rfl⟩
      obtain ⟨described, admitted⟩ := pass_sourceChecks_iff.mp ⟨here, rfl⟩
      obtain ⟨others, among⟩ := ih.mp ⟨later, rfl⟩
      exact ⟨.cons described others, List.forall_mem_cons.mpr ⟨admitted, among⟩⟩
    · rintro ⟨described, admitted⟩
      cases described with
      | cons first others =>
        rw [List.forall_mem_cons] at admitted
        obtain ⟨here, rfl⟩ := pass_sourceChecks_iff.mpr ⟨first, admitted.1⟩
        obtain ⟨later, rfl⟩ := ih.mpr ⟨others, admitted.2⟩
        exact ⟨⟨here, later⟩, rfl⟩

theorem pass_sourceListChecks_iff {width height : Int} {given : Option Value}
    {sources : List (Source Float)} :
    Pass (sourceListChecks width height given) ∧ sourceListOf given = sources ↔
      DescribesSources given sources ∧
        ∀ source ∈ sources, source.Inside width height ∧ ¬ source.amount < 0.0 := by
  cases given with
  | none =>
    constructor
    · rintro ⟨-, rfl⟩
      exact ⟨.absent, by simp [sourceListOf]⟩
    · rintro ⟨⟨⟩, -⟩
      exact ⟨pass_nil, rfl⟩
  | some found =>
    cases found with
    | none =>
      constructor
      · rintro ⟨-, rfl⟩
        exact ⟨.empty, by simp [sourceListOf]⟩
      · rintro ⟨⟨⟩, -⟩
        exact ⟨pass_nil, rfl⟩
    | list items =>
      constructor
      · rintro passed
        obtain ⟨described, admitted⟩ := pass_sourcesChecks_iff.mp passed
        exact ⟨.given described, admitted⟩
      · rintro ⟨⟨⟩ | ⟨⟩ | ⟨described⟩, admitted⟩
        exact pass_sourcesChecks_iff.mpr ⟨described, admitted⟩
    | _ =>
      constructor
      · rintro ⟨passed, -⟩
        simp [sourceListChecks] at passed
      · rintro ⟨⟨⟩, -⟩

theorem pass_worldChecks_iff {config : Config Float} :
    Pass (worldChecks entries) ∧ worldOf entries = config ↔
      DescribesWorld entries config ∧ Admitted config := by
  constructor
  · rintro ⟨passed, rfl⟩
    simp only [worldChecks, pass_append, pass_cons, pass_extentChecks, notNegative_refusal?,
      notZeroOrLess_refusal?, and_assoc] at passed
    obtain ⟨width, height, widthInRange, wide, heightInRange, tall, tickLength, ticking, -,
      diffusivity, spreading, -, halfLife, sources⟩ := passed
    obtain ⟨halfLife, decaying⟩ := pass_halfLifeChecks_iff.mp ⟨halfLife, rfl⟩
    obtain ⟨sources, placed⟩ := pass_sourceListChecks_iff.mp ⟨sources, rfl⟩
    constructor
    · exact {
        width := (pass_integerChecks_iff _).mp ⟨width, rfl⟩
        height := (pass_integerChecks_iff _).mp ⟨height, rfl⟩
        tickLength := pass_optionalChecks_iff.mp ⟨tickLength, rfl⟩
        diffusivity := pass_optionalChecks_iff.mp ⟨diffusivity, rfl⟩
        halfLife, sources }
    · exact {
        wide, tall, widthInRange, heightInRange, ticking, spreading, decaying
        inside := fun source among => (placed source among).1
        feeding := fun source among => (placed source among).2 }
  · rintro ⟨described, admitted⟩
    cases config with
    | mk width height tickLength diffusivity halfLife sources =>
      obtain ⟨widthPassed, rfl⟩ := (pass_integerChecks_iff "world").mpr described.width
      obtain ⟨heightPassed, rfl⟩ :=
        (pass_integerChecks_iff "world").mpr described.height
      obtain ⟨lengthPassed, rfl⟩ := pass_optionalChecks_iff.mpr described.tickLength
      obtain ⟨diffusivityPassed, rfl⟩ := pass_optionalChecks_iff.mpr described.diffusivity
      obtain ⟨halfLifePassed, rfl⟩ :=
        pass_halfLifeChecks_iff.mpr ⟨described.halfLife, admitted.decaying⟩
      obtain ⟨sourcesPassed, rfl⟩ := pass_sourceListChecks_iff.mpr ⟨described.sources,
        fun source among => ⟨admitted.inside source among, admitted.feeding source among⟩⟩
      refine ⟨?_, rfl⟩
      simp only [worldChecks, pass_append, pass_cons, pass_extentChecks, notNegative_refusal?,
        notZeroOrLess_refusal?, and_assoc]
      exact ⟨widthPassed, heightPassed, admitted.widthInRange, admitted.wide,
        admitted.heightInRange, admitted.tall, lengthPassed, admitted.ticking, pass_nil,
        diffusivityPassed, admitted.spreading, pass_nil, halfLifePassed, sourcesPassed⟩

theorem worldEntries_eq {payload : Value} {members : List (Value × Value)}
    (given : members? payload = some members)
    (world : field? members "world" = some (.dict entries)) :
    worldEntries payload = entries := by
  rw [worldEntries, given, Option.getD_some, fieldOf_eq world]
  rfl

/-- A payload is read as the configuration that it describes, provided this is admitted. -/
theorem read_eq_ok_iff {payload : Value} {config : Config Float} :
    read payload = .ok config ↔ Describes payload config ∧ Admitted config := by
  rw [read_eq_accept, accept_eq_ok_iff, checks]
  simp only [pass_append, pass_cons, Check.holds_refusal?, and_assoc]
  constructor
  -- That the world is there follows from its being a dictionary.
  · rintro ⟨mapping, -, dict, -, passed⟩
    obtain ⟨members, given⟩ := Option.isSome_iff_exists.mp mapping
    obtain ⟨entries, dict⟩ := isDict_iff.mp dict
    rw [given, Option.getD_some] at dict
    have world := field?_of_fieldOf dict (by simp)
    rw [worldEntries_eq given world] at passed
    obtain ⟨described, admitted⟩ := pass_worldChecks_iff.mp passed
    exact ⟨⟨members, entries, given, world, described⟩, admitted⟩
  · rintro ⟨⟨members, entries, given, world, described⟩, admitted⟩
    rw [worldEntries_eq given world, given, Option.getD_some, fieldOf_eq world, present_refusal?,
      world]
    exact ⟨rfl, rfl, rfl, pass_nil, pass_worldChecks_iff.mpr ⟨described, admitted⟩⟩

end Reading

section Signs

open Numeral.Binary64 (zero_lt_float_iff zero_le_float_iff)

variable {config : Config Float}

/-- The quantities of an admitted configuration are of the right sign unless one is no number. -/
theorem Admitted.valid_iff (admitted : Admitted config) :
    Valid config ↔ ∀ x ∈ quantities config, x.isNaN = false := by
  constructor
  · intro valid x mem
    simp only [quantities, List.mem_append, List.mem_cons, List.not_mem_nil, or_false,
      Option.mem_toList, List.mem_map] at mem
    rcases mem with ((rfl | rfl) | halfLife) | ⟨source, among, rfl⟩
    · exact (zero_lt_float_iff.mp valid.ticking).2
    · exact (zero_le_float_iff.mp valid.spreading).2
    · exact (zero_lt_float_iff.mp (valid.decaying x halfLife)).2
    · exact (zero_le_float_iff.mp (valid.feeding source among)).2
  · intro numbers
    have length : config.tickLength.isNaN = false := numbers _ (by simp [quantities])
    have rate : config.diffusivity.isNaN = false := numbers _ (by simp [quantities])
    exact {
      wide := admitted.wide
      tall := admitted.tall
      ticking := zero_lt_float_iff.mpr ⟨admitted.ticking, length⟩
      spreading := zero_le_float_iff.mpr ⟨admitted.spreading, rate⟩
      decaying := fun x halfLife => zero_lt_float_iff.mpr
        ⟨admitted.decaying x halfLife, numbers x (by simp_all [quantities])⟩
      inside := admitted.inside
      feeding := fun source among => zero_le_float_iff.mpr
        ⟨admitted.feeding source among, numbers _ (by
          simp only [quantities, List.mem_append, List.mem_map]
          exact .inr ⟨source, among, rfl⟩)⟩ }

theorem Valid.admitted (valid : Valid config) (width : Binary64.ofInt? config.width ≠ none)
    (height : Binary64.ofInt? config.height ≠ none) : Admitted config where
  wide := valid.wide
  tall := valid.tall
  widthInRange := width
  heightInRange := height
  ticking := (zero_lt_float_iff.mp valid.ticking).1
  spreading := (zero_le_float_iff.mp valid.spreading).1
  decaying x halfLife := (zero_lt_float_iff.mp (valid.decaying x halfLife)).1
  inside := valid.inside
  feeding source among := (zero_le_float_iff.mp (valid.feeding source among)).1

/--
The extents of a configuration that is read are above zero and its sources lie inside; each of its
quantities compares with zero as it should just if it is a number at all.
-/
theorem read_signs {payload : Value} (accepted : read payload = .ok config) :
    0 < config.width ∧ 0 < config.height ∧
      (∀ source ∈ config.sources, source.Inside config.width config.height) ∧
      (0.0 < config.tickLength ↔ config.tickLength.isNaN = false) ∧
      (0.0 ≤ config.diffusivity ↔ config.diffusivity.isNaN = false) ∧
      (∀ halfLife ∈ config.halfLife, 0.0 < halfLife ↔ halfLife.isNaN = false) ∧
      (∀ source ∈ config.sources, 0.0 ≤ source.amount ↔ source.amount.isNaN = false) := by
  have admitted := (read_eq_ok_iff.mp accepted).2
  refine ⟨admitted.wide, admitted.tall, admitted.inside, ?_, ?_, ?_, ?_⟩
  · simp [zero_lt_float_iff, admitted.ticking]
  · simp [zero_le_float_iff, admitted.spreading]
  · intro halfLife given
    simp [zero_lt_float_iff, admitted.decaying halfLife given]
  · intro source among
    simp [zero_le_float_iff, admitted.feeding source among]

def untimed : Value :=
  .dict [(.text "world", .dict [(.text "Nx", .int 2), (.text "Ny", .text "2"),
    (.text "dt_s", .text "nan"), (.text "sources", .list [.dict
      [(.text "x", .int 0), (.text "y", .float 1.0), (.text "amount", .int 3)]])])]

theorem read_signs_untimed :
    read untimed = .ok ⟨2, 2, Numeral.Binary64.nan, 0.0, none, [⟨0, 1, 3.0⟩]⟩ ∧
      ¬ 0.0 < Numeral.Binary64.nan ∧ (0.0 : Float) ≤ 3.0 := by
  have accepted : read untimed = .ok ⟨2, 2, Numeral.Binary64.nan, 0.0, none, [⟨0, 1, 3.0⟩]⟩ := rfl
  obtain ⟨-, -, -, ticking, -, -, feeding⟩ := read_signs accepted
  exact ⟨accepted, fun above => absurd (ticking.mp above) (by decide),
    (feeding _ List.mem_cons_self).mpr rfl⟩

end Signs

end StepPipeline.Config
