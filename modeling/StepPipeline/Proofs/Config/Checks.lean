import StepPipeline.Config.Reading
import StepPipeline.Proofs.Numeral.Binary64

/-!
The checks of a configuration as a list. Which checks are made depends on the payload alone, and
reading it is going through them in order: the first that fails decides what is said, and if none
does the result is what the fields say. Main results: `read_eq_accept`, `read_ends`.
-/

set_option autoImplicit false
set_option relaxedAutoImplicit false

namespace StepPipeline

/-- The number that a value stands for where a quantity is asked for; no truth value is one. -/
def Value.quantity? : Value → Option Float
  | .bool _ => Option.none
  | v => v.toNumber.toOption

namespace Config

open Numeral (Binary64.ofInt?)

inductive Check where
  /-- A condition is to hold; a payload for which it does not has a fault. -/
  | holds (condition : Bool) (fault : Fault)
  /-- An integer is to have a nearest floating-point number. -/
  | inRange (n : Int)

def Check.refusal? : Check → Option Refusal
  | holds condition fault => if condition then none else some (.invalid fault)
  | inRange n => if (Binary64.ofInt? n).isSome then none else some .beyondRange

def Pass (checks : List Check) : Prop :=
  ∀ check ∈ checks, check.refusal? = none

@[simp] theorem pass_nil : Pass [] := by simp [Pass]

@[simp] theorem pass_cons {check : Check} {checks : List Check} :
    Pass (check :: checks) ↔ check.refusal? = none ∧ Pass checks := by
  simp [Pass]

@[simp] theorem pass_append {checks more : List Check} :
    Pass (checks ++ more) ↔ Pass checks ∧ Pass more := by
  simp [Pass, or_imp, forall_and]

@[simp] theorem Check.holds_refusal? {condition : Bool} {fault : Fault} :
    (Check.holds condition fault).refusal? = none ↔ condition = true := by
  simp [refusal?]

@[simp] theorem Check.inRange_refusal? {n : Int} :
    (Check.inRange n).refusal? = none ↔ Binary64.ofInt? n ≠ none := by
  simp [refusal?, Option.ne_none_iff_isSome]

theorem Check.refusal?_eq_some_iff {check : Check} {refusal : Refusal} :
    check.refusal? = some refusal ↔
      (∃ fault, check = .holds false fault ∧ refusal = .invalid fault) ∨
        ∃ n, check = .inRange n ∧ Binary64.ofInt? n = none ∧ refusal = .beyondRange := by
  cases check with
  | holds condition fault => cases condition <;> simp [refusal?, eq_comm]
  | inRange n => cases nearest : Binary64.ofInt? n <;> simp [refusal?, nearest, eq_comm]

section Accept

variable {α β : Type}

/-- The result that is given once a list of checks is passed; the first that fails ends it. -/
def accept (checks : List Check) (result : α) : Except Refusal α :=
  match checks.findSome? Check.refusal? with
  | none => .ok result
  | some refusal => .error refusal

/-- A step that is a list of checks, after one that is such a list, makes both lists one. -/
theorem accept_bind (checks : List Check) (result : α) (more : α → List Check) (next : α → β) :
    (accept checks result >>= fun x => accept (more x) (next x)) =
      accept (checks ++ more result) (next result) := by
  simp only [accept, List.findSome?_append]
  cases checks.findSome? Check.refusal? <;> rfl

theorem accept_bind_pure (checks : List Check) (result : α) (next : α → β) :
    (accept checks result >>= fun x => pure (next x)) = accept checks (next result) := by
  have ends := accept_bind checks result (fun _ => []) next
  rwa [List.append_nil] at ends

theorem accept_ite (condition : Prop) [Decidable condition] (fault : Fault) (checks : List Check)
    (result : α) :
    (if condition then accept checks result else refuse fault) =
      accept (.holds condition fault :: checks) result := by
  by_cases condition <;> simp [accept, Check.refusal?, refuse, *]

theorem accept_eq_ok_iff {checks : List Check} {result x : α} :
    accept checks result = .ok x ↔ Pass checks ∧ result = x := by
  unfold accept Pass
  rw [← List.findSome?_eq_none_iff]
  cases checks.findSome? Check.refusal? <;> simp

theorem accept_eq_error_iff {checks : List Check} {result : α} {refusal : Refusal} :
    accept checks result = .error refusal ↔
      ∃ before check after, checks = before ++ check :: after ∧
        check.refusal? = some refusal ∧ Pass before := by
  unfold accept Pass
  rw [← List.findSome?_eq_some_iff]
  cases checks.findSome? Check.refusal? <;> simp

end Accept

/-- The entries of a dictionary; no other value has any. -/
def entriesOf : Value → List (Value × Value)
  | .dict entries => entries
  | _ => []

def isDict : Value → Bool
  | .dict _ => true
  | _ => false

def members? : Value → Option (List (Value × Value))
  | .dict entries => some entries
  | .mapping entries => some entries
  | _ => none

def field? (entries : List (Value × Value)) (key : String) : Option Value :=
  Value.lookup? (.text key) entries

/-- The value of a field, none itself where there is no such field. -/
def fieldOf (entries : List (Value × Value)) (key : String) : Value :=
  (field? entries key).getD .none

theorem fieldOf_eq {entries : List (Value × Value)} {key : String} {found : Value}
    (stored : field? entries key = some found) : fieldOf entries key = found := by
  rw [fieldOf, stored]
  rfl

theorem field?_of_fieldOf {entries : List (Value × Value)} {key : String} {found : Value}
    (given : fieldOf entries key = found) (there : found ≠ .none) :
    field? entries key = some found := by
  subst given
  unfold fieldOf at there ⊢
  cases stored : field? entries key with
  | none => exact absurd (by rw [stored]; rfl) there
  | some found => rfl

section Tables

variable (entries : List (Value × Value)) (key place : String)

def present : Check :=
  .holds (field? entries key).isSome (.missing (.text key) place)

def integerChecks : List Check :=
  [present entries key place,
    .holds (fieldOf entries key).toInteger?.isSome (.notInteger place key (fieldOf entries key))]

def integerOf : Int :=
  (fieldOf entries key).toInteger?.getD 0

/-- An integer that is to be a quantity is to be in the range of the quantities. -/
def rangeChecks : Value → List Check
  | .int n => [.inRange n]
  | _ => []

def quantityChecks (found : Value) : List Check :=
  rangeChecks found ++ [.holds found.quantity?.isSome (.notNumber place key found)]

def quantityOf (found : Value) : Float :=
  found.quantity?.getD 0.0

def notNegative (name : String) (x : Float) : Check :=
  .holds (¬ x < 0.0) (.negative name)

def notZeroOrLess (name : String) (x : Float) : Check :=
  .holds (¬ x ≤ 0.0) (.notPositive name)

/-- The extent of a world is to be in the range of the quantities, and above zero. -/
def extentChecks (name : String) (n : Int) : List Check :=
  [.inRange n, .holds (0 < n) (.notPositive name)]

@[simp] theorem present_refusal? :
    (present entries key place).refusal? = none ↔ (field? entries key).isSome = true := by
  simp [present]

@[simp] theorem notNegative_refusal? {name : String} {x : Float} :
    (notNegative name x).refusal? = none ↔ ¬ x < 0.0 := by
  simp [notNegative]

@[simp] theorem notZeroOrLess_refusal? {name : String} {x : Float} :
    (notZeroOrLess name x).refusal? = none ↔ ¬ x ≤ 0.0 := by
  simp [notZeroOrLess]

@[simp] theorem pass_extentChecks {name : String} {n : Int} :
    Pass (extentChecks name n) ↔ Binary64.ofInt? n ≠ none ∧ 0 < n := by
  simp [extentChecks]

end Tables

theorem asDict_eq_accept (found : Value) (place : String) :
    asDict found place = accept [.holds (isDict found) (.notMapping place)] (entriesOf found) := by
  cases found <;> rfl

theorem required_eq_accept (entries : List (Value × Value)) (key place : String) :
    required (.dict entries) (.text key) place =
      accept [present entries key place] (fieldOf entries key) := by
  unfold required present fieldOf field?
  simp only [Value.unfitForKey?]
  cases Value.lookup? (.text key) entries <;> rfl

theorem asInteger_eq_accept (found : Value) (key place : String) :
    asInteger found key place =
      accept [.holds found.toInteger?.isSome (.notInteger place key found)]
        (found.toInteger?.getD 0) := by
  unfold asInteger
  cases found.toInteger? <;> rfl

theorem asNumber_eq_accept (found : Value) (key place : String) :
    asNumber found key place = accept (quantityChecks key place found) (quantityOf found) := by
  cases found with
  | int n =>
    cases nearest : Binary64.ofInt? n <;>
      simp [asNumber, quantityChecks, quantityOf, rangeChecks, Value.quantity?, Value.toNumber,
        Value.numberOfInt, accept, Check.refusal?, Except.toOption, nearest]
  | text s =>
    simp only [asNumber, quantityChecks, quantityOf, rangeChecks, Value.quantity?, Value.toNumber]
    cases Numeral.readNumber? s.toList <;> rfl
  | bytes bs =>
    simp only [asNumber, quantityChecks, quantityOf, rangeChecks, Value.quantity?, Value.toNumber]
    cases (Value.asciiChars? bs).bind Numeral.readNumber? <;> rfl
  | _ => rfl

theorem nonnegative_eq_accept (name : String) (x : Float) :
    nonnegative name x = accept [notNegative name x] x := by
  by_cases below : x < 0.0 <;>
    simp [nonnegative, notNegative, accept, Check.refusal?, refuse, below]

theorem positive_eq_accept (name : String) (x : Float) :
    positive name x = accept [notZeroOrLess name x] x := by
  by_cases below : x ≤ 0.0 <;>
    simp [positive, notZeroOrLess, accept, Check.refusal?, refuse, below]

theorem positiveInteger_eq_accept (name : String) (n : Int) :
    positiveInteger name n = accept (extentChecks name n) n := by
  unfold positiveInteger
  cases nearest : Binary64.ofInt? n with
  | none => simp [extentChecks, accept, Check.refusal?, nearest]
  | some x =>
    have sign : x ≤ 0.0 ↔ ¬ 0 < n :=
      (Numeral.Binary64.le_zero_iff_of_ofInt? nearest).trans Int.not_lt.symm
    by_cases above : 0 < n <;>
      simp [extentChecks, accept, Check.refusal?, nearest, positive, refuse, sign, above,
        Except.map]

section Source

variable (width height : Int) (index : Nat) (item : Value)

/-- The checks of a source, of which the amount's sign comes last. -/
def sourceChecks : List Check :=
  let place := sourcePlace index
  let entries := entriesOf item
  let x := integerOf entries "x"
  let y := integerOf entries "y"
  let amount := fieldOf entries "amount"
  .holds (isDict item) (.notMapping place) ::
    (integerChecks entries "x" place ++ integerChecks entries "y" place ++
      present entries "amount" place :: quantityChecks "amount" place amount ++
      [.holds (0 ≤ x ∧ x < width ∧ 0 ≤ y ∧ y < height) (.outside place x y width height),
        notNegative (place ++ ".amount") (quantityOf amount)])

def sourceOf : Source Float :=
  let entries := entriesOf item
  ⟨integerOf entries "x", integerOf entries "y", quantityOf (fieldOf entries "amount")⟩

theorem readSource_eq_accept :
    readSource width height index item =
      accept (sourceChecks width height index item) (sourceOf item) := by
  unfold readSource
  -- Each check of the source becomes a list of one, and the steps append them.
  simp only [asDict_eq_accept, required_eq_accept, asInteger_eq_accept, asNumber_eq_accept,
    nonnegative_eq_accept, accept_bind_pure, accept_ite, accept_bind]
  rfl

end Source

section World

variable (width height : Int) (entries : List (Value × Value))

/-- The checks of the sources from the given index on, one source after the other. -/
def sourcesChecks : (index : Nat) → List Value → List Check
  | _, [] => []
  | index, item :: rest =>
    sourceChecks width height index item ++ sourcesChecks (index + 1) rest

theorem readSourcesFrom_eq_accept (index : Nat) (items : List Value) :
    readSourcesFrom width height index items =
      accept (sourcesChecks width height index items) (items.map sourceOf) := by
  induction items generalizing index with
  | nil => rfl
  | cons item rest ih =>
    simp only [readSourcesFrom, readSource_eq_accept, ih, accept_bind_pure, accept_bind]
    rfl

/-- The checks of the sources of a world, which may be absent or none. -/
def sourceListChecks : Option Value → List Check
  | none => []
  | some .none => []
  | some (.list items) => sourcesChecks width height 0 items
  | some _ => [.holds false (.notList "world.sources")]

def sourceListOf : Option Value → List (Source Float)
  | some (.list items) => items.map sourceOf
  | _ => []

theorem readSources_eq_accept (found : Option Value) :
    readSources width height found =
      accept (sourceListChecks width height found) (sourceListOf found) := by
  cases found with
  | none => rfl
  | some found =>
    cases found with
    | list items => exact readSourcesFrom_eq_accept width height 0 items
    | _ => rfl

def optionalChecks (key : String) : List Check :=
  (field? entries key).elim [] (quantityChecks key "world")

def optionalOf (fallback : Float) (key : String) : Float :=
  (field? entries key).elim fallback quantityOf

theorem numberOr_eq_accept (fallback : Float) (key : String) :
    numberOr fallback entries key =
      accept (optionalChecks entries key) (optionalOf entries fallback key) := by
  unfold numberOr optionalChecks optionalOf field?
  cases Value.lookup? (.text key) entries with
  | none => rfl
  | some found => exact asNumber_eq_accept found key "world"

def halfLifeChecks : Option Value → List Check
  | none => []
  | some .none => []
  | some found =>
    quantityChecks "half_life_s" "world" found ++
      [notZeroOrLess "world.half_life_s" (quantityOf found)]

def halfLifeOf : Option Value → Option Float
  | none => none
  | some .none => none
  | some found => some (quantityOf found)

theorem readHalfLife_eq_accept :
    readHalfLife entries =
      accept (halfLifeChecks (field? entries "half_life_s"))
        (halfLifeOf (field? entries "half_life_s")) := by
  unfold readHalfLife field?
  cases Value.lookup? (.text "half_life_s") entries with
  | none => rfl
  | some found =>
    cases found with
    | none => rfl
    | _ =>
      simp only [asNumber_eq_accept, positive_eq_accept, accept_bind_pure, accept_bind]
      rfl

/-- The checks of a world, in the order of its fields but for the signs of its extents. -/
def worldChecks : List Check :=
  let width := integerOf entries "Nx"
  let height := integerOf entries "Ny"
  integerChecks entries "Nx" "world" ++ integerChecks entries "Ny" "world" ++
    extentChecks "world.Nx" width ++ extentChecks "world.Ny" height ++
    optionalChecks entries "dt_s" ++
    [notZeroOrLess "world.dt_s" (optionalOf entries 1.0 "dt_s")] ++
    optionalChecks entries "diffusivity" ++
    [notNegative "world.diffusivity" (optionalOf entries 0.0 "diffusivity")] ++
    halfLifeChecks (field? entries "half_life_s") ++
    sourceListChecks width height (field? entries "sources")

def worldOf : Config Float where
  width := integerOf entries "Nx"
  height := integerOf entries "Ny"
  tickLength := optionalOf entries 1.0 "dt_s"
  diffusivity := optionalOf entries 0.0 "diffusivity"
  halfLife := halfLifeOf (field? entries "half_life_s")
  sources := sourceListOf (field? entries "sources")

theorem readWorld_eq_accept :
    readWorld entries = accept (worldChecks entries) (worldOf entries) := by
  unfold readWorld
  simp only [required_eq_accept, asInteger_eq_accept, positiveInteger_eq_accept,
    numberOr_eq_accept, positive_eq_accept, nonnegative_eq_accept, readHalfLife_eq_accept,
    readSources_eq_accept, accept_bind_pure, accept_bind]
  simp [worldChecks, worldOf, integerChecks, integerOf, field?]

end World

/-- The entries of the world of a payload, as far as it has one. -/
def worldEntries (payload : Value) : List (Value × Value) :=
  entriesOf (fieldOf ((members? payload).getD []) "world")

def checks (payload : Value) : List Check :=
  let members := (members? payload).getD []
  [.holds (members? payload).isSome (.notMapping "config"),
    present members "world" "config",
    .holds (isDict (fieldOf members "world")) (.notMapping "config.world")] ++
    worldChecks (worldEntries payload)

theorem read_eq_accept (payload : Value) :
    read payload = accept (checks payload) (worldOf (worldEntries payload)) := by
  have member : required payload (.text "world") "config" =
      accept [.holds (members? payload).isSome (.notMapping "config"),
          present ((members? payload).getD []) "world" "config"]
        (fieldOf ((members? payload).getD []) "world") := by
    cases payload with
    | dict entries => exact required_eq_accept entries "world" "config"
    | mapping entries => exact required_eq_accept entries "world" "config"
    | _ => rfl
  unfold read
  simp only [member, asDict_eq_accept, readWorld_eq_accept, accept_bind]
  rfl

theorem read_eq_error {payload : Value} {refusal : Refusal}
    (refused : read payload = .error refusal) :
    ∃ before check after, checks payload = before ++ check :: after ∧ Pass before ∧
      ((∃ fault, check = .holds false fault ∧ refusal = .invalid fault) ∨
        ∃ n, check = .inRange n ∧ Binary64.ofInt? n = none ∧ refusal = .beyondRange) := by
  rw [read_eq_accept, accept_eq_error_iff] at refused
  obtain ⟨before, check, after, split, fails, passed⟩ := refused
  exact ⟨before, check, after, split, passed, Check.refusal?_eq_some_iff.mp fails⟩

section Range

/-- The items of the sources of a world, as far as these are a list. -/
def sourceItems (entries : List (Value × Value)) : List Value :=
  match field? entries "sources" with
  | some (.list items) => items
  | _ => []

/-- The extents of the world of a payload, zero where a field denotes no integer. -/
def extents (payload : Value) : List Int :=
  ["Nx", "Ny"].map (integerOf (worldEntries payload))

def quantityFields (payload : Value) : List Value :=
  ["dt_s", "diffusivity", "half_life_s"].filterMap (field? (worldEntries payload)) ++
    (sourceItems (worldEntries payload)).filterMap fun item => field? (entriesOf item) "amount"

variable {n : Int} {entries : List (Value × Value)} {key place : String} {found : Value}

theorem inRange_mem_quantityChecks :
    .inRange n ∈ quantityChecks key place found ↔ found = .int n := by
  cases found <;> simp [quantityChecks, rangeChecks, eq_comm]

theorem inRange_mem_optionalChecks :
    .inRange n ∈ optionalChecks entries key ↔ field? entries key = some (.int n) := by
  unfold optionalChecks
  cases field? entries key <;> simp [inRange_mem_quantityChecks]

theorem inRange_mem_halfLifeChecks {given : Option Value} :
    .inRange n ∈ halfLifeChecks given ↔ given = some (.int n) := by
  cases given with
  | none => simp [halfLifeChecks]
  | some found => cases found <;> simp [halfLifeChecks, inRange_mem_quantityChecks, notZeroOrLess]

theorem amount_of_inRange_mem {width height : Int} {index : Nat} {items : List Value}
    (mem : .inRange n ∈ sourcesChecks width height index items) :
    ∃ item ∈ items, field? (entriesOf item) "amount" = some (.int n) := by
  induction items generalizing index with
  | nil => simp [sourcesChecks] at mem
  | cons item rest ih =>
    rcases List.mem_append.mp mem with here | later
    · have given : fieldOf (entriesOf item) "amount" = .int n := by
        simpa [sourceChecks, integerChecks, present, notNegative, inRange_mem_quantityChecks]
          using here
      exact ⟨item, List.mem_cons_self, field?_of_fieldOf given nofun⟩
    · obtain ⟨other, among, given⟩ := ih later
      exact ⟨other, List.mem_cons_of_mem _ among, given⟩

theorem amount_of_inRange_mem_list {width height : Int}
    (mem : .inRange n ∈ sourceListChecks width height (field? entries "sources")) :
    ∃ item ∈ sourceItems entries, field? (entriesOf item) "amount" = some (.int n) := by
  unfold sourceItems
  cases given : field? entries "sources" with
  | none => simp [given, sourceListChecks] at mem
  | some found =>
    rw [given] at mem
    cases found with
    | list items => exact amount_of_inRange_mem mem
    | _ => simp [sourceListChecks] at mem

/-- An integer whose range is checked is an extent of the world or given for a quantity. -/
theorem range_checked {payload : Value} (mem : .inRange n ∈ checks payload) :
    n ∈ extents payload ∨ .int n ∈ quantityFields payload := by
  have places : n = integerOf (worldEntries payload) "Nx" ∨
      n = integerOf (worldEntries payload) "Ny" ∨
      field? (worldEntries payload) "dt_s" = some (.int n) ∨
      field? (worldEntries payload) "diffusivity" = some (.int n) ∨
      field? (worldEntries payload) "half_life_s" = some (.int n) ∨
      .inRange n ∈ sourceListChecks (integerOf (worldEntries payload) "Nx")
        (integerOf (worldEntries payload) "Ny") (field? (worldEntries payload) "sources") := by
    simpa [checks, worldChecks, integerChecks, extentChecks, present, notNegative, notZeroOrLess,
      inRange_mem_optionalChecks, inRange_mem_halfLifeChecks] using mem
  rcases places with width | height | length | diffusivity | halfLife | among
  · exact .inl (by simp [extents, width])
  · exact .inl (by simp [extents, height])
  · exact .inr (by simp [quantityFields, length])
  · exact .inr (by simp [quantityFields, diffusivity])
  · exact .inr (by simp [quantityFields, halfLife])
  · exact .inr (List.mem_append_right _
      (List.mem_filterMap.mpr (amount_of_inRange_mem_list among)))

theorem read_ends (payload : Value) :
    ((∃ config, read payload = .ok config) ∨ (∃ fault, read payload = .error (.invalid fault)) ∨
        read payload = .error .beyondRange) ∧
      (read payload = .error .beyondRange ↔
        ∃ before n after, checks payload = before ++ .inRange n :: after ∧ Pass before ∧
          (n ∈ extents payload ∨ .int n ∈ quantityFields payload) ∧
          Numeral.Binary64.overflowThreshold ≤ n.natAbs) := by
  constructor
  · cases result : read payload with
    | ok config => exact .inl ⟨config, rfl⟩
    | error refusal =>
      obtain ⟨before, check, after, -, -, ⟨fault, -, rfl⟩ | ⟨n, -, -, rfl⟩⟩ :=
        read_eq_error result
      · exact .inr (.inl ⟨fault, rfl⟩)
      · exact .inr (.inr rfl)
  constructor
  · intro refused
    obtain ⟨before, check, after, split, passed, ⟨fault, -, ⟨⟩⟩ | ⟨n, rfl, beyond, -⟩⟩ :=
      read_eq_error refused
    have mem : .inRange n ∈ checks payload := by simp [split]
    exact ⟨before, n, after, split, passed, range_checked mem,
      Numeral.Binary64.ofInt?_eq_none_iff.mp beyond⟩
  · rintro ⟨before, n, after, split, passed, -, beyond⟩
    rw [read_eq_accept, accept_eq_error_iff]
    exact ⟨before, .inRange n, after, split, Check.refusal?_eq_some_iff.mpr
      (.inr ⟨n, rfl, Numeral.Binary64.ofInt?_eq_none_iff.mpr beyond, rfl⟩), passed⟩

end Range

end Config

end StepPipeline
