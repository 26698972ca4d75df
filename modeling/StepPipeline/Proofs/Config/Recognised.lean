import StepPipeline.Config.Reading
import StepPipeline.Proofs.Config.Checks

/-!
What reading a configuration looks at. Two payloads have the same content if they agree on the
fields that are read, down to the fields of each source; they may differ in other keys, in the order
of the keys, and in the kind of the outermost mapping. Payloads of the same content are read alike,
also where they are refused. Main result: `read_sameContent`.
-/

set_option autoImplicit false
set_option relaxedAutoImplicit false

namespace StepPipeline.Config

/-- Two rows of entries agree on which of the given fields there are and on their values. -/
def Agree (keys : List String) (entries others : List (Value × Value)) : Prop :=
  ∀ key ∈ keys, field? entries key = field? others key

inductive SameSource : Value → Value → Prop
  | same (item : Value) : SameSource item item
  | dicts {entries others : List (Value × Value)} : Agree ["x", "y", "amount"] entries others →
      SameSource (.dict entries) (.dict others)

inductive SameSources : Option Value → Option Value → Prop
  | same (given : Option Value) : SameSources given given
  | lists {items others : List Value} : List.Forall₂ SameSource items others →
      SameSources (some (.list items)) (some (.list others))

structure SameWorld (entries others : List (Value × Value)) : Prop where
  fields : Agree ["Nx", "Ny", "dt_s", "diffusivity", "half_life_s"] entries others
  sources : SameSources (field? entries "sources") (field? others "sources")

inductive SameGiven : Option Value → Option Value → Prop
  | same (given : Option Value) : SameGiven given given
  | worlds {entries others : List (Value × Value)} : SameWorld entries others →
      SameGiven (some (.dict entries)) (some (.dict others))

/-- Two payloads are mappings that both lack a world, hold the same value for it, or hold
dictionaries that agree on the fields of a world. -/
def SameContent (payload other : Value) : Prop :=
  ∃ members others, members? payload = some members ∧ members? other = some others ∧
    SameGiven (field? members "world") (field? others "world")

section Reading

variable {entries others : List (Value × Value)} {key : String}

theorem required_eq {found : Value} (given : members? found = some entries) (place : String) :
    required found (.text key) place =
      match field? entries key with
      | some v => .ok v
      | none => refuse (.missing (.text key) place) := by
  cases found with
  | dict members => cases given; rfl
  | mapping members => cases given; rfl
  | _ => cases given

theorem required_congr (place : String) (same : field? entries key = field? others key) :
    required (.dict entries) (.text key) place = required (.dict others) (.text key) place := by
  have first : members? (.dict entries) = some entries := rfl
  have second : members? (.dict others) = some others := rfl
  rw [required_eq first, required_eq second, same]

theorem numberOr_congr (fallback : Float) (same : field? entries key = field? others key) :
    numberOr fallback entries key = numberOr fallback others key := by
  unfold numberOr
  unfold field? at same
  rw [same]

theorem readHalfLife_congr (same : field? entries "half_life_s" = field? others "half_life_s") :
    readHalfLife entries = readHalfLife others := by
  unfold readHalfLife
  unfold field? at same
  rw [same]

theorem readSource_congr {item other : Value} (alike : SameSource item other)
    (width height : Int) (index : Nat) :
    readSource width height index item = readSource width height index other := by
  cases alike with
  | same => rfl
  | @dicts entries others agree =>
    have x := required_congr (sourcePlace index) (agree "x" (by simp))
    have y := required_congr (sourcePlace index) (agree "y" (by simp))
    have amount := required_congr (sourcePlace index) (agree "amount" (by simp))
    simp only [readSource, asDict, bind, Except.bind, x, y, amount]

theorem readSourcesFrom_congr {items others : List Value}
    (alike : List.Forall₂ SameSource items others) (width height : Int) (index : Nat) :
    readSourcesFrom width height index items = readSourcesFrom width height index others := by
  induction alike generalizing index with
  | nil => rfl
  | cons first _ ih =>
    rw [readSourcesFrom, readSourcesFrom, readSource_congr first, ih]

theorem readSources_congr {given other : Option Value} (alike : SameSources given other)
    (width height : Int) : readSources width height given = readSources width height other := by
  cases alike with
  | same => rfl
  | lists items => exact readSourcesFrom_congr items width height 0

theorem readWorld_congr (alike : SameWorld entries others) :
    readWorld entries = readWorld others := by
  have agree := alike.fields
  have width := required_congr "world" (agree "Nx" (by simp))
  have height := required_congr "world" (agree "Ny" (by simp))
  have tickLength := numberOr_congr 1.0 (agree "dt_s" (by simp))
  have diffusivity := numberOr_congr 0.0 (agree "diffusivity" (by simp))
  have halfLife := readHalfLife_congr (agree "half_life_s" (by simp))
  have sources (width height : Int) := readSources_congr alike.sources width height
  unfold field? at sources
  simp only [readWorld, width, height, tickLength, diffusivity, halfLife, sources]

theorem read_congr {payload other : Value} (alike : SameContent payload other) :
    read payload = read other := by
  obtain ⟨members, others, first, second, given⟩ := alike
  rw [read, read, required_eq first, required_eq second]
  generalize field? members "world" = world at given
  generalize field? others "world" = otherWorld at given
  cases given with
  | same => rfl
  | worlds alike => exact readWorld_congr alike

end Reading

section Agreement

variable {entries others : List (Value × Value)} {keys : List String} {key : String}

def Distinct (entries : List (Value × Value)) : Prop :=
  entries.Pairwise fun entry later => Value.same entry.1 later.1 = false

def recognised (keys : List String) (entries : List (Value × Value)) : List (Value × Value) :=
  entries.filter fun entry => keys.any fun key => Value.same (.text key) entry.1

theorem same_text_iff {v : Value} : Value.same (.text key) v = true ↔ v = .text key := by
  cases v with
  | text s => rw [Value.same, beq_iff_eq, Value.text.injEq, eq_comm]
  | _ => simp [Value.same]

theorem field?_eq_some_iff (distinct : Distinct entries) {v : Value} :
    field? entries key = some v ↔ (.text key, v) ∈ entries := by
  induction entries with
  | nil => simp [field?, Value.lookup?]
  | cons entry rest ih =>
    obtain ⟨found, w⟩ := entry
    obtain ⟨apart, distinct⟩ := List.pairwise_cons.mp distinct
    have later := ih distinct
    unfold field? Value.lookup? at later ⊢
    rw [List.find?_cons]
    cases here : Value.same (.text key) found with
    | true =>
      obtain rfl := same_text_iff.mp here
      -- A later entry under the same key would not be apart from this one.
      have only : (.text key, v) ∉ rest := by
        intro among
        have differ := apart _ among
        rw [here] at differ
        cases differ
      simp [only, eq_comm]
    | false =>
      have other : found ≠ .text key := by
        intro equal
        rw [same_text_iff.mpr equal] at here
        cases here
      rw [later, List.mem_cons, Prod.mk.injEq]
      simp [other.symm]

theorem mem_recognised_iff {entry : Value × Value} :
    entry ∈ recognised keys entries ↔ entry ∈ entries ∧ ∃ key ∈ keys, entry.1 = .text key := by
  simp only [recognised, List.mem_filter, List.any_eq_true, same_text_iff]

theorem text_mem_recognised_iff (distinct : Distinct entries) (named : key ∈ keys) {v : Value} :
    (.text key, v) ∈ recognised keys entries ↔ field? entries key = some v := by
  rw [mem_recognised_iff, field?_eq_some_iff distinct]
  exact and_iff_left ⟨key, named, rfl⟩

theorem nodup_recognised (distinct : Distinct entries) : (recognised keys entries).Nodup := by
  have apart := distinct.filter fun entry => keys.any fun key => Value.same (.text key) entry.1
  refine List.Pairwise.imp_of_mem ?_ apart
  rintro entry later among - differ rfl
  obtain ⟨-, key, -, text⟩ := mem_recognised_iff.mp among
  rw [text, same_text_iff.mpr rfl] at differ
  cases differ

theorem agree_iff_perm (distinct : Distinct entries) (distinct' : Distinct others) :
    Agree keys entries others ↔ (recognised keys entries).Perm (recognised keys others) := by
  rw [List.perm_ext_iff_of_nodup (nodup_recognised distinct) (nodup_recognised distinct')]
  constructor
  · rintro agree ⟨found, v⟩
    by_cases named : ∃ key ∈ keys, found = .text key
    · obtain ⟨key, named, rfl⟩ := named
      rw [text_mem_recognised_iff distinct named, text_mem_recognised_iff distinct' named,
        agree key named]
    · simp only [mem_recognised_iff, named, and_false]
  · intro same key named
    apply Option.ext
    intro v
    rw [← text_mem_recognised_iff distinct named, ← text_mem_recognised_iff distinct' named]
    exact same (.text key, v)

end Agreement

/--
Payloads of the same content are read alike: as the same configuration, or with the same refusal.
Which content dictionaries have is up to their entries under the keys that are read, in any order;
other keys, of whatever kind, make no difference.
-/
theorem read_sameContent :
    (∀ payload other : Value, SameContent payload other → read payload = read other) ∧
      ∀ (keys : List String) (entries others : List (Value × Value)), Distinct entries →
        Distinct others →
        (Agree keys entries others ↔ (recognised keys entries).Perm (recognised keys others)) :=
  ⟨fun _ _ alike => read_congr alike, fun _ _ _ => agree_iff_perm⟩

def bareSource : List (Value × Value) :=
  [(.text "x", .int 5), (.text "y", .int 0), (.text "amount", .int 1)]

/-- The entries in another order, with one more. -/
def adornedSource : List (Value × Value) :=
  [(.text "amount", .int 1), (.text "y", .int 0), (.tuple [], .enclosingDict), (.text "x", .int 5)]

def bare : Value :=
  .dict [(.text "world", .dict [(.text "Nx", .int 2), (.text "Ny", .int 1),
    (.text "sources", .list [.dict bareSource])])]

def adorned : Value :=
  .mapping [(.int 7, .none), (.text "world", .dict [(.bytes [0x78], .int 1),
    (.text "sources", .list [.dict adornedSource]), (.text "Ny", .int 1), (.text "nx", .int 3),
    (.text "Nx", .int 2)])]

theorem read_sameContent_adorned :
    SameContent bare adorned ∧
      read adorned = .error (.invalid (.outside "world.sources[0]" 5 0 2 1)) := by
  have source : Agree ["x", "y", "amount"] bareSource adornedSource := by
    have distinct : Distinct bareSource := by unfold Distinct; decide
    have distinct' : Distinct adornedSource := by unfold Distinct; decide
    have reversed : recognised ["x", "y", "amount"] adornedSource =
        (recognised ["x", "y", "amount"] bareSource).reverse := rfl
    rw [read_sameContent.2 _ _ _ distinct distinct', reversed]
    exact (List.reverse_perm _).symm
  have alike : SameContent bare adorned := by
    refine ⟨_, _, rfl, rfl, .worlds ⟨?_, .lists (.cons (.dicts source) .nil)⟩⟩
    simp only [Agree, List.forall_mem_cons]
    exact ⟨rfl, rfl, rfl, rfl, rfl, by simp⟩
  have same : read bare = read adorned := read_sameContent.1 bare adorned alike
  have refused : read bare = .error (.invalid (.outside "world.sources[0]" 5 0 2 1)) := rfl
  rw [same] at refused
  exact ⟨alike, refused⟩

end StepPipeline.Config
