import Mathlib
import StepPipeline.Proofs.Yaml.Lexical
import StepPipeline.Yaml.Document

/-!
Why there is no document in a text. What the tokens do not allow is malformed, and so is almost all
that is wrong with what they say; besides, a scalar may not have the form that its tag promises.
Main result: `Document.fault_ofSource`.
-/

set_option autoImplicit false
set_option relaxedAutoImplicit false
set_option mvcgen.warning false

namespace StepPipeline.Yaml

open Std.Do

/-! ### Reading tokens -/

/-- What may be wrong with tokens that end in a fault or without one. -/
def Stops (ending : Option Fault) (fault : Fault) : Prop :=
  fault = .malformed ∨ ending = some fault

/-- A step of reading that finds the tokens malformed, or comes upon the fault that they end in. -/
abbrev Reads {α : Type} (ending : Option Fault) (reader : Reader α) : Prop :=
  ⦃fun reading => ⌜reading.fault = ending⌝⦄ reader
  ⦃post⟨fun _ reading => ⌜reading.fault = ending⌝, fun fault => ⌜Stops ending fault⌝⟩⦄

theorem Reads.of_error {α : Type} {ending : Option Fault} {reader : Reader α}
    {reading : Reading} {fault : Fault} (h : Reads ending reader)
    (begun : reading.fault = ending) (ended : reader reading = .error fault) :
    Stops ending fault := by
  have stopped := h reading begun
  change (wp (reader reading) |>.apply _).down at stopped
  rw [ended] at stopped
  exact stopped

namespace Reader

variable {α : Type} {ending : Option Fault}

@[spec] theorem refuse_reads : Reads ending (refuse : Reader α) :=
  fun _ _ => .inl rfl

@[spec] theorem peek_reads : Reads ending peek := by
  rintro ⟨tokens, fault, handles, anchors, nodes⟩ rfl
  cases tokens with
  | cons token rest => exact rfl
  | nil =>
    cases fault with
    | none => exact rfl
    | some fault => exact .inr rfl

@[spec] theorem advance_reads : Reads ending advance := by
  mvcgen [advance]

@[spec] theorem accept_reads (token : Token) : Reads ending (accept token) := by
  mvcgen [accept]
  all_goals simp_all

@[spec] theorem nextIsOneOf_reads (tokens : List Token) : Reads ending (nextIsOneOf tokens) := by
  mvcgen [nextIsOneOf]
  all_goals simp_all

@[spec] theorem add_reads (node : Node) : Reads ending (add node) := by
  mvcgen [add]

@[spec] theorem name_reads (anchor : Option String) (n : Nat) : Reads ending (name anchor n) := by
  mvcgen [name]

@[spec] theorem collection_reads (anchor : Option String) (tag : Tag) {read : Reader Content}
    (content : Reads ending read) : Reads ending (collection anchor tag read) := by
  mvcgen [collection, content]
  all_goals simp_all

@[spec] theorem readAnchor_reads : Reads ending readAnchor := by
  mvcgen [readAnchor]
  all_goals simp_all

@[spec] theorem readTag_reads : Reads ending readTag := by
  mvcgen [readTag]
  all_goals simp_all

@[spec] theorem fullTag_reads (tag : Option String × String) : Reads ending (fullTag tag) := by
  mvcgen [fullTag]

@[spec] theorem fullTags_reads (tag : Option (Option String × String)) :
    Reads ending (tag.mapM fullTag) := by
  cases tag with
  | none => exact fun _ h => h
  | some tag =>
    change Reads ending (some <$> fullTag tag)
    mvcgen

@[spec] theorem readLabels_reads : Reads ending readLabels := by
  mvcgen [readLabels]
  all_goals simp_all

@[spec] theorem addScalar_reads (labels : Labels) (text : List Nat) (isBare : Bool) :
    Reads ending (addScalar labels text isBare) := by
  mvcgen [addScalar]
  all_goals simp_all

@[spec] theorem addAbsent_reads : Reads ending addAbsent :=
  add_reads _

structure NodesRead (ending : Option Fault) (fuel : Nat) : Prop where
  node : ∀ isBlock allowsFlat, Reads ending (readNode fuel isBlock allowsFlat)
  given : ∀ stops isBlock allowsFlat, Reads ending (readUnless fuel stops isBlock allowsFlat)
  value : ∀ stops isBlock, Reads ending (readValue fuel stops isBlock)
  entries : Reads ending (readEntries fuel)
  flatEntries : Reads ending (readFlatEntries fuel)
  pairs : Reads ending (readPairs fuel)
  flowItems : ∀ isFirst, Reads ending (readFlowItems fuel isFirst)
  flowPairs : ∀ isFirst, Reads ending (readFlowPairs fuel isFirst)

theorem nodesRead (fuel : Nat) : NodesRead ending fuel := by
  -- the readers call each other with less fuel, so one induction settles all of them
  induction fuel with
  | zero =>
    exact ⟨fun _ _ => refuse_reads, fun _ _ _ => refuse_reads, fun _ _ => refuse_reads, refuse_reads,
      refuse_reads, refuse_reads, fun _ => refuse_reads, fun _ => refuse_reads⟩
  | succ fuel ih =>
    obtain ⟨node, given, value, entries, flatEntries, pairs, flowItems, flowPairs⟩ := ih
    constructor
    · intro isBlock allowsFlat
      mvcgen [readNode, entries, flatEntries, pairs, flowItems, flowPairs]
      all_goals simp_all
    · intro stops isBlock allowsFlat
      mvcgen [readUnless, node]
      all_goals simp_all
    · intro stops isBlock
      mvcgen [readValue, given]
      all_goals simp_all
    · mvcgen [readEntries, given, entries]
      all_goals simp_all
    · mvcgen [readFlatEntries, given, flatEntries]
      all_goals simp_all
    · mvcgen [readPairs, given, value, pairs]
      all_goals simp_all
    · intro isFirst
      mvcgen [readFlowItems, node, given, value, flowItems]
      all_goals simp_all
    · intro isFirst
      mvcgen [readFlowPairs, node, given, value, flowPairs]
      all_goals simp_all

@[spec] theorem readDirectives_reads (fuel : Nat) (directives : Directives) :
    Reads ending (readDirectives fuel directives) := by
  induction fuel generalizing directives with
  | zero => exact fun _ h => h
  | succ fuel ih =>
    mvcgen [readDirectives, ih]
    all_goals simp_all

@[spec] theorem readNode_reads (fuel : Nat) (isBlock allowsFlat : Bool) :
    Reads ending (readNode fuel isBlock allowsFlat) :=
  (nodesRead fuel).node isBlock allowsFlat

@[spec] theorem readRoot_reads : Reads ending readRoot := by
  mvcgen [readRoot]
  all_goals simp_all +zetaDelta

@[spec] theorem readEnd_reads (fuel : Nat) : Reads ending (readEnd fuel) := by
  induction fuel with
  | zero => exact refuse_reads
  | succ fuel ih =>
    mvcgen [readEnd, ih]
    all_goals simp_all

@[spec] theorem readGraph_reads : Reads ending readGraph := by
  mvcgen [readGraph]
  all_goals simp_all

end Reader

/-- Reading the graph of a text ends in a fault of the text, or in the one at its edge. -/
theorem Graph.fault_ofSource {source : Source} {fault : Fault}
    (ended : Graph.ofSource? source = .error fault) :
    fault = .malformed ∨ (∃ code, 0x110000 ≤ code ∧ fault = .escape code) ∨
      source.edge = some fault := by
  rw [Graph.ofSource?] at ended
  cases stopped : Reader.readGraph ⟨(Tokens.ofSource source).items,
      (Tokens.ofSource source).fault, Reader.defaultHandles, [], #[]⟩ with
  | ok read =>
    rw [StateT.run', stopped] at ended
    cases ended
  | error other =>
    rw [StateT.run', stopped] at ended
    cases ended
    rcases Reader.readGraph_reads.of_error rfl stopped with malformed | found
    · exact .inl malformed
    · exact Tokens.fault_ofSource found

/-! ### Scalars -/

inductive Tag.Refuses : Tag → Fault → Prop
  | truthValue (word : List Nat) : Refuses .bool (.truthValue word)
  | emptyInteger : Refuses .int .emptyNumeral
  | integer (base : Nat) (text : List Nat) : Refuses .int (.integer base text)
  | longInteger (digits : Nat) : Refuses .int (.longInteger digits)
  | emptyNumber : Refuses .float .emptyNumeral
  | number (text : List Nat) : Refuses .float (.number text)
  | beyondRange : Refuses .float .beyondRange
  | momentForm : Refuses .moment .momentForm
  | moment (fault : Calendar.Fault) : Refuses .moment (.moment fault)

namespace Number

@[spec] theorem readDecimal_throws (text : List Nat) :
    Throws (Tag.Refuses .int) (readDecimal text) := by
  mvcgen [readDecimal]
  · exact .integer ..
  · exact .longInteger ..

@[spec] theorem readInBase_throws (base : Nat) (text : List Nat) :
    Throws (Tag.Refuses .int) (readInBase base text) := by
  mvcgen [readInBase]
  exact .integer ..

@[spec] theorem readMagnitude_throws (text : List Nat) :
    Throws (Tag.Refuses .int) (readMagnitude text) := by
  have decimals := Throws.mapM readDecimal_throws
  mvcgen [readMagnitude, decimals]
  exact .emptyInteger

theorem readInt_throws (text : List Nat) : Throws (Tag.Refuses .int) (readInt text) :=
  .map _ (readMagnitude_throws _)

@[spec] theorem readPlace_throws (text : List Nat) :
    Throws (Tag.Refuses .float) (readPlace text) := by
  mvcgen [readPlace]
  exact .number ..

@[spec] theorem sumPlaces_throws (sum : Float) (unit : Nat) (digits : List Float) :
    Throws (Tag.Refuses .float) (sumPlaces sum unit digits) := by
  induction digits generalizing sum unit with
  | nil => exact fun _ => True.intro
  | cons digit digits ih =>
    mvcgen [sumPlaces, ih]
    exact .beyondRange

@[spec] theorem readFloatMagnitude_throws (text : List Nat) :
    Throws (Tag.Refuses .float) (readFloatMagnitude text) := by
  have places := Throws.mapM readPlace_throws
  mvcgen [readFloatMagnitude, places]

theorem readFloat_throws (text : List Nat) : Throws (Tag.Refuses .float) (readFloat text) := by
  unfold readFloat
  split
  · exact fun _ => .emptyNumber
  · exact .map _ (readFloatMagnitude_throws _)

theorem readBool_throws (text : List Nat) : Throws (Tag.Refuses .bool) (readBool text) := by
  mvcgen [readBool]
  exact .truthValue _

end Number

theorem momentOf_throws (cs : List Char) : Throws (Tag.Refuses .moment) (momentOf cs) := by
  mvcgen [momentOf]
  · exact .momentForm
  · exact .moment _

theorem bytesOf_throws (cs : List Char) : Throws (· = .malformed) (bytesOf cs) := by
  unfold bytesOf
  split
  · cases Binary.read? cs with
    | none => exact fun _ => rfl
    | some bytes => exact fun _ => True.intro
  · exact fun _ => rfl

theorem takeChars_throws {α : Type} {P : Fault → Prop} {fallback : Fault}
    {rule : List Char → Except Fault α} (fails : P fallback) (rules : ∀ cs, Throws P (rule cs))
    (text : List Nat) : Throws P (takeChars text fallback rule) := by
  unfold takeChars
  cases chars? text with
  | none => exact fun _ => fails
  | some cs => exact rules cs

theorem Tag.read_throws (tag : Tag) (text : List Nat) :
    Throws (fun fault => fault = .malformed ∨ tag.Refuses fault) (tag.read text) := by
  have bytes := takeChars_throws (P := (· = .malformed)) rfl bytesOf_throws text
  have moment := takeChars_throws .momentForm momentOf_throws text
  unfold read
  split
  · exact fun _ => True.intro
  · exact .map _ ((Number.readBool_throws text).mono fun _ => .inr)
  · exact .map _ ((Number.readInt_throws text).mono fun _ => .inr)
  · exact .map _ ((Number.readFloat_throws text).mono fun _ => .inr)
  · exact .map _ (bytes.mono fun _ => .inl)
  · exact .map _ (moment.mono fun _ => .inr)
  · exact fun _ => True.intro
  · exact fun _ => .inl rfl

/-! ### What nodes stand for -/

inductive Fault.OfScalar : Fault → Prop
  | escape {code : Nat} (beyond : 0x110000 ≤ code) : OfScalar (.escape code)
  | content {tag : Tag} {text : List Nat} {fault : Fault} (ended : tag.read text = .error fault)
      (refused : tag.Refuses fault) : OfScalar fault
  | momentOfMapping : OfScalar .momentOfMapping
  | endless : OfScalar .endless

inductive Fault.Semantic : Fault → Prop
  | malformed : Semantic .malformed
  | scalar {fault : Fault} (h : fault.OfScalar) : Semantic fault

attribute [simp] Fault.Semantic.malformed Fault.Semantic.scalar Fault.OfScalar.momentOfMapping
  Fault.OfScalar.endless

theorem Fault.OfScalar.not_textual {fault : Fault} (h : fault.OfScalar) :
    fault ≠ .malformed ∧ fault ≠ .undecodable := by
  cases h with
  | content ended refused => cases refused <;> exact ⟨nofun, nofun⟩
  | _ => exact ⟨nofun, nofun⟩

open Yaml.Fault (Semantic)

@[spec] theorem Tag.read_semantic (tag : Tag) (text : List Nat) :
    Throws Semantic (tag.read text) := by
  refine .of_forall fun fault ended => ?_
  rcases (tag.read_throws text).of_error ended with rfl | refused
  · exact .malformed
  · exact .scalar (.content ended refused)

@[spec] theorem Graph.text_throws (graph : Graph) (fuel n : Nat) :
    Throws Semantic (graph.text fuel n) := by
  induction fuel generalizing n with
  | zero => exact fun _ => .scalar .endless
  | succ fuel ih =>
    mvcgen [text, ih]
    all_goals simp

@[spec] theorem Graph.scalar_throws (graph : Graph) (n : Nat) :
    Throws Semantic (graph.scalar n) := by
  mvcgen [scalar]
  all_goals simp

section Fails

variable {σ α : Type} {P : Fault → Prop}

/-- A step with a state that ends in faults of a kind only. -/
abbrev Fails (P : Fault → Prop) (step : StateT σ (Except Fault) α) : Prop :=
  ⦃⌜True⌝⦄ step ⦃post⟨fun _ => ⌜True⌝, fun fault => ⌜P fault⌝⟩⦄

theorem Fails.of_error {step : StateT σ (Except Fault) α} {state : σ} {fault : Fault}
    (h : Fails P step) (ended : step state = .error fault) : P fault := by
  have stopped := h state True.intro
  change (wp (step state) |>.apply _).down at stopped
  rw [ended] at stopped
  exact stopped

@[spec 1100] theorem throw_spec {fault : Fault} {Q : PostCond α (.arg σ (.except Fault .pure))} :
    ⦃fun _ => Q.2.1 fault⦄ (throw fault : StateT σ (Except Fault) α) ⦃Q⦄ :=
  fun _ h => h

theorem Fails.bind {β : Type} {step : StateT σ (Except Fault) α}
    {next : α → StateT σ (Except Fault) β} (h : Fails P step) (h' : ∀ a, Fails P (next a)) :
    Fails P (step >>= next) := by
  mvcgen [h, h']

theorem Fails.mapM {β : Type} {f : α → StateT σ (Except Fault) β} (h : ∀ a, Fails P (f a))
    (items : List α) : Fails P (items.mapM f) := by
  induction items with
  | nil => exact fun _ _ => True.intro
  | cons a rest ih =>
    rw [List.mapM_cons]
    mvcgen [h, ih]

theorem Fails.forM {f : α → StateT σ (Except Fault) PUnit} (h : ∀ a, Fails P (f a))
    (items : List α) : Fails P (items.forM f) := by
  induction items with
  | nil => exact fun _ _ => True.intro
  | cons a rest ih => exact .bind (h a) fun _ => ih

end Fails

namespace Graph

@[spec] theorem entriesNow_fails (n : Nat) : Fails Semantic (entriesNow n) := by
  mvcgen [entriesNow]
  all_goals simp

@[spec] theorem takeOver_fails (fuel place : Nat) (taken : List (Nat × Nat)) (n : Nat) :
    Fails Semantic (takeOver fuel place taken n) := by
  induction fuel generalizing place taken n with
  | zero => exact fun _ _ => .malformed
  | succ fuel ih =>
    -- the mappings of a merged sequence are each taken over before their entries are read
    have entries (m : Nat) : Fails Semantic (do takeOver fuel 0 [] m; entriesNow m) := by
      mvcgen [ih]
    have groups := Fails.mapM entries
    unfold takeOver
    mvcgen [ih, entries, groups]
    all_goals simp

@[spec] theorem merge_throws (n : Nat) (graph : Graph) : Throws Semantic (merge n graph) := by
  have fails : Fails Semantic (merge n) := by
    mvcgen [merge]
  exact .of_forall fun _ => fails.of_error

end Graph

namespace Interpreter

@[spec] theorem assign_fails (n : Nat) (meaning : Meaning) :
    Fails Semantic (assign n meaning) := by
  mvcgen [assign]

@[spec] theorem postpone_fails (n : Nat) (meaning : Meaning) :
    Fails Semantic (postpone n meaning) := by
  mvcgen [postpone]

@[spec] theorem visit_fails (n : Nat) : Fails Semantic (visit n) := by
  mvcgen [visit]
  all_goals simp

@[spec] theorem keyOf_fails (n : Nat) : Fails Semantic (keyOf n) := by
  mvcgen [keyOf]
  all_goals simp

@[spec] theorem entriesOf_fails (n : Nat) : Fails Semantic (entriesOf n) := by
  mvcgen [entriesOf]
  invariants
  · post⟨fun _ => ⌜True⌝, fun fault => ⌜fault.Semantic⌝⟩
  all_goals simp_all

@[spec] theorem singleEntry_fails (n : Nat) : Fails Semantic (singleEntry n) := by
  mvcgen [singleEntry]
  all_goals simp

@[spec] theorem itemsOf_fails (n : Nat) : Fails Semantic (itemsOf n) := by
  mvcgen [itemsOf]
  all_goals simp

@[spec] theorem fill_fails (n : Nat) : Fails Semantic (fill n) := by
  have pairs := Fails.mapM singleEntry_fails
  have items := Fails.forM visit_fails
  mvcgen [fill, pairs, items]

@[spec] theorem settle_fails (fuel : Nat) : Fails Semantic (settle fuel) := by
  induction fuel with
  | zero => exact fun _ _ => True.intro
  | succ fuel ih => mvcgen [settle, ih]

end Interpreter

/-! ### Documents -/

@[spec] theorem Graph.meanings_throws (graph : Graph) : Throws Semantic graph.meanings := by
  have fails : Fails Semantic (do
      Interpreter.visit graph.root
      Interpreter.settle (graph.nodes.size + 1)) := by
    mvcgen
  unfold meanings
  cases ended : (do
      Interpreter.visit graph.root
      Interpreter.settle (graph.nodes.size + 1) : Interpreter Unit)
    ⟨graph, Array.replicate graph.nodes.size none, []⟩ with
  | ok filled =>
    simp only [StateT.run, ended]
    exact fun _ => True.intro
  | error fault =>
    simp only [StateT.run, ended]
    exact fun _ => fails.of_error ended

/--
Why there is no document in a text: the text is malformed, it goes on beyond an edge that has a
fault, or a scalar has no value.
-/
theorem Document.fault_ofSource {source : Source} {fault : Fault}
    (ended : Document.ofSource? source = .error fault) :
    fault = .malformed ∨ source.edge = some fault ∨ fault.OfScalar := by
  cases read : Graph.ofSource? source with
  | error other =>
    rw [ofSource?, read] at ended
    cases ended
    rcases Graph.fault_ofSource read with malformed | ⟨code, beyond, rfl⟩ | edge
    · exact .inl malformed
    · exact .inr (.inr (.escape beyond))
    · exact .inr (.inl edge)
  | ok graph =>
    cases graph with
    | none =>
      rw [ofSource?, read] at ended
      cases ended
    | some graph =>
      cases interpreted : graph.meanings with
      | ok meanings =>
        simp only [ofSource?, read, interpreted, bind, Except.bind] at ended
        cases ended
      | error other =>
        simp only [ofSource?, read, interpreted, bind, Except.bind] at ended
        cases ended
        cases (graph.meanings_throws).of_error interpreted with
        | malformed => exact .inl rfl
        | scalar h => exact .inr (.inr h)

end StepPipeline.Yaml
