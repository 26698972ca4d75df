import Mathlib
import StepPipeline.Yaml.Tokens

/-!
What may be wrong with a text that is divided into tokens. Almost every step can find the text
malformed; only scalars in double quotes can end in an escape for no character, and scalars in
quotes at the end of the text. Where the text is seen as a whole, an unfinished scalar makes it
malformed as well. Main result: `Tokens.fault_ofSource`.
-/

set_option autoImplicit false
set_option relaxedAutoImplicit false
set_option mvcgen.warning false

namespace StepPipeline.Yaml

open Std.Do

section Throws

variable {α : Type} {P : Fault → Prop}

/-- A step that ends in faults of a kind only. -/
abbrev Throws (P : Fault → Prop) (x : Except Fault α) : Prop :=
  ⦃⌜True⌝⦄ x ⦃post⟨fun _ => ⌜True⌝, fun fault => ⌜P fault⌝⟩⦄

theorem Throws.of_error {x : Except Fault α} {fault : Fault} (h : Throws P x)
    (ended : x = .error fault) : P fault := by
  subst ended
  exact h True.intro

theorem Throws.of_forall {x : Except Fault α} (h : ∀ fault, x = .error fault → P fault) :
    Throws P x := by
  cases x with
  | ok a => exact fun _ => True.intro
  | error fault => exact fun _ => h fault rfl

theorem Throws.mono {Q : Fault → Prop} {x : Except Fault α} (h : Throws P x)
    (le : ∀ fault, P fault → Q fault) : Throws Q x :=
  .of_forall fun fault ended => le fault (h.of_error ended)

@[spec] theorem ok_spec {a : α} {Q : PostCond α (.except Fault .pure)} :
    ⦃Q.1 a⦄ (.ok a : Except Fault α) ⦃Q⦄ :=
  fun h => h

@[spec] theorem error_spec {fault : Fault} {Q : PostCond α (.except Fault .pure)} :
    ⦃Q.2.1 fault⦄ (.error fault : Except Fault α) ⦃Q⦄ :=
  fun h => h

@[spec] theorem Throws.map {β : Type} {x : Except Fault α} (f : α → β) (h : Throws P x) :
    Throws P (x.map f) := by
  cases x with
  | ok a => exact fun _ => True.intro
  | error fault => exact h

theorem Throws.mapM {β : Type} {f : α → Except Fault β} (h : ∀ a, Throws P (f a))
    (items : List α) : Throws P (items.mapM f) := by
  induction items with
  | nil => mvcgen
  | cons a rest ih =>
    rw [List.mapM_cons]
    mvcgen [h, ih]

end Throws

inductive Fault.Lexical : Fault → Prop
  | malformed : Lexical .malformed
  | unfinished : Lexical .unfinished
  | escape {code : Nat} (beyond : 0x110000 ≤ code) : Lexical (.escape code)

attribute [simp] Fault.Lexical.malformed Fault.Lexical.unfinished

open Yaml.Fault (Lexical)

/-! ### Labels and directives -/

@[spec] theorem Cursor.endLine_throws (here : Cursor) : Throws Lexical here.endLine := by
  mvcgen [endLine]
  simp

namespace Label

@[spec] theorem readAnchor_throws (here : Cursor) : Throws Lexical (readAnchor here) := by
  mvcgen [readAnchor]
  simp

@[spec] theorem escapedBytes_throws (cs : List Char) : Throws Lexical (escapedBytes cs) := by
  induction cs using escapedBytes.induct with
  | case1 a b rest n found ih =>
    mvcgen [escapedBytes, ih]
    simp
  | case2 a b rest unread =>
    mvcgen [escapedBytes]
    all_goals simp_all
  | case3 => exact fun _ => .malformed
  | case4 => exact fun _ => .malformed
  | case5 cs =>
    rw [escapedBytes]
    · exact fun _ => True.intro
    all_goals assumption

@[spec] theorem readTagTextFrom_throws (fuel : Nat) (here : Cursor) :
    Throws Lexical (readTagTextFrom fuel here) := by
  induction fuel generalizing here with
  | zero => mvcgen [readTagTextFrom]
  | succ fuel ih =>
    mvcgen [readTagTextFrom, ih]
    simp

@[spec] theorem readTagText_throws (here : Cursor) : Throws Lexical (readTagText here) := by
  mvcgen [readTagText]
  simp

@[spec] theorem readHandle_throws (here : Cursor) : Throws Lexical (readHandle here) := by
  mvcgen [readHandle] <;> simp

@[spec] theorem readTag_throws (here : Cursor) : Throws Lexical (readTag here) := by
  mvcgen [readTag] <;> simp

@[spec] theorem readVersionNumber_throws (here : Cursor) :
    Throws Lexical (readVersionNumber here) := by
  mvcgen [readVersionNumber]
  simp

@[spec] theorem readVersion_throws (here : Cursor) : Throws Lexical (readVersion here) := by
  mvcgen [readVersion] <;> simp

@[spec] theorem readHandleMeaning_throws (here : Cursor) :
    Throws Lexical (readHandleMeaning here) := by
  mvcgen [readHandleMeaning] <;> simp

@[spec] theorem readDirective_throws (here : Cursor) : Throws Lexical (readDirective here) := by
  mvcgen [readDirective]
  simp

end Label

/-! ### Scalars -/

namespace Block

@[spec] theorem readIndent_throws (here : Cursor) : Throws Lexical (readIndent here) := by
  mvcgen [readIndent]
  simp

@[spec] theorem readHeader_throws (here : Cursor) : Throws Lexical (readHeader here) := by
  mvcgen [readHeader]
  simp

@[spec] theorem read_throws (isFolded : Bool) (level : Nat) (here : Cursor) :
    Throws Lexical (read isFolded level here) := by
  mvcgen [read]

end Block

namespace Quoted

@[spec] theorem readBlank_throws (here : Cursor) : Throws Lexical (readBlank here) := by
  mvcgen [readBlank]
  simp

/-- An escape that ends neither early nor in a character gives a code beyond all characters. -/
@[spec] theorem readEscape_throws (here : Cursor) : Throws Lexical (readEscape here) := by
  unfold readEscape
  split
  · mvcgen
    simp
  split
  · mvcgen
  · mvcgen
    · simp
    · simp
    · exact .escape (Nat.not_lt.mp ‹_›)
  · exact .map _ (readBlank_throws _)
  · mvcgen
    simp

@[spec] theorem readWhite_throws (here : Cursor) : Throws Lexical (readWhite here) := by
  unfold readWhite
  dsimp only
  split
  · mvcgen
  · exact .map _ (readBlank_throws _)

@[spec] theorem readFrom_throws (isDouble : Bool) (fuel : Nat) (here : Cursor) :
    Throws Lexical (readFrom isDouble fuel here) := by
  induction fuel generalizing here with
  | zero => exact fun _ => .malformed
  | succ fuel ih =>
    mvcgen [readFrom, ih]
    all_goals simp

end Quoted

/-! ### Division -/

namespace Division

@[spec] theorem dropKey_throws (keyPlace : Option KeyPlace) :
    Throws Lexical (dropKey keyPlace) := by
  mvcgen [dropKey]
  simp

@[spec] theorem dropStale_throws (d : Division) : Throws Lexical d.dropStale := by
  have drops (keyPlace : Option KeyPlace) : Throws Lexical
      (if keyPlace.any d.isStale then dropKey keyPlace else .ok keyPlace) := by
    mvcgen
  have drops_all := Throws.mapM drops
  unfold dropStale
  dsimp only
  mvcgen [drops, drops_all]

@[spec] theorem closeDocument_throws (d : Division) : Throws Lexical d.closeDocument := by
  mvcgen [closeDocument]

@[spec] theorem forgetKey_throws (d : Division) : Throws Lexical d.forgetKey := by
  mvcgen [forgetKey]

@[spec] theorem rememberKey_throws (d : Division) : Throws Lexical d.rememberKey := by
  mvcgen [rememberKey]

@[spec] theorem addLabel_throws {read : Cursor → Except Fault (Token × Cursor)}
    (reads : ∀ here, Throws Lexical (read here)) (d : Division) :
    Throws Lexical (d.addLabel read) := by
  mvcgen [addLabel, reads]

@[spec] theorem openFlow_throws (token : Token) (d : Division) :
    Throws Lexical (d.openFlow token) := by
  mvcgen [openFlow]

@[spec] theorem closeFlow_throws (token : Token) (d : Division) :
    Throws Lexical (d.closeFlow token) := by
  mvcgen [closeFlow]
  simp

@[spec] theorem addMark_throws (block token : Token) (d : Division) :
    Throws Lexical (d.addMark block token) := by
  mvcgen [addMark]
  simp

@[spec] theorem addEntry_throws (d : Division) : Throws Lexical d.addEntry := by
  mvcgen [addEntry]

@[spec] theorem addKey_throws (d : Division) : Throws Lexical d.addKey := by
  mvcgen [addKey]

@[spec] theorem addValue_throws (d : Division) : Throws Lexical d.addValue := by
  mvcgen [addValue]

@[spec] theorem addComma_throws (d : Division) : Throws Lexical d.addComma := by
  mvcgen [addComma]

@[spec] theorem addBlock_throws (isFolded : Bool) (d : Division) :
    Throws Lexical (d.addBlock isFolded) := by
  mvcgen [addBlock]

@[spec] theorem addBare_throws (d : Division) : Throws Lexical d.addBare := by
  mvcgen [addBare]

@[spec] theorem readName_throws (token : String → Token) (here : Cursor) :
    Throws Lexical (readName token here) :=
  .map _ (Label.readAnchor_throws _)

@[spec] theorem readQuoted_throws (isDouble : Bool) (here : Cursor) :
    Throws Lexical (readQuoted isDouble here) :=
  .map _ (Quoted.readFrom_throws _ _ _)

@[spec] theorem addToken_throws (c : Char) (d : Division) : Throws Lexical (d.addToken c) := by
  mvcgen [addToken]
  simp

@[spec] theorem step_throws (d : Division) : Throws Lexical d.step := by
  mvcgen [step]

theorem fault_run (edge : Option Fault) (fuel : Nat) (d : Division) {fault : Fault}
    (ended : (run edge fuel d).fault = some fault) :
    fault = .malformed ∨ (∃ code, 0x110000 ≤ code ∧ fault = .escape code) ∨ edge = some fault := by
  induction fuel generalizing d with
  | zero =>
    cases ended
    exact .inl rfl
  | succ fuel ih =>
    rw [run] at ended
    split at ended
    · cases edge with
      | none =>
        cases ended
        exact .inl rfl
      | some other =>
        cases ended
        exact .inr (.inr rfl)
    · rename_i other finished stopped
      cases ended
      -- where a scalar is unfinished the text has ended with the fault at its edge already
      cases (step_throws d).of_error stopped with
      | malformed => exact .inl rfl
      | unfinished => exact absurd rfl finished
      | escape beyond => exact .inr (.inl ⟨_, beyond, rfl⟩)
    · split at ended
      · exact .inr (.inr ended)
      split at ended
      · cases ended
      · exact ih _ ended

end Division

theorem Tokens.fault_ofSource {source : Source} {fault : Fault}
    (ended : (Tokens.ofSource source).fault = some fault) :
    fault = .malformed ∨ (∃ code, 0x110000 ≤ code ∧ fault = .escape code) ∨
      source.edge = some fault :=
  Division.fault_run _ _ _ ended

end StepPipeline.Yaml
