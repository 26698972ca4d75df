import StepPipeline.CommandLine.Program
import StepPipeline.Proofs.Config.Checks
import StepPipeline.Proofs.Text.Feed
import StepPipeline.Proofs.Yaml.Faults

/-!
Configurations in files. What is wrong with a configuration, or with the language that it is written
in, is an expected fault, and the program tells it as an error of its own. But some obstacles are
met on the way to a configuration: a directory or too long a name in the place of a file, bytes that
are no text, a scalar without a value, an integer beyond the range of the quantities. On these the
program breaks off. Main result: `ofEntry_ends`.
-/

set_option autoImplicit false
set_option relaxedAutoImplicit false

namespace StepPipeline

def Yaml.Source.ofBytes (bytes : List UInt8) : Source :=
  .ofPortions (.ofBytes bytes)

theorem Yaml.Source.edge_ofBytes {bytes : List UInt8} {fault : Fault}
    (edge : (ofBytes bytes).edge = some fault) :
    fault = .malformed ∨ fault = .undecodable ∧ ¬ Text.IsUtf8 bytes := by
  simp only [ofBytes, ofPortions] at edge
  split at edge
  · cases edge
    exact .inl rfl
  split at edge
  · rename_i cut
    cases edge
    exact .inr ⟨rfl, Text.Portions.not_isUtf8_of_isCut cut⟩
  · cases edge

namespace Config

open Yaml (Document Source)
open CommandLine (Files runFile runWorld complain refused)

/--
What is met on the way to a configuration, given what stands at a path: the faults that are none of
the configuration, each with the condition under which it is met.
-/
inductive Obstacle (path : FilePath) : Except LookupFault FileEntry → FileFault → Prop
  | tooLong : Obstacle path (.error .tooLong) (.tooLong path)
  | directory : Obstacle path (.ok .directory) (.directory path)
  | undecodable {bytes : List UInt8} (invalid : ¬ Text.IsUtf8 bytes)
      (ended : Document.ofSource? (.ofBytes bytes) = .error .undecodable) :
      Obstacle path (.ok (.file bytes)) .undecodable
  | scalar {bytes : List UInt8} {fault : Yaml.Fault} (ofScalar : fault.OfScalar)
      (ended : Document.ofSource? (.ofBytes bytes) = .error fault) :
      Obstacle path (.ok (.file bytes)) (.scalar fault)
  | beyondRange {bytes : List UInt8} {entries : List (Value × Value)} {before after : List Check}
      {n : Int} (holds : readText path bytes = .ok (.dict entries))
      (made : checks (.dict entries) = before ++ .inRange n :: after) (passed : Pass before)
      (beyond : Numeral.Binary64.overflowThreshold ≤ n.natAbs) :
      Obstacle path (.ok (.file bytes)) (.refused .beyondRange)

variable {path : FilePath} {bytes : List UInt8} {found : Except LookupFault FileEntry}
  {fault : FileFault}

def FileFault.ofText (path : FilePath) : Yaml.Fault → FileFault
  | .undecodable => .undecodable
  | .malformed => .malformed path
  | fault => .scalar fault

theorem readText_of_fault {fault : Yaml.Fault}
    (ended : Document.ofSource? (.ofBytes bytes) = .error fault) :
    readText path bytes = .error (.ofText path fault) := by
  rw [Source.ofBytes] at ended
  unfold readText
  generalize Document.ofSource? (.ofPortions (.ofBytes bytes)) = outcome at ended
  subst ended
  cases fault <;> rfl

theorem FileFault.ofText_of_ofScalar {fault : Yaml.Fault} (ofScalar : fault.OfScalar) :
    FileFault.ofText path fault = .scalar fault := by
  obtain ⟨not_malformed, not_undecodable⟩ := ofScalar.not_textual
  cases fault with
  | malformed => exact absurd rfl not_malformed
  | undecodable => exact absurd rfl not_undecodable
  | _ => rfl

/-- The fault of a file without a document is expected, or an obstacle. -/
theorem readText_error (ended : readText path bytes = .error fault) :
    fault.isExpected = true ∨ Obstacle path (.ok (.file bytes)) fault := by
  cases outcome : Document.ofSource? (.ofBytes bytes) with
  | ok document? =>
    rw [Source.ofBytes] at outcome
    unfold readText at ended
    generalize Document.ofSource? (.ofPortions (.ofBytes bytes)) = document at outcome ended
    subst outcome
    cases document? with
    | none =>
      cases ended
      exact .inl rfl
    | some document => cases ended
  | error other =>
    rw [readText_of_fault outcome] at ended
    cases ended
    rcases Document.fault_ofSource outcome with rfl | edge | ofScalar
    · exact .inl rfl
    · rcases Source.edge_ofBytes edge with rfl | ⟨rfl, invalid⟩
      · exact .inl rfl
      · exact .inr (.undecodable invalid outcome)
    · rw [FileFault.ofText_of_ofScalar ofScalar]
      exact .inr (.scalar ofScalar outcome)

theorem ofEntry_of_readText_error (ended : readText path bytes = .error fault) :
    ofEntry path (.ok (.file bytes)) = .error fault := by
  simp only [ofEntry, ended, bind, Except.bind]

theorem ofEntry_of_readText_dict {entries : List (Value × Value)}
    (holds : readText path bytes = .ok (.dict entries)) :
    ofEntry path (.ok (.file bytes)) = (read (.dict entries)).mapError .refused := by
  simp only [ofEntry, holds, bind, Except.bind]
  cases read (.dict entries) <;> rfl

theorem ofEntry_of_readText_other {payload : Value} (holds : readText path bytes = .ok payload)
    (other : ∀ entries, payload ≠ .dict entries) :
    ∃ fault, ofEntry path (.ok (.file bytes)) = .error fault ∧ fault.isExpected = true := by
  simp only [ofEntry, holds, bind, Except.bind]
  split
  · exact ⟨_, rfl, rfl⟩
  · exact absurd rfl (other _)
  · exact ⟨_, rfl, rfl⟩

theorem ofEntry_error (ended : ofEntry path found = .error fault) :
    fault.isExpected = true ∨ Obstacle path found fault := by
  rcases found with (_ | _) | (bytes | _)
  · cases ended
    exact .inl rfl
  · cases ended
    exact .inr .tooLong
  · cases text : readText path bytes with
    | error other =>
      rw [ofEntry_of_readText_error text] at ended
      cases ended
      exact readText_error text
    | ok payload =>
      by_cases dict : ∃ entries, payload = .dict entries
      · obtain ⟨entries, rfl⟩ := dict
        rw [ofEntry_of_readText_dict text] at ended
        rcases (read_ends (.dict entries)).1 with ⟨config, given⟩ | ⟨invalid, given⟩ | given
        · rw [given] at ended
          cases ended
        · rw [given] at ended
          cases ended
          exact .inl rfl
        · obtain ⟨before, n, after, made, passed, _, beyond⟩ :=
            (read_ends (.dict entries)).2.mp given
          rw [given] at ended
          cases ended
          exact .inr (.beyondRange text made passed beyond)
      · obtain ⟨other, stops, expected⟩ := ofEntry_of_readText_other text
          fun entries same => dict ⟨entries, same⟩
        rw [stops] at ended
        cases ended
        exact .inl expected
  · cases ended
    exact .inr .directory

theorem Obstacle.ends (met : Obstacle path found fault) :
    ofEntry path found = .error fault ∧ fault.isExpected = false := by
  cases met with
  | tooLong => exact ⟨rfl, rfl⟩
  | directory => exact ⟨rfl, rfl⟩
  | undecodable _ ended =>
    exact ⟨ofEntry_of_readText_error (readText_of_fault ended), rfl⟩
  | scalar ofScalar ended =>
    have text : readText path _ = .error _ := readText_of_fault ended
    rw [FileFault.ofText_of_ofScalar ofScalar] at text
    exact ⟨ofEntry_of_readText_error text, rfl⟩
  | @beyondRange bytes entries before after n holds made passed beyond =>
    have places : n ∈ extents (.dict entries) ∨ .int n ∈ quantityFields (.dict entries) :=
      range_checked (made ▸ List.mem_append_right _ List.mem_cons_self)
    have refuses := (read_ends (.dict entries)).2.mpr
      ⟨before, n, after, made, passed, places, beyond⟩
    rw [ofEntry_of_readText_dict holds, refuses]
    exact ⟨rfl, rfl⟩

/-! ### Files that are no texts -/

theorem Obstacle.of_refused
    (refused : (Text.decodedAll (bytes.take Text.blockSize)).isRefused = true) :
    Obstacle path (.ok (.file bytes)) .undecodable := by
  have cut : Text.Portions.ofBytes bytes = ⟨[], true⟩ := Text.Portions.ofBytes_of_refused refused
  have invalid : ¬ Text.IsUtf8 bytes :=
    Text.Portions.not_isUtf8_of_isCut (congrArg Text.Portions.isCut cut)
  refine .undecodable invalid ?_
  rw [Source.ofBytes, cut]
  rfl

section Started

variable {files : Files} {text : String} (level : Severity) (ticks : Nat)

theorem runFile_of_ok {config : Config Float}
    (loaded : ofEntry (.ofText text) (files (.ofText text)) = .ok config) :
    runFile files level text ticks = runWorld level config ticks := by
  have given : ¬ (ticks : Int) < 0 := by omega
  simp only [runFile, if_neg given, loaded]

theorem runFile_of_error (loaded : ofEntry (.ofText text) (files (.ofText text)) = .error fault) :
    runFile files level text ticks =
      if fault.isExpected then complain "" fault.message
      else { ending := .broken (.file fault) } := by
  have given : ¬ (ticks : Int) < 0 := by omega
  simp only [runFile, if_neg given, loaded]

end Started

/--
How the reading of a configuration ends, and what the program does with it. It ends with a
configuration; or with an expected fault, which is told as an error with its status; or at an
obstacle, where the program breaks off. No obstacle is ever told as an error.
-/
theorem ofEntry_ends (files : Files) (level : Severity) (text : String) (ticks : Nat) :
    let path := FilePath.ofText text
    let found := files path
    let loaded := ofEntry path found
    let ran := runFile files level text ticks
    ((∃ config, loaded = .ok config ∧ ran = runWorld level config ticks) ∨
      (∃ fault, loaded = .error fault ∧ fault.isExpected = true ∧
        ran = { errors := s!"Error: {fault.message}\n", ending := .left 2 }) ∨
      ∃ fault, loaded = .error fault ∧ Obstacle path found fault ∧
        ran = { ending := .broken (.file fault) }) ∧
    ∀ fault, Obstacle path found fault ↔ loaded = .error fault ∧ fault.isExpected = false := by
  intro path found loaded ran
  constructor
  · cases ended : loaded with
    | ok config => exact .inl ⟨config, rfl, runFile_of_ok level ticks ended⟩
    | error fault =>
      have told := runFile_of_error level ticks ended
      cases expected : fault.isExpected with
      | true =>
        have shown : ran = complain "" fault.message := told.trans (if_pos expected)
        rw [complain, String.empty_append, refused] at shown
        exact .inr (.inl ⟨fault, rfl, expected, shown⟩)
      | false =>
        have unexpected : ¬ fault.isExpected = true := by rw [expected]; exact Bool.false_ne_true
        exact .inr (.inr ⟨fault, rfl, (ofEntry_error ended).resolve_left unexpected,
          told.trans (if_neg unexpected)⟩)
  · intro fault
    constructor
    · exact Obstacle.ends
    · rintro ⟨ended, unexpected⟩
      exact (ofEntry_error ended).resolve_left (by rw [unexpected]; exact Bool.false_ne_true)

end Config

end StepPipeline
