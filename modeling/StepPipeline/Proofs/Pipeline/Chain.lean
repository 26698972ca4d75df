import StepPipeline.Fault

/-!
What a chain of failures says. Each failure tells its index and its label, and the last character
of its sentence gives way to the failure that caused it. That character is the period which the
sentence itself ends in, so labels and causes stand in the message as they are, whatever they hold.
Main result: `Fault.message_chain`.
-/

set_option autoImplicit false
set_option relaxedAutoImplicit false

namespace StepPipeline

variable {ι ρ ε : Type}

namespace Failure

def clause (failure : Failure ι ρ) : String :=
  s!"Step {failure.index} ({failure.label}) failed"

def frame (failure : Failure ι ρ) : String :=
  s!"Step {failure.index} () failed"

theorem sentence_eq_push (failure : Failure ι ρ) : failure.sentence = failure.clause.push '.' := by
  have period : toString ") failed." = toString ") failed" ++ String.singleton '.' := by decide
  rw [String.push_eq_append, sentence, clause, period]
  simp only [String.append_assoc]

-- A label may end in a period of its own; the one that is cut off stands behind the label.
theorem withoutLast_sentence (failure : Failure ι ρ) :
    Text.withoutLast failure.sentence = failure.clause := by
  rw [sentence_eq_push, Text.withoutLast_push]

theorem count_clause (failure : Failure ι ρ) (c : Char) :
    failure.clause.toList.count c =
      failure.label.toList.count c + failure.frame.toList.count c := by
  have around : toString " () failed" = toString " (" ++ toString ") failed" := by decide
  rw [clause, frame, around]
  simp only [String.toList_append, List.count_append]
  show _ + List.count c failure.label.toList + _ = _
  omega

end Failure

namespace Fault

variable [Cause ε]

theorem message_because (failure : Failure ι ρ) (cause : Fault ι ρ ε) :
    (because failure cause).message = failure.clause ++ ": " ++ cause.message := by
  rw [message, failure.withoutLast_sentence]

theorem message_failed (failure : Failure ι ρ) :
    (failed failure : Fault ι ρ ε).message = failure.clause ++ "." := by
  rw [message, failure.sentence_eq_push, String.push_eq_append]
  rfl

/-- A chain of failures, each the cause of the one before it; the innermost has the given cause. -/
def chain (outer : List (Failure ι ρ)) (innermost : Failure ι ρ) :
    (cause? : Option (Fault ι ρ ε)) → Fault ι ρ ε
  | none => outer.foldr because (failed innermost)
  | some cause => outer.foldr because (because innermost cause)

/-- What follows the last clause of a chain. -/
def ending : (cause? : Option (Fault ι ρ ε)) → String
  | none => "."
  | some cause => ": " ++ cause.message

theorem message_foldr_because (outer : List (Failure ι ρ)) (root : Fault ι ρ ε) :
    (outer.foldr because root).message =
      String.join (outer.map fun failure => failure.clause ++ ": ") ++ root.message := by
  induction outer with
  | nil => simp
  | cons failure rest ih =>
    rw [List.foldr_cons, message_because, ih, List.map_cons, String.join_cons]
    simp only [String.append_assoc]

theorem message_chain_eq_join (outer : List (Failure ι ρ)) (innermost : Failure ι ρ)
    (cause? : Option (Fault ι ρ ε)) :
    (chain outer innermost cause?).message =
      String.join (outer.map fun failure => failure.clause ++ ": ") ++
        (innermost.clause ++ ending cause?) := by
  cases cause? with
  | none => rw [chain, message_foldr_because, message_failed, ending]
  | some cause =>
    rw [chain, message_foldr_because, message_because, ending]
    simp only [String.append_assoc]

theorem intercalate_clauses (outer : List (Failure ι ρ)) (innermost : Failure ι ρ) :
    ": ".intercalate ((outer ++ [innermost]).map Failure.clause) =
      String.join (outer.map fun failure => failure.clause ++ ": ") ++ innermost.clause := by
  induction outer with
  | nil => simp
  | cons failure rest ih =>
    have more : (rest ++ [innermost]).map Failure.clause ≠ [] := by simp
    rw [List.cons_append, List.map_cons, String.intercalate_cons_of_ne_nil more, ih, List.map_cons,
      String.join_cons]
    simp only [String.append_assoc]

theorem count_join_clauses (outer : List (Failure ι ρ)) (c : Char) :
    (String.join (outer.map fun failure => failure.clause ++ ": ")).toList.count c =
      (outer.flatMap (·.label.toList)).count c + (outer.flatMap (·.frame.toList)).count c +
        outer.length * ": ".toList.count c := by
  induction outer with
  | nil => simp
  | cons failure rest ih =>
    have here := failure.count_clause c
    simp only [List.map_cons, String.join_cons, String.toList_append, List.count_append,
      List.flatMap_cons, List.length_cons, Nat.add_one_mul] at ih ⊢
    omega

/--
The message of a chain of failures tells all of them from the outermost to the innermost, and then
the cause of the innermost, or ends in a period if none is known. Every character of the labels and
of the cause's message is told as often as it occurs there.
-/
theorem message_chain (outer : List (Failure ι ρ)) (innermost : Failure ι ρ)
    (cause? : Option (Fault ι ρ ε)) :
    (chain outer innermost cause?).message =
        ": ".intercalate ((outer ++ [innermost]).map fun failure =>
          s!"Step {failure.index} ({failure.label}) failed") ++ ending cause? ∧
      ∀ c : Char, (chain outer innermost cause?).message.toList.count c =
        ((outer ++ [innermost]).flatMap (·.label.toList)).count c +
          ((outer ++ [innermost]).flatMap (·.frame.toList)).count c +
          outer.length * ": ".toList.count c + (ending cause?).toList.count c := by
  constructor
  · rw [message_chain_eq_join, ← String.append_assoc, ← intercalate_clauses]
    rfl
  · intro c
    have here := innermost.count_clause c
    have before := count_join_clauses outer c
    simp only [message_chain_eq_join, String.toList_append, List.count_append, List.flatMap_append,
      List.flatMap_singleton] at before ⊢
    omega

example : (chain [⟨0, (), "a. failed.", []⟩] ⟨2, (), "b: ", []⟩
    (some (consumed : Fault Unit Unit ε))).message =
      "Step 0 (a. failed.) failed: Step 2 (b: ) failed: Pipeline has already been executed." := rfl

end Fault

end StepPipeline
