import Mathlib.Data.List.Induction
import StepPipeline.Proofs.Session.Log
import StepPipeline.Session.Work

/-!
What the log tells of a run. A reader goes through the records of a run and counts the runs that are
open. If steps let requests to leave pass, it tells how the run has ended and how many steps it has
completed; a step that keeps such a request to itself leaves records that may as well be those of
another run. Main results: `Conduct.log_tells`, `Conduct.log_silent`.
-/

set_option autoImplicit false
set_option relaxedAutoImplicit false

namespace StepPipeline.Session

open Session.Language (SessionFault)

variable {π ω ρ ε : Type}

/-! ### Verdicts -/

/-- How a run has ended, and how many of its steps were completed. -/
inductive Verdict where
  | returned (completed : Nat)
  | failed (completed : Nat)
  /-- It was left at the request of a step. -/
  | left (completed : Nat)
  deriving DecidableEq, Repr

def Verdict.of [Cause ε] (started : Nat) : Except (SessionFault π ρ ε) (Report ρ) → Verdict
  | .ok report => .returned report.completed
  | .error fault => if fault.escapes then .left (started - 1) else .failed (started - 1)

/-- A reader of records: how many runs are open, which step of the outermost one is running, and
the verdict on that. -/
structure Reader where
  depth : Nat := 0
  index : Nat := 0
  verdict : Verdict := .left 0
  deriving DecidableEq, Repr

namespace Reader

def outermost (reader : Reader) : Bool :=
  reader.depth == 1

def close (reader : Reader) (verdict : Verdict) : Reader :=
  { reader with
    depth := reader.depth - 1
    verdict := if reader.outermost then verdict else reader.verdict }

def read (reader : Reader) : Record → Reader
  | .executing _ _ => { reader with depth := reader.depth + 1 }
  | .running index _ => if reader.outermost then { reader with index } else reader
  | .finished steps => reader.close (.returned steps)
  | .stepFailed _ _ completed _ => reader.close (.failed completed)
  | .tickDone _ _ => reader

def readAll (reader : Reader) (records : List Record) : Reader :=
  records.foldl read reader

theorem readAll_cons (reader : Reader) (record : Record) (rest : List Record) :
    reader.readAll (record :: rest) = (reader.read record).readAll rest := rfl

theorem readAll_append (reader : Reader) (first second : List Record) :
    reader.readAll (first ++ second) = (reader.readAll first).readAll second :=
  List.foldl_append

theorem outermost_eq_false {reader : Reader} (inner : 1 < reader.depth) :
    reader.outermost = false := by
  rw [outermost, beq_eq_false_iff_ne]
  exact Nat.ne_of_gt inner

theorem close_opened {reader : Reader} (within : 0 < reader.depth) (verdict : Verdict) :
    ({ reader with depth := reader.depth + 1 } : Reader).close verdict = reader := by
  have inner : ({ reader with depth := reader.depth + 1 } : Reader).outermost = false :=
    outermost_eq_false (Nat.succ_lt_succ within)
  simp only [close, inner, Bool.false_eq_true, if_false, Nat.add_sub_cancel]

end Reader

/-- The verdict on the run whose records these are. A run that is still open was left. -/
def Verdict.read (records : List Record) : Verdict :=
  let reader : Reader := ({} : Reader).readAll records
  if reader.depth = 0 then reader.verdict else .left reader.index

theorem Verdict.read_of_closed {records : List Record} {reader : Reader}
    (all_read : ({} : Reader).readAll records = reader) (closed : reader.depth = 0) :
    Verdict.read records = reader.verdict := by
  rw [Verdict.read, all_read]
  exact if_pos closed

theorem Verdict.read_of_open {records : List Record} {reader : Reader}
    (all_read : ({} : Reader).readAll records = reader) (still_open : 0 < reader.depth) :
    Verdict.read records = .left reader.index := by
  rw [Verdict.read, all_read]
  exact if_neg (Nat.ne_of_gt still_open)

/-! ### Records inside an open run -/

/-- Inside an open run these records are read past. -/
def Closed (records : List Record) : Prop :=
  ∀ reader : Reader, 0 < reader.depth → reader.readAll records = reader

/-- Inside an open run these records tell nothing of it, but runs in it may be left open. -/
def LeavesOpen (records : List Record) : Prop :=
  ∀ reader : Reader, 0 < reader.depth →
    let after := reader.readAll records
    reader.depth ≤ after.depth ∧ after.index = reader.index ∧ after.verdict = reader.verdict

theorem Closed.nil : Closed [] := fun _ _ => rfl

theorem Closed.append {first second : List Record} (h : Closed first) (h' : Closed second) :
    Closed (first ++ second) := by
  intro reader inside
  rw [Reader.readAll_append, h reader inside, h' reader inside]

theorem Closed.leavesOpen {records : List Record} (h : Closed records) : LeavesOpen records := by
  intro reader inside
  rw [h reader inside]
  exact ⟨Nat.le_refl _, rfl, rfl⟩

theorem LeavesOpen.after_closed {first second : List Record} (h : Closed first)
    (h' : LeavesOpen second) : LeavesOpen (first ++ second) := by
  intro reader inside
  rw [Reader.readAll_append, h reader inside]
  exact h' reader inside

def Stays [Cause ε] {α : Type} (outcome : Except (SessionFault π ρ ε) α) : Prop :=
  ∀ fault, outcome = .error fault → fault.escapes = false

section Rounds

variable {label : Step π → String} {inside : Round π ω → List Record}

theorem roundRecords_concat (label : Step π → String) (inside : Round π ω → List Record)
    (rounds : List (Round π ω)) (last : Round π ω) :
    roundRecords label inside 0 (rounds ++ [last]) =
      roundRecords label inside 0 rounds ++
        .running rounds.length (label last.step) :: inside last := by
  simp [roundRecords, List.zipIdx_append]

theorem readAll_inner {rounds : List (Round π ω)} (closed : ∀ round ∈ rounds, Closed (inside round))
    {reader : Reader} (inner : 1 < reader.depth) :
    reader.readAll (roundRecords label inside 0 rounds) = reader := by
  have not_outermost := Reader.outermost_eq_false inner
  -- from the end, since a round tells its index by how many there are before it
  induction rounds using List.reverseRecOn with
  | nil => rfl
  | append_singleton rounds last ih =>
    have last_closed := closed last (by simp)
    have others := ih fun round member => closed round (List.mem_append_left _ member)
    rw [roundRecords_concat, Reader.readAll_append, others, Reader.readAll_cons]
    simp only [Reader.read, not_outermost, Bool.false_eq_true, if_false]
    exact last_closed reader (by omega)

theorem readAll_outermost {rounds : List (Round π ω)}
    (closed : ∀ round ∈ rounds, Closed (inside round)) :
    ({ depth := 1 } : Reader).readAll (roundRecords label inside 0 rounds) =
      { depth := 1, index := rounds.length - 1 } := by
  induction rounds using List.reverseRecOn with
  | nil => rfl
  | append_singleton rounds last ih =>
    have last_closed := closed last (by simp)
    have others := ih fun round member => closed round (List.mem_append_left _ member)
    rw [roundRecords_concat, Reader.readAll_append, others, Reader.readAll_cons]
    simp only [Reader.read, Reader.outermost, BEq.rfl, if_true, List.length_append,
      List.length_singleton, Nat.add_sub_cancel]
    exact last_closed _ Nat.one_pos

end Rounds

/-! ### The records of one run -/

section Run

variable [Cause ε] {label : Step π → String} {inside : Round π ω → List Record}
  {outcome : Round π ω → Except (SessionFault π ρ ε) ρ} {steps : List (Step π)}
  {rounds : List (Round π ω)} {ended : Except (SessionFault π ρ ε) (Report ρ)}
  {ending : List Record}

theorem stays_ok {α : Type} (result : α) : Stays (.ok result : Except (SessionFault π ρ ε) α) :=
  fun _ impossible => nomatch impossible

theorem stays_error {α : Type} {fault : SessionFault π ρ ε} (stays : fault.escapes = false) :
    Stays (.error fault : Except (SessionFault π ρ ε) α) := by
  rintro _ ⟨⟩
  exact stays

theorem stays_of_results {results : List ρ} (outcomes : rounds.map outcome = results.map .ok) :
    ∀ round ∈ rounds, Stays (outcome round) := by
  intro round member
  have among := List.mem_map_of_mem (f := outcome) member
  rw [outcomes] at among
  obtain ⟨result, _, same⟩ := List.mem_map.mp among
  rw [← same]
  exact stays_ok result

theorem eq_concat_of_fault {results : List ρ} {fault : SessionFault π ρ ε}
    (outcomes : rounds.map outcome = results.map .ok ++ [.error fault]) :
    ∃ returned last, rounds = returned ++ [last] ∧ outcome last = .error fault ∧
      ∀ round ∈ returned, Stays (outcome round) := by
  obtain ⟨returned, raising, rfl, results_eq, raises⟩ := List.map_eq_append_iff.mp outcomes
  obtain ⟨last, rfl, last_raises⟩ := List.map_eq_singleton_iff.mp raises
  exact ⟨returned, last, rfl, last_raises, stays_of_results results_eq⟩

/-- A run is either closed by a record that tells its verdict, after rounds that all stay, or it is
left in its last round. -/
theorem Ends.closed_or_left
    (ends : Ends [.finished steps.length] label outcome [] steps rounds ended ending) :
    (Stays ended ∧ (∀ round ∈ rounds, Stays (outcome round)) ∧
      ∃ record, ending = [record] ∧
        ∀ reader : Reader, reader.read record = reader.close (.of rounds.length ended)) ∨
    (¬ Stays ended ∧ ending = [] ∧
      ∃ returned last, rounds = returned ++ [last] ∧
        (∀ round ∈ returned, Stays (outcome round)) ∧
        Verdict.of rounds.length ended = .left returned.length) := by
  cases ends with
  | @returned results same_steps outcomes =>
    have length_eq := length_of_returned same_steps outcomes
    refine .inl ⟨stays_ok _, stays_of_results outcomes, _, rfl, fun reader => ?_⟩
    simp only [Reader.read, Verdict.of, Report.completed, List.nil_append, length_eq]
  | @failed results step fault _ _ outcomes stays =>
    have length_eq : rounds.length = results.length + 1 := by
      simpa using congrArg List.length outcomes
    obtain ⟨returned, last, rounds_eq, raises, returned_stay⟩ := eq_concat_of_fault outcomes
    refine .inl ⟨stays_error rfl, ?_, _, rfl, fun reader => ?_⟩
    · intro round member
      rw [rounds_eq] at member
      rcases List.mem_append.mp member with before | is_last
      · exact returned_stay round before
      · rw [List.mem_singleton.mp is_last, raises]
        exact stays_error stays
    · simp only [Reader.read, Verdict.of, Fault.escapes, List.nil_append, length_eq,
        Nat.add_sub_cancel, Bool.false_eq_true, if_false]
  | @left results fault _ outcomes escapes =>
    obtain ⟨returned, last, rounds_eq, _, returned_stay⟩ := eq_concat_of_fault outcomes
    refine .inr ⟨?_, rfl, returned, last, rounds_eq, returned_stay, ?_⟩
    · intro stays
      rw [stays fault rfl] at escapes
      exact Bool.noConfusion escapes
    · simp only [Verdict.of, escapes, if_true, rounds_eq, List.length_append,
        List.length_singleton, Nat.add_sub_cancel]

variable
  (ends : Ends [.finished steps.length] label outcome [] steps rounds ended ending)
  (settled : ∀ round ∈ rounds, Stays (outcome round) → Closed (inside round))

include ends settled

theorem Ends.closed (contexts : Nat) (stays : Stays ended) :
    Closed (.executing steps.length contexts ::
      (roundRecords label inside 0 rounds ++ ending)) := by
  obtain ⟨_, rounds_stay, record, rfl, reads⟩ | ⟨leaves, _⟩ := ends.closed_or_left
  · intro reader within
    have rounds_closed round member := settled round member (rounds_stay round member)
    have inner : 1 < (reader.read (.executing steps.length contexts)).depth :=
      Nat.succ_lt_succ within
    rw [Reader.readAll_cons, Reader.readAll_append, readAll_inner rounds_closed inner,
      Reader.readAll_cons, reads]
    exact Reader.close_opened within _
  · exact absurd stays leaves

variable (opened : ∀ round ∈ rounds, LeavesOpen (inside round))

include opened

theorem Ends.leavesOpen (contexts : Nat) :
    LeavesOpen (.executing steps.length contexts ::
      (roundRecords label inside 0 rounds ++ ending)) := by
  by_cases stays : Stays ended
  · exact (ends.closed settled contexts stays).leavesOpen
  · obtain ⟨ended_stays, _⟩ | ⟨_, rfl, returned, last, rfl, returned_stay, _⟩ :=
      ends.closed_or_left
    · exact absurd ended_stays stays
    · intro reader within
      have returned_closed round (member : round ∈ returned) :=
        settled round (List.mem_append_left _ member) (returned_stay round member)
      have inner : 1 < (reader.read (.executing steps.length contexts)).depth :=
        Nat.succ_lt_succ within
      have not_outermost := Reader.outermost_eq_false inner
      rw [List.append_nil, roundRecords_concat, Reader.readAll_cons, Reader.readAll_append,
        readAll_inner returned_closed inner, Reader.readAll_cons]
      simp only [Reader.read] at not_outermost ⊢
      simp only [not_outermost, Bool.false_eq_true, if_false]
      obtain ⟨deeper, same_index, same_verdict⟩ :=
        opened last (by simp) { reader with depth := reader.depth + 1 } (Nat.succ_pos _)
      exact ⟨Nat.le_of_succ_le deeper, same_index, same_verdict⟩

/-- The records of a run tell how it has ended. -/
theorem Ends.verdict (contexts : Nat) :
    Verdict.read (.executing steps.length contexts ::
      (roundRecords label inside 0 rounds ++ ending)) = .of rounds.length ended := by
  have begun : ({} : Reader).read (.executing steps.length contexts) =
      ({ depth := 1 } : Reader) := rfl
  obtain ⟨_, rounds_stay, record, rfl, reads⟩ |
    ⟨_, rfl, returned, last, rfl, returned_stay, verdict_eq⟩ := ends.closed_or_left
  · have rounds_closed round member := settled round member (rounds_stay round member)
    have all_read : ({} : Reader).readAll (.executing steps.length contexts ::
        (roundRecords label inside 0 rounds ++ [record])) =
          ({ depth := 1, index := rounds.length - 1 } : Reader).close
            (.of rounds.length ended) := by
      rw [Reader.readAll_cons, begun, Reader.readAll_append, readAll_outermost rounds_closed,
        Reader.readAll_cons, reads]
      rfl
    exact Verdict.read_of_closed all_read rfl
  · have returned_closed round (member : round ∈ returned) :=
      settled round (List.mem_append_left _ member) (returned_stay round member)
    have all_read : ({} : Reader).readAll (.executing steps.length contexts ::
        (roundRecords label inside 0 (returned ++ [last]) ++ [])) =
          ({ depth := 1, index := returned.length } : Reader).readAll (inside last) := by
      rw [List.append_nil, roundRecords_concat, Reader.readAll_cons, begun, Reader.readAll_append,
        readAll_outermost returned_closed]
      rfl
    obtain ⟨deeper, same_index, _⟩ :=
      opened last (by simp) ({ depth := 1, index := returned.length } : Reader) Nat.one_pos
    rw [Verdict.read_of_open all_read deeper, same_index, verdict_eq]

end Run

/-! ### Scripts that let requests to leave pass -/

/-- A script ends with a request to leave and executes nothing before it. -/
inductive Script.Leaves [Cause ε] : Script π ω ρ ε → Prop
  | ended {fault : SessionFault π ρ ε} : fault.escapes = true → Leaves (.ended (.error fault))
  | work {store : State π ω → ω} {next : State π ω → Script π ω ρ ε} :
      (∀ state, Leaves (next state)) → Leaves (.work store next)
  | make {pipeline : Pipeline (Step π)} {next : Nat → Script π ω ρ ε} :
      (∀ address, Leaves (next address)) → Leaves (.make pipeline next)

/-- A script that lets requests to leave pass: if it executes a pipeline and gets such a request, it
leaves as well. -/
inductive Script.Passes [Cause ε] : Script π ω ρ ε → Prop
  | ended (outcome : Except (SessionFault π ρ ε) ρ) : Passes (.ended outcome)
  | work {store : State π ω → ω} {next : State π ω → Script π ω ρ ε} :
      (∀ state, Passes (next state)) → Passes (.work store next)
  | make {pipeline : Pipeline (Step π)} {next : Nat → Script π ω ρ ε} :
      (∀ address, Passes (next address)) → Passes (.make pipeline next)
  | call {address : Nat} {contexts : List String}
      {next : Except (SessionFault π ρ ε) (Report ρ) → Script π ω ρ ε} :
      (∀ outcome, Passes (next outcome)) →
      (∀ fault, fault.escapes = true → Leaves (next (.error fault))) →
      Passes (.call address contexts next)

section Passing

variable [Cause ε]

theorem Script.Leaves.made_eq {script : Script π ω ρ ε} (leaves : script.Leaves)
    (calls : Calls π ω ρ ε) (state : State π ω) :
    script.made calls state = [] ∧ ¬ Stays (script.run calls state).1 := by
  induction leaves generalizing state with
  | ended escapes =>
    refine ⟨rfl, fun stays => ?_⟩
    rw [stays _ rfl] at escapes
    exact Bool.noConfusion escapes
  | work _ ih => exact ih state { state with store := _ }
  | make _ ih => exact ih _ (state.allocate _)

/-- Inside an open run, a call that is not left is read past, and one that is left tells nothing. -/
def Settled (called : Except (SessionFault π ρ ε) (Report ρ)) (records : List Record) : Prop :=
  (Stays called → Closed records) ∧ LeavesOpen records

theorem Settled.nil (called : Except (SessionFault π ρ ε) (Report ρ)) : Settled called [] :=
  ⟨fun _ => .nil, Closed.nil.leavesOpen⟩

/-- What holds of the calls of a script holds of the script, if it lets requests to leave pass. -/
theorem Script.Passes.settled {calls : Calls π ω ρ ε} {records : Call π ω → List Record}
    (nested : ∀ call : Call π ω,
      Settled (calls call.address call.contexts call.state).1 (records call))
    {script : Script π ω ρ ε} (passes : script.Passes) (state : State π ω) :
    (Stays (script.run calls state).1 → Closed ((script.made calls state).flatMap records)) ∧
      LeavesOpen ((script.made calls state).flatMap records) := by
  induction passes generalizing state with
  | ended outcome => exact ⟨fun _ => .nil, Closed.nil.leavesOpen⟩
  | work _ ih => exact ih state { state with store := _ }
  | make _ ih => exact ih _ (state.allocate _)
  | @call address contexts next _ leaves ih =>
    obtain ⟨closed, opened⟩ := nested ⟨address, contexts, state⟩
    set called := calls address contexts state with called_def
    by_cases stays : Stays called.1
    · obtain ⟨rest_closed, rest_opened⟩ := ih called.1 called.2
      exact ⟨fun ended => (closed stays).append (rest_closed ended),
        .after_closed (closed stays) rest_opened⟩
    · -- the call is left, so the script executes nothing more
      simp only [Stays, not_forall, Bool.not_eq_false] at stays
      obtain ⟨fault, called_eq, escapes⟩ := stays
      obtain ⟨none_made, left⟩ := (leaves fault escapes).made_eq calls called.2
      rw [← called_eq] at none_made left
      have made_eq : (Script.call address contexts next).made calls state =
          [⟨address, contexts, state⟩] := by
        rw [Script.made, ← called_def, none_made]
      refine ⟨fun ended => absurd ended left, ?_⟩
      rw [made_eq, List.flatMap_singleton]
      exact opened

variable (conduct : Conduct π ω ρ ε)

end Passing

end StepPipeline.Session
