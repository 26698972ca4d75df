import StepPipeline.Proofs.Session.Life

/-!
What a run adds to the log. Steps log nothing themselves, so all records come of the runs they
make: a run adds one record when it begins, one for each step that starts, with the records of the
runs that the step makes behind it, and one when it ends, unless it is left at once. The rounds of a
run are the steps that start in it. Main result: `Conduct.records_eq`.
-/

set_option autoImplicit false
set_option relaxedAutoImplicit false

namespace StepPipeline

namespace Pipeline

variable {ι κ ρ ε σ : Type} [Cause ε] {engine : Engine ι κ ρ ε σ} {place : Place ι σ}
  {contexts : List κ} {state ended : σ}

theorem execute_of_returned {report : Report ρ}
    (admitted : ((place.get state).refusal? contexts.length : Option (Fault ι ρ ε)) = none)
    (looped : engine.runFrom contexts (fun rest => place.put ((place.get state).spent rest)) none
      (place.get state).steps []
      (engine.note (.executing (place.get state).steps.length contexts.length)
        (place.put ((place.get state).spent (place.get state).steps) state)) =
          (.ok report, ended)) :
    execute engine place contexts state =
      (.ok report, engine.note (.finished report.completed)
        (place.put ((place.get state).spent []) ended)) := by
  simp only [execute, admitted, Engine.run, looped]

theorem execute_of_raised {fault : Fault ι ρ ε}
    (admitted : ((place.get state).refusal? contexts.length : Option (Fault ι ρ ε)) = none)
    (looped : engine.runFrom contexts (fun rest => place.put ((place.get state).spent rest)) none
      (place.get state).steps []
      (engine.note (.executing (place.get state).steps.length contexts.length)
        (place.put ((place.get state).spent (place.get state).steps) state)) =
          (.error fault, ended)) :
    execute engine place contexts state =
      (.error fault, place.put ((place.get state).spent []) ended) := by
  simp only [execute, admitted, Engine.run, looped]

end Pipeline

namespace Session

open Session.Language (SessionFault SessionEngine)

variable {π ω ρ ε : Type}

/-! ### Logs that grow -/

def Logs (records : List Record) (before after : State π ω) : Prop :=
  after.log.toList = before.log.toList ++ records

def State.added (before after : State π ω) : List Record :=
  after.log.toList.drop before.log.size

namespace Logs

variable {records further : List Record} {before middle after : State π ω}

theorem same (kept : after.log = before.log) : Logs [] before after := by
  rw [Logs, kept, List.append_nil]

theorem note (record : Record) (state : State π ω) : Logs [record] state (state.note record) := by
  simp [Logs, State.note]

theorem trans (h : Logs records before middle) (h' : Logs further middle after) :
    Logs (records ++ further) before after := by
  rw [Logs] at h h' ⊢
  rw [h', h, List.append_assoc]

theorem added_eq (h : Logs records before after) : before.added after = records := by
  rw [State.added, h, ← Array.length_toList, List.drop_left]

end Logs

/-! ### Calls and rounds -/

structure Call (π ω : Type) where
  address : Nat
  contexts : List String
  state : State π ω

def Script.made (calls : Calls π ω ρ ε) : Script π ω ρ ε → State π ω → List (Call π ω)
  | .ended _, _ => []
  | .work store next, state => (next state).made calls { state with store := store state }
  | .make pipeline next, state =>
    (next state.pipelines.length).made calls (state.allocate pipeline)
  | .call address contexts next, state =>
    let called := calls address contexts state
    ⟨address, contexts, state⟩ :: (next called.1).made calls called.2

/-- A step that starts, in the session in which it is called. -/
structure Round (π ω : Type) where
  step : Step π
  state : State π ω

def loopRounds (engine : SessionEngine π ω ρ ε) (contexts : List String)
    (taken : List (Step π) → State π ω → State π ω) :
    (remaining : List (Step π)) → (index : Nat) → State π ω → List (Round π ω)
  | [], _, _ => []
  | step :: rest, index, state =>
    let started := engine.note (.running index (engine.label step)) (taken rest state)
    ⟨step, started⟩ ::
      match engine.perform contexts step started with
      | (.ok _, left) => loopRounds engine contexts taken rest (index + 1) left
      | (.error _, _) => []

/-- The records of rounds from an index on; of each round, what is inside it follows its own. -/
def roundRecords (label : Step π → String) (inside : Round π ω → List Record) (start : Nat)
    (rounds : List (Round π ω)) : List Record :=
  (rounds.zipIdx start).flatMap fun entry =>
    .running entry.2 (label entry.1.step) :: inside entry.1

theorem roundRecords_cons (label : Step π → String) (inside : Round π ω → List Record)
    (start : Nat) (round : Round π ω) (rest : List (Round π ω)) :
    roundRecords label inside start (round :: rest) =
      .running start (label round.step) :: (inside round ++
        roundRecords label inside (start + 1) rest) := by
  simp [roundRecords]

/-- How rounds end a run: all steps return, which closes it, or the last one raises a fault. -/
inductive Ends [Cause ε] (closing : List Record) (label : Step π → String)
    (outcome : Round π ω → Except (SessionFault π ρ ε) ρ) (done : List ρ)
    (remaining : List (Step π)) (rounds : List (Round π ω)) :
    Except (SessionFault π ρ ε) (Report ρ) → List Record → Prop
  | returned {results : List ρ} :
      rounds.map Round.step = remaining → rounds.map outcome = results.map .ok →
      Ends closing label outcome done remaining rounds (.ok ⟨done ++ results⟩) closing
  | failed {results : List ρ} {step : Step π} {fault : SessionFault π ρ ε} :
      rounds.map Round.step <+: remaining → remaining[results.length]? = some step →
      rounds.map outcome = results.map .ok ++ [.error fault] → fault.escapes = false →
      Ends closing label outcome done remaining rounds
        (.error (.because
          ⟨(done ++ results).length, step, label step, done ++ results⟩ fault))
        [.stepFailed (done ++ results).length (label step) (done ++ results).length fault.message]
  | left {results : List ρ} {fault : SessionFault π ρ ε} :
      rounds.map Round.step <+: remaining →
      rounds.map outcome = results.map .ok ++ [.error fault] → fault.escapes = true →
      Ends closing label outcome done remaining rounds (.error fault) []

theorem length_of_returned {outcome : Round π ω → Except (SessionFault π ρ ε) ρ}
    {steps : List (Step π)} {rounds : List (Round π ω)} {results : List ρ}
    (same_steps : rounds.map Round.step = steps) (outcomes : rounds.map outcome = results.map .ok) :
    results.length = steps.length := by
  have length_steps := congrArg List.length same_steps
  have length_outcomes := congrArg List.length outcomes
  simp only [List.length_map] at length_steps length_outcomes
  omega

section Loop

variable [Cause ε]

theorem Ends.cons {closing : List Record} {label : Step π → String}
    {outcome : Round π ω → Except (SessionFault π ρ ε) ρ} {done : List ρ} {rest : List (Step π)}
    {rounds : List (Round π ω)} {ended : Except (SessionFault π ρ ε) (Report ρ)}
    {ending : List Record} {round : Round π ω} {result : ρ} (returned : outcome round = .ok result)
    (ends : Ends closing label outcome (done ++ [result]) rest rounds ended ending) :
    Ends closing label outcome done (round.step :: rest) (round :: rounds) ended ending := by
  cases ends with
  | @returned results steps outcomes =>
    rw [List.append_assoc]
    refine .returned ?_ ?_
    · rw [List.map_cons, steps]
    · rw [List.map_cons, returned, outcomes]
      rfl
  | @failed results step fault steps at_index outcomes stays =>
    have all_outcomes : (round :: rounds).map outcome =
        (result :: results).map .ok ++ [.error fault] := by
      rw [List.map_cons, returned, outcomes]
      rfl
    simp only [List.append_assoc, List.singleton_append]
    refine .failed ?_ ?_ all_outcomes stays
    · rw [List.map_cons]
      exact List.cons_prefix_cons.mpr ⟨rfl, steps⟩
    · rw [List.length_cons, List.getElem?_cons_succ]
      exact at_index
  | @left results fault steps outcomes escapes =>
    have all_outcomes : (round :: rounds).map outcome =
        (result :: results).map .ok ++ [.error fault] := by
      rw [List.map_cons, returned, outcomes]
      rfl
    refine .left ?_ all_outcomes escapes
    rw [List.map_cons]
    exact List.cons_prefix_cons.mpr ⟨rfl, steps⟩

theorem loop_logs (engine : SessionEngine π ω ρ ε) (noted : engine.note = State.note)
    {contexts : List String} {inside : Round π ω → List Record}
    (steps : ∀ step state, Logs (inside ⟨step, state⟩) state (engine.perform contexts step state).2)
    (taken : List (Step π) → State π ω → State π ω)
    (takes : ∀ rest state, (taken rest state).log = state.log) (remaining : List (Step π))
    (done : List ρ) (state : State π ω) :
    let rounds := loopRounds engine contexts taken remaining done.length state
    let looped := engine.runFrom contexts taken none remaining done state
    ∃ ending,
      Logs (roundRecords engine.label inside done.length rounds ++ ending) state looped.2 ∧
        Ends [] engine.label (fun round => (engine.perform contexts round.step round.state).1) done
          remaining rounds looped.1 ending := by
  intro rounds looped
  -- on the remaining steps: the loop ends at a step that raises a fault, or goes on behind it
  induction remaining generalizing done state with
  | nil =>
    refine ⟨[], .same rfl, ?_⟩
    have ends : Ends [] engine.label
        (fun round => (engine.perform contexts round.step round.state).1) done ([] : List (Step π))
        ([] : List (Round π ω)) (.ok ⟨done ++ []⟩) [] := .returned rfl rfl
    rw [List.append_nil] at ends
    exact ends
  | cons step rest ih =>
    set started := engine.note (.running done.length (engine.label step)) (taken rest state)
      with started_def
    have starts : Logs [.running done.length (engine.label step)] state started := by
      have takes_step : Logs [] state (taken rest state) := .same (takes rest state)
      rw [started_def, noted]
      exact takes_step.trans (.note _ _)
    have performs := starts.trans (steps step started)
    rcases performed : engine.perform contexts step started with ⟨fault | result, left⟩
    · have rounds_eq : rounds = [⟨step, started⟩] := by
        simp only [rounds, loopRounds, ← started_def, performed]
      have begins : rounds.map Round.step <+: step :: rest := by simp [rounds_eq]
      have outcomes : rounds.map (fun round => (engine.perform contexts round.step round.state).1) =
          ([] : List ρ).map .ok ++ [.error fault] := by
        simp [rounds_eq, performed]
      have records_eq : roundRecords engine.label inside done.length rounds =
          .running done.length (engine.label step) :: inside ⟨step, started⟩ := by
        simp [rounds_eq, roundRecords]
      rw [performed] at performs
      by_cases escapes : fault.escapes = true
      · have looped_eq : looped = (.error fault, left) := by
          simp only [looped, Engine.runFrom, ← started_def, performed, escapes, if_true]
        refine ⟨[], ?_, ?_⟩
        · rw [records_eq, looped_eq, List.append_nil]
          exact performs
        · rw [looped_eq]
          exact .left begins outcomes escapes
      · have stays : fault.escapes = false := Bool.not_eq_true _ ▸ escapes
        have looped_eq : looped =
            (.error (.because ⟨done.length, step, engine.label step, done⟩ fault), engine.note
              (.stepFailed done.length (engine.label step) done.length fault.message) left) := by
          simp only [looped, Engine.runFrom, ← started_def, performed, stays, Bool.false_eq_true,
            if_false]
        have ends : Ends [] engine.label _ done (step :: rest) rounds _ _ :=
          .failed begins (by rfl) outcomes stays
        simp only [List.append_nil] at ends
        rw [looped_eq, records_eq]
        refine ⟨_, ?_, ends⟩
        rw [noted]
        exact performs.trans (.note _ _)
    · rw [performed] at performs
      obtain ⟨ending, logs, ends⟩ := ih (done ++ [result]) left
      have length_done : (done ++ [result]).length = done.length + 1 := by simp
      rw [length_done] at logs ends
      refine ⟨ending, ?_, ?_⟩
      · simp only [rounds, looped, loopRounds, Engine.runFrom, ← started_def, performed]
        rw [roundRecords_cons]
        have all := performs.trans logs
        simp only [List.append_assoc, List.cons_append, List.nil_append] at all ⊢
        exact all
      · simp only [rounds, looped, loopRounds, Engine.runFrom, ← started_def, performed]
        have returned : (engine.perform contexts (⟨step, started⟩ : Round π ω).step started).1 =
            .ok result := by
          rw [performed]
        exact ends.cons returned

end Loop

namespace Conduct

variable [Cause ε]

def records (conduct : Conduct π ω ρ ε) (depth : Nat) (call : Call π ω) : List Record :=
  call.state.added (conduct.calls depth call.address call.contexts call.state).2

def inside (conduct : Conduct π ω ρ ε) (depth : Nat) (contexts : List String)
    (round : Round π ω) : List Record :=
  ((conduct.script contexts round.step).made (conduct.calls depth) round.state).flatMap
    (conduct.records depth)

def outcome (conduct : Conduct π ω ρ ε) (depth : Nat) (contexts : List String)
    (round : Round π ω) : Except (SessionFault π ρ ε) ρ :=
  ((conduct.script contexts round.step).run (conduct.calls depth) round.state).1

def rounds (conduct : Conduct π ω ρ ε) (depth : Nat) (call : Call π ω) : List (Round π ω) :=
  let held := (State.place call.address).get call.state
  let left (rest : List (Step π)) := (State.place call.address).put (held.spent rest)
  let begun := State.note (.executing held.steps.length call.contexts.length)
    (left held.steps call.state)
  loopRounds (conduct.engineWith (conduct.calls depth)) call.contexts left held.steps 0 begun

end Conduct

theorem Script.logs {calls : Calls π ω ρ ε} {records : Call π ω → List Record}
    (nested : ∀ call : Call π ω,
      Logs (records call) call.state (calls call.address call.contexts call.state).2)
    (script : Script π ω ρ ε) (state : State π ω) :
    Logs ((script.made calls state).flatMap records) state (script.run calls state).2 := by
  induction script generalizing state with
  | ended outcome => exact .same rfl
  | work store next ih => exact ih state { state with store := store state }
  | make pipeline next ih => exact ih _ (state.allocate pipeline)
  | call address contexts next ih =>
    rw [made, List.flatMap_cons]
    exact (nested ⟨address, contexts, state⟩).trans (ih _ _)

section Calls

variable [Cause ε] (conduct : Conduct π ω ρ ε)

private theorem accepted_logs {depth : Nat}
    (nested : ∀ call : Call π ω, Logs (conduct.records depth call) call.state
      (conduct.calls depth call.address call.contexts call.state).2)
    (call : Call π ω)
    (admitted : (((State.place call.address).get call.state).refusal? call.contexts.length :
      Option (SessionFault π ρ ε)) = none) :
    let steps := ((State.place call.address).get call.state).steps
    let called := conduct.calls (depth + 1) call.address call.contexts call.state
    let rounds := conduct.rounds depth call
    ∃ ending,
      Logs (.executing steps.length call.contexts.length ::
          (roundRecords conduct.label (conduct.inside depth call.contexts) 0 rounds ++ ending))
        call.state called.2 ∧
      Ends [.finished steps.length] conduct.label (conduct.outcome depth call.contexts) [] steps
        rounds called.1 ending := by
  intro steps called rounds
  set held := (State.place call.address).get call.state with held_def
  let engine := conduct.engineWith (conduct.calls depth)
  let left (rest : List (Step π)) : State π ω → State π ω :=
    (State.place call.address).put (held.spent rest)
  set begun := State.note (.executing held.steps.length call.contexts.length)
    (left held.steps call.state) with begun_def
  have begins : Logs [.executing held.steps.length call.contexts.length] call.state begun :=
    (Logs.same rfl).trans (.note _ (left held.steps call.state))
  have steps_log (step : Step π) (state : State π ω) :
      Logs (conduct.inside depth call.contexts ⟨step, state⟩) state
        (engine.perform call.contexts step state).2 :=
    Script.logs nested (conduct.script call.contexts step) state
  obtain ⟨ending, logs, ends⟩ :=
    loop_logs engine rfl steps_log left (fun _ _ => rfl) held.steps [] begun
  have all : Logs ([.executing steps.length call.contexts.length] ++
      (roundRecords conduct.label (conduct.inside depth call.contexts) 0 rounds ++ ending))
      call.state (engine.runFrom call.contexts left none held.steps [] begun).2 := begins.trans logs
  rcases looped : engine.runFrom call.contexts left none held.steps [] begun with ⟨outcome, ended⟩
  rw [looped] at all ends
  -- a pipeline that is emptied at the end leaves the log as it is
  have emptied : Logs [] ended (left [] ended) := .same rfl
  cases ends with
  | @returned results same_steps outcomes =>
    have called_eq : called = _ := Pipeline.execute_of_returned admitted looped
    have length_eq : ([] ++ results).length = steps.length := length_of_returned same_steps outcomes
    have finishes : Logs [.finished steps.length] ended called.2 := by
      rw [called_eq, ← length_eq]
      exact emptied.trans (.note _ _)
    have outcome_eq : called.1 = .ok ⟨[] ++ results⟩ := by rw [called_eq]
    refine ⟨[.finished steps.length], ?_, ?_⟩
    · simpa only [List.append_nil, List.nil_append, List.append_assoc, List.singleton_append,
        List.cons_append] using all.trans finishes
    · rw [outcome_eq]
      exact .returned same_steps outcomes
  | failed begins at_index outcomes stays =>
    have called_eq : called = _ := Pipeline.execute_of_raised admitted looped
    have all_closed := all.trans emptied
    rw [List.append_nil] at all_closed
    rw [called_eq]
    exact ⟨_, all_closed, .failed begins at_index outcomes stays⟩
  | left begins outcomes escapes =>
    have called_eq : called = _ := Pipeline.execute_of_raised admitted looped
    have all_closed := all.trans emptied
    rw [List.append_nil] at all_closed
    rw [called_eq]
    exact ⟨_, all_closed, .left begins outcomes escapes⟩

theorem Conduct.logs_of_logs {depth : Nat} {call : Call π ω} {records : List Record}
    (logs : Logs records call.state
      (conduct.calls depth call.address call.contexts call.state).2) :
    Logs (conduct.records depth call) call.state
      (conduct.calls depth call.address call.contexts call.state).2 := by
  rw [Conduct.records, logs.added_eq]
  exact logs

theorem Conduct.refused_logs (depth : Nat) {call : Call π ω} {fault : SessionFault π ρ ε}
    (refused : ((State.place call.address).get call.state).refusal? call.contexts.length =
      some fault) :
    conduct.calls (depth + 1) call.address call.contexts call.state = (.error fault, call.state) ∧
      conduct.records (depth + 1) call = [] := by
  have called_eq : conduct.calls (depth + 1) call.address call.contexts call.state =
      (.error fault, call.state) := by
    simp only [Conduct.calls, Pipeline.execute, refused]
  refine ⟨called_eq, ?_⟩
  rw [Conduct.records, called_eq]
  exact (Logs.same rfl).added_eq

theorem Conduct.calls_log (depth : Nat) (call : Call π ω) :
    Logs (conduct.records depth call) call.state
      (conduct.calls depth call.address call.contexts call.state).2 := by
  induction depth generalizing call with
  | zero => exact conduct.logs_of_logs (.same rfl)
  | succ depth ih =>
    cases refused : (((State.place call.address).get call.state).refusal? call.contexts.length :
        Option (SessionFault π ρ ε)) with
    | some fault =>
      obtain ⟨called_eq, none_added⟩ := conduct.refused_logs depth refused
      rw [none_added, called_eq]
      exact .same rfl
    | none =>
      obtain ⟨ending, logs, _⟩ := accepted_logs conduct ih call refused
      exact conduct.logs_of_logs logs

/-- The records of an accepted call: one when it begins, then those of its rounds, then that of its
end, if it has any. -/
theorem Conduct.records_eq (depth : Nat) (call : Call π ω)
    (admitted : (((State.place call.address).get call.state).refusal? call.contexts.length :
      Option (SessionFault π ρ ε)) = none) :
    let steps := ((State.place call.address).get call.state).steps
    let called := conduct.calls (depth + 1) call.address call.contexts call.state
    let rounds := conduct.rounds depth call
    ∃ ending,
      conduct.records (depth + 1) call =
        .executing steps.length call.contexts.length ::
          (roundRecords conduct.label (conduct.inside depth call.contexts) 0 rounds ++ ending) ∧
      Ends [.finished steps.length] conduct.label (conduct.outcome depth call.contexts) [] steps
        rounds called.1 ending := by
  intro steps called rounds
  obtain ⟨ending, logs, ends⟩ := accepted_logs conduct (conduct.calls_log depth) call admitted
  exact ⟨ending, logs.added_eq, ends⟩

end Calls

end Session

end StepPipeline
