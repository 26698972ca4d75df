import StepPipeline.Proofs.Session.Once
import StepPipeline.Session.Work

/-!
Failures of nested pipelines. In a tower of pipelines a step of each one executes the next and lets
what comes of it pass; the last one has a step that raises a fault. An error is then reported once
by each level, the outermost last; a request to leave every run is reported by none. Nothing starts
at any level after that, and every pipeline of the tower is spent. Main result:
`Conduct.nested_failure`.
-/

set_option autoImplicit false
set_option relaxedAutoImplicit false

namespace StepPipeline

variable {ι κ ρ ε σ : Type}

/-! ### Loops that have come to a step -/

/-- A loop comes from some remaining items to others; the items that it has performed have
returned. -/
inductive Engine.Proceeds (engine : Engine ι κ ρ ε σ) (contexts : List κ)
    (taken : List ι → σ → σ) (left : List ι) (results : List ρ) (last : σ) :
    (remaining : List ι) → (done : List ρ) → σ → Prop
  | here : Proceeds engine contexts taken left results last left results last
  | next {item : ι} {rest : List ι} {done : List ρ} {state after : σ} {result : ρ} :
      engine.perform contexts item
        (engine.note (.running done.length (engine.label item)) (taken rest state)) =
          (.ok result, after) →
      Proceeds engine contexts taken left results last rest (done ++ [result]) after →
      Proceeds engine contexts taken left results last (item :: rest) done state

namespace Engine.Proceeds

variable {engine : Engine ι κ ρ ε σ} {contexts : List κ} {taken : List ι → σ → σ}
  {left remaining : List ι} {results done : List ρ} {last state : σ}

theorem drop_eq (h : Proceeds engine contexts taken left results last remaining done state) :
    done.length ≤ results.length ∧ remaining.drop (results.length - done.length) = left := by
  induction h with
  | here => simp
  | @next item rest done state after result _ _ ih =>
    obtain ⟨le, dropped⟩ := ih
    rw [List.length_append, List.length_singleton] at le dropped
    have further : results.length - done.length = results.length - (done.length + 1) + 1 := by omega
    refine ⟨by omega, ?_⟩
    rw [further, List.drop_succ_cons, dropped]

theorem runFrom_eq [Cause ε]
    (h : Proceeds engine contexts taken left results last remaining done state)
    (ending : Option (Fault ι ρ ε)) :
    engine.runFrom contexts taken ending remaining done state =
      engine.runFrom contexts taken ending left results last := by
  induction h with
  | here => rfl
  | next performed _ ih =>
    rw [← ih]
    simp only [runFrom, performed]

theorem outcome_of_fault [Cause ε] {item : ι} {rest : List ι} {fault : Fault ι ρ ε} {raised : σ}
    (h : Proceeds engine contexts taken (item :: rest) results last remaining done state)
    (performed : engine.perform contexts item
      (engine.note (.running results.length (engine.label item)) (taken rest last)) =
        (.error fault, raised)) :
    (engine.runFrom contexts taken none remaining done state).1 =
      .error (if fault.escapes then fault
        else .because ⟨results.length, item, engine.label item, results⟩ fault) := by
  rw [h.runFrom_eq]
  simp only [runFrom, performed]
  split <;> rfl

end Engine.Proceeds

namespace Session

open Session.Language (SessionFault SessionEngine)

variable {π ω : Type}

section Loop

variable {engine : SessionEngine π ω ρ ε} {contexts : List String}
  {taken : List (Step π) → State π ω → State π ω} {left remaining : List (Step π)}
  {results done : List ρ} {last state : State π ω}

theorem loopMoments_suffix [Cause ε]
    (within : List String → Step π → State π ω → List (Moment π ω)) (address : Nat)
    (h : engine.Proceeds contexts taken left results last remaining done state) :
    loopMoments engine within address contexts taken left results last <:+
      loopMoments engine within address contexts taken remaining done state := by
  induction h with
  | here => exact List.suffix_rfl
  | next performed _ ih =>
    simp only [loopMoments, performed]
    exact ((ih.trans (List.suffix_cons ..)).trans (List.suffix_append ..)).trans
      (List.suffix_cons ..)

variable [Cause ε] {step : Step π} {rest : List (Step π)} {fault : SessionFault π ρ ε}
  {raised : State π ω}
  (h : engine.Proceeds contexts taken (step :: rest) results last remaining done state)
  (performed : engine.perform contexts step
    (engine.note (.running results.length (engine.label step)) (taken rest last)) =
      (.error fault, raised))

include h performed

theorem pipelines_of_fault
    (noted : ∀ record state, (engine.note record state).pipelines = state.pipelines) :
    (engine.runFrom contexts taken none remaining done state).2.pipelines = raised.pipelines := by
  rw [h.runFrom_eq]
  exact pipelines_runFrom_error noted performed

theorem loopMoments_of_fault (within : List String → Step π → State π ω → List (Moment π ω))
    (address : Nat) :
    let inside := engine.note (.running results.length (engine.label step)) (taken rest last)
    ∃ past, loopMoments engine within address contexts taken remaining done state =
      past ++ ⟨.started address results.length step, inside⟩ ::
        (within contexts step inside ++ [⟨.stopped address results.length, raised⟩]) := by
  intro inside
  obtain ⟨past, same⟩ := loopMoments_suffix within address h
  refine ⟨past, same.symm.trans ?_⟩
  simp only [loopMoments, performed, inside]

end Loop

theorem execute_of_fault [Cause ε] {engine : SessionEngine π ω ρ ε}
    (within : List String → Step π → State π ω → List (Moment π ω))
    (noted : ∀ record state, (engine.note record state).pipelines = state.pipelines)
    {address : Nat} {original : Pipeline (Step π)} {contexts : List String}
    {state last raised : State π ω} {step : Step π} {rest : List (Step π)} {results : List ρ}
    {fault : SessionFault π ρ ε}
    (held : state.pipelines[address]? = some original)
    (admitted : (original.refusal? contexts.length : Option (SessionFault π ρ ε)) = none)
    (proceeds : engine.Proceeds contexts
      (fun rest => (State.place address).put (original.spent rest)) (step :: rest) results last
      original.steps []
      (engine.note (.executing original.steps.length contexts.length)
        ((State.place address).put (original.spent original.steps) state)))
    (performed : engine.perform contexts step
      (engine.note (.running results.length (engine.label step))
        ((State.place address).put (original.spent rest) last)) = (.error fault, raised)) :
    let inside := engine.note (.running results.length (engine.label step))
      ((State.place address).put (original.spent rest) last)
    let ended := Pipeline.execute engine (State.place address) contexts state
    ended.1 = .error (if fault.escapes then fault
        else .because ⟨results.length, step, engine.label step, results⟩ fault) ∧
      ended.2.pipelines = ((State.place address).put (original.spent []) raised).pipelines ∧
      ∃ past, executionMoments engine within address contexts state =
        past ++ ⟨.started address results.length step, inside⟩ ::
          (within contexts step inside ++
            [⟨.stopped address results.length, raised⟩, ⟨.closed address, ended.2⟩]) := by
  intro inside ended
  obtain ⟨same_outcome, same_pipelines, same_moments⟩ :=
    execute_of_admitted within noted (get_place held) admitted
  obtain ⟨past, loop_moments⟩ := loopMoments_of_fault proceeds performed within address
  refine ⟨same_outcome.trans (proceeds.outcome_of_fault performed), same_pipelines.trans ?_, ?_⟩
  · exact congrArg (List.set · address (original.spent []))
      (pipelines_of_fault proceeds performed noted)
  · refine ⟨⟨.accepted address, engine.note (.executing original.steps.length contexts.length)
      ((State.place address).put (original.spent original.steps) state)⟩ :: past, ?_⟩
    rw [same_moments, loop_moments]
    simp only [List.append_assoc, List.cons_append, List.nil_append, inside, ended]

/-! ### Scripts that execute a pipeline and let its faults pass -/

/-- A script comes to execute the pipeline at an address in a state, and it ends with the fault of
that execution if there is one. -/
inductive Script.Hands (calls : Calls π ω ρ ε) (address : Nat) (given : List String)
    (there : State π ω) : Script π ω ρ ε → State π ω → Prop
  | call {next : Except (SessionFault π ρ ε) (Report ρ) → Script π ω ρ ε} :
      (∀ fault, next (.error fault) = .ended (.error fault)) →
      Hands calls address given there (.call address given next) there
  | work {store : State π ω → ω} {next : State π ω → Script π ω ρ ε} {state : State π ω} :
      Hands calls address given there (next state) { state with store := store state } →
      Hands calls address given there (.work store next) state
  | make {pipeline : Pipeline (Step π)} {next : Nat → Script π ω ρ ε} {state : State π ω} :
      Hands calls address given there (next state.pipelines.length) (state.allocate pipeline) →
      Hands calls address given there (.make pipeline next) state
  | after {other : Nat} {contexts : List String}
      {next : Except (SessionFault π ρ ε) (Report ρ) → Script π ω ρ ε} {state : State π ω} :
      Hands calls address given there (next (calls other contexts state).1)
        (calls other contexts state).2 →
      Hands calls address given there (.call other contexts next) state

namespace Script.Hands

variable {calls : Calls π ω ρ ε} {address : Nat} {given : List String} {there state : State π ω}
  {script : Script π ω ρ ε}

theorem run_eq (h : Hands calls address given there script state) {fault : SessionFault π ρ ε}
    {after : State π ω} (failed : calls address given there = (.error fault, after)) :
    script.run calls state = (.error fault, after) := by
  induction h with
  | call passes => simp only [Script.run, failed, passes]
  | work _ ih => exact ih
  | make _ ih => exact ih
  | after _ ih => exact ih

theorem moments_suffix (h : Hands calls address given there script state)
    (within : CallMoments π ω) {fault : SessionFault π ρ ε} {after : State π ω}
    (failed : calls address given there = (.error fault, after)) :
    within address given there <:+ script.moments calls within state := by
  induction h with
  | call passes => simp only [Script.moments, failed, passes, List.append_nil, List.suffix_rfl]
  | work _ ih => exact ih.trans (List.suffix_cons ..)
  | make _ ih => exact ih.trans (List.suffix_cons ..)
  | after _ ih => exact ih.trans (List.suffix_append ..)

end Script.Hands

/-! ### Towers -/

/-- A pipeline that fails at a step: the step, and the results of those before it. -/
structure Level (π ρ : Type) where
  address : Nat
  original : Pipeline (Step π)
  step : Step π
  results : List ρ

def Level.failure (level : Level π ρ) (label : Step π → String) : Failure (Step π) ρ :=
  ⟨level.results.length, level.step, label level.step, level.results⟩

variable [Cause ε]

/-- The execution of a pipeline comes to the step of a level: it is accepted, and the steps before
that one return. The last two states are the one before the step is taken, and the one that it is
performed in. -/
structure Level.Reached (conduct : Conduct π ω ρ ε) (depth : Nat) (contexts : List String)
    (level : Level π ρ) (state last inside : State π ω) (rest : List (Step π)) : Prop where
  held : state.pipelines[level.address]? = some level.original
  admitted : (level.original.refusal? contexts.length : Option (SessionFault π ρ ε)) = none
  proceeds : (conduct.engineWith (conduct.calls depth)).Proceeds contexts
    (fun rest => (State.place level.address).put (level.original.spent rest))
    (level.step :: rest) level.results last level.original.steps []
    (((State.place level.address).put (level.original.spent level.original.steps) state).note
      (.executing level.original.steps.length contexts.length))
  inside : inside = ((State.place level.address).put (level.original.spent rest) last).note
    (.running level.results.length (conduct.label level.step))

/--
A tower of pipelines whose innermost step raises a fault: the execution of each pipeline comes to a
step that executes the next one and lets its faults pass.
-/
inductive Tower (conduct : Conduct π ω ρ ε) (fault : SessionFault π ρ ε) :
    (depth address : Nat) → List String → State π ω → List (Level π ρ) → Prop
  | innermost {depth : Nat} {contexts : List String} {level : Level π ρ}
      {state last inside raised : State π ω} {rest : List (Step π)} :
      level.Reached conduct depth contexts state last inside rest →
      (conduct.script contexts level.step).run (conduct.calls depth) inside =
        (.error fault, raised) →
      Tower conduct fault (depth + 1) level.address contexts state [level]
  | outer {depth address : Nat} {contexts given : List String} {level : Level π ρ}
      {levels : List (Level π ρ)} {state last inside there : State π ω} {rest : List (Step π)} :
      level.Reached conduct depth contexts state last inside rest →
      (conduct.script contexts level.step).Hands (conduct.calls depth) address given there inside →
      Tower conduct fault depth address given there levels →
      Tower conduct fault (depth + 1) level.address contexts state (level :: levels)

theorem held_of_proceeds (conduct : Conduct π ω ρ ε) {depth address : Nat} {contexts : List String}
    {original : Pipeline (Step π)} {left remaining : List (Step π)} {results done : List ρ}
    {last state : State π ω}
    (h : (conduct.engineWith (conduct.calls depth)).Proceeds contexts
      (fun rest => (State.place address).put (original.spent rest)) left results last remaining done
      state)
    (held : state.pipelines[address]? = some (original.spent remaining)) :
    last.pipelines[address]? = some (original.spent left) := by
  induction h with
  | here => exact held
  | @next step rest done state after result performed _ ih =>
    apply ih
    let inside := ((State.place address).put (original.spent rest) state).note
      (.running done.length (conduct.label step))
    have taken : inside.pipelines[address]? = some (original.spent rest) :=
      put_place_same (original.spent rest) held
    have same : (conduct.script contexts step).run (conduct.calls depth) inside =
        (.ok result, after) := performed
    have kept := (conduct.step_alone depth taken contexts step).1
    rwa [same] at kept

/--
A level has failed for good: none of its steps has started after the one that raised a fault, and
its pipeline is spent.
-/
structure Level.Broken (level : Level π ρ) (life : List (Moment π ω)) (after : State π ω) :
    Prop where
  step_at : level.original.steps[level.results.length]? = some level.step
  starts_eq : starts level.address life =
    level.original.steps.zipIdx.take (level.results.length + 1)
  spent : after.pipelines[level.address]? = some (level.original.spent [])

namespace Level.Broken

variable {level : Level π ρ} {life : List (Moment π ω)} {after : State π ω}

theorem starts_indices (broken : level.Broken life after) :
    (starts level.address life).map Prod.snd = List.range (level.results.length + 1) := by
  rw [broken.starts_eq]
  exact map_snd_take_zipIdx (List.getElem?_eq_some_iff.mp broken.step_at).1

theorem enclosed (broken : level.Broken life after) {past future : List (Moment π ω)}
    {before finally_there : State π ω}
    (once : Once level.address (past ++ (life ++ future)) before finally_there)
    (none_starts : starts level.address future = [])
    (same : finally_there.pipelines[level.address]? = after.pipelines[level.address]?) :
    level.Broken (past ++ (life ++ future)) finally_there := by
  have now_starts : starts level.address (life ++ future) = starts level.address life := by
    rw [starts_append, none_starts, List.append_nil]
  obtain ⟨count, in_order⟩ := once.starts_eq_range
  have past_starts : starts level.address past = [] :=
    starts_past_eq_nil in_order (now_starts ▸ broken.starts_indices)
  refine ⟨broken.step_at, ?_, same.trans broken.spent⟩
  rw [starts_append, past_starts, now_starts, List.nil_append, broken.starts_eq]

end Level.Broken

namespace Level.Reached

variable {conduct : Conduct π ω ρ ε} {depth : Nat} {contexts : List String} {level : Level π ρ}
  {state last inside raised : State π ω} {rest : List (Step π)} {fault : SessionFault π ρ ε}

theorem step_at (reached : level.Reached conduct depth contexts state last inside rest) :
    level.original.steps[level.results.length]? = some level.step := by
  obtain ⟨_, dropped⟩ := reached.proceeds.drop_eq
  rw [← List.head?_drop]
  exact congrArg List.head? dropped

theorem held_inside (reached : level.Reached conduct depth contexts state last inside rest) :
    inside.pipelines[level.address]? = some (level.original.spent rest) := by
  have opened := put_place_same (level.original.spent level.original.steps) reached.held
  rw [reached.inside]
  exact put_place_same _ (held_of_proceeds conduct reached.proceeds opened)

theorem alone (reached : level.Reached conduct depth contexts state last inside rest) :
    ((conduct.script contexts level.step).run (conduct.calls depth) inside).2.pipelines[
        level.address]? = some (level.original.spent rest) ∧
      starts level.address ((conduct.script contexts level.step).moments (conduct.calls depth)
        (conduct.moments depth) inside) = [] :=
  conduct.step_alone depth reached.held_inside contexts level.step

theorem fails (reached : level.Reached conduct depth contexts state last inside rest)
    (raises : (conduct.script contexts level.step).run (conduct.calls depth) inside =
      (.error fault, raised)) :
    let ended := conduct.calls (depth + 1) level.address contexts state
    ended.1 = .error (if fault.escapes then fault
        else .because (level.failure conduct.label) fault) ∧
      ended.2.pipelines =
        ((State.place level.address).put (level.original.spent []) raised).pipelines ∧
      ∃ past, conduct.moments (depth + 1) level.address contexts state =
        past ++ (⟨.started level.address level.results.length level.step, inside⟩ ::
          ((conduct.script contexts level.step).moments (conduct.calls depth)
            (conduct.moments depth) inside ++
              [⟨.stopped level.address level.results.length, raised⟩,
                ⟨.closed level.address, ended.2⟩])) := by
  obtain ⟨held, admitted, proceeds, rfl⟩ := reached
  exact execute_of_fault (conduct.within depth) (conduct.noted _) held admitted proceeds raises

theorem starts_eq (reached : level.Reached conduct depth contexts state last inside rest)
    (raises : (conduct.script contexts level.step).run (conduct.calls depth) inside =
      (.error fault, raised)) :
    starts level.address (conduct.moments (depth + 1) level.address contexts state) =
      level.original.steps.zipIdx.take (level.results.length + 1) := by
  obtain ⟨count, lives, _, _⟩ :=
    conduct.own_call_lives depth contexts state reached.held reached.admitted
  obtain ⟨_, _, past, moments_eq⟩ := reached.fails raises
  -- the step that raises the fault is the last one to start
  have indices := lives.starts_indices
  rw [moments_eq, starts_append, starts_started, starts_append, reached.alone.2, List.map_append]
    at indices
  have last_index := congrArg List.getLast? indices
  have counted : count = level.results.length + 1 := by
    simp [starts, Phase.started, List.getLast?_range, Event.start?] at last_index
    omega
  rw [lives.starts_eq.2, Phase.started, counted]
  rfl

theorem broken (reached : level.Reached conduct depth contexts state last inside rest)
    (raises : (conduct.script contexts level.step).run (conduct.calls depth) inside =
      (.error fault, raised)) :
    level.Broken (conduct.moments (depth + 1) level.address contexts state)
      (conduct.calls (depth + 1) level.address contexts state).2 where
  step_at := reached.step_at
  starts_eq := reached.starts_eq raises
  spent := by
    have kept := reached.alone.1
    rw [raises] at kept
    rw [(reached.fails raises).2.1]
    exact put_place_same _ kept

/-- What has failed within the step of a level, at the end of that step, is so at the end of the
level too. -/
theorem keeps_broken (reached : level.Reached conduct depth contexts state last inside rest)
    (raises : (conduct.script contexts level.step).run (conduct.calls depth) inside =
      (.error fault, raised))
    {life : List (Moment π ω)}
    (within : life <:+ (conduct.script contexts level.step).moments (conduct.calls depth)
      (conduct.moments depth) inside)
    {inner : Level π ρ} (inner_broken : inner.Broken life raised) :
    inner.Broken (conduct.moments (depth + 1) level.address contexts state)
      (conduct.calls (depth + 1) level.address contexts state).2 := by
  obtain ⟨prior, script_moments⟩ := within
  have distinct : level.address ≠ inner.address := by
    intro same
    have alone := reached.alone.2
    rw [← script_moments, starts_append] at alone
    have indices := inner_broken.starts_indices
    rw [← same, (List.append_eq_nil_iff.mp alone).2] at indices
    simp at indices
  obtain ⟨_, same_pipelines, past, moments_eq⟩ := reached.fails raises
  have once := conduct.calls_once inner.address (depth + 1) level.address contexts state
  rw [moments_eq, ← script_moments, List.append_assoc, ← List.cons_append, ← List.append_assoc]
    at once ⊢
  refine inner_broken.enclosed once rfl ?_
  rw [same_pipelines, put_place_other distinct]

end Level.Reached

/-! ### The main result -/

/-- The faults that a tower reports, the outermost level first, for a fault of its innermost
step. -/
def reported (label : Step π → String) (levels : List (Level π ρ)) (fault : SessionFault π ρ ε) :
    SessionFault π ρ ε :=
  levels.foldr (fun level cause => .because (level.failure label) cause) fault

theorem Tower.ne_nil {conduct : Conduct π ω ρ ε} {fault : SessionFault π ρ ε} {depth address : Nat}
    {contexts : List String} {state : State π ω} {levels : List (Level π ρ)}
    (tower : Tower conduct fault depth address contexts state levels) : levels ≠ [] := by
  cases tower <;> exact List.cons_ne_nil _ _

theorem reported_escapes (label : Step π → String) {levels : List (Level π ρ)}
    (some_level : levels ≠ []) (fault : SessionFault π ρ ε) :
    (reported label levels fault).escapes = false := by
  cases levels with
  | nil => exact absurd rfl some_level
  | cons level levels => rfl

/--
A failure at the innermost step of a tower of pipelines goes through every level. If it is a request
to leave, it comes out as it is; otherwise each level reports its own step, with the results of the
steps that it had finished, because of what the next level reports, and the innermost one because of
the failure. No later step of any level starts, and all pipelines of the tower are spent.
-/
theorem Conduct.nested_failure (conduct : Conduct π ω ρ ε) {fault : SessionFault π ρ ε}
    {depth address : Nat} {contexts : List String} {state : State π ω} {levels : List (Level π ρ)}
    (tower : Tower conduct fault depth address contexts state levels) :
    let ended := conduct.calls depth address contexts state
    ended.1 = .error (if fault.escapes then fault else reported conduct.label levels fault) ∧
      ∀ level ∈ levels, level.Broken (conduct.moments depth address contexts state) ended.2 := by
  induction tower with
  | innermost reached raises =>
    refine ⟨(reached.fails raises).1, ?_⟩
    intro level member
    obtain rfl := List.mem_singleton.mp member
    exact reached.broken raises
  | @outer depth address contexts given level levels state last inside there rest reached hands
      inner ih =>
    obtain ⟨same_outcome, all_broken⟩ := ih
    have failed : conduct.calls depth address given there =
        (.error (if fault.escapes then fault else reported conduct.label levels fault),
          (conduct.calls depth address given there).2) := Prod.ext same_outcome rfl
    have raises := hands.run_eq failed
    refine ⟨?_, ?_⟩
    · rw [(reached.fails raises).1]
      cases leaves : fault.escapes with
      | true => simp only [if_true, leaves]
      | false =>
        have reports := reported_escapes conduct.label inner.ne_nil fault
        simp only [Bool.false_eq_true, if_false, reports]
        rfl
    · intro other member
      rcases List.mem_cons.mp member with rfl | below
      · exact reached.broken raises
      · exact reached.keeps_broken raises (hands.moments_suffix _ failed) (all_broken other below)

/-- A step that raises an error of a kind, and another one that would follow it. -/
private def raising (kind : ErrorKind) : Pipeline (Step Operation) :=
  ⟨[.own (.fail .single kind []), .own .pop], some .single, false⟩

private def middle (kind : ErrorKind) : Pipeline (Step Operation) :=
  ⟨[.own .pop, .nest (raising kind).steps, .own .pop], some .single, false⟩

private def outermost : Pipeline (Step Operation) :=
  ⟨[.own (.push (.int 1)), .reenter "q", .own (.push (.int 2))], some .single, false⟩

private def threeLevels (kind : ErrorKind) : State Operation Store where
  pipelines := [outermost, middle kind]
  names := [("p", 0), ("q", 1)]
  store := { contexts := [("a", .held (.list 0))], lists := [[]] }

private def outermostLevel : Level Operation Value :=
  ⟨0, outermost, .reenter "q", [.int 1]⟩

private def middleLevel (kind : ErrorKind) : Level Operation Value :=
  ⟨1, middle kind, .nest (raising kind).steps, [.int 1]⟩

private def raisingLevel (kind : ErrorKind) : Level Operation Value :=
  ⟨2, raising kind, .own (.fail .single kind []), []⟩

private theorem threeLevels_tower (kind : ErrorKind) :
    Tower operations.conduct (.raised (.thrown (.told kind []))) 11 0 ["a"] (threeLevels kind)
      [outermostLevel, middleLevel kind, raisingLevel kind] := by
  refine .outer (⟨rfl, rfl, .next rfl .here, rfl⟩ : outermostLevel.Reached _ _ _ _ _ _ _)
    (.work (.call fun _ => rfl)) ?_
  refine .outer (⟨rfl, rfl, .next rfl .here, rfl⟩ : (middleLevel kind).Reached _ _ _ _ _ _ _)
    (.make (.call fun _ => rfl)) ?_
  exact .innermost (⟨rfl, rfl, .here, rfl⟩ : (raisingLevel kind).Reached _ _ _ _ _ _ _) rfl

theorem Conduct.nested_failure_threeLevels :
    let fault (kind : ErrorKind) : SessionFault Operation Value Thrown :=
      .raised (.thrown (.told kind []))
    let ended (kind : ErrorKind) := operations.execute 0 ["a"] (threeLevels kind)
    (∀ kind, Tower operations.conduct (fault kind) 11 0 ["a"] (threeLevels kind)
      [outermostLevel, middleLevel kind, raisingLevel kind]) ∧
    (ended .runtime).1 =
      .error (.because ⟨1, .reenter "q", "Reenter", [.int 1]⟩
        (.because ⟨1, .nest (raising .runtime).steps, "Nest", [.int 1]⟩
          (.because ⟨0, .own (.fail .single .runtime []), "Fail", []⟩ (fault .runtime)))) ∧
    (ended .exit).1 = .error (fault .exit) ∧
    ∀ kind, (ended kind).2.pipelines[0]? = some ⟨[], some .single, true⟩ ∧
      (ended kind).2.pipelines[1]? = some ⟨[], some .single, true⟩ ∧
      (ended kind).2.pipelines[2]? = some ⟨[], some .single, true⟩ := by
  intro fault ended
  have executed (kind : ErrorKind) :
      ended kind = operations.conduct.calls 11 0 ["a"] (threeLevels kind) :=
    operations.execute_eq_calls 0 ["a"] (threeLevels kind)
  simp only [executed]
  refine ⟨threeLevels_tower, ?_, ?_, fun kind => ?_⟩
  · exact (Conduct.nested_failure operations.conduct (threeLevels_tower .runtime)).1
  · exact (Conduct.nested_failure operations.conduct (threeLevels_tower .exit)).1
  · obtain ⟨_, broken⟩ := Conduct.nested_failure operations.conduct (threeLevels_tower kind)
    exact ⟨(broken outermostLevel (by simp)).spent, (broken (middleLevel kind) (by simp)).spent,
      (broken (raisingLevel kind) (by simp)).spent⟩

end Session

end StepPipeline
