import StepPipeline.Pipeline.Supply
import StepPipeline.Session.Work

/-!
Runs over supplies. An item is asked for only when the one before it has returned, so faults of the
supply and of the items come in one order: the item that fails first ends the run and nothing more
is asked for; a fault of the supply ends it as it is, after all items given have returned. What is
done in a run is seen by recording its moves. Main result: `Engine.runSupply_interleaves`.
-/

set_option autoImplicit false
set_option relaxedAutoImplicit false

namespace StepPipeline

variable {ι κ ρ ε σ φ : Type}

/-! ### Moves of a run -/

inductive Move (ι : Type) where
  | took (item : ι)
  | noted (record : Record)
  | called (item : ι)
  | returned (item : ι)
  deriving DecidableEq, Repr

/-- The same supply in surroundings that also hold the moves made so far. -/
def Supply.recorded : Supply ι φ σ → Supply ι φ (List (Move ι) × σ)
  | .ended => .ended
  | .raised fault => .raised fault
  | .gives item rest =>
    .acts (fun seen => (seen.1 ++ [.took item], seen.2)) fun _ => .gives item rest.recorded
  | .acts change next =>
    .acts (fun seen => (seen.1, change seen.2)) fun seen => (next seen.2).recorded

namespace Engine

def recorded (engine : Engine ι κ ρ ε σ) : Engine ι κ ρ ε (List (Move ι) × σ) where
  label := engine.label
  perform contexts item seen :=
    let (outcome, state) := engine.perform contexts item seen.2
    match outcome with
    | .ok result => (.ok result, seen.1 ++ [.called item, .returned item], state)
    | .error fault => (.error fault, seen.1 ++ [.called item], state)
  note record seen := (seen.1 ++ [.noted record], engine.note record seen.2)

/-- The moves up to the call of an item. -/
def openingMoves (engine : Engine ι κ ρ ε σ) (index : Nat) (item : ι) : List (Move ι) :=
  [.took item, .noted (.running index (engine.label item)), .called item]

def roundMoves (engine : Engine ι κ ρ ε σ) (rounds : List (ι × ρ)) : List (Move ι) :=
  rounds.zipIdx.flatMap fun round => engine.openingMoves round.2 round.1.1 ++ [.returned round.1.1]

theorem roundMoves_concat (engine : Engine ι κ ρ ε σ) (rounds : List (ι × ρ)) (item : ι)
    (result : ρ) :
    engine.roundMoves (rounds ++ [(item, result)]) =
      engine.roundMoves rounds ++ (engine.openingMoves rounds.length item ++ [.returned item]) := by
  simp [roundMoves, List.zipIdx_append]

/-- Items that a supply gives return one by one: each is asked for in what the one before it has
left. -/
inductive Rounds (engine : Engine ι κ ρ ε σ) (contexts : List κ)
    (supply : Supply ι (Fault ι ρ ε) σ) (state : σ) :
    List (ι × ρ) → Supply ι (Fault ι ρ ε) σ → σ → Prop
  | start : Rounds engine contexts supply state [] supply state
  | next {rounds : List (ι × ρ)} {rest after : Supply ι (Fault ι ρ ε) σ} {between asked left : σ}
      {item : ι} {result : ρ} :
      Rounds engine contexts supply state rounds rest between →
      rest.ask between = (.item item, after, asked) →
      engine.perform contexts item
        (engine.note (.running rounds.length (engine.label item)) asked) = (.ok result, left) →
      Rounds engine contexts supply state (rounds ++ [(item, result)]) after left

def Fails (engine : Engine ι κ ρ ε σ) (contexts : List κ) (index : Nat)
    (supply : Supply ι (Fault ι ρ ε) σ) (state : σ) (item : ι) (fault : Fault ι ρ ε)
    (after : Supply ι (Fault ι ρ ε) σ) (left : σ) : Prop :=
  ∃ asked, supply.ask state = (.item item, after, asked) ∧
    engine.perform contexts item (engine.note (.running index (engine.label item)) asked) =
      (.error fault, left)

end Engine

theorem Supply.ask_recorded (supply : Supply ι φ σ) (moves : List (Move ι)) (state : σ) :
    supply.recorded.ask (moves, state) =
      match supply.ask state with
      | (.item item, rest, asked) => (.item item, rest.recorded, moves ++ [.took item], asked)
      | (.fault fault, rest, asked) => (.fault fault, rest.recorded, moves, asked)
      | (.nothing, rest, asked) => (.nothing, rest.recorded, moves, asked) := by
  induction supply generalizing state with
  | ended | raised | gives => rfl
  | acts change next ih => exact ih state (change state)

namespace Engine

variable {engine : Engine ι κ ρ ε σ} {contexts : List κ} {supply rest : Supply ι (Fault ι ρ ε) σ}
  {state between : σ} {rounds : List (ι × ρ)}

theorem Rounds.recorded (made : engine.Rounds contexts supply state rounds rest between) :
    engine.recorded.Rounds contexts supply.recorded ([], state) rounds rest.recorded
      (engine.roundMoves rounds, between) := by
  induction made with
  | start => exact .start
  | @next rounds rest after between asked left item result _ asks performed ih =>
    rw [roundMoves_concat]
    have asks_recorded := rest.ask_recorded (engine.roundMoves rounds) between
    rw [asks] at asks_recorded
    refine .next ih asks_recorded ?_
    simp [Engine.recorded, performed, openingMoves]

theorem Fails.recorded {index : Nat} {item : ι} {fault : Fault ι ρ ε}
    {after : Supply ι (Fault ι ρ ε) σ} {left : σ}
    (fails : engine.Fails contexts index rest between item fault after left)
    (moves : List (Move ι)) :
    engine.recorded.Fails contexts index rest.recorded (moves, between) item fault after.recorded
      (moves ++ engine.openingMoves index item, left) := by
  obtain ⟨asked, asks, performed⟩ := fails
  refine ⟨(moves ++ [.took item], asked), ?_, ?_⟩
  · rw [rest.ask_recorded, asks]
  · simp [Engine.recorded, performed, openingMoves]

theorem Rounds.exists_end {start : Supply ι (Fault ι ρ ε) σ} {first : σ}
    (made : engine.Rounds contexts start first rounds rest between)
    (asks : rest.ask between = supply.ask state) :
    ∃ rounds rest between, engine.Rounds contexts start first rounds rest between ∧
      ((∃ after asked, rest.ask between = (.nothing, after, asked)) ∨
        (∃ fault after asked, rest.ask between = (.fault fault, after, asked)) ∨
        ∃ item fault after left,
          engine.Fails contexts rounds.length rest between item fault after left) := by
  -- on what is still to be answered: `rest` stands before actions that `supply` has behind it
  induction supply generalizing rounds rest between state with
  | ended => exact ⟨rounds, rest, between, made, .inl ⟨_, _, asks⟩⟩
  | raised fault => exact ⟨rounds, rest, between, made, .inr (.inl ⟨fault, _, _, asks⟩)⟩
  | acts change next ih => exact ih state made asks
  | gives item after ih =>
    rcases performed : engine.perform contexts item
      (engine.note (.running rounds.length (engine.label item)) state) with ⟨fault | result, left⟩
    · exact ⟨rounds, rest, between, made,
        .inr (.inr ⟨item, fault, after, left, state, asks, performed⟩)⟩
    · exact ih (made.next asks performed) rfl

variable [Cause ε]

/-- One item of a run: it is asked for and performed, and what comes of it decides on the rest. -/
theorem runSupply_eq (engine : Engine ι κ ρ ε σ) (contexts : List κ)
    (supply : Supply ι (Fault ι ρ ε) σ) (done : List ρ) (state : σ) :
    engine.runSupply contexts supply done state =
      match supply.ask state with
      | (.nothing, rest, asked) => (.ok ⟨done⟩, rest, asked)
      | (.fault fault, rest, asked) => (.error fault, rest, asked)
      | (.item item, rest, asked) =>
        engine.runSupply contexts (.gives item rest) done asked := by
  induction supply generalizing state with
  | ended | raised | gives => rfl
  | acts change next ih => exact ih state (change state)

theorem Rounds.runSupply (made : engine.Rounds contexts supply state rounds rest between) :
    engine.runSupply contexts supply [] state =
      engine.runSupply contexts rest (rounds.map Prod.snd) between := by
  induction made with
  | start => rfl
  | @next rounds rest after between asked left item result _ asks performed ih =>
    rw [ih, runSupply_eq, asks]
    simp only [Engine.runSupply, List.length_map, performed, List.map_append, List.map_cons,
      List.map_nil]

theorem Rounds.runSupply_ended (made : engine.Rounds contexts supply state rounds rest between)
    {after : Supply ι (Fault ι ρ ε) σ} {asked : σ}
    (asks : rest.ask between = (.nothing, after, asked)) :
    engine.runSupply contexts supply [] state = (.ok ⟨rounds.map Prod.snd⟩, after, asked) ∧
      engine.recorded.runSupply contexts supply.recorded [] ([], state) =
        (.ok ⟨rounds.map Prod.snd⟩, after.recorded, engine.roundMoves rounds, asked) := by
  have asks_recorded := rest.ask_recorded (engine.roundMoves rounds) between
  rw [asks] at asks_recorded
  constructor
  · rw [made.runSupply, runSupply_eq, asks]
  · rw [made.recorded.runSupply, runSupply_eq, asks_recorded]

theorem Rounds.runSupply_raised (made : engine.Rounds contexts supply state rounds rest between)
    {fault : Fault ι ρ ε} {after : Supply ι (Fault ι ρ ε) σ} {asked : σ}
    (asks : rest.ask between = (.fault fault, after, asked)) :
    engine.runSupply contexts supply [] state = (.error fault, after, asked) ∧
      engine.recorded.runSupply contexts supply.recorded [] ([], state) =
        (.error fault, after.recorded, engine.roundMoves rounds, asked) := by
  have asks_recorded := rest.ask_recorded (engine.roundMoves rounds) between
  rw [asks] at asks_recorded
  constructor
  · rw [made.runSupply, runSupply_eq, asks]
  · rw [made.recorded.runSupply, runSupply_eq, asks_recorded]

theorem Rounds.runSupply_fails (made : engine.Rounds contexts supply state rounds rest between)
    {item : ι} {fault : Fault ι ρ ε} {after : Supply ι (Fault ι ρ ε) σ} {left : σ}
    (fails : engine.Fails contexts rounds.length rest between item fault after left) :
    engine.runSupply contexts supply [] state =
      if fault.escapes then (.error fault, after, left)
      else
        (.error (.because
            ⟨rounds.length, item, engine.label item, rounds.map Prod.snd⟩ fault), after,
          engine.note (.stepFailed rounds.length (engine.label item) rounds.length fault.message)
            left) := by
  obtain ⟨asked, asks, performed⟩ := fails
  rw [made.runSupply, runSupply_eq, asks]
  simp only [Engine.runSupply, List.length_map, performed]

theorem runFrom_eq_runSupply (engine : Engine ι κ ρ ε σ) (contexts : List κ)
    (taken : List ι → σ → σ) (ending : Option (Fault ι ρ ε)) (remaining : List ι) (done : List ρ)
    (state : σ) :
    let ran := engine.runSupply contexts (.ofItems taken ending remaining) done state
    engine.runFrom contexts taken ending remaining done state = (ran.1, ran.2.2) := by
  intro ran
  induction remaining generalizing done state with
  | nil => cases ending <;> rfl
  | cons item rest ih =>
    simp only [ran, runFrom, Supply.ofItems, Engine.runSupply]
    rcases engine.perform contexts item
      (engine.note (.running done.length (engine.label item)) (taken rest state)) with
        ⟨fault | result, left⟩
    · dsimp only
      split <;> rfl
    · exact ih (done ++ [result]) left

end Engine

/-! ### Items that cannot be executed -/

namespace Session

/-- A step has no method to be executed, which is raised when it is to be. -/
inductive Step.Lacks : Step Operation → Thrown → Prop
  | raw (value : Value) : Lacks (.own (.raw value)) (.missingAttribute value.typeName "execute")
  | labelled (label : Value) :
      Lacks (.own (.labelled label)) (.missingAttribute "Labelled" "execute")
  | classItem {name : String} :
      Operation.familyOfClass? name = none → Step.classCall? name = none →
      Lacks (.own (.classItem name)) (.missingClassAttribute name "execute")

theorem Step.Lacks.uncallable {step : Step Operation} {error : Thrown} (lacks : step.Lacks error)
    (given : Nat) : Step.uncallable? given step = some error := by
  cases lacks with
  | raw | labelled => rfl
  | classItem no_family no_call => simp only [uncallable?, methodFault?, no_family, no_call]

theorem Step.Lacks.fails {step : Step Operation} {error : Thrown} (lacks : step.Lacks error)
    (depth : Nat) (contexts : List String) (state : State Operation Store) :
    (operations.engine depth).perform contexts step state =
      (.error (.raised (.thrown error)), state) := by
  have uncallable : operations.uncallable? contexts.length step = some error :=
    lacks.uncallable contexts.length
  cases depth <;> simp only [Language.engine, Language.performWith, uncallable]

theorem Step.Lacks.stays {step : Step Operation} {error : Thrown} (lacks : step.Lacks error) :
    Cause.escapes error = false := by
  cases lacks <;> rfl

end Session

/-! ### The main result -/

namespace Engine

variable [Cause ε]

/--
However a supply goes on, a run over it calls its items one by one: each is asked for after the one
before it has returned. Once a supply has ended after some items, the report has all their results.
A fault that it raises in place of an item ends the run as it is, and no failure is noted. An item
that fails ends the run with its index, unless it asks to leave every run, and nothing is asked for
after it, so nothing that the supply would raise later is raised. There is no other way to end. A
step without a method to be executed fails because it lacks that. Items that are there from the
beginning are run in the same way.
-/
theorem runSupply_interleaves (engine : Engine ι κ ρ ε σ) (contexts : List κ)
    (supply : Supply ι (Fault ι ρ ε) σ) (state : σ) :
    let ran := engine.runSupply contexts supply [] state
    let seen := engine.recorded.runSupply contexts supply.recorded [] ([], state)
    let moves := seen.2.2.1
    (seen.1 = ran.1 ∧ seen.2.2.2 = ran.2.2) ∧
      (∀ rounds rest between, engine.Rounds contexts supply state rounds rest between →
        let results := rounds.map Prod.snd
        let returned := engine.roundMoves rounds
        (∀ after asked, rest.ask between = (.nothing, after, asked) →
          ran = (.ok ⟨results⟩, after, asked) ∧ moves = returned) ∧
        (∀ fault after asked, rest.ask between = (.fault fault, after, asked) →
          ran = (.error fault, after, asked) ∧ moves = returned) ∧
        ∀ item fault after left,
          engine.Fails contexts rounds.length rest between item fault after left →
          let label := engine.label item
          let called := returned ++ engine.openingMoves rounds.length item
          let failure : Record := .stepFailed rounds.length label rounds.length fault.message
          (fault.escapes = false →
            ran = (.error (.because ⟨rounds.length, item, label, results⟩ fault), after,
                engine.note failure left) ∧
              moves = called ++ [.noted failure]) ∧
          (fault.escapes = true → ran = (.error fault, after, left) ∧ moves = called)) ∧
      (∃ rounds rest between, engine.Rounds contexts supply state rounds rest between ∧
        ((∃ after asked, rest.ask between = (.nothing, after, asked)) ∨
          (∃ fault after asked, rest.ask between = (.fault fault, after, asked)) ∨
          ∃ item fault after left,
            engine.Fails contexts rounds.length rest between item fault after left)) ∧
      (∀ (step : Session.Step Session.Operation) (error : Session.Thrown), step.Lacks error →
        ∀ depth names given first rounds rest between after asked,
          let session := Session.operations.engine depth
          session.Rounds names given first rounds rest between →
          rest.ask between = (.item step, after, asked) →
          (session.runSupply names given [] first).1 =
            .error (.because ⟨rounds.length, step, session.label step, rounds.map Prod.snd⟩
              (.raised (.thrown error)))) ∧
      ∀ (taken : List ι → σ → σ) (source : Source ι (Fault ι ρ ε)),
        let lazily := engine.runSupply contexts (.ofItems taken source.ending source.items) [] state
        engine.run contexts taken source state = (lazily.1, lazily.2.2) := by
  intro ran seen moves
  refine ⟨?_, ?_, Rounds.exists_end .start rfl, ?_, ?_⟩
  · have begun : engine.Rounds contexts supply state [] supply state := .start
    obtain ⟨rounds, rest, between, made, ⟨after, asked, asks⟩ | ⟨fault, after, asked, asks⟩ |
      ⟨item, fault, after, left, fails⟩⟩ := begun.exists_end rfl
    · obtain ⟨ended, seen_ended⟩ := made.runSupply_ended asks
      simp only [seen, ran, ended, seen_ended, and_self]
    · obtain ⟨raised, seen_raised⟩ := made.runSupply_raised asks
      simp only [seen, ran, raised, seen_raised, and_self]
    · have failed := made.runSupply_fails fails
      have seen_failed := made.recorded.runSupply_fails (fails.recorded _)
      simp only [seen, ran, failed, seen_failed]
      split <;> exact ⟨rfl, rfl⟩
  · intro rounds rest between made results returned
    refine ⟨?_, ?_, ?_⟩
    · intro after asked asks
      obtain ⟨ended, seen_ended⟩ := made.runSupply_ended asks
      exact ⟨ended, by simp only [moves, seen, seen_ended, returned]⟩
    · intro fault after asked asks
      obtain ⟨raised, seen_raised⟩ := made.runSupply_raised asks
      exact ⟨raised, by simp only [moves, seen, seen_raised, returned]⟩
    · intro item fault after left fails label called failure
      have failed := made.runSupply_fails fails
      have seen_failed := made.recorded.runSupply_fails (fails.recorded _)
      constructor
      · intro stays
        simp only [stays, Bool.false_eq_true, if_false] at failed seen_failed
        exact ⟨failed, by simp only [moves, seen, seen_failed]; rfl⟩
      · intro escapes
        simp only [escapes, if_true] at failed seen_failed
        exact ⟨failed, by simp only [moves, seen, seen_failed]; rfl⟩
  · intro step error lacks depth names given first rounds rest between after asked session made asks
    have stays : (Fault.raised (Session.Stop.thrown error) :
        Fault (Session.Step Session.Operation) Value _).escapes = false := lacks.stays
    have failed := made.runSupply_fails ⟨asked, asks, lacks.fails depth names _⟩
    simp only [stays, Bool.false_eq_true, if_false] at failed
    rw [failed]
  · intro taken source
    exact engine.runFrom_eq_runSupply contexts taken source.ending source.items [] state

private abbrev SessionSupply :=
  Supply (Session.Step Session.Operation)
    (Fault (Session.Step Session.Operation) Value (Session.Stop Session.Thrown))
    (Session.State Session.Operation Session.Store)

private def broken : Fault (Session.Step Session.Operation) Value (Session.Stop Session.Thrown) :=
  .raised (.thrown (.told .value [.text "broken"]))

private def faultyEnd : SessionSupply :=
  .gives (.own (.raw (.int 5))) (.raised broken)

/-- Takes all values away before it gives a step that takes one. -/
private def withdrawing : SessionSupply :=
  .acts (fun state => { state with store := { state.store with lists := [[]] } }) fun _ =>
    .gives (.own .pop) faultyEnd

private def emptyListed : Session.State Session.Operation Session.Store where
  store := { contexts := [("a", .held (.list 0))], lists := [[]] }

private def pushed : Session.State Session.Operation Session.Store where
  store := { contexts := [("a", .held (.list 0))], lists := [[.value (.int 1)]] }
  log := #[.running 0 "Push"]

theorem runSupply_interleaves_emptying :
    let session := Session.operations.engine 0
    let push : Session.Step Session.Operation := .own (.push (.int 1))
    ∃ left,
      session.Rounds ["a"] (.gives push withdrawing) emptyListed [(push, .int 1)] withdrawing
          pushed ∧
        session.Fails ["a"] 1 withdrawing pushed (.own .pop) (.raised (.thrown .emptyList))
          faultyEnd left ∧
        let ran := session.runSupply ["a"] (.gives push withdrawing) [] emptyListed
        ran.1 =
            .error (.because ⟨1, .own .pop, "Pop", [.int 1]⟩ (.raised (.thrown .emptyList))) ∧
          ran.2.1 = faultyEnd := by
  intro session push
  obtain ⟨_, ends, _⟩ := runSupply_interleaves session ["a"] (.gives push withdrawing) emptyListed
  have made : session.Rounds ["a"] (.gives push withdrawing) emptyListed [(push, .int 1)]
      withdrawing pushed := .next .start rfl rfl
  have fails : session.Fails ["a"] 1 withdrawing pushed (.own .pop) (.raised (.thrown .emptyList))
      faultyEnd _ := ⟨_, rfl, rfl⟩
  obtain ⟨failed, _⟩ := ((ends _ _ _ made).2.2 _ _ _ _ fails).1 rfl
  exact ⟨_, made, fails, congrArg Prod.fst failed, congrArg (fun ran => ran.2.1) failed⟩

end Engine

end StepPipeline
