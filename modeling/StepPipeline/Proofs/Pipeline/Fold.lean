import StepPipeline.Session.Work

/-!
Execution as a fold. The steps of a pipeline share a part of their surroundings; the log and the
pipeline itself are no part of it. Executing the pipeline, and running its steps without one, both
do to the shared part what folding the steps over it does: each is called once, in order, with the
same contexts, in what the one before it has left, until one fails.
-/

set_option autoImplicit false
set_option relaxedAutoImplicit false

namespace StepPipeline

variable {ι κ ρ ε σ τ : Type}

/-! ### Pipelines and contexts that fit -/

/-- Contexts of the given number fit a shape; those of an empty pipeline without one fit any. -/
def Pipeline.Fits (shape : Option Shape) (given : Nat) : Prop :=
  match shape with
  | none => given ≤ Shape.pair.arity
  | some shape => given = shape.arity

theorem Pipeline.contextFault?_eq_none {shape : Option Shape} {given : Nat} :
    contextFault? shape given = none ↔ Fits shape given := by
  cases shape with
  | none =>
    simp only [contextFault?, Fits]
    split <;> simp_all
  | some shape =>
    simp only [contextFault?, Fits]
    split <;> simp_all

theorem Pipeline.refusal?_of_fits {pipeline : Pipeline ι} {given : Nat}
    (fresh : pipeline.consumed = false) (fits : Fits pipeline.shape given) :
    (pipeline.refusal? given : Option (Fault ι ρ ε)) = none := by
  simp only [refusal?, fresh, contextFault?_eq_none.mpr fits]
  rfl

theorem Pipeline.ofSource_holds {facts : ι → Facts} {source : Source ι (Fault ι ρ ε)}
    {pin : Option Shape} {pipeline : Pipeline ι}
    (accepted : ofSource facts source pin = .ok pipeline) :
    pipeline.steps = source.items ∧ pipeline.consumed = false := by
  unfold ofSource at accepted
  split at accepted
  · cases accepted
  · split at accepted
    · cases accepted
    · cases accepted
      exact ⟨rfl, rfl⟩

/-! ### What steps share -/

/--
What some steps share: a part of the surroundings that alone decides what a call of one of them
does. Neither the log nor the pipeline at a place belongs to it.
-/
structure Sharing (engine : Engine ι κ ρ ε σ) (place : Place ι σ) (steps : List ι) (τ : Type) where
  view : σ → τ
  call : List κ → ι → τ → Outcome (Fault ι ρ ε) ρ τ
  perform_view : ∀ contexts, ∀ step ∈ steps, ∀ state,
    ((engine.perform contexts step state).1, view (engine.perform contexts step state).2) =
      call contexts step (view state)
  view_note : ∀ record state, view (engine.note record state) = view state
  view_put : ∀ pipeline state, view (place.put pipeline state) = view state

namespace Sharing

variable {engine : Engine ι κ ρ ε σ} {place : Place ι σ} {steps : List ι}

/-- An outcome as far as the steps share what it leaves. -/
def seen {α : Type} (sharing : Sharing engine place steps τ)
    (outcome : Outcome (Fault ι ρ ε) α σ) : Outcome (Fault ι ρ ε) α τ :=
  (outcome.1, sharing.view outcome.2)

/-- Steps are called once each, in order, each in what the one before it has left, and return. -/
inductive Returns (sharing : Sharing engine place steps τ) (contexts : List κ) :
    List ι → τ → List ρ → τ → Prop
  | nil (shared : τ) : Returns sharing contexts [] shared [] shared
  | cons {step : ι} {rest : List ι} {result : ρ} {results : List ρ} {shared left after : τ} :
      sharing.call contexts step shared = (.ok result, left) →
      Returns sharing contexts rest left results after →
      Returns sharing contexts (step :: rest) shared (result :: results) after

/-- The items before a step return, and the step is the first to raise a fault. -/
def Stops (sharing : Sharing engine place steps τ) (contexts : List κ) (items : List ι)
    (shared : τ) (before : List ι) (step : ι) (results : List ρ) (fault : Fault ι ρ ε)
    (after : τ) : Prop :=
  ∃ skipped left, items = before ++ step :: skipped ∧
    sharing.Returns contexts before shared results left ∧
    sharing.call contexts step left = (.error fault, after)

variable (sharing : Sharing engine place steps τ) {contexts : List κ}

theorem Returns.length_eq {items : List ι} {shared left : τ} {results : List ρ}
    (returns : sharing.Returns contexts items shared results left) :
    results.length = items.length := by
  induction returns with
  | nil => rfl
  | cons _ _ ih => simp only [List.length_cons, ih]

/-- Either all steps return, or one of them is the first to raise a fault. -/
theorem returns_or_stops (contexts : List κ) (items : List ι) (shared : τ) :
    (∃ results left, sharing.Returns contexts items shared results left) ∨
      ∃ before step results fault after,
        sharing.Stops contexts items shared before step results fault after := by
  induction items generalizing shared with
  | nil => exact .inl ⟨[], shared, .nil shared⟩
  | cons item rest ih =>
    rcases called : sharing.call contexts item shared with ⟨outcome, left⟩
    cases outcome with
    | error fault =>
      exact .inr ⟨[], item, [], fault, left, rest, shared, rfl, .nil shared, called⟩
    | ok result =>
      rcases ih left with ⟨results, last, returns⟩ | ⟨before, step, results, fault, after, stops⟩
      · exact .inl ⟨result :: results, last, .cons called returns⟩
      · obtain ⟨skipped, last, split, returns, raised⟩ := stops
        exact .inr ⟨item :: before, step, result :: results, fault, after, skipped, last,
          by rw [split]; rfl, .cons called returns, raised⟩

end Sharing

variable [Cause ε]

/-- A fault of a step as the run reports it, after steps with the given results. -/
def Engine.reported (engine : Engine ι κ ρ ε σ) (results : List ρ) (step : ι)
    (fault : Fault ι ρ ε) : Fault ι ρ ε :=
  if fault.escapes then fault
  else .because ⟨results.length, step, engine.label step, results⟩ fault

namespace Sharing

variable {engine : Engine ι κ ρ ε σ} {place : Place ι σ} {steps : List ι}

/-- What one more step makes of an outcome; after a fault it is not called. -/
def next (sharing : Sharing engine place steps τ) (contexts : List κ) :
    Outcome (Fault ι ρ ε) (List ρ) τ → ι → Outcome (Fault ι ρ ε) (List ρ) τ
  | (.error fault, shared), _ => (.error fault, shared)
  | (.ok results, shared), step =>
    match sharing.call contexts step shared with
    | (.ok result, left) => (.ok (results ++ [result]), left)
    | (.error fault, left) => (.error (engine.reported results step fault), left)

/-- Some steps folded over what they share, after others with the given results. -/
def foldFrom (sharing : Sharing engine place steps τ) (contexts : List κ) (remaining : List ι)
    (done : List ρ) (shared : τ) : Outcome (Fault ι ρ ε) (Report ρ) τ :=
  let folded := remaining.foldl (sharing.next contexts) (.ok done, shared)
  (folded.1.map Report.mk, folded.2)

def fold (sharing : Sharing engine place steps τ) (contexts : List κ) (shared : τ) :
    Outcome (Fault ι ρ ε) (Report ρ) τ :=
  sharing.foldFrom contexts steps [] shared

variable (sharing : Sharing engine place steps τ) {contexts : List κ}

private theorem foldl_next_error (items : List ι) (fault : Fault ι ρ ε) (shared : τ) :
    items.foldl (sharing.next contexts) (.error fault, shared) = (.error fault, shared) := by
  induction items with
  | nil => rfl
  | cons item rest ih => simpa only [List.foldl_cons, next] using ih

private theorem foldl_next_returns {items : List ι} {shared left : τ} {results : List ρ}
    (returns : sharing.Returns contexts items shared results left) (done : List ρ) :
    items.foldl (sharing.next contexts) (.ok done, shared) = (.ok (done ++ results), left) := by
  induction returns generalizing done with
  | nil => simp
  | @cons step rest result results shared left after called _ ih =>
    rw [List.foldl_cons, next, called]
    simpa using ih (done ++ [result])

private theorem foldl_next_stops {items before : List ι} {step : ι} {shared after : τ}
    {results : List ρ} {fault : Fault ι ρ ε}
    (stops : sharing.Stops contexts items shared before step results fault after) :
    items.foldl (sharing.next contexts) (.ok [], shared) =
      (.error (engine.reported results step fault), after) := by
  obtain ⟨skipped, left, rfl, returns, called⟩ := stops
  have raised : sharing.next contexts (.ok results, left) step =
      (.error (engine.reported results step fault), after) := by
    rw [next, called]
  rw [List.foldl_append, foldl_next_returns sharing returns, List.foldl_cons, List.nil_append,
    raised, foldl_next_error]

theorem fold_of_returns {shared left : τ} {results : List ρ}
    (returns : sharing.Returns contexts steps shared results left) :
    sharing.fold contexts shared = (.ok ⟨results⟩, left) := by
  rw [fold, foldFrom, foldl_next_returns sharing returns]
  rfl

theorem fold_of_stops {before : List ι} {step : ι} {shared after : τ} {results : List ρ}
    {fault : Fault ι ρ ε}
    (stops : sharing.Stops contexts steps shared before step results fault after) :
    sharing.fold contexts shared = (.error (engine.reported results step fault), after) := by
  rw [fold, foldFrom, foldl_next_stops sharing stops]
  rfl

/-- The loop over remaining steps is the fold over them, whatever is noted of the steps taken. -/
private theorem seen_runFrom (contexts : List κ) {taken : List ι → σ → σ}
    (hidden : ∀ rest state, sharing.view (taken rest state) = sharing.view state)
    {remaining : List ι} (sub : ∀ item ∈ remaining, item ∈ steps) (done : List ρ) (state : σ) :
    sharing.seen (engine.runFrom contexts taken none remaining done state) =
      sharing.foldFrom contexts remaining done (sharing.view state) := by
  induction remaining generalizing done state with
  | nil => rfl
  | cons item rest ih =>
    have sub_rest : ∀ other ∈ rest, other ∈ steps :=
      fun other member => sub other (List.mem_cons_of_mem item member)
    have called := sharing.perform_view contexts item (sub item List.mem_cons_self)
      (engine.note (.running done.length (engine.label item)) (taken rest state))
    rw [sharing.view_note, hidden] at called
    simp only [Engine.runFrom, foldFrom, List.foldl_cons]
    rcases performed : engine.perform contexts item
      (engine.note (.running done.length (engine.label item)) (taken rest state)) with
        ⟨outcome, left⟩
    rw [performed] at called
    cases outcome with
    | ok result =>
      simp only [next, ← called]
      exact ih sub_rest (done ++ [result]) left
    | error fault =>
      simp only [next, ← called, foldl_next_error]
      by_cases escapes : fault.escapes = true
      · simp [seen, Engine.reported, escapes, Except.map]
      · simp [seen, Engine.reported, escapes, Except.map, sharing.view_note]

theorem seen_run (contexts : List κ) (state : σ) :
    sharing.seen (engine.run contexts (fun _ state => state) ⟨steps, none⟩ state) =
      sharing.fold contexts (sharing.view state) :=
  seen_runFrom sharing contexts (fun _ _ => rfl) (fun _ member => member) [] state

theorem seen_execute {contexts : List κ} {state : σ} (holds : (place.get state).steps = steps)
    (admitted : ((place.get state).refusal? contexts.length : Option (Fault ι ρ ε)) = none) :
    sharing.seen (Pipeline.execute engine place contexts state) =
      sharing.fold contexts (sharing.view state) := by
  let left (rest : List ι) := place.put ((place.get state).spent rest)
  have hidden : ∀ rest state, sharing.view (left rest state) = sharing.view state :=
    fun rest => sharing.view_put ((place.get state).spent rest)
  have drained := seen_runFrom sharing contexts hidden (fun _ (member : _ ∈ steps) => member) []
    (engine.note (.executing steps.length contexts.length)
      (place.put ((place.get state).spent steps) state))
  rw [sharing.view_note, sharing.view_put] at drained
  rw [fold, ← drained]
  simp only [Pipeline.execute, admitted, holds, Engine.run]
  rcases engine.runFrom contexts (fun rest => place.put ((place.get state).spent rest)) none steps []
    (engine.note (.executing steps.length contexts.length)
      (place.put ((place.get state).spent steps) state)) with ⟨outcome, ended⟩
  cases outcome <;> simp [seen, sharing.view_note, sharing.view_put]

end Sharing

/-! ### Operations of a session -/

namespace Session

/-- Does a step do work of its own that looks at no pipeline? -/
def Step.isPlain : Step Operation → Bool
  | .own (.probe ..) => false
  | .own _ => true
  | _ => false

def callOn (contexts : List String) (step : Step Operation) (store : Store) :
    Outcome (Fault (Step Operation) Value (Stop Thrown)) Value Store :=
  match Step.uncallable? contexts.length step, step with
  | some error, _ => (.error (.raised (.thrown error)), store)
  | none, .own operation =>
    let (outcome, store) := operations.work (fun _ => none) contexts operation store
    (outcome.mapError fun error => .raised (.thrown error), store)
  | none, _ => (.error (.raised .tooDeep), store)

private theorem ofOperation_view (view other : String → Option (Pipeline (Step Operation)))
    (contexts : List String) {operation : Operation} (plain : Step.isPlain (.own operation)) :
    Action.ofOperation view contexts operation = Action.ofOperation other contexts operation := by
  cases operation with
  | probe => cases plain
  | _ => rcases contexts with _ | ⟨a, _ | ⟨b, _ | ⟨c, rest⟩⟩⟩ <;> rfl

private theorem perform_callOn (contexts : List String) {step : Step Operation}
    (plain : step.isPlain) (state : State Operation Store) :
    (((operations.engine 0).perform contexts step state).1,
      ((operations.engine 0).perform contexts step state).2.store) =
        callOn contexts step state.store := by
  cases step with
  | nest => cases plain
  | reenter => cases plain
  | own operation =>
    simp only [Language.engine, Language.performWith, Language.carryOut, callOn, operations,
      ofOperation_view state.pipeline? (fun _ => none) contexts plain]
    cases Step.uncallable? contexts.length (.own operation) <;> rfl

def storeSharing (address : Nat) (steps : List (Step Operation))
    (plain : ∀ step ∈ steps, step.isPlain) :
    Sharing (operations.engine 0) (State.place address) steps Store where
  view := State.store
  call := callOn
  perform_view contexts step member state := perform_callOn contexts (plain step member) state
  view_note _ _ := rfl
  view_put _ _ := rfl

end Session

/-! ### The main result -/

/--
A pipeline made of some steps does with contexts that fit what folding the steps over what they
share does, and so does a run of the steps without a pipeline. If all steps return, the report has
their results; the first one that raises an error ends both with its index, the results of those
before it and the error as the cause.
-/
theorem Pipeline.execute_eq_fold (engine : Engine ι κ ρ ε σ) (place : Place ι σ) {facts : ι → Facts}
    {steps : List ι} {pin : Option Shape} {pipeline : Pipeline ι}
    (accepted : ofSource facts (⟨steps, none⟩ : Source ι (Fault ι ρ ε)) pin = .ok pipeline)
    (sharing : Sharing engine place steps τ) {contexts : List κ}
    (fits : Fits pipeline.shape contexts.length) {state : σ} (kept : place.get state = pipeline) :
    let shared := sharing.view state
    let folded := sharing.fold contexts shared
    sharing.seen (execute engine place contexts state) = folded ∧
      sharing.seen (engine.run contexts (fun _ state => state) ⟨steps, none⟩ state) = folded ∧
      (∀ results left, sharing.Returns contexts steps shared results left →
        folded = (.ok ⟨results⟩, left) ∧ results.length = steps.length) ∧
      (∀ before step results fault after,
        sharing.Stops contexts steps shared before step results fault after →
        fault.escapes = false →
        folded =
            (.error (.because ⟨before.length, step, engine.label step, results⟩ fault), after) ∧
          results.length = before.length) ∧
      ((∃ results left, sharing.Returns contexts steps shared results left) ∨
        ∃ before step results fault after,
          sharing.Stops contexts steps shared before step results fault after) := by
  obtain ⟨holds, fresh⟩ := ofSource_holds accepted
  have admitted : ((place.get state).refusal? contexts.length : Option (Fault ι ρ ε)) = none := by
    rw [kept]
    exact refusal?_of_fits fresh fits
  refine ⟨sharing.seen_execute (by rw [kept, holds]) admitted, sharing.seen_run contexts state,
    ?_, ?_, sharing.returns_or_stops contexts steps (sharing.view state)⟩
  · intro results left returns
    exact ⟨sharing.fold_of_returns returns, returns.length_eq⟩
  · intro before step results fault after stops raised
    have completed : results.length = before.length := by
      obtain ⟨_, _, _, returns, _⟩ := stops
      exact returns.length_eq
    refine ⟨?_, completed⟩
    rw [sharing.fold_of_stops stops, Engine.reported, raised, completed]
    rfl

/-- Steps of which the third takes a value from a list that is empty by then. -/
private def emptying : List (Session.Step Session.Operation) :=
  [.own (.push (.int 1)), .own .pop, .own .pop, .own (.push (.int 2))]

private def emptyList : Session.State Session.Operation Session.Store where
  pipelines := [⟨emptying, some .single, false⟩]
  store := { contexts := [("a", .held (.list 0))], lists := [[]] }

theorem Pipeline.execute_eq_fold_emptying :
    ofSource Session.Step.facts
        (⟨emptying, none⟩ : Source _ (Fault _ Value (Session.Stop Session.Thrown))) none =
          .ok ⟨emptying, some .single, false⟩ ∧
      Fits (some .single) ["a"].length ∧
      (Session.State.place 0).get emptyList = ⟨emptying, some .single, false⟩ ∧
      (execute (Session.operations.engine 0) (Session.State.place 0) ["a"] emptyList).1 =
        .error
          (.because ⟨2, .own .pop, "Pop", [.int 1, .int 1]⟩ (.raised (.thrown .emptyList))) := by
  have plain : ∀ step ∈ emptying, step.isPlain := by decide
  have accepted : ofSource Session.Step.facts
      (⟨emptying, none⟩ : Source _ (Fault _ Value (Session.Stop Session.Thrown))) none =
        .ok ⟨emptying, some .single, false⟩ := rfl
  have fits : Fits (some .single) ["a"].length := rfl
  have kept : (Session.State.place 0).get emptyList = ⟨emptying, some .single, false⟩ := rfl
  obtain ⟨executed, _, _, stopped, _⟩ := Pipeline.execute_eq_fold (Session.operations.engine 0)
    (Session.State.place 0) accepted (Session.storeSharing 0 emptying plain) fits kept
  have third := stopped [.own (.push (.int 1)), .own .pop] (.own .pop) [.int 1, .int 1]
    (.raised (.thrown .emptyList)) emptyList.store
    ⟨[.own (.push (.int 2))], emptyList.store, rfl, .cons rfl (.cons rfl (.nil _)), rfl⟩ rfl
  exact ⟨accepted, fits, kept, congrArg Prod.fst (executed.trans third.1)⟩

end StepPipeline
