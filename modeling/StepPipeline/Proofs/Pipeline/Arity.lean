import StepPipeline.Proofs.Pipeline.Fold

/-!
Arity. Conversion accepts only items of one shape, which becomes the shape of the pipeline, and
execution refuses contexts that do not fit it and hands all others on to each step as they are. So a
step is only called with as many contexts as its own shape takes. Calls are seen by watching an
engine, which changes nothing else. Main result: `Pipeline.execute_arity_sound`.
-/

set_option autoImplicit false
set_option relaxedAutoImplicit false

namespace StepPipeline

variable {ι κ ρ ε σ : Type}

/-! ### Shapes of items -/

/-- An item is an operation value of a single shape. -/
def Facts.HasShape (facts : Facts) (shape : Shape) : Prop :=
  facts.className? = none ∧ Shape.ofContracts facts.typeName facts.contracts = .ok shape

namespace Pipeline

theorem itemShape_eq_ok_iff {facts : Facts} {index : Nat} {expected : Option Shape}
    {shape : Shape} :
    itemShape facts index expected = .ok shape ↔
      facts.HasShape shape ∧ (expected = none ∨ expected = some shape) := by
  unfold itemShape Facts.HasShape
  cases facts.className? with
  | some className => simp
  | none =>
    cases Shape.ofContracts facts.typeName facts.contracts with
    | error fault => simp
    | ok found =>
      cases expected with
      | none => simp
      | some wanted =>
        by_cases same : found = wanted
        · simp only [same, if_true, Except.ok.injEq, true_and, reduceCtorEq, false_or,
            Option.some.injEq]
          exact ⟨fun h => ⟨h, h⟩, fun h => h.1⟩
        · simp only [same, if_false, reduceCtorEq, Except.ok.injEq, true_and, false_or,
            Option.some.injEq, false_iff, not_and]
          intro is_found is_wanted
          exact same (is_found.trans is_wanted.symm)

/-- Once a shape is expected all items must have it, and it is the shape of the row. -/
theorem resolveFrom_some_eq_ok_iff {facts : ι → Facts} {index : Nat} {shape : Shape}
    {items : List ι} {resolved : Option Shape} :
    resolveFrom facts index (some shape) items = .ok resolved ↔
      resolved = some shape ∧ ∀ item ∈ items, (facts item).HasShape shape := by
  induction items generalizing index with
  | nil => simp [resolveFrom, eq_comm]
  | cons item rest ih =>
    simp only [resolveFrom]
    cases found : itemShape (facts item) index (some shape) with
    | error fault =>
      have unfit : ¬(facts item).HasShape shape := by
        intro fit
        rw [itemShape_eq_ok_iff.mpr ⟨fit, .inr rfl⟩] at found
        cases found
      simp [unfit]
    | ok other =>
      obtain ⟨fit, expected⟩ := itemShape_eq_ok_iff.mp found
      obtain rfl : shape = other := by simpa using expected
      simp [ih, fit]

theorem hasShape_of_resolveShape {facts : ι → Facts} {items : List ι} {pin resolved : Option Shape}
    (accepted : resolveShape facts items pin = .ok resolved) :
    ∀ item ∈ items, ∃ shape, resolved = some shape ∧ (facts item).HasShape shape := by
  cases items with
  | nil => simp
  | cons item rest =>
    simp only [resolveShape, resolveFrom] at accepted
    split at accepted
    · cases accepted
    next shape found =>
      obtain ⟨rfl, others⟩ := resolveFrom_some_eq_ok_iff.mp accepted
      obtain ⟨fit, _⟩ := itemShape_eq_ok_iff.mp found
      intro other member
      refine ⟨shape, rfl, ?_⟩
      rcases List.mem_cons.mp member with rfl | behind
      · exact fit
      · exact others other behind

theorem hasShape_of_ofSource {facts : ι → Facts} {source : Source ι (Fault ι ρ ε)}
    {pin : Option Shape} {pipeline : Pipeline ι}
    (accepted : ofSource facts source pin = .ok pipeline) :
    ∀ step ∈ pipeline.steps,
      ∃ shape, pipeline.shape = some shape ∧ (facts step).HasShape shape := by
  unfold ofSource at accepted
  split at accepted
  · cases accepted
  · split at accepted
    · cases accepted
    next resolved =>
      cases accepted
      exact hasShape_of_resolveShape resolved

theorem steps_eq_nil_of_shapeless {facts : ι → Facts} {source : Source ι (Fault ι ρ ε)}
    {pin : Option Shape} {pipeline : Pipeline ι}
    (accepted : ofSource facts source pin = .ok pipeline) (shapeless : pipeline.shape = none) :
    pipeline.steps = [] := by
  refine List.eq_nil_iff_forall_not_mem.mpr fun step member => ?_
  obtain ⟨shape, held, _⟩ := hasShape_of_ofSource accepted step member
  rw [shapeless] at held
  cases held

end Pipeline

/-! ### Calls of steps -/

/-- The same engine in surroundings that also hold the calls made so far. -/
def Engine.watched (engine : Engine ι κ ρ ε σ) : Engine ι κ ρ ε (List (ι × List κ) × σ) where
  label := engine.label
  perform contexts item := fun (calls, state) =>
    let (outcome, state) := engine.perform contexts item state
    (outcome, calls ++ [(item, contexts)], state)
  note record := fun (calls, state) => (calls, engine.note record state)

def Place.watched (place : Place ι σ) : Place ι (List (ι × List κ) × σ) where
  get := fun (_, state) => place.get state
  put pipeline := fun (calls, state) => (calls, place.put pipeline state)

variable [Cause ε]

/-- The watched loop does what the loop does, and it calls items in order, each with the contexts of
the run. -/
theorem Engine.runFrom_watched (engine : Engine ι κ ρ ε σ) (contexts : List κ)
    (taken : List ι → σ → σ) (ending : Option (Fault ι ρ ε)) (remaining : List ι) (done : List ρ)
    (calls : List (ι × List κ)) (state : σ) :
    let ran := engine.runFrom contexts taken ending remaining done state
    ∃ count, engine.watched.runFrom contexts (fun rest watched => (watched.1, taken rest watched.2))
        ending remaining done (calls, state) =
      (ran.1, calls ++ (remaining.take count).map (fun item => (item, contexts)), ran.2) := by
  intro ran
  induction remaining generalizing done calls state with
  | nil =>
    refine ⟨0, ?_⟩
    cases ending <;> simp [ran, runFrom]
  | cons item rest ih =>
    rcases performed : engine.perform contexts item
      (engine.note (.running done.length (engine.label item)) (taken rest state)) with
        ⟨outcome, left⟩
    cases outcome with
    | ok result =>
      obtain ⟨count, same⟩ := ih (done ++ [result]) (calls ++ [(item, contexts)]) left
      refine ⟨count + 1, ?_⟩
      simp only [ran, runFrom, performed, watched, List.take_succ_cons, List.map_cons]
      simp only [watched] at same
      rw [same, List.append_assoc, List.singleton_append]
    | error fault =>
      refine ⟨1, ?_⟩
      simp only [ran, runFrom, performed, watched, List.take_succ_cons, List.map_cons,
        List.take_zero, List.map_nil]
      split <;> rfl

theorem Engine.runFrom_error (engine : Engine ι κ ρ ε σ) {contexts : List κ}
    {taken : List ι → σ → σ} {remaining : List ι} {done : List ρ} {state : σ}
    {fault : Fault ι ρ ε}
    (ended : (engine.runFrom contexts taken none remaining done state).1 = .error fault) :
    (∃ failure cause, fault = .because failure cause) ∨ fault.escapes = true := by
  induction remaining generalizing done state with
  | nil => cases ended
  | cons item rest ih =>
    rcases performed : engine.perform contexts item
      (engine.note (.running done.length (engine.label item)) (taken rest state)) with
        ⟨outcome, left⟩
    simp only [runFrom, performed] at ended
    cases outcome with
    | ok result => exact ih ended
    | error raised =>
      dsimp only at ended
      split at ended
      next escapes =>
        cases ended
        exact .inr escapes
      next =>
        cases ended
        exact .inl ⟨_, _, rfl⟩

namespace Pipeline

variable {engine : Engine ι κ ρ ε σ} {place : Place ι σ} {contexts : List κ} {state : σ}

theorem execute_watched (engine : Engine ι κ ρ ε σ) (place : Place ι σ) (contexts : List κ)
    (state : σ) :
    let executed := execute engine place contexts state
    let watched := execute engine.watched place.watched contexts ([], state)
    watched.1 = executed.1 ∧ watched.2.2 = executed.2 ∧
      ∃ count, watched.2.1 =
        ((place.get state).steps.take count).map fun step => (step, contexts) := by
  intro executed watched
  cases refused : (refusal? (place.get state) contexts.length : Option (Fault ι ρ ε)) with
  | some fault =>
    simp only [watched, executed, execute, Place.watched, refused]
    exact ⟨trivial, trivial, 0, rfl⟩
  | none =>
    let left (rest : List ι) := place.put ((place.get state).spent rest)
    obtain ⟨count, same⟩ := engine.runFrom_watched contexts left none (place.get state).steps []
      [] (engine.note (.executing (place.get state).steps.length contexts.length)
        (left (place.get state).steps state))
    have admitted : (refusal? (place.watched.get (([] : List (ι × List κ)), state))
        contexts.length : Option (Fault ι ρ ε)) = none := refused
    simp only [watched, executed, execute, refused, admitted, Engine.run]
    simp only [left, Engine.watched, List.nil_append] at same
    simp only [Place.watched, Engine.watched, same]
    split <;> exact ⟨rfl, rfl, count, rfl⟩

/-- What ends an execution that is not refused. -/
theorem execute_error_of_admitted {fault : Fault ι ρ ε}
    (admitted : (refusal? (place.get state) contexts.length : Option (Fault ι ρ ε)) = none)
    (ended : (execute engine place contexts state).1 = .error fault) :
    (∃ failure cause, fault = .because failure cause) ∨ fault.escapes = true := by
  simp only [execute, admitted, Engine.run] at ended
  split at ended
  · cases ended
  next other same =>
    cases ended
    exact engine.runFrom_error same

theorem execute_of_refused {fault : Fault ι ρ ε}
    (refused : refusal? (place.get state) contexts.length = some fault) :
    execute engine place contexts state = (.error fault, state) := by
  simp only [execute, refused]

theorem execute_misfit_iff (fresh : (place.get state).consumed = false) {fault : ShapeFault} :
    (execute engine place contexts state).1 = .error (.misfit fault) ↔
      contextFault? (place.get state).shape contexts.length = some fault := by
  have refusal : (refusal? (place.get state) contexts.length : Option (Fault ι ρ ε)) =
      (contextFault? (place.get state).shape contexts.length).map Fault.misfit := by
    simp only [refusal?, fresh, Bool.false_eq_true, if_false]
  cases unfit : contextFault? (place.get state).shape contexts.length with
  | some other =>
    rw [unfit] at refusal
    rw [execute_of_refused refusal]
    simp
  | none =>
    rw [unfit] at refusal
    constructor
    · intro ended
      rcases execute_error_of_admitted refusal ended with ⟨_, _, impossible⟩ | impossible
      · cases impossible
      · cases impossible
    · intro impossible
      cases impossible

theorem contextFault?_eq_some_iff {shape : Option Shape} {given : Nat} {fault : ShapeFault} :
    contextFault? shape given = some fault ↔
      (∃ wanted, shape = some wanted ∧ given ≠ wanted.arity ∧
        fault = .contextCount wanted given) ∨
      (shape = none ∧ 2 < given ∧ fault = .tooManyContexts given) := by
  cases shape with
  | none =>
    have pair_arity : Shape.pair.arity = 2 := rfl
    by_cases many : 2 < given <;> simp [contextFault?, pair_arity, many, eq_comm]
  | some wanted =>
    by_cases fits : given = wanted.arity <;> simp [contextFault?, fits, eq_comm]

/-! ### The main result -/

/--
However a pipeline is made and whatever contexts it is executed with, its steps are called in order,
each with these very contexts, and their number is the arity of the single shape that the step had
when the pipeline was made. A pipeline that is not consumed refuses contexts just if it has a shape
of another arity, or if it has none, and so no steps, and there are more than two of them. Nothing
is called then and everything stays as it is; no step's own error is ever taken for a refusal.
-/
theorem execute_arity_sound (engine : Engine ι κ ρ ε σ) (place : Place ι σ) {facts : ι → Facts}
    {source : Source ι (Fault ι ρ ε)} {pin : Option Shape} {pipeline : Pipeline ι}
    (accepted : ofSource facts source pin = .ok pipeline) (contexts : List κ) {state : σ}
    (kept : place.get state = pipeline) :
    let executed := execute engine place contexts state
    let watched := execute engine.watched place.watched contexts ([], state)
    let calls := watched.2.1
    (watched.1 = executed.1 ∧ watched.2.2 = executed.2) ∧
      (∃ count, calls = (source.items.take count).map fun step => (step, contexts)) ∧
      (∀ call ∈ calls, ∃ shape, (facts call.1).HasShape shape ∧ call.2.length = shape.arity) ∧
      (∀ fault, executed.1 = .error (.misfit fault) ↔
        (∃ shape, pipeline.shape = some shape ∧ contexts.length ≠ shape.arity ∧
          fault = .contextCount shape contexts.length) ∨
        (pipeline.shape = none ∧ 2 < contexts.length ∧
          fault = .tooManyContexts contexts.length)) ∧
      (pipeline.shape = none → pipeline.steps = []) ∧
      (∀ fault, executed.1 = .error (.misfit fault) → calls = [] ∧ executed.2 = state) ∧
      ∀ error, executed.1 = .error (.raised error) → Cause.escapes error = true := by
  intro executed watched calls
  obtain ⟨holds, fresh⟩ := ofSource_holds accepted
  obtain ⟨same_outcome, same_state, count, called⟩ := execute_watched engine place contexts state
  have misfit_iff (fault : ShapeFault) : executed.1 = .error (.misfit fault) ↔
      contextFault? pipeline.shape contexts.length = some fault := by
    rw [← kept]
    exact execute_misfit_iff (by rw [kept, fresh])
  have refusal : (refusal? (place.get state) contexts.length : Option (Fault ι ρ ε)) =
      (contextFault? pipeline.shape contexts.length).map Fault.misfit := by
    simp only [refusal?, kept, fresh, Bool.false_eq_true, if_false]
  have untouched (fault : ShapeFault)
      (unfit : contextFault? pipeline.shape contexts.length = some fault) :
      calls = [] ∧ executed.2 = state := by
    rw [unfit, Option.map_some] at refusal
    have seen : refusal? (place.watched.get (([] : List (ι × List κ)), state)) contexts.length =
        some (.misfit fault : Fault ι ρ ε) := refusal
    simp only [calls, watched, executed, execute_of_refused refusal, execute_of_refused seen,
      and_self]
  refine ⟨⟨same_outcome, same_state⟩, ⟨count, by rw [← holds, ← kept]; exact called⟩, ?_, ?_,
    steps_eq_nil_of_shapeless accepted, ?_, ?_⟩
  · intro call member
    have fits : Fits pipeline.shape contexts.length := by
      refine contextFault?_eq_none.mp (Option.eq_none_iff_forall_ne_some.mpr fun fault unfit => ?_)
      rw [(untouched fault unfit).1] at member
      cases member
    simp only [calls, watched, called, kept] at member
    obtain ⟨step, taken, rfl⟩ := List.mem_map.mp member
    obtain ⟨shape, of_shape, fit⟩ :=
      hasShape_of_ofSource accepted step (List.mem_of_mem_take taken)
    rw [of_shape] at fits
    exact ⟨shape, fit, fits⟩
  · intro fault
    rw [misfit_iff, contextFault?_eq_some_iff]
  · intro fault unfit
    exact untouched fault ((misfit_iff fault).mp unfit)
  · intro error ended
    cases unfit : contextFault? pipeline.shape contexts.length with
    | some fault =>
      rw [(misfit_iff fault).mpr unfit] at ended
      cases ended
    | none =>
      rw [unfit, Option.map_none] at refusal
      rcases execute_error_of_admitted refusal ended with ⟨_, _, impossible⟩ | escapes
      · cases impossible
      · exact escapes

/-- Steps for two contexts, of which the second asks to leave every run. -/
private def leaving : List (Session.Step Session.Operation) :=
  [.own (.tune (.int 3)), .own (.fail .pair .exit []), .own (.tune (.int 4))]

private def leavingState : Session.State Session.Operation Session.Store where
  pipelines := [⟨leaving, some .pair, false⟩]
  store := { contexts := [("a", .dict []), ("b", .dict [])] }

theorem execute_arity_sound_leaving :
    ofSource Session.Step.facts
        (⟨leaving, none⟩ : Source _ (Fault _ Value (Session.Stop Session.Thrown))) none =
          .ok ⟨leaving, some .pair, false⟩ ∧
      (Session.State.place 0).get leavingState = ⟨leaving, some .pair, false⟩ ∧
      (execute (Session.operations.engine 0) (Session.State.place 0) ["a"] leavingState).1 =
        .error (.misfit (.contextCount .pair 1)) ∧
      let engine := (Session.operations.engine 0).watched
      let place := (Session.State.place 0).watched
      let calls := (execute engine place ["a", "b"] ([], leavingState)).2.1
      calls = [(.own (.tune (.int 3)), ["a", "b"]), (.own (.fail .pair .exit []), ["a", "b"])] ∧
        ∀ call ∈ calls, ∃ shape, call.1.facts.HasShape shape ∧ call.2.length = shape.arity := by
  have accepted : ofSource Session.Step.facts
      (⟨leaving, none⟩ : Source _ (Fault _ Value (Session.Stop Session.Thrown))) none =
        .ok ⟨leaving, some .pair, false⟩ := rfl
  have kept : (Session.State.place 0).get leavingState = ⟨leaving, some .pair, false⟩ := rfl
  obtain ⟨_, _, _, misfit_iff, _⟩ := execute_arity_sound (Session.operations.engine 0)
    (Session.State.place 0) accepted ["a"] kept
  obtain ⟨_, _, fit, _⟩ := execute_arity_sound (Session.operations.engine 0)
    (Session.State.place 0) accepted ["a", "b"] kept
  have refused := (misfit_iff (.contextCount .pair 1)).mpr (.inl ⟨.pair, rfl, by decide, rfl⟩)
  exact ⟨accepted, kept, refused, rfl, fit⟩

end Pipeline

end StepPipeline
