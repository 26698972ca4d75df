import Mathlib.Data.List.Induction
import StepPipeline.Proofs.Session.Life
import StepPipeline.Session.Work

/-!
Single use of pipelines. What a row of moments tells about a pipeline follows from the phase that
it leads to: how many calls have been accepted, which steps have started, and what the pipeline
holds. Main result: `Conduct.single_use`.
-/

set_option autoImplicit false
set_option relaxedAutoImplicit false

namespace StepPipeline.Session

open Session.Language (SessionFault SessionEngine)

variable {π ω ρ ε : Type}

/-! ### What a life tells -/

/-- The steps of the pipeline at an address that start in a row of moments, with their indices. -/
def starts (address : Nat) (moments : List (Moment π ω)) : List (Step π × Nat) :=
  moments.filterMap fun moment => moment.event.start? address

namespace Lives

variable {address : Nat} {original : Pipeline (Step π)}

theorem countP_accepts {phase last : Phase} {moments : List (Moment π ω)}
    (h : Lives address original phase moments last) :
    moments.countP (fun moment => moment.event.accepts address) + phase.accepted =
      last.accepted := by
  induction h with
  | nil => simp
  | @cons phase next last moment rest step _ _ ih =>
    obtain ⟨event, state⟩ := moment
    cases step with
    | other _ elsewhere =>
      have none : event.accepts address = false := by
        cases event <;> simp_all [Event.accepts, Event.address?]
      simpa [none] using ih
    | accepted => simp_all [Event.accepts, Phase.accepted]
    | _ => simpa [Event.accepts, Phase.accepted] using ih

theorem started_le {phase last : Phase} {moments : List (Moment π ω)}
    (h : Lives address original phase moments last)
    (bound : phase.started ≤ original.steps.length) :
    last.started ≤ original.steps.length := by
  induction h with
  | nil => exact bound
  | @cons phase next last moment rest step _ _ ih =>
    obtain ⟨event, state⟩ := moment
    apply ih
    cases step with
    | started here => exact (List.getElem?_eq_some_iff.mp here).1
    | _ => exact bound

theorem starts_eq {phase last : Phase} {moments : List (Moment π ω)}
    (h : Lives address original phase moments last) :
    phase.started ≤ last.started ∧
      starts address moments =
        (original.steps.zipIdx.drop phase.started).take (last.started - phase.started) := by
  induction h with
  | nil => simp [starts]
  | @cons phase next last moment rest step _ _ ih =>
    obtain ⟨event, state⟩ := moment
    cases step with
    | other _ elsewhere =>
      have none : event.start? address = none := by
        cases event <;> simp_all [Event.start?, Event.address?]
      simpa [starts, none] using ih
    | @started index step here =>
      obtain ⟨le, rest_eq⟩ := ih
      have le : index + 1 ≤ last.started := le
      obtain ⟨bound, at_index⟩ := List.getElem?_eq_some_iff.mp here
      have first : original.steps.zipIdx.drop index =
          (step, index) :: original.steps.zipIdx.drop (index + 1) := by
        rw [List.drop_eq_getElem_cons (by rwa [List.length_zipIdx]), List.getElem_zipIdx, at_index,
          Nat.zero_add]
      have further : last.started - index = last.started - (index + 1) + 1 := by omega
      refine ⟨Nat.le_of_succ_le le, ?_⟩
      have start : starts address (⟨.started address index step, state⟩ :: rest) =
          (step, index) :: starts address rest := by
        simp [starts, Event.start?]
      change starts address (_ :: rest) =
        (original.steps.zipIdx.drop index).take (last.started - index)
      rw [start, rest_eq, first, further, List.take_succ_cons]
      rfl
    | _ => simpa [starts, Event.start?, Phase.started] using ih

theorem split {phase last : Phase} {past future : List (Moment π ω)}
    (h : Lives address original phase (past ++ future) last) :
    ∃ next, Lives address original phase past next ∧ Lives address original next future last := by
  induction past generalizing phase with
  | nil => exact ⟨phase, .nil phase, h⟩
  | cons moment rest ih =>
    cases h with
    | cons step here further =>
      obtain ⟨next, before, after⟩ := ih further
      exact ⟨next, .cons step here before, after⟩

theorem at_last {phase last : Phase} {past : List (Moment π ω)} {moment : Moment π ω}
    (h : Lives address original phase (past ++ [moment]) last) :
    moment.state.At address original last := by
  obtain ⟨next, _, final⟩ := h.split
  cases final with
  | cons _ here rest =>
    cases rest
    exact here

theorem snoc_induction {motive : List (Moment π ω) → Phase → Prop} {phase : Phase}
    (nil : motive [] phase)
    (snoc : ∀ past moment next last, motive past next →
      next.Next address original moment.event last → motive (past ++ [moment]) last)
    {moments : List (Moment π ω)} {last : Phase}
    (h : Lives address original phase moments last) : motive moments last := by
  induction moments using List.reverseRecOn generalizing last with
  | nil =>
    cases h
    exact nil
  | append_singleton past moment ih =>
    obtain ⟨next, before, final⟩ := h.split
    cases final with
    | cons step _ rest =>
      cases rest
      exact snoc past moment next _ (ih before) step

theorem running_of_started {moments : List (Moment π ω)} {last : Phase}
    (h : Lives address original .holding moments last) {index : Nat} {step : Step π}
    (start : .started address index step ∈ moments.map Moment.event)
    (unstopped : .stopped address index ∉ moments.map Moment.event) : last = .running index := by
  revert start unstopped
  refine h.snoc_induction (motive := fun moments last =>
    .started address index step ∈ moments.map Moment.event →
      .stopped address index ∉ moments.map Moment.event → last = .running index) ?_ ?_
  · intro start
    cases start
  · intro past moment next last ih final start unstopped
    obtain ⟨event, state⟩ := moment
    simp only [List.map_append, List.map_cons, List.map_nil, List.mem_append,
      List.mem_singleton, not_or] at start unstopped
    rcases start with start | rfl
    · obtain rfl := ih start unstopped.1
      cases final with
      | stopped => exact absurd rfl unstopped.2
      | _ => rfl
    · cases final with
      | other _ elsewhere => exact absurd rfl elsewhere
      | started => rfl

theorem closed_of_closed {moments : List (Moment π ω)} {last : Phase}
    (h : Lives address original .holding moments last)
    (ended : .closed address ∈ moments.map Moment.event) : ∃ count, last = .closed count := by
  revert ended
  refine h.snoc_induction (motive := fun moments last =>
    .closed address ∈ moments.map Moment.event → ∃ count, last = .closed count) ?_ ?_
  · intro ended
    cases ended
  · intro past moment next last ih final ended
    obtain ⟨event, state⟩ := moment
    simp only [List.map_append, List.map_cons, List.map_nil, List.mem_append,
      List.mem_singleton] at ended
    rcases ended with ended | rfl
    · obtain ⟨count, rfl⟩ := ih ended
      cases final <;> exact ⟨count, rfl⟩
    · cases final with
      | other _ elsewhere => exact absurd rfl elsewhere
      | closed index => exact ⟨index, rfl⟩

/-- A call has been accepted unless the pipeline still holds its steps. -/
theorem mem_accepted_iff {moments : List (Moment π ω)} {last : Phase}
    (h : Lives address original .holding moments last) :
    .accepted address ∈ moments.map Moment.event ↔ last ≠ .holding := by
  have counted := h.countP_accepts
  have some_accepted : .accepted address ∈ moments.map Moment.event ↔
      0 < moments.countP fun moment => moment.event.accepts address := by
    rw [List.countP_pos_iff]
    constructor
    · intro member
      obtain ⟨moment, member, same⟩ := List.mem_map.mp member
      exact ⟨moment, member, by simp [same, Event.accepts]⟩
    · rintro ⟨⟨event, state⟩, member, accepts⟩
      refine List.mem_map.mpr ⟨_, member, ?_⟩
      cases event <;> simp_all [Event.accepts]
  rw [some_accepted]
  cases last <;> simp_all [Phase.accepted]

end Lives

/-- What is to be seen of a pipeline at a moment of its life, by all that has happened so far. -/
structure Seen (address : Nat) (original : Pipeline (Step π)) (events : List (Event π))
    (now : Pipeline (Step π)) : Prop where
  shape : now.shape = original.shape
  holding : now.consumed = false → now.steps = original.steps
  consumed_iff : now.consumed = true ↔ .accepted address ∈ events
  running : ∀ index step, .started address index step ∈ events → .stopped address index ∉ events →
    now.consumed = true ∧ now.steps.length + index + 1 = original.steps.length
  closed : .closed address ∈ events → now.consumed = true ∧ now.steps = []

theorem Lives.seen {address : Nat} {original : Pipeline (Step π)}
    (unused : original.consumed = false) {moments : List (Moment π ω)} {last : Phase}
    (h : Lives address original .holding moments last) :
    Seen address original (moments.map Moment.event) (last.pipeline original) where
  shape := by cases last <;> rfl
  holding := by
    intro still
    cases last with
    | holding => rfl
    | ready | running | closed => cases still
  consumed_iff := by
    rw [h.mem_accepted_iff]
    cases last with
    | holding => simp [Phase.pipeline, unused]
    | ready | running | closed => simp [Phase.pipeline, Pipeline.spent]
  running := by
    intro index step start unstopped
    obtain rfl := h.running_of_started start unstopped
    have bound : index + 1 ≤ original.steps.length := h.started_le (Nat.zero_le _)
    refine ⟨rfl, ?_⟩
    simp only [Phase.pipeline, Pipeline.spent, List.length_drop]
    omega
  closed := by
    intro ended
    obtain ⟨count, rfl⟩ := h.closed_of_closed ended
    exact ⟨rfl, rfl⟩

theorem execute_of_consumed [Cause ε] (engine : SessionEngine π ω ρ ε) {address : Nat}
    (contexts : List String) {state : State π ω}
    (used : ((State.place address).get state).consumed = true) :
    Pipeline.execute engine (State.place address) contexts state = (.error .consumed, state) := by
  simp only [Pipeline.execute, Pipeline.refusal?, used, if_true]

theorem execute_of_misfit [Cause ε] (engine : SessionEngine π ω ρ ε) {address : Nat}
    {contexts : List String} {state : State π ω}
    (unused : ((State.place address).get state).consumed = false)
    (misfit : ¬Pipeline.Fits ((State.place address).get state).shape contexts.length) :
    ∃ fault, Pipeline.execute engine (State.place address) contexts state =
      (.error (.misfit fault), state) := by
  rw [← Pipeline.contextFault?_eq_none] at misfit
  obtain ⟨fault, found⟩ := Option.ne_none_iff_exists'.mp misfit
  refine ⟨fault, ?_⟩
  simp only [Pipeline.execute, Pipeline.refusal?, unused, found, Option.map_some,
    Bool.false_eq_true, if_false]

/-- A pipeline that is not consumed accepts contexts that fit, and all steps start if the call
returns. -/
theorem Conduct.call_of_fits [Cause ε] (conduct : Conduct π ω ρ ε) (depth : Nat) {address : Nat}
    {original : Pipeline (Step π)} (unused : original.consumed = false) {contexts : List String}
    (fits : Pipeline.Fits original.shape contexts.length) {state : State π ω}
    (held : state.pipelines[address]? = some original) :
    let called := conduct.calls (depth + 1) address contexts state
    let moments := conduct.moments (depth + 1) address contexts state
    .accepted address ∈ moments.map Moment.event ∧
      ∀ report, called.1 = .ok report → starts address moments = original.steps.zipIdx := by
  intro called moments
  have admitted : (original.refusal? contexts.length : Option (SessionFault π ρ ε)) = none :=
    Pipeline.refusal?_of_fits unused fits
  obtain ⟨count, lives, _, all⟩ := conduct.own_call_lives depth contexts state held admitted
  refine ⟨lives.mem_accepted_iff.mpr (by simp), ?_⟩
  intro report returned
  have enough : original.steps.length ≤ count := all report returned
  obtain ⟨_, started⟩ := lives.starts_eq
  refine started.trans (List.take_of_length_le ?_)
  simpa [Phase.started] using enough

/-! ### The main result -/

/--
A pipeline is used once, whatever the pipelines of a session do to each other. One call at most is
accepted, and steps start in order, each at most once. A consumed pipeline refuses every call, and
one that is not consumed refuses contexts that do not fit; both leave everything as it is. Contexts
that fit are accepted by a pipeline that is not consumed, and a call that returns has started all
steps. At every moment the shape is the original one; the steps are all there until a call is
accepted, only those after it are there while a step is running, and none once the call has ended.
-/
theorem Conduct.single_use [Cause ε] (conduct : Conduct π ω ρ ε) (depth : Nat)
    (main : Script π ω ρ ε) {address : Nat} {original : Pipeline (Step π)}
    (unused : original.consumed = false) {state : State π ω}
    (held : state.pipelines[address]? = some original) :
    let life := main.moments (conduct.calls depth) (conduct.moments depth) state
    let place := State.place address
    (life.countP (fun moment => moment.event.accepts address) ≤ 1 ∧
      ∃ count ≤ original.steps.length, starts address life = original.steps.zipIdx.take count) ∧
    (∀ (engine : SessionEngine π ω ρ ε) contexts state, (place.get state).consumed = true →
      Pipeline.execute engine place contexts state = (.error .consumed, state)) ∧
    (∀ (engine : SessionEngine π ω ρ ε) contexts state, (place.get state).consumed = false →
      ¬Pipeline.Fits (place.get state).shape contexts.length →
      ∃ fault, Pipeline.execute engine place contexts state = (.error (.misfit fault), state)) ∧
    (∀ depth contexts (state : State π ω), state.pipelines[address]? = some original →
      Pipeline.Fits original.shape contexts.length →
      let moments := conduct.moments (depth + 1) address contexts state
      .accepted address ∈ moments.map Moment.event ∧
        ∀ report, (conduct.calls (depth + 1) address contexts state).1 = .ok report →
          starts address moments = original.steps.zipIdx) ∧
    (∀ past moment future, life = past ++ moment :: future →
      ∃ now, moment.state.pipelines[address]? = some now ∧
        Seen address original ((past ++ [moment]).map Moment.event) now) ∧
    ∃ now, (main.run (conduct.calls depth) state).2.pipelines[address]? = some now ∧
      Seen address original (life.map Moment.event) now := by
  intro life place
  obtain ⟨last, _, lives, finally_at⟩ :=
    Script.follows (conduct.calls_follow depth) main state .holding held
  have counted := lives.countP_accepts
  obtain ⟨_, started⟩ := lives.starts_eq
  refine ⟨⟨?_, last.started, lives.started_le (Nat.zero_le _), started⟩, ?_, ?_, ?_, ?_, ?_⟩
  · have le : last.accepted ≤ 1 := by cases last <;> simp [Phase.accepted]
    rw [← counted] at le
    exact Nat.le_of_add_right_le le
  · intro engine contexts state used
    exact execute_of_consumed engine contexts used
  · intro engine contexts state fresh misfit
    exact execute_of_misfit engine fresh misfit
  · intro depth contexts state held fits
    exact conduct.call_of_fits depth unused fits held
  · intro past moment future split
    have whole : Lives address original .holding ((past ++ [moment]) ++ future) last := by
      rw [List.append_assoc, List.singleton_append, ← split]
      exact lives
    obtain ⟨now, before, _⟩ := whole.split
    exact ⟨_, before.at_last, before.seen unused⟩
  · exact ⟨_, finally_at, lives.seen unused⟩

/-- A pipeline that takes a value from a list and then executes itself. -/
private def reentrant : Pipeline (Step Operation) :=
  ⟨[.own .pop, .reenter "p", .own .pop], some .single, false⟩

private def twoValues : State Operation Store where
  pipelines := [reentrant]
  names := [("p", 0)]
  store := { contexts := [("a", .held (.list 0))], lists := [[.value (.int 1), .value (.int 2)]] }

/-- Calls the pipeline without contexts, with one, and once more without. -/
private def calledThrice : Script Operation Store Value Thrown :=
  .call 0 [] fun _ => .call 0 ["a"] fun _ => .call 0 [] fun _ => .ended (.ok .none)

theorem Conduct.single_use_reentrant :
    reentrant.consumed = false ∧ twoValues.pipelines[0]? = some reentrant ∧
      let life := calledThrice.moments (operations.conduct.calls 2) (operations.conduct.moments 2)
        twoValues
      life.countP (fun moment => moment.event.accepts 0) ≤ 1 ∧
        starts 0 life = [(.own .pop, 0), (.reenter "p", 1)] ∧
        ∃ now,
          (calledThrice.run (operations.conduct.calls 2) twoValues).2.pipelines[0]? = some now ∧
          Seen 0 reentrant (life.map Moment.event) now ∧ now = ⟨[], some .single, true⟩ := by
  have unused : reentrant.consumed = false := rfl
  have held : twoValues.pipelines[0]? = some reentrant := rfl
  obtain ⟨⟨once, _⟩, _, _, _, _, now, found, seen⟩ :=
    Conduct.single_use operations.conduct 2 calledThrice unused held
  refine ⟨unused, held, once, rfl, now, found, seen, ?_⟩
  exact (Option.some.inj found).symm

end StepPipeline.Session
