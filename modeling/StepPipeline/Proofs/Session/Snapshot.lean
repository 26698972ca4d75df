import StepPipeline.Proofs.Pipeline.Resolution
import StepPipeline.Proofs.Session.Frame
import StepPipeline.Proofs.Session.SingleUse

/-!
Conversions are snapshots. A conversion takes all items of an object before any is looked at, and
calls none. From then on the pipeline has nothing to do with the object: whatever happens to that,
the pipeline runs the items that were taken, and a run changes no object unless the work of a step
does. Main result: `State.convert_snapshot`.
-/

set_option autoImplicit false
set_option relaxedAutoImplicit false

namespace StepPipeline

variable {ι φ σ : Type}

/-! ### What objects give -/

/-- What a supply gives when it is asked until there are no more items, and what that leaves. -/
inductive Supply.Yields : Supply ι φ σ → σ → Source ι φ → σ → Prop
  | nothing {supply rest : Supply ι φ σ} {state left : σ} :
      supply.ask state = (.nothing, rest, left) → Yields supply state ⟨[], none⟩ left
  | fault {supply rest : Supply ι φ σ} {state left : σ} {fault : φ} :
      supply.ask state = (.fault fault, rest, left) → Yields supply state ⟨[], some fault⟩ left
  | item {supply rest : Supply ι φ σ} {state asked left : σ} {item : ι} {source : Source ι φ} :
      supply.ask state = (.item item, rest, asked) → Yields rest asked source left →
      Yields supply state { source with items := item :: source.items } left

namespace Supply

variable {supply : Supply ι φ σ} {state left : σ} {source : Source ι φ}

theorem drain_of_ask (supply : Supply ι φ σ) (state : σ) :
    supply.drain state =
      match supply.ask state with
      | (.nothing, _, left) => (⟨[], none⟩, left)
      | (.fault fault, _, left) => (⟨[], some fault⟩, left)
      | (.item item, rest, asked) => (gives item rest).drain asked := by
  induction supply generalizing state with
  | ended | raised | gives => rfl
  | acts change next ih => exact ih state (change state)

theorem Yields.drain_eq (yields : supply.Yields state source left) :
    supply.drain state = (source, left) := by
  induction yields with
  | nothing asks => rw [drain_of_ask, asks]
  | fault asks => rw [drain_of_ask, asks]
  | item asks _ ih =>
    rw [drain_of_ask, asks]
    simp only [drain, ih]

theorem Yields.of_ask_eq (yields : supply.Yields state source left) {other : Supply ι φ σ} {now : σ}
    (same : other.ask now = supply.ask state) : other.Yields now source left := by
  cases yields with
  | nothing asks => exact .nothing (same.trans asks)
  | fault asks => exact .fault (same.trans asks)
  | item asks rest => exact .item (same.trans asks) rest

theorem exists_yields (supply : Supply ι φ σ) (state : σ) :
    ∃ source left, supply.Yields state source left := by
  induction supply generalizing state with
  | ended => exact ⟨_, _, .nothing rfl⟩
  | raised fault => exact ⟨_, _, .fault rfl⟩
  | gives item rest ih =>
    obtain ⟨source, left, yields⟩ := ih state
    exact ⟨_, left, .item rfl yields⟩
  | acts change next ih =>
    obtain ⟨source, left, yields⟩ := ih state (change state)
    exact ⟨source, left, yields.of_ask_eq rfl⟩

end Supply

/-! ### What comes of the items of a source -/

namespace Pipeline

variable {ρ ε : Type} {facts : ι → Facts} {source : Source ι (Fault ι ρ ε)} {pin : Option Shape}

theorem ofSource_of_raised {fault : Fault ι ρ ε} (raised : source.ending = some fault) :
    ofSource facts source pin = .error fault := by
  rw [ofSource, raised]

theorem ofSource_of_unfit (ended : source.ending = none) {index : Nat} {fault : ShapeFault}
    (unfit : FirstUnfit facts (expectedShape? facts source.items pin) source.items index fault) :
    ofSource facts source pin = .error (.misfit fault) := by
  rw [ofSource, ended]
  dsimp only
  rw [resolveShape_eq_error_iff.mpr ⟨index, unfit⟩]

theorem ofSource_of_fit (ended : source.ending = none)
    (fit : ∀ item ∈ source.items, (facts item).Fits (expectedShape? facts source.items pin)) :
    ofSource facts source pin =
      .ok { steps := source.items, shape := expectedShape? facts source.items pin } := by
  rw [ofSource, ended]
  dsimp only
  rw [resolveShape_eq_ok_iff.mpr ⟨rfl, fit⟩]

theorem raised_or_unfit_or_fit (facts : ι → Facts) (source : Source ι (Fault ι ρ ε))
    (pin : Option Shape) :
    (∃ fault, source.ending = some fault) ∨
      source.ending = none ∧
        ((∃ index fault,
          FirstUnfit facts (expectedShape? facts source.items pin) source.items index fault) ∨
        ∀ item ∈ source.items, (facts item).Fits (expectedShape? facts source.items pin)) := by
  cases ending : source.ending with
  | some fault => exact .inl ⟨fault, rfl⟩
  | none =>
    refine .inr ⟨rfl, ?_⟩
    cases resolved : resolveShape facts source.items pin with
    | error fault => exact .inl (resolveShape_eq_error_iff.mp resolved |>.imp fun _ unfit =>
        ⟨fault, unfit⟩)
    | ok shape => exact .inr (resolveShape_eq_ok_iff.mp resolved).2

end Pipeline

namespace Session

open Session.Language (SessionFault SessionEngine)

/-- The items that an object gives, how it ends, and what the giving leaves besides. -/
inductive Origin.Gives {ω : Type} : Origin ι φ ω → ω → Source ι φ → ω → Prop
  | list (items : List ι) (others : ω) : Gives (.list items) others ⟨items, none⟩ others
  | tuple (items : List ι) (others : ω) : Gives (.tuple items) others ⟨items, none⟩ others
  | generator {left : Supply ι φ ω} {others after : ω} {source : Source ι φ} :
      left.Yields others source after → Gives (.generator left) others source after

theorem Origin.exists_gives {ω : Type} (origin : Origin ι φ ω) (others : ω) :
    ∃ source after, origin.Gives others source after := by
  cases origin with
  | list items => exact ⟨_, _, .list items others⟩
  | tuple items => exact ⟨_, _, .tuple items others⟩
  | generator left =>
    obtain ⟨source, after, yields⟩ := left.exists_yields others
    exact ⟨source, after, .generator yields⟩

theorem Shelf.take_eq {ω : Type} {shelf : Shelf ι φ ω} {address : Nat} {origin : Origin ι φ ω}
    {source : Source ι φ} {others : ω} (there : shelf.origins[address]? = some origin)
    (gives : origin.Gives shelf.others source others) :
    shelf.take address = (source, ⟨shelf.origins.set address origin.taken, others⟩) := by
  have unchanged : shelf.origins.set address origin = shelf.origins := by
    obtain ⟨bound, here⟩ := List.getElem?_eq_some_iff.mp there
    rw [← here, List.set_getElem_self]
  cases gives with
  | list | tuple => simp only [take, there, Origin.taken, unchanged]
  | generator yields => simp only [take, there, Origin.taken, yields.drain_eq]

variable {π ω ρ ε : Type}

/-! ### Conversions among other work -/

def Script.convert (facts : ω → Step π → Facts) (origin : Nat) (pin : Option Shape)
    (next : Except (SessionFault π ρ ε) Nat →
      Script π (Shelf (Step π) (SessionFault π ρ ε) ω) ρ ε) :
    Script π (Shelf (Step π) (SessionFault π ρ ε) ω) ρ ε :=
  .work (fun state => (state.store.take origin).2) fun state =>
    let taken := state.store.take origin
    match Pipeline.ofSource (facts taken.2.others) taken.1 pin with
    | .error fault => next (.error fault)
    | .ok pipeline => .make pipeline fun address => next (.ok address)

variable {facts : ω → Step π → Facts} {pin : Option Shape} {place : Nat}
  {state : ShelfState π ω ρ ε}

theorem Script.convert_run
    (calls : Calls π (Shelf (Step π) (SessionFault π ρ ε) ω) ρ ε)
    (within : CallMoments π (Shelf (Step π) (SessionFault π ρ ε) ω))
    (next : Except (SessionFault π ρ ε) Nat →
      Script π (Shelf (Step π) (SessionFault π ρ ε) ω) ρ ε) :
    let converted := state.convert facts place pin
    (Script.convert facts place pin next).run calls state =
        (next converted.1).run calls converted.2 ∧
      ∃ worked : List (Moment π (Shelf (Step π) (SessionFault π ρ ε) ω)),
        (∀ moment ∈ worked, moment.event = .worked) ∧
          (Script.convert facts place pin next).moments calls within state =
            worked ++ (next converted.1).moments calls within converted.2 := by
  intro converted
  simp only [Script.convert, Script.run, Script.moments, converted, State.convert, State.receive]
  cases Pipeline.ofSource (facts (state.store.take place).2.others) (state.store.take place).1
    pin with
  | error fault => exact ⟨rfl, [_], by simp, rfl⟩
  | ok pipeline => exact ⟨rfl, [_, _], by simp, rfl⟩

def State.taken (place : Nat) (origin : Origin (Step π) (SessionFault π ρ ε) ω) (others : ω)
    (state : ShelfState π ω ρ ε) : ShelfState π ω ρ ε :=
  { state with store := ⟨state.store.origins.set place origin.taken, others⟩ }

section Taken

variable {origin : Origin (Step π) (SessionFault π ρ ε) ω}
  {source : Source (Step π) (SessionFault π ρ ε)} {others : ω}

theorem State.convert_eq (there : state.store.origins[place]? = some origin)
    (gives : origin.Gives state.store.others source others) :
    state.convert facts place pin =
      (state.taken place origin others).receive (Pipeline.ofSource (facts others) source pin) := by
  simp only [State.convert, Shelf.take_eq there gives, State.taken]

theorem State.taken_eq_self (there : state.store.origins[place]? = some origin)
    (gives : origin.Gives state.store.others source others)
    (kept : ∀ left, origin ≠ .generator left) : state.taken place origin others = state := by
  obtain ⟨bound, here⟩ := List.getElem?_eq_some_iff.mp there
  have same : origin.taken = origin ∧ state.store.others = others := by
    cases gives with
    | list | tuple => exact ⟨rfl, rfl⟩
    | @generator left => exact absurd rfl (kept left)
  rw [State.taken, same.1, ← here, List.set_getElem_self, ← same.2]

end Taken

/-! ### Pipelines that hold what was taken -/

section Later

variable [Cause ε] {address : Nat} {pipeline : Pipeline (Step π)} {state : State π ω}

/-- Whatever is done from now on, the pipeline at an address starts nothing but its own steps, in
order. It stays as it is until it is called, and a call then starts all of them if it returns. -/
def Conduct.HoldsTo (conduct : Conduct π ω ρ ε) (address : Nat) (pipeline : Pipeline (Step π))
    (state : State π ω) : Prop :=
  ∀ depth (later : Script π ω ρ ε),
    let past := later.moments (conduct.calls depth) (conduct.moments depth) state
    let now := (later.run (conduct.calls depth) state).2
    starts address past <+: pipeline.steps.zipIdx ∧
      (now.pipelines[address]? = some pipeline ∨
        now.pipelines[address]? = some (pipeline.spent [])) ∧
      (now.pipelines[address]? = some pipeline → ∀ further contexts,
        let called := conduct.calls (further + 1) address contexts now
        let moments := conduct.moments (further + 1) address contexts now
        starts address moments <+: pipeline.steps.zipIdx ∧
          ∀ report, called.1 = .ok report → starts address moments = pipeline.steps.zipIdx)

theorem Lives.starts_eq_take {phase : Phase} {moments : List (Moment π ω)}
    (lives : Lives address pipeline .holding moments phase) :
    starts address moments = pipeline.steps.zipIdx.take phase.started := by
  rw [lives.starts_eq.2]
  rfl

theorem Conduct.holdsTo (conduct : Conduct π ω ρ ε)
    (here : state.pipelines[address]? = some pipeline) :
    conduct.HoldsTo address pipeline state := by
  intro depth later past now
  obtain ⟨phase, leads, lives, there⟩ :=
    Script.follows (conduct.calls_follow depth) later state .holding here
  refine ⟨?_, ?_, ?_⟩
  · rw [lives.starts_eq_take]
    exact List.take_prefix _ _
  · rcases leads with rfl | ⟨_, count, rfl⟩
    · exact .inl there
    · exact .inr there
  · intro still further contexts called moments
    cases refused : (pipeline.refusal? contexts.length : Option (SessionFault π ρ ε)) with
    | some fault =>
      have kept : (State.place address).get now = pipeline := get_place still
      have none_start : starts address moments = [] := by
        simp [moments, Conduct.moments, executionMoments, kept, refused, starts, Event.start?]
      have no_report : called.1 = .error fault := by
        simp only [called, Conduct.calls, Pipeline.execute, kept, refused]
      refine ⟨by rw [none_start]; exact List.nil_prefix, ?_⟩
      intro report returned
      rw [no_report] at returned
      cases returned
    | none =>
      obtain ⟨count, lives, _, all⟩ :=
        conduct.own_call_lives further contexts now still refused
      refine ⟨?_, ?_⟩
      · rw [lives.starts_eq_take]
        exact List.take_prefix _ _
      · intro report returned
        have reached : pipeline.steps.zipIdx.length ≤ count := by
          rw [List.length_zipIdx]
          exact all report returned
        rw [lives.starts_eq_take]
        exact List.take_of_length_le reached

end Later

/-! ### The main result -/

section Main

variable {origin : Origin (Step π) (SessionFault π ρ ε) ω}
  {source : Source (Step π) (SessionFault π ρ ε)} {others : ω}

/-- What comes of a conversion, in the order in which it is decided: a fault of the object itself,
the first item that does not fit, or a pipeline of all items. -/
theorem State.convert_cases (facts : ω → Step π → Facts) (pin : Option Shape)
    (there : state.store.origins[place]? = some origin)
    (gives : origin.Gives state.store.others source others) :
    let converted := state.convert facts place pin
    let taken := state.taken place origin others
    let expected := Pipeline.expectedShape? (facts others) source.items pin
    (∀ fault, source.ending = some fault → converted = (.error fault, taken)) ∧
      (source.ending = none → ∀ index fault,
        Pipeline.FirstUnfit (facts others) expected source.items index fault →
        converted = (.error (.misfit fault), taken)) ∧
      (source.ending = none → (∀ item ∈ source.items, (facts others item).Fits expected) →
        converted =
          (.ok state.pipelines.length, taken.allocate ⟨source.items, expected, false⟩)) := by
  intro converted taken expected
  have converted_eq : converted = taken.receive (Pipeline.ofSource (facts others) source pin) :=
    State.convert_eq there gives
  refine ⟨?_, ?_, ?_⟩
  · intro fault raised
    rw [converted_eq, Pipeline.ofSource_of_raised raised]
    rfl
  · intro ended index fault unfit
    rw [converted_eq, Pipeline.ofSource_of_unfit ended unfit]
    rfl
  · intro ended fit
    rw [converted_eq, Pipeline.ofSource_of_fit ended fit]
    rfl

theorem State.convert_holds (there : state.store.origins[place]? = some origin)
    (gives : origin.Gives state.store.others source others) {address : Nat}
    (accepted : (state.convert facts place pin).1 = .ok address) :
    (state.convert facts place pin).2.pipelines[address]? =
      some ⟨source.items, Pipeline.expectedShape? (facts others) source.items pin, false⟩ := by
  obtain ⟨raises, rejects, accepts⟩ := State.convert_cases facts pin there gives
  rcases Pipeline.raised_or_unfit_or_fit (facts others) source pin with
    ⟨fault, raised⟩ | ⟨ended, ⟨index, fault, unfit⟩ | fit⟩
  · rw [raises fault raised] at accepted
    cases accepted
  · rw [rejects ended index fault unfit] at accepted
    cases accepted
  · rw [accepts ended fit] at accepted ⊢
    cases accepted
    simp [State.allocate, State.taken]

theorem State.convert_alike {other : Origin (Step π) (SessionFault π ρ ε) ω}
    (there : state.store.origins[place]? = some origin)
    (gives : origin.Gives state.store.others source others)
    (other_gives : other.Gives state.store.others source others) :
    let replaced : ShelfState π ω ρ ε :=
      { state with store := ⟨state.store.origins.set place other, state.store.others⟩ }
    bareOutcome (replaced.convert facts place pin) =
      bareOutcome (state.convert facts place pin) := by
  intro replaced
  have bound : place < state.store.origins.length := (List.getElem?_eq_some_iff.mp there).1
  have there_too : replaced.store.origins[place]? = some other := List.getElem?_set_self bound
  rw [State.convert_eq there gives, State.convert_eq there_too other_gives]
  cases Pipeline.ofSource (facts others) source pin <;> rfl

/--
A conversion takes all items of an object first: what is told of them, and whatever comes of the
conversion, is told in the session in which the object has given them all. A fault of the object
comes through as it is, even if an item would not fit; otherwise the first item that does not fit is
refused, and a generator has nothing left in each case. If all items fit, the pipeline holds just
these, in order. No step is called; a list or a tuple stays as it is, and so does everything else
but for what a generator does itself. From then on the pipeline starts nothing but these items,
whatever is done to the object, and a list or tuple is changed only by work of steps. Objects that
give the same items cannot be told apart by steps that do not look at them. A language makes the
same pipeline when it binds it to a name.
-/
theorem State.convert_snapshot [Cause ε]
    (conduct : Conduct π (Shelf (Step π) (SessionFault π ρ ε) ω) ρ ε)
    (facts : ω → Step π → Facts) (pin : Option Shape) {state : ShelfState π ω ρ ε}
    (there : state.store.origins[place]? = some origin) :
    (∃ source others, origin.Gives state.store.others source others) ∧
    ∀ source others, origin.Gives state.store.others source others →
    let converted := state.convert facts place pin
    let taken := state.taken place origin others
    let expected := Pipeline.expectedShape? (facts others) source.items pin
    -- what comes of it
    ((∀ fault, source.ending = some fault → converted = (.error fault, taken)) ∧
        (source.ending = none → ∀ index fault,
          Pipeline.FirstUnfit (facts others) expected source.items index fault →
          converted = (.error (.misfit fault), taken)) ∧
        (source.ending = none → (∀ item ∈ source.items, (facts others item).Fits expected) →
          converted =
            (.ok state.pipelines.length, taken.allocate ⟨source.items, expected, false⟩)) ∧
        ((∃ fault, source.ending = some fault) ∨ source.ending = none ∧
          ((∃ index fault,
              Pipeline.FirstUnfit (facts others) expected source.items index fault) ∨
            ∀ item ∈ source.items, (facts others item).Fits expected))) ∧
      -- what is left of the object
      ((∀ left, origin = .generator left →
          converted.2.store.origins[place]? = some (.generator .ended)) ∧
        ((∀ left, origin ≠ .generator left) → taken = state)) ∧
      -- what is called
      (∀ calls within next,
        (Script.convert facts place pin next).run calls state =
            (next converted.1).run calls converted.2 ∧
          ∃ worked, (∀ moment ∈ worked, moment.event = .worked) ∧
            (Script.convert facts place pin next).moments calls within state =
              worked ++ (next converted.1).moments calls within converted.2) ∧
      -- what is done with the pipeline and the object later
      (∀ address, converted.1 = .ok address →
        conduct.HoldsTo address ⟨source.items, expected, false⟩ converted.2) ∧
      (∀ depth address contexts (now : ShelfState π ω ρ ε),
        now.store.origins[place]? = some origin →
        WorkLeaves (fun store => store.origins[place]? = some origin)
          (conduct.moments depth address contexts now) →
        (conduct.calls depth address contexts now).2.store.origins[place]? = some origin) ∧
      -- what other objects would do
      (∀ other : Origin (Step π) (SessionFault π ρ ε) ω,
        other.Gives state.store.others source others →
        let replaced : ShelfState π ω ρ ε :=
          { state with store := ⟨state.store.origins.set place other, state.store.others⟩ }
        let twin := replaced.convert facts place pin
        bareOutcome twin = bareOutcome converted ∧
          ((∀ contexts step, (conduct.script contexts step).LooksAway) →
            ∀ depth (later : Script π _ ρ ε), later.LooksAway →
              bareOutcome (later.run (conduct.calls depth) twin.2) =
                bareOutcome (later.run (conduct.calls depth) converted.2))) ∧
      ∀ (language : Language π ω ρ ε) (name : String), language.facts = facts others →
        let made := language.make name source pin taken.bare
        made.1 = converted.1.map (fun _ => ()) ∧ made.2.pipelines = converted.2.pipelines := by
  refine ⟨origin.exists_gives state.store.others, ?_⟩
  intro source others gives converted taken expected
  obtain ⟨raises, rejects, accepts⟩ := State.convert_cases facts pin there gives
  have decided := Pipeline.raised_or_unfit_or_fit (facts others) source pin
  have converted_eq : converted = taken.receive (Pipeline.ofSource (facts others) source pin) :=
    State.convert_eq there gives
  have bound : place < state.store.origins.length := (List.getElem?_eq_some_iff.mp there).1
  refine ⟨⟨raises, rejects, accepts, decided⟩, ⟨?_, ?_⟩, ?_, ?_, ?_, ?_, ?_⟩
  · rintro left rfl
    have emptied : taken.store.origins[place]? = some (.generator .ended) :=
      List.getElem?_set_self bound
    rw [converted_eq]
    cases Pipeline.ofSource (facts others) source pin <;> exact emptied
  · exact State.taken_eq_self there gives
  · intro calls within next
    exact Script.convert_run calls within next
  · intro address accepted
    exact conduct.holdsTo (State.convert_holds there gives accepted)
  · intro depth address contexts now before works
    exact conduct.store_kept depth address contexts now before works
  · intro other other_gives replaced twin
    have alike : bareOutcome twin = bareOutcome converted :=
      State.convert_alike there gives other_gives
    refine ⟨alike, ?_⟩
    intro away depth later later_away
    exact later_away.run (Conduct.calls_blind away depth) _ _ (Prod.mk.inj alike).2
  · intro language name same_facts made
    have made_eq : made = language.make name source pin taken.bare := rfl
    rw [made_eq, Language.make, same_facts, converted_eq]
    cases Pipeline.ofSource (facts others) source pin <;> exact ⟨rfl, rfl⟩

end Main

private abbrev CountingShelf :=
  Shelf (Step Operation) (SessionFault Operation Value Thrown) Nat

private def idle : Conduct Operation CountingShelf Value Thrown where
  label := Step.label
  script _ _ := .ended (.ok .none)

private def brokenOff : SessionFault Operation Value Thrown :=
  .raised (.thrown (.told .value [.text "broken off"]))

/-- Gives a step of no shape, then counts and gives another one, and then raises a fault. -/
private def counting : Supply (Step Operation) (SessionFault Operation Value Thrown) Nat :=
  .gives (.own .plain) (.acts (· + 1) fun _ => .gives (.own .pop) (.raised brokenOff))

private def shelved : ShelfState Operation Nat Value Thrown where
  store := ⟨[.generator counting, .list [.own .pop, .own .pop]], 0⟩

theorem State.convert_snapshot_shelved :
    let facts (_ : Nat) := Step.facts
    shelved.store.origins[0]? = some (.generator counting) ∧
      (Origin.generator counting).Gives 0 ⟨[.own .plain, .own .pop], some brokenOff⟩ 1 ∧
      shelved.convert facts 0 none =
        (.error brokenOff,
          { shelved with store := ⟨[.generator .ended, .list [.own .pop, .own .pop]], 1⟩ }) ∧
      shelved.store.origins[1]? = some (.list [.own .pop, .own .pop]) ∧
      shelved.convert facts 1 none =
        (.ok 0, shelved.allocate ⟨[.own .pop, .own .pop], some .single, false⟩) ∧
      idle.HoldsTo 0 ⟨[.own .pop, .own .pop], some .single, false⟩
        (shelved.convert facts 1 none).2 := by
  intro facts
  have generator_there : shelved.store.origins[0]? = some (.generator counting) := rfl
  have list_there : shelved.store.origins[1]? = some (.list [.own .pop, .own .pop]) := rfl
  have gives : (Origin.generator counting).Gives 0 ⟨[.own .plain, .own .pop], some brokenOff⟩ 1 :=
    .generator (.item rfl (.item rfl (.fault rfl)))
  have fit : ∀ item ∈ [Step.own Operation.pop, .own .pop], (facts 0 item).Fits (some .single) := by
    intro item member
    simp only [List.mem_cons, List.not_mem_nil, or_false, or_self] at member
    subst member
    exact ⟨rfl, .single, rfl, rfl⟩
  obtain ⟨⟨raises, _⟩, _⟩ :=
    (State.convert_snapshot idle facts none generator_there).2 _ _ gives
  obtain ⟨⟨_, _, accepts, _⟩, _, _, holds, _⟩ :=
    (State.convert_snapshot idle facts none list_there).2 _ _ (.list _ 0)
  have accepted := accepts rfl fit
  exact ⟨generator_there, gives, raises brokenOff rfl, list_there, accepted,
    holds 0 (congrArg Prod.fst accepted)⟩

end Session

end StepPipeline
