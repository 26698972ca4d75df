import StepPipeline.Proofs.Session.SingleUse

/-!
Each position once. Pipelines are also made while a session goes on, and what is known of their
lives starts only then. Still no position of any pipeline is taken twice: a pipeline that is used is
left alone from then on, and one that is not yet used, or not yet made, starts its steps in order
when its turn comes. Main results: `Conduct.calls_once` and `Conduct.script_once`.
-/

set_option autoImplicit false
set_option relaxedAutoImplicit false

namespace StepPipeline.Session

open Session.Language (SessionFault SessionEngine)

variable {π ω ρ ε : Type}

/-- The pipeline at an address has been executed, or is being executed. -/
def State.Used (address : Nat) (state : State π ω) : Prop :=
  ∃ held, state.pipelines[address]? = some held ∧ held.consumed = true

/--
What some moments do to the pipeline at an address, whether it is there or not: one that is used
they leave alone, and of another one they start the steps in order from the first one on, which uses
it.
-/
structure Once (address : Nat) (moments : List (Moment π ω)) (before after : State π ω) : Prop where
  alone : before.Used address →
    after.pipelines[address]? = before.pipelines[address]? ∧ starts address moments = []
  fresh : ¬before.Used address →
    (¬after.Used address ∧ starts address moments = []) ∨
      (after.Used address ∧ ∃ count, (starts address moments).map Prod.snd = List.range count)

theorem State.used_congr {address : Nat} {before after : State π ω}
    (same : after.pipelines[address]? = before.pipelines[address]?) :
    after.Used address ↔ before.Used address := by
  simp only [State.Used, same]

theorem starts_append (address : Nat) (first second : List (Moment π ω)) :
    starts address (first ++ second) = starts address first ++ starts address second :=
  List.filterMap_append

theorem starts_started (address index : Nat) (step : Step π) (state : State π ω)
    (rest : List (Moment π ω)) :
    starts address (⟨.started address index step, state⟩ :: rest) =
      (step, index) :: starts address rest := by
  simp [starts, Event.start?]

theorem starts_other {address : Nat} {event : Event π} {state : State π ω}
    (elsewhere : event.address? ≠ some address) : starts address [⟨event, state⟩] = [] := by
  cases event <;> simp_all [starts, Event.start?, Event.address?]

namespace Once

variable {address : Nat}

theorem of_same {moments : List (Moment π ω)} {before after : State π ω}
    (same : after.pipelines[address]? = before.pipelines[address]?)
    (none_starts : starts address moments = []) : Once address moments before after where
  alone _ := ⟨same, none_starts⟩
  fresh unused := .inl ⟨fun used => unused ((State.used_congr same).mp used), none_starts⟩

theorem trans {first second : List (Moment π ω)} {before middle after : State π ω}
    (h : Once address first before middle) (h' : Once address second middle after) :
    Once address (first ++ second) before after where
  alone used := by
    obtain ⟨same, none_first⟩ := h.alone used
    obtain ⟨same', none_second⟩ := h'.alone ((State.used_congr same).mpr used)
    exact ⟨same'.trans same, by rw [starts_append, none_first, none_second, List.append_nil]⟩
  fresh unused := by
    rw [starts_append]
    rcases h.fresh unused with ⟨still_unused, none_first⟩ | ⟨used, count, in_order⟩
    · rw [none_first, List.nil_append]
      exact h'.fresh still_unused
    · obtain ⟨same, none_second⟩ := h'.alone used
      refine .inr ⟨(State.used_congr same).mpr used, count, ?_⟩
      rw [none_second, List.append_nil, in_order]

theorem of_made (address : Nat) (pipeline : Pipeline (Step π)) (state : State π ω) :
    Once address [⟨.worked, state.allocate pipeline⟩] state (state.allocate pipeline) := by
  have none_starts : starts address [⟨.worked, state.allocate pipeline⟩] = [] :=
    starts_other (by simp [Event.address?])
  by_cases there : address < state.pipelines.length
  · refine of_same ?_ none_starts
    simp only [State.allocate, List.getElem?_append_left there]
  · refine ⟨?_, fun _ => ?_⟩
    · rintro ⟨held, here, _⟩
      exact absurd (List.getElem?_eq_some_iff.mp here).1 there
    · by_cases used : (state.allocate pipeline).Used address
      · exact .inr ⟨used, 0, by rw [none_starts]; rfl⟩
      · exact .inl ⟨used, none_starts⟩

theorem composes (address : Nat) :
    Composes address (Once address : List (Moment π ω) → State π ω → State π ω → Prop) where
  trans := trans
  silent same := of_same same rfl
  other elsewhere same := of_same same (starts_other elsewhere)
  made := of_made address

theorem starts_eq_range {moments : List (Moment π ω)} {before after : State π ω}
    (h : Once address moments before after) :
    ∃ count, (starts address moments).map Prod.snd = List.range count := by
  by_cases used : before.Used address
  · exact ⟨0, by rw [(h.alone used).2]; rfl⟩
  · rcases h.fresh used with ⟨_, none_starts⟩ | ⟨_, in_order⟩
    · exact ⟨0, by rw [none_starts]; rfl⟩
    · exact in_order

end Once

theorem starts_past_eq_nil {address count started : Nat} {past now : List (Moment π ω)}
    (in_order : (starts address (past ++ now)).map Prod.snd = List.range count)
    (again : (starts address now).map Prod.snd = List.range (started + 1)) :
    starts address past = [] := by
  rw [starts_append, List.map_append, again] at in_order
  cases earlier : starts address past with
  | nil => rfl
  | cons first others =>
    rw [earlier] at in_order
    have first_zero : first.2 = 0 := by
      have same_head := congrArg List.head? in_order
      cases count <;> simp_all [List.range_succ_eq_map]
    have distinct : (List.range count).Nodup := List.nodup_range
    rw [← in_order] at distinct
    -- but the index 0 comes again behind it
    have absent := (List.nodup_cons.mp distinct).1
    simp [first_zero] at absent

theorem map_snd_take_zipIdx {ι : Type} {items : List ι} {count : Nat}
    (bound : count ≤ items.length) : (items.zipIdx.take count).map Prod.snd = List.range count := by
  rw [List.map_take, List.zipIdx_map_snd, ← List.range_eq_range', List.take_range,
    Nat.min_eq_left bound]

/-- The indices of the steps that start in the life of a pipeline. -/
theorem Lives.starts_indices {address : Nat} {original : Pipeline (Step π)} {last : Phase}
    {moments : List (Moment π ω)} (h : Lives address original .holding moments last) :
    (starts address moments).map Prod.snd = List.range last.started := by
  rw [h.starts_eq.2]
  exact map_snd_take_zipIdx (h.started_le (Nat.zero_le _))

theorem State.held_of_admitted {address given : Nat} {state : State π ω}
    (admitted : (((State.place address).get state).refusal? given :
      Option (SessionFault π ρ ε)) = none) :
    ∃ held, state.pipelines[address]? = some held ∧ held.consumed = false ∧
      (held.refusal? given : Option (SessionFault π ρ ε)) = none := by
  cases here : state.pipelines[address]? with
  | none => simp [State.place, here, Pipeline.refusal?] at admitted
  | some held =>
    rw [get_place here] at admitted
    refine ⟨held, rfl, ?_, admitted⟩
    cases used : held.consumed with
    | false => rfl
    | true => simp [Pipeline.refusal?, used] at admitted

namespace Conduct

variable [Cause ε]

theorem calls_once (conduct : Conduct π ω ρ ε) (address depth other : Nat) (contexts : List String)
    (state : State π ω) :
    Once address (conduct.moments depth other contexts state) state
      (conduct.calls depth other contexts state).2 := by
  refine (Once.composes address).calls conduct ?_ depth other contexts state
  intro depth contexts state _
  rcases admitted : (((State.place address).get state).refusal? contexts.length :
    Option (SessionFault π ρ ε)) with _ | fault
  · obtain ⟨held, here, fresh, admitted⟩ := State.held_of_admitted admitted
    obtain ⟨count, lives, there, _⟩ := conduct.own_call_lives depth contexts state here admitted
    refine ⟨?_, fun _ => .inr ⟨⟨_, there, rfl⟩, _, lives.starts_indices⟩⟩
    rintro ⟨other, same, used⟩
    obtain rfl : held = other := Option.some.inj (here.symm.trans same)
    rw [fresh] at used
    cases used
  · have refused : conduct.calls (depth + 1) address contexts state = (.error fault, state) := by
      simp only [Conduct.calls, Pipeline.execute, admitted]
    rw [refused]
    refine .of_same rfl ?_
    simp [Conduct.moments, executionMoments, admitted, starts, Event.start?]

theorem script_once (conduct : Conduct π ω ρ ε) (address depth : Nat) (script : Script π ω ρ ε)
    (state : State π ω) :
    Once address (script.moments (conduct.calls depth) (conduct.moments depth) state) state
      (script.run (conduct.calls depth) state).2 :=
  (Once.composes address).script (conduct.calls_once address depth) script state

theorem step_alone (conduct : Conduct π ω ρ ε) (depth : Nat) {address : Nat}
    {original : Pipeline (Step π)} {rest : List (Step π)} {inside : State π ω}
    (taken : inside.pipelines[address]? = some (original.spent rest)) (contexts : List String)
    (step : Step π) :
    let script := conduct.script contexts step
    (script.run (conduct.calls depth) inside).2.pipelines[address]? = some (original.spent rest) ∧
      starts address (script.moments (conduct.calls depth) (conduct.moments depth) inside) = [] := by
  intro script
  obtain ⟨same, none_starts⟩ := (conduct.script_once address depth script inside).alone
    ⟨_, taken, rfl⟩
  exact ⟨same.trans taken, none_starts⟩

end Conduct

end StepPipeline.Session
