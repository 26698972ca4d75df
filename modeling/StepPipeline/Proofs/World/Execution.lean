import StepPipeline.Proofs.Pipeline.Fold
import StepPipeline.Proofs.World.Action

/-!
World operations as a pipeline. What operations share is the world of their scene, so executing them
is going through them one after the other: the pipeline that is made of them is always accepted, it
completes just if all operations succeed, and if one of them is the first to fail the world stays
where the operations before it have left it. Main results: `Scene.execute_of_applyAll`,
`Scene.execute_of_stops`.
-/

set_option autoImplicit false
set_option relaxedAutoImplicit false

namespace StepPipeline

variable {ν α : Type}

/-! ### The pipeline of some operations -/

/-- The shape of a pipeline of some operations: without operations it has none. -/
def Op.shape? (ops : List (Op ν)) : Option Shape :=
  if ops.isEmpty then none else some .pair

private theorem resolveFrom_pair (index : Nat) (ops : List (Op ν)) :
    Pipeline.resolveFrom Op.facts index (some .pair) ops = .ok (some .pair) := by
  induction ops generalizing index with
  | nil => rfl
  | cons op rest ih => exact ih (index + 1)

theorem Op.accepted (ops : List (Op ν)) :
    Pipeline.ofSource Op.facts (⟨ops, none⟩ : Source (Op ν) (Scene.RunFault ν)) none =
      .ok ⟨ops, Op.shape? ops, false⟩ := by
  cases ops with
  | nil => rfl
  | cons op rest =>
    have resolved : Pipeline.resolveShape Op.facts (op :: rest) none = .ok (some .pair) :=
      resolveFrom_pair 1 rest
    simp only [Pipeline.ofSource, resolved]
    rfl

theorem Report.completed_replicate (count : Nat) :
    (⟨List.replicate count ()⟩ : Report Unit).completed = count :=
  List.length_replicate

theorem Failure.completed_replicate {ι : Type} (index : Int) (step : ι) (label : String)
    (count : Nat) : (⟨index, step, label, List.replicate count ()⟩ : Failure ι Unit).completed =
      count :=
  List.length_replicate

namespace Scene

variable [Add α] [Sub α] [Mul α] [OfNat α 4] [OfNat α 0]
variable {dynamics : Dynamics ν α} {tick : Tick ν} {ops : List (Op ν)}

def callOn (dynamics : Dynamics ν α) (contexts : List (WorldContext ν)) (op : Op ν)
    (world : World α) : Outcome (RunFault ν) Unit (World α) :=
  match contexts with
  | [.world, .tick tick] =>
    match world.apply dynamics tick op with
    | .ok world => (.ok (), world)
    | .error fault => (.error (.raised fault), world)
  | contexts => (.error (.raised (.call contexts.length)), world)

private theorem perform_callOn (contexts : List (WorldContext ν)) (op : Op ν) (scene : Scene α) :
    ((perform dynamics contexts op scene).1, (perform dynamics contexts op scene).2.world) =
      callOn dynamics contexts op scene.world := by
  unfold perform
  split
  case h_1 tick =>
    rw [callOn, World.Action.run_ofOp]
    cases scene.world.apply dynamics tick op <;> rfl
  case h_2 other =>
    unfold callOn
    split
    · exact absurd rfl (other _)
    · rfl

def sharing (dynamics : Dynamics ν α) (ops : List (Op ν)) :
    Sharing (engine dynamics).beside Place.first ops (World α) where
  view state := state.2.world
  call := callOn dynamics
  perform_view contexts op _ state := perform_callOn contexts op state.2
  view_note _ _ := rfl
  view_put _ _ := rfl

private theorem callOn_pair {world : World α} {op : Op ν} :
    callOn dynamics [.world, .tick tick] op world =
      match world.apply dynamics tick op with
      | .ok after => (.ok (), after)
      | .error fault => (.error (.raised fault), world) := rfl

theorem returns_of_applyAll {all : List (Op ν)} {world after : World α}
    (succeed : World.applyAll dynamics tick world ops = .ok after) :
    (sharing dynamics all).Returns [.world, .tick tick] ops world
      (List.replicate ops.length ()) after := by
  induction ops generalizing world with
  | nil =>
    cases succeed
    exact .nil after
  | cons op rest ih =>
    rw [World.applyAll_cons] at succeed
    obtain ⟨next, applied, others⟩ := bind_eq_ok_iff.mp succeed
    have called : (sharing dynamics all).call [.world, .tick tick] op world = (.ok (), next) := by
      change callOn dynamics [.world, .tick tick] op world = (.ok (), next)
      rw [callOn_pair, applied]
    exact .cons called (ih others)

private theorem reported_raised (results : List Unit) (op : Op ν) (fault : WorldFault) :
    ((engine dynamics).beside (τ := Pipeline (Op ν))).reported results op (.raised fault) =
      .because ⟨results.length, op, op.variant, results⟩ (.raised fault) := rfl

theorem execute_folds (dynamics : Dynamics ν α) (ops : List (Op ν)) (tick : Tick ν)
    (scene : Scene α) :
    let executed := execute dynamics ops tick scene
    (executed.1, executed.2.world) =
      (sharing dynamics ops).fold [.world, .tick tick] scene.world := by
  intro executed
  have fits : Pipeline.Fits (Op.shape? ops) 2 := by
    cases ops with
    | nil => exact Nat.le_refl 2
    | cons op rest => exact rfl
  have admitted : ((⟨ops, Op.shape? ops, false⟩ : Pipeline (Op ν)).refusal? 2 :
      Option (RunFault ν)) = none := Pipeline.refusal?_of_fits rfl fits
  simp only [executed, execute, Op.accepted]
  exact (sharing dynamics ops).seen_execute rfl admitted

theorem execute_of_applyAll {scene : Scene α} {after : World α}
    (succeed : World.applyAll dynamics tick scene.world ops = .ok after) :
    (execute dynamics ops tick scene).1 = .ok ⟨List.replicate ops.length ()⟩ ∧
      (execute dynamics ops tick scene).2.world = after := by
  have folded := execute_folds dynamics ops tick scene
  rw [(sharing dynamics ops).fold_of_returns (returns_of_applyAll succeed)] at folded
  exact ⟨congrArg Prod.fst folded, congrArg Prod.snd folded⟩

/-- An execution stops at the first operation that fails, which leaves the world alone. -/
theorem execute_of_stops {scene : Scene α} {before : List (Op ν)} {op : Op ν}
    {reached : World α} {fault : WorldFault} (rest : List (Op ν))
    (succeed : World.applyAll dynamics tick scene.world before = .ok reached)
    (fails : reached.apply dynamics tick op = .error fault) :
    let executed := execute dynamics (before ++ op :: rest) tick scene
    executed.1 = .error (.because
        ⟨before.length, op, op.variant, List.replicate before.length ()⟩ (.raised fault)) ∧
      executed.2.world = reached := by
  intro executed
  have called : callOn dynamics [.world, .tick tick] op reached =
      (.error (.raised fault), reached) := by
    rw [callOn_pair, fails]
  have stops : (sharing dynamics (before ++ op :: rest)).Stops [.world, .tick tick]
      (before ++ op :: rest) scene.world before op (List.replicate before.length ())
      (.raised fault) reached :=
    ⟨rest, reached, rfl, returns_of_applyAll succeed, called⟩
  have folded := execute_folds dynamics (before ++ op :: rest) tick scene
  rw [(sharing dynamics (before ++ op :: rest)).fold_of_stops stops] at folded
  rw [reported_raised, List.length_replicate] at folded
  exact ⟨congrArg Prod.fst folded, congrArg Prod.snd folded⟩

end Scene

end StepPipeline
