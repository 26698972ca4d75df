import StepPipeline.Proofs.World.Operation
import StepPipeline.World.Op

/-!
Operations are all or nothing. Every computation that can fail stands before the first change of the
world, so an operation that fails leaves the world as it was, and one that succeeds leaves what the
operation as a whole makes of the world. Main result: `World.Action.run_ofOp`.
-/

set_option autoImplicit false
set_option relaxedAutoImplicit false

namespace StepPipeline

theorem run_bind_state {φ σ β γ : Type} (first : ExceptT φ (StateM σ) β)
    (next : β → ExceptT φ (StateM σ) γ) (state : σ) :
    (first >>= next).run state =
      match first.run state with
      | (.ok result, left) => (next result).run left
      | (.error fault, left) => (.error fault, left) := by
  simp only [ExceptT.run, bind, ExceptT.bind, ExceptT.mk, StateT.bind]
  rcases first state with ⟨outcome, left⟩
  cases outcome <;> rfl

theorem run_bind_checked {φ σ β γ : Type} (found : Except φ β)
    (next : β → ExceptT φ (StateM σ) γ) (state : σ) :
    ((liftM found : ExceptT φ (StateM σ) β) >>= next).run state =
      match found with
      | .ok result => (next result).run state
      | .error fault => (.error fault, state) := by
  cases found <;> exact run_bind_state ..

namespace World.Action

variable {ν α β γ : Type}

/-- How an action ends that either makes all of a change or nothing of it. -/
def whole (world : World α) : Except WorldFault (World α) → Except WorldFault Unit × World α
  | .ok after => (.ok (), after)
  | .error fault => (.error fault, world)

theorem run_bind_get (next : World α → Action α γ) (world : World α) :
    ((get : Action α (World α)) >>= next).run world = (next world).run world :=
  run_bind_state ..

variable [Add α] [Sub α] [Mul α] [OfNat α 4] [OfNat α 0]

theorem run_effect (dynamics : Dynamics ν α) (length : ν) (op : Op ν) (world : World α) :
    (effect dynamics length op).run world = whole world (changed dynamics length world op) := by
  cases op with
  | deposit x y amount =>
    rw [effect, run_bind_get, run_bind_checked, changed]
    cases select world.height world.width x y with
    | error fault => rfl
    | ok selection =>
      dsimp only
      rw [run_bind_checked]
      cases grown : world.grid.deposited dynamics amount selection <;>
        simp only [bind, Except.bind, grown] <;> rfl
  | diffuse rate =>
    rw [effect, run_bind_checked, changed]
    cases dynamics.diffusionNumber rate length with
    | error fault => rfl
    | ok number =>
      dsimp only
      rw [run_bind_get, run_bind_checked]
      cases spread : world.grid.diffused? number <;>
        simp only [bind, Except.bind, spread] <;> rfl
  | decay halfLife =>
    rw [effect, run_bind_checked, changed]
    cases dynamics.remainder length halfLife <;> rfl
  | clear => rfl
  | advance =>
    rw [effect, run_bind_checked, changed]
    cases dynamics.duration length <;> rfl
  | other variant => rfl

/-- Performing an operation makes the whole change of the operation, or none at all. -/
theorem run_ofOp (dynamics : Dynamics ν α) (tick : Tick ν) (op : Op ν) (world : World α) :
    (ofOp dynamics tick op).run world = whole world (world.apply dynamics tick op) := by
  have changes := run_effect dynamics tick.length op world
  rw [ofOp, run_bind_state, changes, apply]
  cases changed dynamics tick.length world op <;> rfl

end World.Action

end StepPipeline
