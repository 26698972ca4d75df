import StepPipeline.Proofs.Config.Format

/-!
Writing a configuration as a payload. Numbers are written as what they are, so a written
configuration describes itself and nothing else, and it is read again just if it is admitted. What
has been read once is in this form, whatever numerals it was read from. Main result:
`read_written`.
-/

set_option autoImplicit false
set_option relaxedAutoImplicit false

namespace StepPipeline.Config

def Source.written (source : Source Float) : Value :=
  .dict [(.text "x", .int source.x), (.text "y", .int source.y),
    (.text "amount", .float source.amount)]

def writtenHalfLife : Option Float → Value
  | none => .none
  | some x => .float x

def writtenWorld (config : Config Float) : List (Value × Value) :=
  [(.text "Nx", .int config.width), (.text "Ny", .int config.height),
    (.text "dt_s", .float config.tickLength), (.text "diffusivity", .float config.diffusivity),
    (.text "half_life_s", writtenHalfLife config.halfLife),
    (.text "sources", .list (config.sources.map Source.written))]

def written (config : Config Float) : Value :=
  .dict [(.text "world", .dict (writtenWorld config))]

theorem describesSource_written (source : Source Float) : DescribesSource source.written source :=
  ⟨_, rfl, rfl, rfl, rfl⟩

theorem describesHalfLife_written (halfLife : Option Float) :
    DescribesHalfLife (some (writtenHalfLife halfLife)) halfLife := by
  cases halfLife with
  | none => exact .empty
  | some x => exact .given rfl

theorem forall₂_written (sources : List (Source Float)) :
    List.Forall₂ DescribesSource (sources.map Source.written) sources := by
  induction sources with
  | nil => exact .nil
  | cons source rest ih => exact .cons (describesSource_written source) ih

theorem describesWorld_written (config : Config Float) :
    DescribesWorld (writtenWorld config) config where
  width := rfl
  height := rfl
  tickLength := .inl rfl
  diffusivity := .inl rfl
  halfLife := describesHalfLife_written config.halfLife
  sources := .given (forall₂_written config.sources)

theorem describes_written (config : Config Float) : Describes (written config) config :=
  ⟨_, writtenWorld config, rfl, rfl, describesWorld_written config⟩

theorem read_written_iff (config : Config Float) :
    read (written config) = .ok config ↔ Admitted config := by
  rw [read_eq_ok_iff]
  exact and_iff_right (describes_written config)

/-- What has been read is read again from what is written of it, and is the same. -/
theorem read_written {payload : Value} {config : Config Float}
    (accepted : read payload = .ok config) : read (written config) = .ok config := by
  have admitted := (read_eq_ok_iff.mp accepted).2
  exact (read_written_iff config).mpr admitted

/-- A world whose numbers are numerals, whole floating-point numbers or too long to be exact. -/
def spelled : Value :=
  .mapping [(.text "world", .dict [(.text "Nx", .bytes [0x20, 0x33]), (.text "Ny", .text "1_0"),
    (.text "dt_s", .text "NaN"), (.text "diffusivity", .float (-0.0)),
    (.text "half_life_s", .text "+Infinity"), (.text "sources", .list [.dict
      [(.text "x", .float 2.0), (.text "y", .text "+7"), (.text "amount", .int 9007199254740993)]])])]

def spelledConfig : Config Float where
  width := 3
  height := 10
  tickLength := Numeral.Binary64.nan
  diffusivity := -0.0
  halfLife := some Numeral.Binary64.infinity
  sources := [⟨2, 7, 9007199254740992.0⟩]

theorem read_written_spelled :
    read spelled = .ok spelledConfig ∧ read (written spelledConfig) = .ok spelledConfig := by
  have accepted : read spelled = .ok spelledConfig := rfl
  exact ⟨accepted, read_written accepted⟩

end StepPipeline.Config
