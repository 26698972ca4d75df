import StepPipeline.CommandLine.Program

/-!
The program: it looks up the file that the command line names and writes what the library says.
-/

set_option autoImplicit false

namespace StepPipeline.CommandLine

/-- The number by which a system says that a path leads to a directory. -/
def directoryCode : UInt32 := 21

def lookUp (path : FilePath) : IO (Except LookupFault FileEntry) := do
  try
    let bytes ← IO.FS.readBinFile path.text
    return .ok (.file bytes.toList)
  catch error =>
    match error with
    | .inappropriateType _ code _ =>
      return if code = directoryCode then .ok .directory else .error .absent
    | _ => return .error .absent

def namedPath? (words : List String) : Option FilePath :=
  match Request.ofWords words with
  | .ok ⟨.run config _, _⟩ => some (FilePath.ofText config)
  | _ => none

end StepPipeline.CommandLine

open StepPipeline in
def main (words : List String) : IO UInt32 := do
  let found ← (CommandLine.namedPath? words).mapM CommandLine.lookUp
  let completion := CommandLine.perform (fun _ => found.getD (.error .absent)) words
  IO.print completion.output
  IO.eprint completion.errors
  match completion.ending with
  | .finished status => return UInt32.ofNat status
  | .left status => return UInt32.ofNat status
  | .broken fault =>
    IO.eprintln fault.message
    return 1
