import StepPipeline.Text.Quoted

/-!
Calls with too few or too many arguments.
-/

set_option autoImplicit false

namespace StepPipeline

inductive CallFault where
  /-- No arguments are given for these parameters. -/
  | missing (function : String) (parameters : List String)
  /-- More arguments are given than there are parameters. -/
  | tooMany (function : String) (taken given : Nat)
  /-- More arguments are given than there are parameters, some of which need none. -/
  | tooManyOf (function : String) (least most given : Nat)
  deriving DecidableEq, Repr

namespace CallFault

/-- Names in a row, the last two joined by `and`. -/
def enumerated : List String → String
  | [] => ""
  | [a] => a
  | [a, b] => s!"{a} and {b}"
  | names => ", ".intercalate names.dropLast ++ ", and " ++ names.getLast?.getD ""

def plural (n : Nat) : String :=
  if n = 1 then "" else "s"

def verb (given : Nat) : String :=
  if given = 1 then "was" else "were"

def message : CallFault → String
  | missing function parameters =>
    let n := parameters.length
    let names := enumerated (parameters.map Text.quoted)
    s!"{function}() missing {n} required positional argument{plural n}: {names}"
  | tooMany function taken given =>
    s!"{function}() takes {taken} positional argument{plural taken} but {given} {verb given} given"
  | tooManyOf function least most given =>
    s!"{function}() takes from {least} to {most} positional arguments but {given} " ++
      s!"{verb given} given"

/-- What is wrong with a call that gives arguments for the first of its parameters; those in
`further` need none. -/
def ofParameters? (function : String) (parameters further : List String) (given : Nat) :
    Option CallFault :=
  let least := parameters.length
  let most := least + further.length
  if given < least then some (missing function (parameters.drop given))
  else if given ≤ most then none
  else if further.isEmpty then some (tooMany function most given)
  else some (tooManyOf function least most given)

def of? (function : String) (parameters : List String) (given : Nat) : Option CallFault :=
  ofParameters? function parameters [] given

end CallFault

end StepPipeline
