import StepPipeline.Session.Operation

/-!
What the operations of a session do to its store. An operation that fails keeps what it has done up
to then.
-/

set_option autoImplicit false

namespace StepPipeline.Session

/-- An action on the store, which keeps what was done before an error. -/
abbrev Action :=
  ExceptT Thrown (StateM Store)

namespace Action

def context (name : String) : Action Context := do
  return (← get).context name

def read (held : Held) : Action Value := do
  return (← get).value held

/-- The address of a list, in order to use the method of a name that only lists have. -/
def listFor (method : String) : Context → Action Nat
  | .held (.list address) => return address
  | other => throw (.missingAttribute other.typeName method)

def push (address : Nat) (held : Held) : Action Unit :=
  modify fun store => store.withItems address (store.items address ++ [held])

/-- Adds a value at the end of a list; the result is the list's new length. -/
def append (name : String) (value : Value) : Action Value := do
  let address ← listFor "append" (← context name)
  push address (.value value)
  return .int ((← get).items address).length

def takeLast (name : String) : Action Value := do
  match ← context name with
  | .held (.list address) =>
    let items := (← get).items address
    match items.getLast? with
    | none => throw .emptyList
    | some last =>
      modify fun store => store.withItems address items.dropLast
      read last
  | .dict _ => throw .noPopKey
  | other => throw (.missingAttribute other.typeName "pop")

def entry (key : String) (found : Context) : Action Held := do
  let ofEntries (entries : List (Value × Held)) : Action Held :=
    match Value.lookup? (.text key) entries with
    | some held => return held
    | none => throw (.missingKey (.text key))
  match found with
  | .dict entries => ofEntries entries
  | .mapping entries => ofEntries entries
  | .held (.list _) => throw (.textIndex "list")
  | .held (.value v) =>
    if v.isSequence then throw (.textIndex v.typeName) else throw (.notSubscriptable v.typeName)

def setEntry (name key : String) (held : Held) : Action Unit := do
  match ← context name with
  | .dict entries =>
    let entries := Value.insert (.text key) held entries
    modify fun store => store.withContext name (.dict entries)
  | .held (.list _) => throw (.textIndex "list")
  | other => throw (.notAssignable other.typeName)

def compute (result : Except Value.OperandFault Value) : Action Value :=
  match result with
  | .ok value => return value
  | .error fault => throw (.operands fault)

def addLastTwo (name : String) : Action Value := do
  discard (listFor "append" (← context name))
  let left ← takeLast name
  let right ← takeLast name
  let sum ← compute (Value.add left right)
  discard (append name sum)
  return .none

/-- Lets an amount grow: a list takes in the items of its growth and stays the same list. -/
def grow (amount : Held) (growth : Value) : Action Held := do
  match amount with
  | .value v => return .value (← compute (Value.addInPlace v growth))
  | .list address =>
    match growth.iterated? with
    | none => throw (.notIterable growth.typeName)
    | some items =>
      modify fun store => store.withItems address (store.items address ++ items.map Held.value)
      return amount

/-- Notes the present amount and lets it grow at a pace; the result is the pace. -/
def accumulate (a b : String) (perSecond : Value) : Action Value := do
  let seen ← listFor "append" (.held (← entry "seen" (← context a)))
  push seen (← entry "value" (← context a))
  let amount ← entry "value" (← context a)
  let pace ← read (← entry "dt" (← context b))
  let growth ← compute (Value.mul perSecond pace)
  setEntry a "value" (← grow amount growth)
  read (← entry "dt" (← context b))

def lastItem (v : Value) : Action Value := do
  let ofEntries (entries : List (Value × Value)) : Action Value :=
    match Value.lookup? (.int (-1)) entries with
    | some found => return found
    | none => throw (.missingKey (.int (-1)))
  match v with
  | .dict entries => ofEntries entries
  | .mapping entries => ofEntries entries
  | v =>
    if v.isSequence then return ((v.iterated?.getD []).getLast?).getD .none
    else throw (.notSubscriptable v.typeName)

def checkTrip (v : Value) : Action Unit := do
  if v.countsAsTrue then
    if Value.same (← lastItem v) (.text "trip") then throw (.told .runtime [.text "tripped"])

/-- The list of a name, in order to repeat something at its end; it must not end in `trip`. -/
def echoList (name : String) : Action Nat := do
  let found ← context name
  checkTrip ((← get).valueOf found)
  listFor "append" found

def echo (name : String) (label : Value) : Action Value := do
  push (← echoList name) (.value label)
  return label

def echoVirtual (name : String) : Action Value := do
  discard (append name (.text "virtual"))
  return .text "virtual"

/-- What a class does with contexts when it is called in the place of a step: the first of them
stands for the step. -/
def ofClass (name : String) (contexts : List String) : Action Value := do
  let first ← context (contexts.headD "")
  if (Operation.familyOfClass? name).isSome then
    throw (.unhandled first.typeName ((← get).valueOf first).shown)
  match name, contexts with
  | "Virtual", [_, other] => echoVirtual other
  | "Echo", [_, other] =>
    discard (echoList other)
    throw (.missingAttribute first.typeName "variant_name")
  | _, _ => return .none

def look (view : String → Option (Pipeline (Step Operation))) (name : String) : Action Value :=
  match view name with
  | none => throw (.unknownName name)
  | some pipeline =>
    return .list
      [.text pipeline.shown, .int pipeline.steps.length, .bool pipeline.consumed]

def ofOperation (view : String → Option (Pipeline (Step Operation))) (contexts : List String)
    (operation : Operation) : Action Value :=
  match operation, contexts with
  | .say word, _ => do
    modify fun store => { store with said := store.said ++ [word] }
    return .none
  | .const value, _ => return value
  | .push value, [a] => append a value
  | .pop, [a] => takeLast a
  | .add, [a] => addLastTwo a
  | .accumulate perSecond, [a, b] => accumulate a b perSecond
  | .tune pace, [_, b] => do
    let held ← modifyGet fun store => store.hold pace
    setEntry b "dt" held
    return .none
  | .fail _ kind args, _ => throw (.told kind args)
  | .ghost .., _ => throw (.unhandled operation.typeName operation.shown)
  | .probe _ pipe, _ => look view pipe
  | .virtual, [a] => echoVirtual a
  | .echo label, [a] => echo a label
  | .classItem name, contexts => ofClass name contexts
  | _, _ => return .none

end Action

def operations : Language Operation Store Value Thrown where
  facts := Step.facts
  label := Step.label
  uncallable? := Step.uncallable?
  work view contexts operation store := (Action.ofOperation view contexts operation).run store
  gathered results := .list results
  nothing := .none
  unknown name := .unknownName name

end StepPipeline.Session
