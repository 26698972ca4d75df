import StepPipeline.Text.Characters

/-!
The files below a working directory, and their paths. A path is normalised when it is read: repeated
and final slashes and the parts that stay in place are dropped, while steps to the parent remain,
since a directory on the way need not exist. Of what lies above the working directory nothing is
known but that there are directories.
-/

set_option autoImplicit false

namespace StepPipeline

structure FilePath where
  /-- The slashes at the beginning of an absolute path. -/
  root : String
  /-- The names on the way, and `..` for a step to the parent. -/
  parts : List String
  deriving DecidableEq, Repr

namespace FilePath

/-- The root of a path: exactly two slashes are kept apart from one and from more. -/
def rootOf : List Char → String
  | '/' :: '/' :: '/' :: _ => "/"
  | '/' :: '/' :: _ => "//"
  | '/' :: _ => "/"
  | _ => ""

def ofText (s : String) : FilePath :=
  { root := rootOf s.toList
    parts :=
      ((Text.split '/' s.toList).map String.ofList).filter fun part => part ≠ "" ∧ part ≠ "." }

def text (path : FilePath) : String :=
  if path.root = "" ∧ path.parts = [] then "." else path.root ++ "/".intercalate path.parts

end FilePath

inductive FileEntry where
  | file (bytes : List UInt8)
  | directory
  deriving DecidableEq, Repr

/-- Files and directories by the names on the way to them. -/
structure FileTree where
  entries : List (List String × FileEntry)

inductive FilePlace where
  /-- Below the working directory, or at it. -/
  | below (names : List String)
  /-- Above the working directory. -/
  | above
  deriving DecidableEq, Repr

inductive LookupFault where
  | absent
  /-- A name, or the whole path, is too long to be looked up. -/
  | tooLong
  deriving DecidableEq, Repr

namespace FileTree

def nameLimit : Nat := 255

def pathLimit : Nat := 4095

/-- What stands below the working directory. A directory is there if anything is in it. -/
def entry? (tree : FileTree) (names : List String) : Option FileEntry :=
  match tree.entries.find? fun found => found.1 == names with
  | some found => some found.2
  | none =>
    if names.isEmpty || tree.entries.any fun found => names.isPrefixOf found.1 then some .directory
    else none

def entryAt? (tree : FileTree) : FilePlace → Option FileEntry
  | .below names => tree.entry? names
  | .above => some .directory

def step (tree : FileTree) (place : FilePlace) (part : String) : Except LookupFault FilePlace :=
  if tree.entryAt? place ≠ some .directory then .error .absent
  else if part = ".." then
    match place with
    | .below (name :: names) => .ok (.below (name :: names).dropLast)
    | _ => .ok .above
  else if nameLimit < part.utf8ByteSize then .error .tooLong
  else match place with
    | .below names =>
      if (tree.entry? (names ++ [part])).isSome then .ok (.below (names ++ [part]))
      else .error .absent
    | .above => .error .absent

/-- What stands at a path. No name holds the null character. -/
def lookup (tree : FileTree) (path : FilePath) : Except LookupFault FileEntry := do
  if path.text.toList.contains '\x00' then .error .absent
  else if pathLimit < path.text.utf8ByteSize then .error .tooLong
  else
    let start := if path.root = "" then FilePlace.below [] else .above
    let place ← path.parts.foldlM tree.step start
    match tree.entryAt? place with
    | some entry => return entry
    | none => .error .absent

end FileTree

end StepPipeline
