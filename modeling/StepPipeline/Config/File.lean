import StepPipeline.Config.Reading
import StepPipeline.FileTree
import StepPipeline.Yaml.Document

/-!
Reading a configuration from a file. The file holds a YAML document in UTF-8; every end of a line
counts as a line feed.
-/

set_option autoImplicit false

namespace StepPipeline.Config

inductive FileFault where
  | absent (path : FilePath)
  | tooLong (path : FilePath)
  | directory (path : FilePath)
  /-- The file is not written in UTF-8. -/
  | undecodable
  /-- The text of the file is against the rules of the language. -/
  | malformed (path : FilePath)
  /-- A scalar of the document has no value. -/
  | scalar (fault : Yaml.Fault)
  | empty (path : FilePath)
  | notMapping
  | refused (refusal : Refusal)

def FileFault.message : FileFault → String
  | absent path => s!"Config file not found: {path.text}"
  | tooLong path => "[Errno 36] File name too long: " ++ Text.quoted path.text
  | directory path => "[Errno 21] Is a directory: " ++ Text.quoted path.text
  | undecodable => "not UTF-8"
  | malformed path => s!"Failed to parse YAML config: {path.text}"
  | scalar fault => fault.message
  | empty path => s!"Config is empty: {path.text}"
  | notMapping => "config must be a mapping."
  | refused refusal => refusal.message

/-- Is a fault one of the configuration, and not of the means to read it? -/
def FileFault.isExpected : FileFault → Bool
  | absent _ => true
  | malformed _ => true
  | empty _ => true
  | notMapping => true
  | refused (.invalid _) => true
  | _ => false

/-- The parts of a document that are looked at by themselves: the world, its fields, its sources and
their fields. -/
def partsPath : List Yaml.Step :=
  [.key "world", .key "sources", .item, .item]

def readText (path : FilePath) (bytes : List UInt8) : Except FileFault Value :=
  match Yaml.Document.ofSource? (.ofPortions (.ofBytes bytes)) with
  | .error .undecodable => .error .undecodable
  | .error .malformed => .error (.malformed path)
  | .error fault => .error (.scalar fault)
  | .ok none => .error (.empty path)
  | .ok (some document) => .ok (document.valueAlong partsPath document.root)

def ofEntry (path : FilePath) : Except LookupFault FileEntry → Except FileFault (Config Float)
  | .error .absent => .error (.absent path)
  | .error .tooLong => .error (.tooLong path)
  | .ok .directory => .error (.directory path)
  | .ok (.file bytes) => do
    match ← readText path bytes with
    | .none => .error (.empty path)
    | .dict entries =>
      match read (.dict entries) with
      | .ok config => return config
      | .error refusal => .error (.refused refusal)
    | _ => .error .notMapping

def load (tree : FileTree) (path : FilePath) : Except FileFault (Config Float) :=
  ofEntry path (tree.lookup path)

end StepPipeline.Config
