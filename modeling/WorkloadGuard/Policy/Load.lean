import WorkloadGuard.Files.Tree
import WorkloadGuard.Json.Parser
import WorkloadGuard.Policy.Document
import WorkloadGuard.Yaml.Document
import WorkloadGuard.Yaml.Format
import WorkloadGuard.Yaml.Merge

/-!
# Loading policies

A policy file is read as JSON if its extension says so, and as YAML otherwise. A YAML policy is the
one document of its text, and may be empty; it must not repeat a key, and merge keys are resolved
before it is read.
-/

namespace WorkloadGuard

/-- Why a policy cannot be loaded. -/
inductive PolicyLoadError where
  | unreadable (path : String) (failure : ReadFailure)
  | invalidDocument
  deriving DecidableEq, Repr

namespace PolicyLoadError

def summary : PolicyLoadError → String
  | unreadable path _ => "Failed to read file " ++ path
  | invalidDocument => "Invalid policy document"

/-- What is wrong, and why. For an invalid document the reason is left out: it is the complaint of
the parser that has read it, in the parser's own words. -/
def message : PolicyLoadError → String
  | unreadable path failure => "Failed to read file " ++ path ++ ": " ++ failure.message
  | invalidDocument => "Invalid policy document"

end PolicyLoadError

namespace Policy

def ofJsonText? (text : String) : Option (List RoleRecord) := do
  let value ← Json.parse? text
  (policyOfDocument Json.format value).toOption

def ofYamlText? (text : String) : Option (List RoleRecord) := do
  match ← Yaml.firstDocument? .v12 text with
  | none => return []
  | some node =>
    if node.isNull then return []
    (policyOfDocument Yaml.format (← node.resolve?)).toOption

def ofText? (path text : String) : Option (List RoleRecord) :=
  if Path.hasExtension "json" path then ofJsonText? text else ofYamlText? text

def load (tree : FileTree) (path : String) : Except PolicyLoadError (List RoleRecord) :=
  match tree.readText path with
  | .error failure => .error (.unreadable path failure)
  | .ok text =>
    match ofText? path text with
    | some records => .ok records
    | none => .error .invalidDocument

end Policy

end WorkloadGuard
