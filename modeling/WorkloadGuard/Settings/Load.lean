import WorkloadGuard.Files.Tree
import WorkloadGuard.Settings.App
import WorkloadGuard.Settings.Environment
import WorkloadGuard.Yaml.Document
import WorkloadGuard.Yaml.Format

/-!
# Loading settings

Settings have three layers, each laid over the one before: the defaults, the settings file if one is
given, and the environment. What results must be of the form of the settings, without conversion; it
is read in the lenient way.
-/

namespace WorkloadGuard

/-- Why settings cannot be loaded. -/
inductive SettingsError where
  | fileNotFound (path : String)
  | unreadableFile (path : String)
  | rejected (error : DecodeError)
  deriving DecidableEq, Repr

def SettingsError.summary : SettingsError → String
  | fileNotFound path => "config file " ++ path ++ " not found"
  | unreadableFile _ | rejected _ => "invalid validator configuration"

namespace AppSettings

/-- The most collections that may lie within one another in a settings file. -/
def maxDepth : Nat :=
  128

/-- The layer that a settings file makes; an empty file is an empty layer. -/
def layerOfText? (text : String) : Option Json.Value := do
  match ← Yaml.onlyDocument? .v11 text with
  | none => return .object []
  | some node =>
    if maxDepth < node.depth then none
    match node with
    | .scalar true "" => return .object []
    | .mapping _ => node.toJson?
    | _ => none

def fileLayer (tree : FileTree) : Option String → Except SettingsError Json.Value
  | none => .ok (.object [])
  | some path =>
    if tree.isFile path then
      match (tree.readText path).toOption.bind layerOfText? with
      | some layer => .ok layer
      | none => .error (.unreadableFile path)
    else .error (.fileNotFound path)

/-- Loads the settings from the defaults, the settings file and the environment. -/
def load (tree : FileTree) (path : Option String) (environment : List (String × String)) :
    Except SettingsError AppSettings := do
  let file ← fileLayer tree path
  let usual : AppSettings := {}
  let merged := (usual.toJson.overlay file).overlay (Environment.settings environment)
  (ofDocument Json.lenientFormat merged).mapError .rejected

end AppSettings

end WorkloadGuard
