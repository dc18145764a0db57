import WorkloadGuard.Json.Merge
import WorkloadGuard.Settings.EnvironmentValue
import WorkloadGuard.Text

/-!
# Settings from the environment

Variables whose names begin with `RESTRICTIONS_` are settings. The rest of such a name, in lower
case, is a path of keys with two underscores between them. The layers of the variables are laid over
one another.
-/

namespace WorkloadGuard.Environment

open Json (Value)

/-! ## Names -/

def variableLead : List Char :=
  "RESTRICTIONS_".toList

def dotPairs : List Char → List Char
  | '_' :: '_' :: cs => '.' :: dotPairs cs
  | c :: cs => c :: dotPairs cs
  | [] => []

/-- The path of keys that a variable sets, if it is a setting. -/
def keys? (name : String) : Option (List String) :=
  -- the path ends before the first key that is empty
  let (lead, rest) := name.toList.splitAt variableLead.length
  if lead.map Char.toLower = variableLead.map Char.toLower then
    let path := Text.trim (String.ofList (dotPairs (rest.map Char.toLower)))
    if path = "" then none else some ((Text.splitOn '.' path).takeWhile (· != ""))
  else none

/-! ## Layers -/

def nest (keys : List String) (value : Value) : Value :=
  keys.foldr (fun key inner => .object [(key, inner)]) value

/-- The layer that a variable makes, if it is a setting. -/
def layer? (name content : String) : Option Value := do
  -- a variable without keys must hold an object
  match nest (← keys? name) (EnvironmentValue.ofText content) with
  | .object members => return .object members
  | _ => none

/-- The settings that the variables of an environment make; a later variable is laid over an earlier
one. -/
def settings (environment : List (String × String)) : Value :=
  environment.foldl
    (fun settings (name, content) =>
      match layer? name content with
      | some layer => settings.overlay layer
      | none => settings)
    (.object [])

end WorkloadGuard.Environment
