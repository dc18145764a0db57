import WorkloadGuard.Json.Value

/-!
# Layered values

Laying one value over another: objects are merged member by member at every depth, and anything else
is replaced.
-/

namespace WorkloadGuard.Json

def putMember (members : List (String × Value)) (name : String) (value : Value) :
    List (String × Value) :=
  if members.any (·.1 == name) then
    members.map fun member => if member.1 == name then (name, value) else member
  else members ++ [(name, value)]

mutual

def Value.overlay (base : Value) : Value → Value
  | .object upper =>
    match base with
    | .object lower => .object (overlayMembers lower upper)
    | _ => .object upper
  | upper => upper

def overlayMembers (lower : List (String × Value)) :
    List (String × Value) → List (String × Value)
  | [] => lower
  | (name, value) :: upper =>
    let merged :=
      match (lower.find? fun member => member.1 == name).map Prod.snd with
      | some old => old.overlay value
      | none => value
    overlayMembers (putMember lower name merged) upper

end

end WorkloadGuard.Json
