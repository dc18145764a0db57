import WorkloadGuard.Text

/-!
# Roles

A role is known by an id `account:kind:name` and carries a list of annotations, in the order in
which its policy gives them. A login stands for one role: names that begin with `host/` are hosts,
all others are users.
-/

namespace WorkloadGuard

/-- One annotation of a role. -/
structure AnnotationEntry where
  name : String
  value : String
  deriving DecidableEq, Repr

/-- The id of a role, `account:kind:name`; ids of any other shape are kept as they are. -/
structure RoleId where
  /-- The id as it is written. -/
  text : String
  deriving DecidableEq, Repr

namespace RoleId

def ofLogin (account username : String) : RoleId :=
  match Text.dropLead? "host/" username with
  | some host => ⟨account ++ ":host:" ++ host⟩
  | none => ⟨account ++ ":user:" ++ username⟩

def kind? (id : RoleId) : Option String := do
  let (_, rest) ← Text.cut? ':' id.text
  let (kind, _) ← Text.cut? ':' rest
  return kind

/-- The part after the second colon, or after the only one, or else the whole id. -/
def name (id : RoleId) : String :=
  match Text.cut? ':' id.text with
  | none => id.text
  | some (_, rest) =>
    match Text.cut? ':' rest with
    | none => rest
    | some (_, name) => name

end RoleId

/-- A role as its policy gives it. -/
structure RoleRecord where
  id : RoleId
  annotations : List AnnotationEntry := []
  deriving DecidableEq, Repr

end WorkloadGuard
