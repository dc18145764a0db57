import WorkloadGuard.Kind.Kubernetes
import WorkloadGuard.ResourceSet
import WorkloadGuard.Role

/-!
# Host identifiers

A host may declare its restrictions by its own name instead of by annotations. Only the last three
segments of the name count: the namespace, a constraint type and a constraint value. Two wildcards
in place of type and value leave the host free within its namespace.
-/

namespace WorkloadGuard

/-- The workload that the name of a host stands for. -/
structure HostIdentifier where
  podNamespace : String
  /-- The workload in it, unless the host may be any. -/
  constraint : Option (KubernetesKind × String)
  deriving DecidableEq, Repr

namespace HostIdentifier

def wildcard : String :=
  "*"

def lastThree? (name : String) : Option (String × String × String) :=
  match (Text.splitOn '/' name).reverse with
  | value :: type :: podNamespace :: _ => some (podNamespace, type, value)
  | _ => none

/-- The kind that a constraint type names; underscores are read as dashes only on demand. -/
def kindOfType? (acceptUnderscored : Bool) (type : String) : Option KubernetesKind :=
  if acceptUnderscored then ConstraintKind.ofEitherSpelling? type
  else ConstraintKind.ofSpelling? type

/-- Reads the name of a host. -/
def parse (acceptUnderscored : Bool) (hostId : RoleId) : Except RestrictionError HostIdentifier :=
  -- the namespace and, unless both are wildcards, type and value must be given and be no wildcards;
  -- a constraint on the namespace must repeat the namespace
  match lastThree? hostId.name with
  | none => .error (.malformedHostId hostId.text)
  | some (podNamespace, type, value) =>
    if podNamespace = "" ∨ podNamespace = wildcard then .error (.malformedHostId hostId.text)
    else if type = wildcard ∧ value = wildcard then .ok ⟨podNamespace, none⟩
    else if type = wildcard ∨ value = wildcard ∨ type = "" ∨ value = "" then
      .error (.malformedHostId hostId.text)
    else
      match kindOfType? acceptUnderscored type with
      | none => .error (.scopeNotSupported type KubernetesKind.spellings)
      | some .podNamespace =>
        if value = podNamespace then .ok ⟨podNamespace, none⟩
        else .error (.malformedHostId hostId.text)
      | some kind => .ok ⟨podNamespace, some (kind, value)⟩

def isNamespaceScoped (host : HostIdentifier) : Bool :=
  host.constraint.isNone

def toSpec (host : HostIdentifier) : ResourceSet KubernetesKind :=
  .ofSpecs ((.podNamespace, host.podNamespace) :: host.constraint.toList)

end HostIdentifier

end WorkloadGuard
