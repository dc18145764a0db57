import WorkloadGuard.AnnotationIndex

/-!
# Validation of declared constraints

The checks that both providers apply to a role, whatever is later asked of it. They run in a fixed
order and stop at the first violation: every annotation in scope must name a permitted constraint,
every required kind must be declared, and of the exclusive kinds at most one may be.
-/

namespace WorkloadGuard

variable (K : Type) [DecidableEq K] [ConstraintKind K]

/-! ## Scope -/

/-- The parents whose children are constraints: the provider's prefix and, below it, the service. -/
def scopeParents (serviceId : String) : List String :=
  let provider := ConstraintKind.provider K
  if serviceId.isEmpty then [provider ++ "/"]
  else [provider ++ "/", provider ++ "/" ++ serviceId ++ "/"]

def firstOffender? (index : AnnotationIndex) (parent : String) : Option String :=
  (index.namesOneLevelBelow parent).find? fun name => !ConstraintKind.isPermitted K name

/-- Every annotation one level below a scope parent must name a permitted constraint. -/
def checkScope (index : AnnotationIndex) (serviceId : String) : Except RestrictionError Unit :=
  match (scopeParents K serviceId).findSome? (firstOffender? K index) with
  | some name => .error (ConstraintKind.unsupported K name)
  | none => .ok ()

variable {K}

/-! ## Declared kinds -/

def firstMissing? (spec : ResourceSet K) : Option K :=
  (ConstraintKind.inGroup .required).find? fun kind => !spec.contains kind

def checkRequired (spec : ResourceSet K) : Except RestrictionError Unit :=
  match firstMissing? spec with
  | some kind => .error (ConstraintKind.missing kind)
  | none => .ok ()

def declaredExclusive (spec : ResourceSet K) : List K :=
  (ConstraintKind.inGroup .exclusive).filter spec.contains

/-- At most one kind of the exclusive group may be declared; the error names all that are. -/
def checkExclusive (spec : ResourceSet K) : Except RestrictionError Unit :=
  if (declaredExclusive spec).length ≤ 1 then .ok ()
  else .error (.exclusiveConstraints ((declaredExclusive spec).map ConstraintKind.spelling))

def checkSpec (spec : ResourceSet K) : Except RestrictionError Unit := do
  checkRequired spec
  checkExclusive spec

end WorkloadGuard
