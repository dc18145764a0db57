import WorkloadGuard.ResourceSet

/-!
# Matching

A request satisfies a role when every declared constraint is observed with an equal value. Kinds
that are observed but not declared do not matter. The error names the first declared kind, in
declaration order, that is absent or different.
-/

namespace WorkloadGuard

namespace ResourceSet

variable {K : Type} [DecidableEq K] [ConstraintKind K]

/-- The first declared kind, in declaration order, that is not observed with its value. -/
def firstUnmet? (declared observed : ResourceSet K) : Option K :=
  (declared.toSpecs.find? fun spec => observed.get? spec.1 != some spec.2).map Prod.fst

def matchAgainst (declared observed : ResourceSet K) : Except RestrictionError Unit :=
  match declared.firstUnmet? observed with
  | some kind => .error (.restrictionUnmet (ConstraintKind.spelling kind))
  | none => .ok ()

end ResourceSet

end WorkloadGuard
