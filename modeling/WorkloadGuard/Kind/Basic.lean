import WorkloadGuard.RestrictionError

/-!
# Constraint kinds

Every provider owns a closed set of constraint kinds. A kind has a spelling with dashes, under which
annotations name it, one with underscores, and a group that says how often a role may declare it.
A provider also fixes the prefix of its annotations, the names it permits below that prefix, and how
it reports a name outside them and a kind that is missing.

The class `ConstraintKind` holds these tables together with the laws that every table obeys, so that
whatever is built on it is defined and proved once for all providers.
-/

namespace WorkloadGuard

/-- How many of its kinds a role must or may declare. -/
inductive ConstraintGroup where
  /-- Every kind of the group must be declared. -/
  | required
  /-- Each kind of the group may be declared. -/
  | optional
  /-- At most one kind of the group may be declared. -/
  | exclusive
  deriving DecidableEq, Repr

/-- A closed set of constraint kinds, with the tables of the provider that owns it. -/
class ConstraintKind (K : Type) [DecidableEq K] where
  provider : String
  all : List K
  spelling : K → String
  underscored : K → String
  group : K → ConstraintGroup
  /-- The names permitted one level below the provider's prefix. -/
  permitted : List String
  unsupported : String → RestrictionError
  missing : K → RestrictionError
  mem_all : ∀ kind, kind ∈ all
  nodup_all : all.Nodup
  /-- No two kinds share a spelling. -/
  spelling_injective : ∀ a b, spelling a = spelling b → a = b
  /-- Every kind may be named by an annotation. -/
  spelling_mem_permitted : ∀ kind, spelling kind ∈ permitted
  /-- A permitted name is a single segment. -/
  slash_notMem_permitted : ∀ name ∈ permitted, name ≠ "" ∧ '/' ∉ name.toList

namespace ConstraintKind

variable {K : Type} [DecidableEq K] [ConstraintKind K]

/-! ## Looking kinds up -/

def ofSpelling? (name : String) : Option K :=
  (all : List K).find? fun kind => spelling kind == name

def ofEitherSpelling? (name : String) : Option K :=
  (all : List K).find? fun kind => spelling kind == name || underscored kind == name

def inGroup (wanted : ConstraintGroup) : List K :=
  all.filter fun kind => group kind == wanted

variable (K) in
/-- Whether an annotation below the provider's prefix may be called `name`. -/
def isPermitted (name : String) : Bool :=
  (permitted K).contains name

theorem ofSpelling?_eq_some_iff {name : String} {kind : K} :
    ofSpelling? name = some kind ↔ spelling kind = name := by
  constructor
  · intro h
    simpa using List.find?_some h
  · rintro rfl
    cases h : (ofSpelling? (spelling kind) : Option K) with
    | none => simpa using List.find?_eq_none.1 h kind (mem_all kind)
    | some other =>
      have hs : spelling other = spelling kind := by simpa using List.find?_some h
      rw [spelling_injective _ _ hs]

theorem mem_inGroup {kind : K} {wanted : ConstraintGroup} :
    kind ∈ inGroup wanted ↔ group kind = wanted := by
  simp [inGroup, mem_all]

end ConstraintKind

end WorkloadGuard
