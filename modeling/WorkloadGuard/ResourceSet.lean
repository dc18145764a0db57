import WorkloadGuard.Kind.Basic

/-!
# Resource sets

A resource set gives at most one value to each kind of a provider. Both sides of a decision are such
sets: what a role declares, and what is observed of a request. A set is a function on the closed set
of kinds, so two sets are equal exactly when they agree on every kind, and whatever lists a set does
so in the declaration order of the kinds.

## Main statements

- `get?_insert`: a write shows at its kind and nowhere else.
- `get?_ofSpecs`: when specs are collected, the last one of a kind wins.
- `ofSpecs_toSpecs`: a set is collected from the specs that it lists.
-/

namespace WorkloadGuard

/-- A partial assignment of values to the kinds of a provider. -/
@[ext]
structure ResourceSet (K : Type) where
  get? : K → Option String

namespace ResourceSet

variable {K : Type}

instance : EmptyCollection (ResourceSet K) where
  emptyCollection := ⟨fun _ => none⟩

@[simp]
theorem get?_empty (kind : K) : (∅ : ResourceSet K).get? kind = none :=
  rfl

variable [DecidableEq K]

/-! ## Building sets -/

def insert (set : ResourceSet K) (kind : K) (value : String) : ResourceSet K :=
  ⟨fun other => if other = kind then some value else set.get? other⟩

/-- The set collected from a list of specs; a later value of a kind replaces an earlier one. -/
def ofSpecs (specs : List (K × String)) : ResourceSet K :=
  specs.foldl (fun set spec => set.insert spec.1 spec.2) ∅

@[simp]
theorem get?_insert (set : ResourceSet K) (kind other : K) (value : String) :
    (set.insert kind value).get? other = if other = kind then some value else set.get? other :=
  rfl

private theorem get?_foldl_insert (specs : List (K × String)) (set : ResourceSet K) (kind : K) :
    (specs.foldl (fun set spec => set.insert spec.1 spec.2) set).get? kind =
      ((specs.reverse.find? fun spec => spec.1 == kind).map Prod.snd).or (set.get? kind) := by
  induction specs generalizing set with
  | nil => simp
  | cons spec specs ih =>
    -- the first spec counts only where no later one has its kind
    rw [List.foldl_cons, ih, get?_insert, List.reverse_cons, List.find?_append, Option.map_or,
      Option.or_assoc]
    by_cases hkind : kind = spec.1
    · simp [hkind]
    · simp [hkind, Ne.symm hkind]

theorem get?_ofSpecs (specs : List (K × String)) (kind : K) :
    (ofSpecs specs).get? kind =
      (specs.reverse.find? fun spec => spec.1 == kind).map Prod.snd := by
  rw [ofSpecs, get?_foldl_insert, get?_empty, Option.or_none]

/-- Specs of which no two give one kind different values are collected to the set that holds them,
in whatever order they come. -/
theorem ofSpecs_eq_of_mem_iff {specs : List (K × String)} {set : ResourceSet K}
    (hspecs : ∀ spec, spec ∈ specs ↔ set.get? spec.1 = some spec.2) : ofSpecs specs = set := by
  apply ResourceSet.ext
  funext kind
  rw [get?_ofSpecs]
  cases hfound : specs.reverse.find? fun spec => spec.1 == kind with
  | none =>
    symm
    rw [Option.map_none, Option.eq_none_iff_forall_ne_some]
    intro value hvalue
    have hmem : (kind, value) ∈ specs.reverse :=
      List.mem_reverse.2 ((hspecs (kind, value)).2 hvalue)
    simpa using List.find?_eq_none.1 hfound _ hmem
  | some spec =>
    have hkind : spec.1 = kind := by simpa using List.find?_some hfound
    have hmem : spec ∈ specs := List.mem_reverse.1 (List.mem_of_find?_eq_some hfound)
    rw [Option.map_some, ← hkind, (hspecs spec).1 hmem]

/-! ## Reading sets -/

def contains (set : ResourceSet K) (kind : K) : Bool :=
  (set.get? kind).isSome

variable [ConstraintKind K]

def kinds (set : ResourceSet K) : List K :=
  (ConstraintKind.all : List K).filter set.contains

def toSpecs (set : ResourceSet K) : List (K × String) :=
  (ConstraintKind.all : List K).filterMap fun kind => (set.get? kind).map fun value => (kind, value)

def size (set : ResourceSet K) : Nat :=
  set.kinds.length

def isEmpty (set : ResourceSet K) : Bool :=
  set.kinds.isEmpty

theorem mem_toSpecs {set : ResourceSet K} {spec : K × String} :
    spec ∈ set.toSpecs ↔ set.get? spec.1 = some spec.2 := by
  obtain ⟨kind, value⟩ := spec
  simp [toSpecs, ConstraintKind.mem_all]

theorem ofSpecs_toSpecs (set : ResourceSet K) : ofSpecs set.toSpecs = set :=
  ofSpecs_eq_of_mem_iff fun _ => mem_toSpecs

instance : DecidableEq (ResourceSet K) := fun s t =>
  decidable_of_iff (∀ kind ∈ (ConstraintKind.all : List K), s.get? kind = t.get? kind)
    ⟨fun h => ResourceSet.ext (funext fun kind => h kind (ConstraintKind.mem_all kind)),
      fun h _ _ => h ▸ rfl⟩

end ResourceSet

end WorkloadGuard
