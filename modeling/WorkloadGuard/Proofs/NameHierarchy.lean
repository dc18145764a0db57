import WorkloadGuard.Validation

/-!
# The hierarchy of annotation names

Which annotations a check looks at is decided by their names alone. Here the readers of names are
related to what the names are made of: `LivesBelow` says that a name is below a provider at any
depth, `IsBaseBelow` that one segment of it follows a parent, and `CountsInScope` that this parent
is one of those whose children are constraints.

## Main statements

- `hasProvider_iff`: the test for a provider finds exactly the names below it.
- `baseBelow?_eq_some_iff`: the reader of the last segment accepts one trailing slash and no more.
- `countsInScope_iff_exists_parent`: the scope parents are the provider and, for a service that has
  an id, the service below it.
-/

namespace WorkloadGuard

/-! ## Names below a provider -/

/-- `name` has something after `provider` and a slash, be it nothing. -/
def LivesBelow (provider name : String) : Prop :=
  ∃ rest, name = provider ++ "/" ++ rest

instance (provider name : String) : Decidable (LivesBelow provider name) :=
  decidable_of_iff (Text.startsWith (provider ++ "/") name = true) Text.startsWith_iff

/-- Whatever is below a child of a provider is below the provider. -/
theorem LivesBelow.of_child {provider child name : String}
    (hbelow : LivesBelow (provider ++ "/" ++ child) name) : LivesBelow provider name := by
  obtain ⟨rest, rfl⟩ := hbelow
  exact ⟨child ++ "/" ++ rest, by simp only [String.append_assoc]⟩

/-- `base` is the only segment that follows `parent` in `name`; one trailing slash is allowed. -/
structure IsBaseBelow (parent base name : String) : Prop where
  /-- Something follows the parent. -/
  nonempty : base ≠ ""
  /-- What follows is a single segment. -/
  segment : '/' ∉ base.toList
  /-- The name holds nothing else, up to a slash at its end. -/
  spelled : name = parent ++ base ∨ name = parent ++ base ++ "/"

theorem IsBaseBelow.livesBelow {parent base name : String}
    (hbelow : IsBaseBelow (parent ++ "/") base name) : LivesBelow parent name := by
  rcases hbelow.spelled with rfl | rfl
  · exact ⟨base, rfl⟩
  · exact ⟨base ++ "/", String.append_assoc⟩

/-- A slash is the last character of `name`. -/
def EndsInSlash (name : String) : Prop :=
  name.toList.getLast? = some '/'

instance (name : String) : Decidable (EndsInSlash name) :=
  inferInstanceAs (Decidable (name.toList.getLast? = some '/'))

/-- `base` is the constraint that `name` declares according to the scope check: for every service,
or for this one if it has an id. -/
def CountsInScope (K : Type) [DecidableEq K] [ConstraintKind K] (serviceId base name : String) :
    Prop :=
  IsBaseBelow (ConstraintKind.provider K ++ "/") base name ∨
    serviceId ≠ "" ∧ IsBaseBelow (ConstraintKind.provider K ++ "/" ++ serviceId ++ "/") base name

theorem not_endsInSlash_append {parent base : String} (hnonempty : base ≠ "")
    (hsegment : '/' ∉ base.toList) : ¬ EndsInSlash (parent ++ base) := by
  intro hends
  rw [EndsInSlash, String.toList_append, List.getLast?_append, Option.or_eq_some_iff] at hends
  rcases hends with hlast | ⟨hnil, _⟩
  · exact hsegment (List.mem_of_getLast? hlast)
  · have hempty : base = "" := by simpa using hnil
    exact hnonempty hempty

/-- A single segment follows a parent without a slash after it exactly when the name is made of
both. -/
theorem isBaseBelow_and_not_endsInSlash_iff {parent base name : String} (hnonempty : base ≠ "")
    (hsegment : '/' ∉ base.toList) :
    IsBaseBelow parent base name ∧ ¬ EndsInSlash name ↔ name = parent ++ base := by
  refine ⟨?_, ?_⟩
  · intro h
    obtain ⟨hbelow, hexact⟩ := h
    rcases hbelow.spelled with rfl | rfl
    · rfl
    · -- the second spelling has the slash that `hexact` excludes
      exact absurd (by simp [EndsInSlash]) hexact
  · intro h
    subst h
    exact ⟨⟨hnonempty, hsegment, .inl rfl⟩, not_endsInSlash_append hnonempty hsegment⟩

/-! ## The readers of names -/

namespace AnnotationIndex

theorem hasProvider_iff {index : AnnotationIndex} {provider : String} :
    index.hasProvider provider = true ↔
      ∃ entry ∈ index.entries, LivesBelow provider entry.name := by
  simp only [hasProvider, List.any_eq_true, Text.startsWith_iff, LivesBelow]

/-- A single segment loses nothing when a trailing slash is dropped. -/
private theorem dropTrailing_slash_segment {base : String} (hsegment : '/' ∉ base.toList) :
    Text.dropTrailing '/' base = base := by
  apply Text.dropTrailing_of_getLast?_ne
  intro hlast
  exact hsegment (List.mem_of_getLast? hlast)

/-- The segment read below a parent is the one that the name is made of. -/
theorem baseBelow?_eq_some_iff {parent base name : String} :
    baseBelow? parent name = some base ↔ IsBaseBelow parent base name := by
  have hslash : String.singleton '/' = "/" := rfl
  simp only [baseBelow?, Option.bind_eq_bind, Option.bind_eq_some_iff,
    Text.dropLead?_eq_some_iff_append]
  refine ⟨?_, ?_⟩
  · intro h
    obtain ⟨rest, rfl, hbase⟩ := h
    -- what is read is `rest` without its trailing slash, and it passed the two tests
    split at hbase
    · cases hbase
    · rename_i htests
      obtain ⟨hnonempty, hsegment⟩ := not_or.1 htests
      cases hbase
      refine ⟨hnonempty, hsegment, ?_⟩
      rcases Text.dropTrailing_cases '/' rest with hrest | hrest
      · left
        rw [← hrest]
      · right
        rw [String.append_assoc, ← hslash, ← hrest]
  · intro h
    obtain ⟨hnonempty, hsegment, rfl | rfl⟩ := h
    · refine ⟨base, rfl, ?_⟩
      rw [dropTrailing_slash_segment hsegment, if_neg (not_or.2 ⟨hnonempty, hsegment⟩)]
    · -- the slash of the second spelling is the one that is dropped
      refine ⟨base ++ "/", String.append_assoc, ?_⟩
      rw [← hslash, Text.dropTrailing_append, if_neg (not_or.2 ⟨hnonempty, hsegment⟩)]

theorem mem_namesOneLevelBelow {index : AnnotationIndex} {parent base : String} :
    base ∈ index.namesOneLevelBelow parent ↔
      ∃ entry ∈ index.entries, IsBaseBelow parent base entry.name := by
  simp only [namesOneLevelBelow, List.mem_filterMap, baseBelow?_eq_some_iff]

end AnnotationIndex

/-! ## Names in scope -/

section Scope

variable {K : Type} [DecidableEq K] [ConstraintKind K]

theorem countsInScope_iff_exists_parent {serviceId base name : String} :
    CountsInScope K serviceId base name ↔
      ∃ parent ∈ scopeParents K serviceId, IsBaseBelow parent base name := by
  by_cases hid : serviceId = ""
  · subst hid
    simp [CountsInScope, scopeParents]
  · simp [CountsInScope, scopeParents, hid]

/-- A name counts in scope without a slash at its end exactly when it is one of the two names of
its constraint. -/
theorem countsInScope_and_not_endsInSlash_iff {serviceId base name : String} (hnonempty : base ≠ "")
    (hsegment : '/' ∉ base.toList) :
    CountsInScope K serviceId base name ∧ ¬ EndsInSlash name ↔
      name = genericName (ConstraintKind.provider K) base ∨
        serviceId ≠ "" ∧ name = specificName (ConstraintKind.provider K) serviceId base := by
  unfold CountsInScope genericName specificName
  rw [or_and_right, and_assoc, isBaseBelow_and_not_endsInSlash_iff hnonempty hsegment,
    isBaseBelow_and_not_endsInSlash_iff hnonempty hsegment]

theorem CountsInScope.livesBelow {serviceId base name : String}
    (hcounts : CountsInScope K serviceId base name) :
    LivesBelow (ConstraintKind.provider K) name := by
  rcases hcounts with hgeneric | ⟨_, hspecific⟩
  · exact hgeneric.livesBelow
  · exact hspecific.livesBelow.of_child

end Scope

end WorkloadGuard
