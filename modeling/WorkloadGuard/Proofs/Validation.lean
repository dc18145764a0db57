import WorkloadGuard.Proofs.NameHierarchy
import WorkloadGuard.Proofs.Outcome

/-!
# What validation establishes

The checks of a role are searches for a first violation. Here each is related to the condition that
it establishes, stated without any search: `PermittedScope` for the names of annotations and
`WellFormed` for the declared kinds. Whatever a check reports is the fault of the role.

## Main statements

- `checkScope_eq_ok_iff`: the scope check passes when every name in scope is permitted.
- `checkSpec_eq_ok_iff`: the checks of a spec pass when it is well formed.
- `isConfigurationError_of_checkScope`, `isConfigurationError_of_checkSpec`: both report errors of
  configuration only.
-/

namespace WorkloadGuard

/-! ## Conditions on a role -/

/-- Every annotation that counts in scope names a permitted constraint. -/
def PermittedScope (K : Type) [DecidableEq K] [ConstraintKind K] (serviceId : String)
    (entries : List AnnotationEntry) : Prop :=
  ∀ entry ∈ entries, ∀ base, CountsInScope K serviceId base entry.name →
    base ∈ ConstraintKind.permitted K

/-- Required kinds are declared, and of the exclusive kinds at most one is. -/
structure WellFormed {K : Type} [DecidableEq K] [ConstraintKind K] (spec : ResourceSet K) :
    Prop where
  /-- Every required kind is declared. -/
  required : ∀ kind, ConstraintKind.group kind = .required → spec.contains kind = true
  /-- No two exclusive kinds are declared. -/
  exclusive : ∀ a b, ConstraintKind.group a = .exclusive → ConstraintKind.group b = .exclusive →
    spec.contains a = true → spec.contains b = true → a = b

/-- Providers that report a violation as an error of configuration. -/
class ReportsConfiguration (K : Type) [DecidableEq K] [ConstraintKind K] : Prop where
  /-- A name that is not permitted is the fault of the role. -/
  unsupported : ∀ name, (ConstraintKind.unsupported K name).isConfigurationError = true
  /-- A kind that is missing is the fault of the role. -/
  missing : ∀ kind : K, (ConstraintKind.missing kind).isConfigurationError = true

private theorem length_le_one_iff_of_nodup {α : Type} {l : List α} (hnodup : l.Nodup) :
    l.length ≤ 1 ↔ ∀ a ∈ l, ∀ b ∈ l, a = b := by
  match l, hnodup with
  | [], _ => simp
  | [a], _ => simp
  | a :: b :: l, hnodup =>
    refine ⟨?_, ?_⟩
    · intro hlength
      simp at hlength
    · intro hall
      have hab : a = b := hall a (by simp) b (by simp)
      have hmem : a ∈ b :: l := by simp [hab]
      exact absurd hmem (List.nodup_cons.1 hnodup).1

variable {K : Type} [DecidableEq K] [ConstraintKind K]

/-! ## Scope -/

theorem firstOffender?_eq_none_iff {index : AnnotationIndex} {parent : String} :
    firstOffender? K index parent = none ↔
      ∀ entry ∈ index.entries, ∀ base, IsBaseBelow parent base entry.name →
        base ∈ ConstraintKind.permitted K := by
  unfold firstOffender?
  rw [List.find?_eq_none]
  simp only [AnnotationIndex.mem_namesOneLevelBelow, ConstraintKind.isPermitted,
    List.contains_iff_mem, Bool.not_eq_true', Bool.not_eq_false, forall_exists_index, and_imp]
  refine ⟨?_, ?_⟩
  · intro hall entry hentry base hbelow
    exact hall base entry hentry hbelow
  · intro hall base entry hentry hbelow
    exact hall entry hentry base hbelow

/-- The scope check passes exactly when every name in scope is permitted. -/
theorem checkScope_eq_ok_iff {index : AnnotationIndex} {serviceId : String} :
    checkScope K index serviceId = .ok () ↔ PermittedScope K serviceId index.entries := by
  -- the check passes when no parent has an offender
  have hsearch : checkScope K index serviceId = .ok () ↔
      ∀ parent ∈ scopeParents K serviceId, firstOffender? K index parent = none := by
    rw [← List.findSome?_eq_none_iff]
    unfold checkScope
    split
    · rename_i name hname
      simp [hname]
    · rename_i hnone
      simp [hnone]
  rw [hsearch]
  simp only [firstOffender?_eq_none_iff, PermittedScope, countsInScope_iff_exists_parent]
  refine ⟨?_, ?_⟩
  · intro hall entry hentry base hcounts
    obtain ⟨parent, hparent, hbelow⟩ := hcounts
    exact hall parent hparent entry hentry base hbelow
  · intro hall parent hparent entry hentry base hbelow
    exact hall entry hentry base ⟨parent, hparent, hbelow⟩

theorem checkScope_of_permittedScope {serviceId : String} {entries : List AnnotationEntry}
    (hscope : PermittedScope K serviceId entries) :
    checkScope K (.ofList entries) serviceId = .ok () :=
  checkScope_eq_ok_iff.2 hscope

theorem isConfigurationError_of_checkScope [ReportsConfiguration K] {index : AnnotationIndex}
    {serviceId : String} {error : RestrictionError}
    (herror : checkScope K index serviceId = .error error) :
    error.isConfigurationError = true := by
  unfold checkScope at herror
  split at herror
  · cases herror
    exact ReportsConfiguration.unsupported _
  · cases herror

/-! ## Declared kinds -/

theorem checkRequired_eq_ok_iff {spec : ResourceSet K} :
    checkRequired spec = .ok () ↔
      ∀ kind, ConstraintKind.group kind = .required → spec.contains kind = true := by
  have hsearch : checkRequired spec = .ok () ↔ firstMissing? spec = none := by
    unfold checkRequired
    split
    · rename_i kind hkind
      simp [hkind]
    · rename_i hnone
      simp [hnone]
  rw [hsearch, firstMissing?, List.find?_eq_none]
  simp only [ConstraintKind.mem_inGroup, Bool.not_eq_true', Bool.not_eq_false]

theorem mem_declaredExclusive {spec : ResourceSet K} {kind : K} :
    kind ∈ declaredExclusive spec ↔
      ConstraintKind.group kind = .exclusive ∧ spec.contains kind = true := by
  rw [declaredExclusive, List.mem_filter, ConstraintKind.mem_inGroup]

theorem checkExclusive_eq_ok_iff {spec : ResourceSet K} :
    checkExclusive spec = .ok () ↔
      ∀ a b, ConstraintKind.group a = .exclusive → ConstraintKind.group b = .exclusive →
        spec.contains a = true → spec.contains b = true → a = b := by
  -- the check counts, and a count of at most one means that all members are equal
  have hnodup : (declaredExclusive spec).Nodup :=
    (ConstraintKind.nodup_all.filter _).filter _
  have hlength : checkExclusive spec = .ok () ↔ (declaredExclusive spec).length ≤ 1 := by
    unfold checkExclusive
    split
    · rename_i hle
      simp [hle]
    · rename_i hgt
      simp [hgt]
  rw [hlength, length_le_one_iff_of_nodup hnodup]
  simp only [mem_declaredExclusive]
  refine ⟨?_, ?_⟩
  · intro hall a b ha hb hda hdb
    exact hall a ⟨ha, hda⟩ b ⟨hb, hdb⟩
  · intro hall a ha b hb
    exact hall a b ha.1 hb.1 ha.2 hb.2

/-- The checks of a spec pass exactly when it is well formed. -/
theorem checkSpec_eq_ok_iff {spec : ResourceSet K} : checkSpec spec = .ok () ↔ WellFormed spec := by
  unfold checkSpec
  rw [Outcome.bind_eq_ok_iff]
  refine ⟨?_, ?_⟩
  · intro h
    obtain ⟨⟨⟩, hrequired, hexclusive⟩ := h
    exact ⟨checkRequired_eq_ok_iff.1 hrequired, checkExclusive_eq_ok_iff.1 hexclusive⟩
  · intro h
    obtain ⟨hrequired, hexclusive⟩ := h
    exact ⟨(), checkRequired_eq_ok_iff.2 hrequired, checkExclusive_eq_ok_iff.2 hexclusive⟩

theorem isConfigurationError_of_checkSpec [ReportsConfiguration K] {spec : ResourceSet K}
    {error : RestrictionError} (herror : checkSpec spec = .error error) :
    error.isConfigurationError = true := by
  unfold checkSpec at herror
  rcases Outcome.bind_eq_error_iff.1 herror with hrequired | ⟨⟨⟩, _, hexclusive⟩
  · unfold checkRequired at hrequired
    split at hrequired
    · cases hrequired
      exact ReportsConfiguration.missing _
    · cases hrequired
  · unfold checkExclusive at hexclusive
    split at hexclusive
    · cases hexclusive
    · cases hexclusive
      rfl

end WorkloadGuard
