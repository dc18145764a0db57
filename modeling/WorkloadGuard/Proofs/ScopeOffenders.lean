import WorkloadGuard.Proofs.Isolation

/-!
# Offenders in scope

The scope check refuses a role with the base of one annotation, and a role may have many that are
not permitted. Here it is shown which one is blamed. Annotations for all services are searched
before those for the service that is asked for, each in list order; so the blame need not go to the
first offender of the list. Names at any other depth are not looked at.

## Main statements

- `firstOffender?_eq_some_iff`: a search below one parent finds the first offender there.
- `checkScope_eq_error_iff`: the check fails with the offender that is to blame and with no other.
- `permittedScope_iff_forall_not_offends`, `exists_blamed_iff`: where there is an offender, one is
  to blame.
- `checkScope_blames_first_offender`: when the check passes, whom it blames, and what it overlooks.
-/

namespace WorkloadGuard

/-! ## Whom the check blames -/

/-- `base` is not permitted, and some annotation in scope names it. -/
def Offends (K : Type) [DecidableEq K] [ConstraintKind K] (serviceId : String)
    (entries : List AnnotationEntry) (base : String) : Prop :=
  base ∉ ConstraintKind.permitted K ∧ ∃ entry ∈ entries, CountsInScope K serviceId base entry.name

/-- `base` follows `parent` in the first name in which something that is not permitted does. -/
def FirstOffender (K : Type) [DecidableEq K] [ConstraintKind K] (parent : String)
    (entries : List AnnotationEntry) (base : String) : Prop :=
  ∃ before entry after, entries = before ++ entry :: after ∧
    IsBaseBelow parent base entry.name ∧ base ∉ ConstraintKind.permitted K ∧
    ∀ other ∈ before, ∀ passed, IsBaseBelow parent passed other.name →
      passed ∈ ConstraintKind.permitted K

/-- The first offender among the annotations for all services or, where none of these offends, the
first among those for the service. The empty id is that of no service. -/
inductive Blamed (K : Type) [DecidableEq K] [ConstraintKind K] (serviceId : String)
    (entries : List AnnotationEntry) : String → Prop where
  | generic {base : String}
      (hfirst : FirstOffender K (ConstraintKind.provider K ++ "/") entries base) :
      Blamed K serviceId entries base
  | specific {base : String}
      (hnone : ∀ entry ∈ entries, ∀ passed,
        IsBaseBelow (ConstraintKind.provider K ++ "/") passed entry.name →
          passed ∈ ConstraintKind.permitted K)
      (hid : serviceId ≠ "")
      (hfirst : FirstOffender K (ConstraintKind.provider K ++ "/" ++ serviceId ++ "/") entries
        base) :
      Blamed K serviceId entries base

variable {K : Type} [DecidableEq K] [ConstraintKind K]

/-! ## The search for offenders -/

/-- No more than one segment follows a parent in a name. -/
theorem IsBaseBelow.unique {parent a b name : String} (ha : IsBaseBelow parent a name)
    (hb : IsBaseBelow parent b name) : a = b := by
  have hread := AnnotationIndex.baseBelow?_eq_some_iff.2 ha
  rw [AnnotationIndex.baseBelow?_eq_some_iff.2 hb] at hread
  exact (Option.some.inj hread).symm

/-- A name is found by the search when something that is not permitted follows the parent in it. -/
private theorem any_baseBelow?_iff {parent name : String} :
    (AnnotationIndex.baseBelow? parent name).any (fun base => !ConstraintKind.isPermitted K base) =
        true ↔
      ∃ base, IsBaseBelow parent base name ∧ base ∉ ConstraintKind.permitted K := by
  simp only [Option.any_eq_true, AnnotationIndex.baseBelow?_eq_some_iff,
    ConstraintKind.isPermitted, Bool.not_eq_true', List.contains_eq_mem, decide_eq_false_iff_not]

/-- A search below one parent finds the first offender there. -/
theorem firstOffender?_eq_some_iff {index : AnnotationIndex} {parent base : String} :
    firstOffender? K index parent = some base ↔ FirstOffender K parent index.entries base := by
  unfold firstOffender? AnnotationIndex.namesOneLevelBelow FirstOffender
  rw [List.find?_filterMap, Option.bind_eq_some_iff]
  simp only [List.find?_eq_some_iff_append, Bool.not_eq_true', ← Bool.not_eq_true,
    any_baseBelow?_iff, AnnotationIndex.baseBelow?_eq_some_iff, not_exists, not_and,
    Classical.not_not]
  refine ⟨?_, ?_⟩
  · intro h
    obtain ⟨entry, ⟨⟨offending, hoffending, hout⟩, before, after, heq, hbefore⟩, hbelow⟩ := h
    -- what is not permitted in the name that was found is what follows the parent there
    rw [hoffending.unique hbelow] at hout
    exact ⟨before, entry, after, heq, hbelow, hout, hbefore⟩
  · intro h
    obtain ⟨before, entry, after, heq, hbelow, hout, hbefore⟩ := h
    exact ⟨entry, ⟨⟨base, hbelow, hout⟩, before, after, heq, hbefore⟩, hbelow⟩

/-! ## The verdict on the scope -/

/-- The parents are searched in their order, so the blame goes to the service only where no
annotation for all services is in the way. -/
theorem findSome?_firstOffender?_eq_some_iff {index : AnnotationIndex} {serviceId base : String} :
    (scopeParents K serviceId).findSome? (firstOffender? K index) = some base ↔
      Blamed K serviceId index.entries base := by
  by_cases hid : serviceId = ""
  · have hparents : scopeParents K serviceId = [ConstraintKind.provider K ++ "/"] := by
      simp [scopeParents, hid]
    rw [hparents, List.findSome?_singleton, firstOffender?_eq_some_iff]
    refine ⟨.generic, ?_⟩
    intro hblamed
    cases hblamed with
    | generic hfirst => exact hfirst
    | specific _ hne _ => exact absurd hid hne
  · have hparents : scopeParents K serviceId = [ConstraintKind.provider K ++ "/"] ++
        [ConstraintKind.provider K ++ "/" ++ serviceId ++ "/"] := by
      simp [scopeParents, hid]
    rw [hparents, List.findSome?_append, List.findSome?_singleton, List.findSome?_singleton,
      Option.or_eq_some_iff, firstOffender?_eq_some_iff, firstOffender?_eq_none_iff,
      firstOffender?_eq_some_iff]
    refine ⟨?_, ?_⟩
    · intro h
      rcases h with hfirst | ⟨hnone, hfirst⟩
      · exact .generic hfirst
      · exact .specific hnone hid hfirst
    · intro hblamed
      cases hblamed with
      | generic hfirst => exact .inl hfirst
      | specific hnone _ hfirst => exact .inr ⟨hnone, hfirst⟩

/-- The check fails with the offender that is to blame, and with no other. -/
theorem checkScope_eq_error_iff {index : AnnotationIndex} {serviceId : String}
    {error : RestrictionError} :
    checkScope K index serviceId = .error error ↔
      ∃ base, Blamed K serviceId index.entries base ∧
        error = ConstraintKind.unsupported K base := by
  simp only [← findSome?_firstOffender?_eq_some_iff]
  unfold checkScope
  split
  · rename_i base hbase
    simp [hbase, eq_comm]
  · rename_i hnone
    simp [hnone]

theorem checkScope_of_blamed {serviceId base : String} {entries : List AnnotationEntry}
    (hblamed : Blamed K serviceId entries base) :
    checkScope K (.ofList entries) serviceId = .error (ConstraintKind.unsupported K base) :=
  checkScope_eq_error_iff.2 ⟨base, hblamed, rfl⟩

/-- Someone is to blame exactly when some name in scope is not permitted. -/
theorem exists_blamed_iff {serviceId : String} {entries : List AnnotationEntry} :
    (∃ base, Blamed K serviceId entries base) ↔ ¬ PermittedScope K serviceId entries := by
  have hfails : (∃ base, Blamed K serviceId entries base) ↔
      ∃ error, checkScope K (.ofList entries) serviceId = .error error := by
    simp only [checkScope_eq_error_iff, AnnotationIndex.entries_ofList]
    refine ⟨?_, ?_⟩
    · intro h
      obtain ⟨base, hblamed⟩ := h
      exact ⟨_, base, hblamed, rfl⟩
    · intro h
      obtain ⟨_, base, hblamed, _⟩ := h
      exact ⟨base, hblamed⟩
  rw [hfails, Outcome.exists_eq_error_iff, ne_eq, checkScope_eq_ok_iff,
    AnnotationIndex.entries_ofList]

theorem FirstOffender.exists_mem {parent base : String} {entries : List AnnotationEntry}
    (hfirst : FirstOffender K parent entries base) :
    base ∉ ConstraintKind.permitted K ∧ ∃ entry ∈ entries, IsBaseBelow parent base entry.name := by
  obtain ⟨before, entry, after, rfl, hbelow, hout, _⟩ := hfirst
  exact ⟨hout, entry, List.mem_append_right _ List.mem_cons_self, hbelow⟩

/-- Only offenders are blamed. -/
theorem Blamed.offends {serviceId base : String} {entries : List AnnotationEntry}
    (hblamed : Blamed K serviceId entries base) :
    Offends K serviceId entries base := by
  cases hblamed with
  | generic hfirst =>
    obtain ⟨hout, entry, hentry, hbelow⟩ := hfirst.exists_mem
    exact ⟨hout, entry, hentry, .inl hbelow⟩
  | specific _ hid hfirst =>
    obtain ⟨hout, entry, hentry, hbelow⟩ := hfirst.exists_mem
    exact ⟨hout, entry, hentry, .inr ⟨hid, hbelow⟩⟩

/-- The names are permitted exactly when there is no offender. -/
theorem permittedScope_iff_forall_not_offends {serviceId : String}
    {entries : List AnnotationEntry} :
    PermittedScope K serviceId entries ↔ ∀ base, ¬ Offends K serviceId entries base := by
  simp only [PermittedScope, Offends, not_and, not_exists]
  refine ⟨?_, ?_⟩
  · intro hscope base hout entry hentry hcounts
    exact hout (hscope entry hentry base hcounts)
  · intro hnone entry hentry base hcounts
    by_contra hout
    exact hnone base hout entry hentry hcounts

/-- Whom the scope check blames. It passes exactly when every name in scope is permitted. Otherwise
it fails with the first offender among the annotations for all services or, if there is none, with
the first among those for the service, wherever the two stand in the list. An annotation whose name
is at any other depth makes no difference to it. -/
theorem checkScope_blames_first_offender (K : Type) [DecidableEq K] [ConstraintKind K]
    (entries : List AnnotationEntry) (serviceId : String) :
    (checkScope K (.ofList entries) serviceId = .ok () ↔
      ∀ entry ∈ entries, ∀ base, CountsInScope K serviceId base entry.name →
        base ∈ ConstraintKind.permitted K) ∧
    (∀ error, checkScope K (.ofList entries) serviceId = .error error ↔
      ∃ base, Blamed K serviceId entries base ∧ error = ConstraintKind.unsupported K base) ∧
    ∀ (before after : List AnnotationEntry) (entry : AnnotationEntry),
      entries = before ++ entry :: after →
      (∀ base, ¬ CountsInScope K serviceId base entry.name) →
      checkScope K (.ofList entries) serviceId =
        checkScope K (.ofList (before ++ after)) serviceId := by
  refine ⟨checkScope_eq_ok_iff, fun error => checkScope_eq_error_iff, ?_⟩
  intro before after entry heq hout
  subst heq
  exact (readsAlike_insert hout).checkScope_eq

/-- The `shelf` of the service stands first in the list, and the `till` of all services is blamed;
what is written for another service is not looked at. -/
theorem checkScope_blames_till :
    let shelf : AnnotationEntry := ⟨"authn-k8s/prod/shelf", "oak"⟩
    let foreign : AnnotationEntry := ⟨"authn-k8s/staging/shelf", "oak"⟩
    let till : AnnotationEntry := ⟨"authn-k8s/till/", "left"⟩
    checkScope KubernetesKind (.ofList [shelf, foreign, till]) "prod" =
        .error (.scopeNotSupported "till"
          (KubernetesKind.spellings ++ [KubernetesKind.containerNameKey])) ∧
      checkScope KubernetesKind (.ofList [shelf, foreign, till]) "prod" =
        checkScope KubernetesKind (.ofList [shelf, till]) "prod" := by
  intro shelf foreign till
  have hchecked := checkScope_blames_first_offender KubernetesKind [shelf, foreign, till] "prod"
  have hsearch : firstOffender? KubernetesKind (.ofList [shelf, foreign, till]) "authn-k8s/" =
      some "till" := by decide
  have hforeign : Foreign KubernetesRole.provider "prod" foreign.name :=
    .otherService "staging" "shelf" (by decide) rfl (by decide)
  refine ⟨(hchecked.2.1 _).2 ⟨"till", .generic (firstOffender?_eq_some_iff.1 hsearch), rfl⟩, ?_⟩
  exact hchecked.2.2 [shelf] [till] foreign rfl hforeign.not_countsInScope

end WorkloadGuard
