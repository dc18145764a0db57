import WorkloadGuard.Proofs.Azure.Validation
import WorkloadGuard.Proofs.Kubernetes.Validation

/-!
# Enforcement of declared constraints

The names of annotations are read twice. The scope check reads the last segment of a name and
overlooks one slash after it, while a spec is read by looking exact names up. Here the two readings
are compared. They differ for the names that end in a slash and for no others: such a name passes as
that of a constraint, and the constraint is not enforced.

## Main statements

- `contains_identitySpec_iff`: a spec has the kinds that some name without a slash at its end
  declares.
- `validated_contains_iff`: the same for a validated role of either provider, and thus which of the
  constraints that the role was accepted with are enforced.
- `validated_without_pod`: a role with a constraint that is accepted and not enforced.
-/

namespace WorkloadGuard

variable {K : Type} [DecidableEq K] [ConstraintKind K]

/-! ## The two readings -/

/-- Some annotation that counts in scope for a kind has no slash at its end. -/
def DeclaredExactly (serviceId : String) (entries : List AnnotationEntry) (kind : K) : Prop :=
  ∃ entry ∈ entries,
    CountsInScope K serviceId (ConstraintKind.spelling kind) entry.name ∧ ¬ EndsInSlash entry.name

namespace AnnotationIndex

variable {index : AnnotationIndex} {serviceId : String} {kind : K}

/-- A spec read from annotations has exactly the kinds that some name without a slash at its end
declares. -/
theorem contains_identitySpec_iff :
    (index.identitySpec K serviceId).contains kind = true ↔
      DeclaredExactly serviceId index.entries kind := by
  have hsegment := ConstraintKind.slash_notMem_permitted (K := K) (ConstraintKind.spelling kind)
    (ConstraintKind.spelling_mem_permitted kind)
  -- nothing is found under the two names of a kind exactly when no annotation has one of them
  have hmissing : (index.identitySpec K serviceId).get? kind = none ↔
      ¬ DeclaredExactly serviceId index.entries kind := by
    unfold DeclaredExactly
    simp only [countsInScope_and_not_endsInSlash_iff hsegment.1 hsegment.2]
    refine resolve_eq_none_iff.trans ⟨?_, ?_⟩
    · intro hnone hsome
      obtain ⟨entry, hentry, hname⟩ := hsome
      obtain ⟨hgeneric, hspecific⟩ := hnone entry hentry
      rcases hname with heq | ⟨hid, heq⟩
      · exact hgeneric heq
      · exact hspecific hid heq
    · intro hnone entry hentry
      refine ⟨fun heq => ?_, fun hid heq => ?_⟩
      · exact hnone ⟨entry, hentry, .inl heq⟩
      · exact hnone ⟨entry, hentry, .inr ⟨hid, heq⟩⟩
  rw [ResourceSet.contains, Option.isSome_iff_ne_none, ne_eq, hmissing, Classical.not_not]

end AnnotationIndex

/-! ## What validated roles enforce -/

/-- Once a role is valid, a constraint that an annotation names in scope is in its spec exactly when
some annotation names it without a slash at the end. So a constraint is dropped only where every
name that declares it ends in a slash, and there it always is. -/
theorem validated_contains_iff (hostId : RoleId) (annotations : List AnnotationEntry)
    (serviceId : String) (settings : KubernetesSettings) :
    (∀ identity, KubernetesRole.validate ⟨hostId, annotations, serviceId⟩ settings = .ok identity →
      ∀ entry ∈ annotations, ∀ kind : KubernetesKind,
        CountsInScope KubernetesKind serviceId (ConstraintKind.spelling kind) entry.name →
        (identity.spec.contains kind = true ↔ DeclaredExactly serviceId annotations kind)) ∧
    ∀ spec, AzureRole.validate ⟨annotations, serviceId⟩ = .ok spec →
      ∀ entry ∈ annotations, ∀ kind : AzureKind,
        CountsInScope AzureKind serviceId (ConstraintKind.spelling kind) entry.name →
        (spec.contains kind = true ↔ DeclaredExactly serviceId annotations kind) := by
  refine ⟨?_, ?_⟩
  · intro identity hvalid entry hentry kind hcounts
    obtain ⟨_, hdeclares, _⟩ := KubernetesRole.validate_eq_ok_iff.1 hvalid
    -- the annotation itself decides that the role is not read from the name of its host
    have hlives : ∃ entry ∈ annotations, LivesBelow KubernetesRole.provider entry.name :=
      ⟨entry, hentry, hcounts.livesBelow⟩
    have hspec : identity.spec =
        (AnnotationIndex.ofList annotations).identitySpec KubernetesKind serviceId :=
      hdeclares.eq_identitySpec hlives
    rw [hspec, AnnotationIndex.contains_identitySpec_iff, AnnotationIndex.entries_ofList]
  · intro spec hvalid entry hentry kind hcounts
    obtain ⟨_, _, rfl⟩ := AzureRole.validate_eq_ok_iff.1 hvalid
    unfold AzureRole.declaredSpec
    rw [AnnotationIndex.contains_identitySpec_iff, AnnotationIndex.entries_ofList]

/-- A value for one service is enforced, whatever slash ends the name of the value for all. -/
theorem validated_contains_specific_pod :
    let role : KubernetesRole := ⟨⟨"acct:host:app"⟩,
      [⟨"authn-k8s/namespace", "ns1"⟩, ⟨"authn-k8s/pod/", "web-0"⟩,
        ⟨"authn-k8s/prod/pod", "web-1"⟩], "prod"⟩
    ∃ identity, role.validate {} = .ok identity ∧ identity.spec.contains .pod = true := by
  intro role
  have haccepted : (role.validate {}).toOption.isSome = true := by decide
  obtain ⟨identity, hidentity⟩ := Option.isSome_iff_exists.1 haccepted
  have hvalid : role.validate {} = .ok identity := Outcome.toOption_eq_some_iff.1 hidentity
  have hgeneric : CountsInScope KubernetesKind "prod" "pod" "authn-k8s/pod/" :=
    .inl ⟨by decide, by decide, .inr rfl⟩
  have hexact : DeclaredExactly "prod" role.annotations KubernetesKind.pod :=
    ⟨⟨"authn-k8s/prod/pod", "web-1"⟩, by decide, .inr ⟨by decide, by decide, by decide, .inl rfl⟩,
      by decide⟩
  refine ⟨identity, hvalid, ?_⟩
  exact ((validated_contains_iff role.hostId role.annotations role.serviceId {}).1 identity hvalid
    ⟨"authn-k8s/pod/", "web-0"⟩ (by decide) .pod hgeneric).2 hexact

/-- A role is accepted with a name that counts as that of the constraint `pod`, and its spec has no
such constraint. -/
theorem validated_without_pod :
    let role : KubernetesRole := ⟨⟨"acct:host:app"⟩,
      [⟨"authn-k8s/namespace", "ns1"⟩, ⟨"authn-k8s/pod/", "web-0"⟩], "prod"⟩
    ∃ identity, role.validate {} = .ok identity ∧
      (∃ entry ∈ role.annotations, CountsInScope KubernetesKind role.serviceId
        (ConstraintKind.spelling KubernetesKind.pod) entry.name) ∧
      identity.spec.contains .pod = false := by
  intro role
  have hread : (role.validate {}).toOption.map (fun identity => identity.spec.contains .pod) =
      some false := by decide
  obtain ⟨identity, hidentity, hpod⟩ := Option.map_eq_some_iff.1 hread
  refine ⟨identity, Outcome.toOption_eq_some_iff.1 hidentity,
    ⟨⟨"authn-k8s/pod/", "web-0"⟩, by decide, ?_⟩, hpod⟩
  exact .inl ⟨by decide, by decide, .inr rfl⟩

end WorkloadGuard
