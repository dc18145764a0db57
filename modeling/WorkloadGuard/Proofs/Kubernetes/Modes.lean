import WorkloadGuard.Proofs.Kubernetes.Validation

/-!
# The two ways to declare restrictions

A Kubernetes role is read in one of two modes: from its annotations if any lives below the provider,
and from the name of its host if none does. Here the two are kept apart. In the first mode nothing
depends on the host or on how hosts are read; in the second nothing depends on the annotations but
the container that the older one names, and the checks of a role have nothing left to object to.

## Main statements

- `HostIdentifier.wellFormed_toSpec`: whatever the name of a host declares passes the checks.
- `KubernetesRole.identityFrom_congr_of_annotated`: with annotations, roles of two hosts declare the
  same identity.
- `KubernetesRole.validate_of_unannotated`: without them, validation is the reading of the host.
- `KubernetesRole.modes_exclude_each_other`: what each mode leaves out of account.
-/

namespace WorkloadGuard

/-! ## Specs of hosts -/

namespace HostIdentifier

/-- A host declares its namespace and, if it is tied to a workload, the kind of the workload. -/
theorem contains_toSpec_iff {host : HostIdentifier} {kind : KubernetesKind} :
    host.toSpec.contains kind = true ↔
      kind = .podNamespace ∨ ∃ value, host.constraint = some (kind, value) := by
  obtain ⟨podNamespace, constraint⟩ := host
  cases constraint with
  | none => by_cases hkind : kind = .podNamespace <;>
      simp [toSpec, ResourceSet.ofSpecs, ResourceSet.contains, hkind]
  | some spec =>
    obtain ⟨constrained, value⟩ := spec
    -- the constraint is written last, so it decides for its own kind
    by_cases hkind : kind = constrained
    · simp [toSpec, ResourceSet.ofSpecs, ResourceSet.contains, hkind]
    · by_cases hnamespace : kind = .podNamespace <;>
        simp_all [toSpec, ResourceSet.ofSpecs, ResourceSet.contains, eq_comm]

/-- A host names one workload at most, so the spec of its name passes all checks. -/
theorem wellFormed_toSpec (host : HostIdentifier) : WellFormed host.toSpec := by
  rw [KubernetesRole.wellFormed_iff]
  refine ⟨contains_toSpec_iff.2 (.inl rfl), ?_⟩
  -- a controller is not the namespace, so it is what the host is tied to
  have hconstraint : ∀ kind ∈ KubernetesRole.controllers, host.toSpec.contains kind = true →
      ∃ value, host.constraint = some (kind, value) := by
    intro kind hkind hcontains
    rcases contains_toSpec_iff.1 hcontains with rfl | hvalue
    · exact absurd hkind (by decide)
    · exact hvalue
  intro a ha b hb hcontainsA hcontainsB
  obtain ⟨_, hvalueA⟩ := hconstraint a ha hcontainsA
  obtain ⟨_, hvalueB⟩ := hconstraint b hb hcontainsB
  rw [hvalueA] at hvalueB
  cases hvalueB
  rfl

/-- The checks of a role have errors of their own, none of which is a fault of its host. For a name
that is not permitted they list more names than there are kinds. -/
theorem Fault.ne_check {hostId : RoleId} {error : RestrictionError} (hfault : Fault hostId error) :
    error ≠ .namespaceMissing ∧ (∀ constraints, error ≠ .exclusiveConstraints constraints) ∧
      ∀ name, error ≠ ConstraintKind.unsupported KubernetesKind name := by
  have hlists : KubernetesKind.spellings ≠
      KubernetesKind.spellings ++ [KubernetesKind.containerNameKey] := by decide
  cases hfault with
  | malformed => exact ⟨nofun, nofun, nofun⟩
  | unknownType _ =>
    refine ⟨nofun, nofun, fun name heq => ?_⟩
    exact hlists (RestrictionError.scopeNotSupported.inj heq).2

end HostIdentifier

/-! ## Lists without annotations of a provider -/

section Unannotated

variable {K : Type} [DecidableEq K] [ConstraintKind K] {provider serviceId : String}

theorem permittedScope_of_unannotated {annotations : List AnnotationEntry}
    (hnone : ∀ entry ∈ annotations, ¬ LivesBelow (ConstraintKind.provider K) entry.name) :
    PermittedScope K serviceId annotations := by
  intro entry hentry base hcounts
  exact absurd hcounts.livesBelow (hnone entry hentry)

/-- Both names of a constraint live below the provider, so nothing is found under either. -/
theorem AnnotationIndex.resolve_of_unannotated {index : AnnotationIndex} {base : String}
    (hnone : ∀ entry ∈ index.entries, ¬ LivesBelow provider entry.name) :
    index.resolve provider serviceId base = none := by
  rw [resolve_eq_none_iff]
  intro entry hentry
  refine ⟨fun hgeneric => ?_, fun _ hspecific => ?_⟩
  · exact hnone entry hentry ⟨base, hgeneric⟩
  · have hchild : LivesBelow (provider ++ "/" ++ serviceId) entry.name := ⟨base, hspecific⟩
    exact hnone entry hentry hchild.of_child

end Unannotated

namespace KubernetesRole

variable {annotations : List AnnotationEntry}

/-! ## Roles that are read from annotations -/

/-- With an annotation below the provider, neither the host nor how hosts are read matters. -/
theorem identityFrom_congr_of_annotated
    (hbelow : ∃ entry ∈ annotations, LivesBelow provider entry.name) (hostId other : RoleId)
    (serviceId : String) (settings : KubernetesSettings) (acceptUnderscored : Bool) :
    identityFrom ⟨hostId, annotations, serviceId⟩ settings (.ofList annotations) =
      identityFrom ⟨other, annotations, serviceId⟩
        { settings with acceptUnderscoredHostSegments := acceptUnderscored }
        (.ofList annotations) := by
  have hspec (id : RoleId) (settings : KubernetesSettings) :
      declaredSpec ⟨id, annotations, serviceId⟩ settings (.ofList annotations) =
        .ok ((AnnotationIndex.ofList annotations).identitySpec KubernetesKind serviceId) :=
    declaredSpec_of_annotated hbelow
  unfold identityFrom
  rw [hspec hostId settings, hspec other _]
  -- the name of the container is not looked for in the host either
  rfl

/-! ## Roles that are read from the name of a host -/

/-- The identity that the name of a host declares; `legacy` is the container that the older
annotation names. -/
def identityOfHost (settings : KubernetesSettings) (hostId : RoleId) (legacy : Option String) :
    Except RestrictionError ApplicationIdentity :=
  (HostIdentifier.parse settings.acceptUnderscoredHostSegments hostId).map fun host =>
    ⟨host.toSpec, legacy.getD settings.defaultContainerName⟩

/-- Without an annotation below the provider, only the older one for the container is read. -/
theorem buildIdentity_of_unannotated (hostId : RoleId) (serviceId : String)
    (settings : KubernetesSettings)
    (hnone : ∀ entry ∈ annotations, ¬ LivesBelow provider entry.name) :
    buildIdentity ⟨hostId, annotations, serviceId⟩ settings =
      identityOfHost settings hostId
        (annotationValue? annotations settings.legacyContainerKey) := by
  have hspec : declaredSpec ⟨hostId, annotations, serviceId⟩ settings (.ofList annotations) =
      (HostIdentifier.parse settings.acceptUnderscoredHostSegments hostId).map
        HostIdentifier.toSpec :=
    declaredSpec_of_unannotated hnone
  have hcontainer : (AnnotationIndex.ofList annotations).resolve provider serviceId
      KubernetesKind.containerNameKey = none :=
    AnnotationIndex.resolve_of_unannotated hnone
  unfold buildIdentity identityFrom identityOfHost
  simp only [hspec, containerName, hcontainer, AnnotationIndex.get?_ofList, Option.none_or]
  cases HostIdentifier.parse settings.acceptUnderscoredHostSegments hostId with
  | error error => rfl
  | ok host => rfl

/-- Without an annotation below the provider, the checks accept whatever could be read. -/
theorem validate_of_unannotated (hostId : RoleId) (serviceId : String)
    (settings : KubernetesSettings)
    (hnone : ∀ entry ∈ annotations, ¬ LivesBelow provider entry.name) :
    validate ⟨hostId, annotations, serviceId⟩ settings =
      identityOfHost settings hostId
        (annotationValue? annotations settings.legacyContainerKey) := by
  have hscope : checkScope KubernetesKind (.ofList annotations) serviceId = .ok () :=
    checkScope_of_permittedScope (permittedScope_of_unannotated hnone)
  have hbuild := buildIdentity_of_unannotated hostId serviceId settings hnone
  unfold buildIdentity at hbuild
  simp only [validate, hscope, hbuild, identityOfHost]
  cases HostIdentifier.parse settings.acceptUnderscoredHostSegments hostId with
  | error error => rfl
  | ok host =>
    have hchecked : checkSpec host.toSpec = .ok () :=
      checkSpec_eq_ok_iff.2 host.wellFormed_toSpec
    show (checkSpec host.toSpec >>= fun _ => pure _) = _
    rw [hchecked]
    rfl

/-! ## The modes apart -/

/-- The two ways to declare restrictions exclude each other. With an annotation below the provider a
role is the same for all hosts, whether or not segments with underscores are accepted. Without one,
validation answers with what the role declares, it does so exactly if the name of the host can be
read, and what it reports is a fault of the host and never one that the checks find; the role is
then the same for all services, and of the annotations only the older one for the container
counts. -/
theorem modes_exclude_each_other (annotations : List AnnotationEntry)
    (settings : KubernetesSettings) :
    ((∃ entry ∈ annotations, LivesBelow provider entry.name) →
      ∀ (hostId other : RoleId) (serviceId : String) (acceptUnderscored : Bool),
        let changed := { settings with acceptUnderscoredHostSegments := acceptUnderscored }
        validate ⟨hostId, annotations, serviceId⟩ settings =
            validate ⟨other, annotations, serviceId⟩ changed ∧
          buildIdentity ⟨hostId, annotations, serviceId⟩ settings =
            buildIdentity ⟨other, annotations, serviceId⟩ changed ∧
          ∀ pod, authorize ⟨hostId, annotations, serviceId⟩ settings pod =
            authorize ⟨other, annotations, serviceId⟩ changed pod) ∧
    ((∀ entry ∈ annotations, ¬ LivesBelow provider entry.name) →
      ∀ (hostId : RoleId) (serviceId : String),
        validate ⟨hostId, annotations, serviceId⟩ settings =
            buildIdentity ⟨hostId, annotations, serviceId⟩ settings ∧
          ((∃ identity, validate ⟨hostId, annotations, serviceId⟩ settings = .ok identity) ↔
            ∃ host, HostIdentifier.parse settings.acceptUnderscoredHostSegments hostId =
              .ok host) ∧
          (∀ error, validate ⟨hostId, annotations, serviceId⟩ settings = .error error →
            HostIdentifier.Fault hostId error ∧ error ≠ .namespaceMissing ∧
              (∀ constraints, error ≠ .exclusiveConstraints constraints) ∧
              ∀ name, error ≠ ConstraintKind.unsupported KubernetesKind name) ∧
          ∀ (others : List AnnotationEntry) (otherService : String),
            (∀ entry ∈ others, ¬ LivesBelow provider entry.name) →
            annotationValue? others settings.legacyContainerKey =
              annotationValue? annotations settings.legacyContainerKey →
            validate ⟨hostId, others, otherService⟩ settings =
                validate ⟨hostId, annotations, serviceId⟩ settings ∧
              buildIdentity ⟨hostId, others, otherService⟩ settings =
                buildIdentity ⟨hostId, annotations, serviceId⟩ settings) := by
  refine ⟨?_, ?_⟩
  · intro hbelow hostId other serviceId acceptUnderscored changed
    have hidentity := identityFrom_congr_of_annotated hbelow hostId other serviceId settings
      acceptUnderscored
    have hbuild : buildIdentity ⟨hostId, annotations, serviceId⟩ settings =
        buildIdentity ⟨other, annotations, serviceId⟩ changed := hidentity
    refine ⟨?_, hbuild, fun pod => ?_⟩
    · simp only [validate, hidentity, changed]
    · simp only [authorize, hbuild]
  · intro hnone hostId serviceId
    have hvalidate := validate_of_unannotated hostId serviceId settings hnone
    have hbuild := buildIdentity_of_unannotated hostId serviceId settings hnone
    refine ⟨hvalidate.trans hbuild.symm, ?_, ?_, ?_⟩
    · simp only [hvalidate, identityOfHost, Outcome.map_eq_ok_iff]
      refine ⟨?_, ?_⟩
      · intro h
        obtain ⟨_, host, hparse, _⟩ := h
        exact ⟨host, hparse⟩
      · intro h
        obtain ⟨host, hparse⟩ := h
        exact ⟨_, host, hparse, rfl⟩
    · intro error herror
      rw [hvalidate] at herror
      have hfault : HostIdentifier.Fault hostId error :=
        HostIdentifier.fault_of_parse (Outcome.map_eq_error_iff.1 herror)
      exact ⟨hfault, hfault.ne_check⟩
    · intro others otherService hothers hlegacy
      rw [validate_of_unannotated hostId otherService settings hothers,
        buildIdentity_of_unannotated hostId otherService settings hothers, hlegacy]
      exact ⟨hvalidate.symm, hbuild.symm⟩

/-- A namespace among the annotations hides that a host has an unreadable name, and a description
does not hide what another host declares by its name. -/
theorem modes_of_shop :
    let namespaced : List AnnotationEntry := [⟨"authn-k8s/namespace", "shop"⟩]
    let described : List AnnotationEntry := [⟨"description", "till"⟩]
    validate ⟨⟨"acme:host:web"⟩, namespaced, "prod"⟩ {} =
        validate ⟨⟨"acme:host:shop/stateful_set/db"⟩, namespaced, "prod"⟩
          { acceptUnderscoredHostSegments := false } ∧
      ∃ identity, validate ⟨⟨"acme:host:shop/stateful_set/db"⟩, described, "prod"⟩ {} =
        .ok identity := by
  intro namespaced described
  have hbelow : ∃ entry ∈ namespaced, LivesBelow provider entry.name :=
    ⟨_, List.mem_singleton_self _, by decide⟩
  have hnone : ∀ entry ∈ described, ¬ LivesBelow provider entry.name := by decide
  refine ⟨?_, ?_⟩
  · exact ((modes_exclude_each_other namespaced {}).1 hbelow ⟨"acme:host:web"⟩
      ⟨"acme:host:shop/stateful_set/db"⟩ "prod" false).1
  · refine ((modes_exclude_each_other described {}).2 hnone
      ⟨"acme:host:shop/stateful_set/db"⟩ "prod").2.1.2 ?_
    exact ⟨⟨"shop", some (.statefulSet, "db")⟩, by rfl⟩

end KubernetesRole

end WorkloadGuard
