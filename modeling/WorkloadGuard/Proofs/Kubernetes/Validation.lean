import WorkloadGuard.Kubernetes.Restrictions
import WorkloadGuard.Proofs.Declaration
import WorkloadGuard.Proofs.Validation

/-!
# Valid Kubernetes roles

A Kubernetes role declares a spec in one of two ways, by its annotations or by the name of its host,
and never by both. Here `DeclaresSpec` says which spec that is, and validation is shown to succeed
exactly on the roles that declare a well-formed one and name nothing else in scope.

## Main statements

- `declaredSpec_eq_ok_iff`: reading a role finds the spec that it declares.
- `validate_eq_ok_iff`: what a validated role has passed, and that nothing else is asked of it.
- `isConfigurationError_of_validate`: a role that is refused is itself at fault.
-/

namespace WorkloadGuard

instance : ReportsConfiguration KubernetesKind where
  unsupported _ := rfl
  missing _ := rfl

/-! ## Names of hosts -/

namespace HostIdentifier

/-- What is wrong with a host whose name declares no restrictions. -/
inductive Fault (hostId : RoleId) : RestrictionError → Prop where
  /-- A segment that the name needs is missing, or it stands where it must not. -/
  | malformed : Fault hostId (.malformedHostId hostId.text)
  /-- The segment before the last names no kind; the error lists the kinds and nothing else. -/
  | unknownType {podNamespace type value : String}
      (hsegments : lastThree? hostId.name = some (podNamespace, type, value)) :
      Fault hostId (.scopeNotSupported type KubernetesKind.spellings)

variable {acceptUnderscored : Bool} {hostId : RoleId} {error : RestrictionError}

/-- The name of a host is refused for its own faults only. -/
theorem fault_of_parse (herror : parse acceptUnderscored hostId = .error error) :
    Fault hostId error := by
  unfold parse at herror
  split at herror
  · -- fewer than three segments
    cases herror
    exact .malformed
  rename_i podNamespace type value hsegments
  split at herror
  · -- no namespace
    cases herror
    exact .malformed
  split at herror
  · cases herror
  split at herror
  · -- a single wildcard, or a type or value that is missing
    cases herror
    exact .malformed
  split at herror
  · -- an unknown type
    cases herror
    exact .unknownType hsegments
  · split at herror
    · cases herror
    · -- another namespace
      cases herror
      exact .malformed
  · cases herror

theorem isConfigurationError_of_parse (herror : parse acceptUnderscored hostId = .error error) :
    error.isConfigurationError = true := by
  cases fault_of_parse herror with
  | malformed => rfl
  | unknownType _ => rfl

end HostIdentifier

namespace KubernetesRole

/-! ## The declared spec -/

/-- The spec that a role declares: by its annotations if any lives below the provider, else by the
name of its host. -/
inductive DeclaresSpec (role : KubernetesRole) (settings : KubernetesSettings) :
    ResourceSet KubernetesKind → Prop where
  /-- The annotations give each kind the value declared for it. -/
  | byAnnotations {spec : ResourceSet KubernetesKind}
      (hbelow : ∃ entry ∈ role.annotations, LivesBelow provider entry.name)
      (hread : ∀ kind value, spec.get? kind = some value ↔
        DeclaresValue provider role.serviceId role.annotations (KubernetesKind.spelling kind)
          value) :
      DeclaresSpec role settings spec
  /-- No annotation lives below the provider, and the name of the host can be read. -/
  | byHostName {host : HostIdentifier}
      (hnone : ∀ entry ∈ role.annotations, ¬ LivesBelow provider entry.name)
      (hparse : HostIdentifier.parse settings.acceptUnderscoredHostSegments role.hostId =
        .ok host) :
      DeclaresSpec role settings host.toSpec

/-- A role is read in one way or the other. -/
theorem annotated_or_unannotated (annotations : List AnnotationEntry) :
    (∃ entry ∈ annotations, LivesBelow provider entry.name) ∨
      ∀ entry ∈ annotations, ¬ LivesBelow provider entry.name := by
  by_cases hbelow : ∃ entry ∈ annotations, LivesBelow provider entry.name
  · exact .inl hbelow
  · exact .inr fun entry hentry hlives => hbelow ⟨entry, hentry, hlives⟩

/-- With an annotation below the provider, the declared spec is the one that annotations give. -/
theorem DeclaresSpec.eq_identitySpec {role : KubernetesRole} {settings : KubernetesSettings}
    {spec : ResourceSet KubernetesKind} (hdeclares : role.DeclaresSpec settings spec)
    (hbelow : ∃ entry ∈ role.annotations, LivesBelow provider entry.name) :
    spec = (AnnotationIndex.ofList role.annotations).identitySpec KubernetesKind
      role.serviceId := by
  cases hdeclares with
  | byAnnotations _ hread => exact AnnotationIndex.eq_identitySpec_iff.2 hread
  | byHostName hnone _ =>
    obtain ⟨entry, hentry, hlives⟩ := hbelow
    exact absurd hlives (hnone entry hentry)

/-- With an annotation below the provider, the name of the host is not read. -/
theorem declaredSpec_of_annotated {role : KubernetesRole} {settings : KubernetesSettings}
    (hbelow : ∃ entry ∈ role.annotations, LivesBelow provider entry.name) :
    role.declaredSpec settings (.ofList role.annotations) =
      .ok ((AnnotationIndex.ofList role.annotations).identitySpec KubernetesKind
        role.serviceId) := by
  have hmode : (AnnotationIndex.ofList role.annotations).hasProvider provider = true :=
    AnnotationIndex.hasProvider_iff.2 hbelow
  rw [declaredSpec, if_pos hmode]

/-- Without an annotation below the provider, nothing but the name of the host is read. -/
theorem declaredSpec_of_unannotated {role : KubernetesRole} {settings : KubernetesSettings}
    (hnone : ∀ entry ∈ role.annotations, ¬ LivesBelow provider entry.name) :
    role.declaredSpec settings (.ofList role.annotations) =
      (HostIdentifier.parse settings.acceptUnderscoredHostSegments role.hostId).map
        HostIdentifier.toSpec := by
  have hmode : ¬ (AnnotationIndex.ofList role.annotations).hasProvider provider = true := by
    intro hprovider
    obtain ⟨entry, hentry, hlives⟩ := AnnotationIndex.hasProvider_iff.1 hprovider
    exact hnone entry hentry hlives
  rw [declaredSpec, if_neg hmode]

theorem declaredSpec_eq_ok_iff {role : KubernetesRole} {settings : KubernetesSettings}
    {spec : ResourceSet KubernetesKind} :
    role.declaredSpec settings (.ofList role.annotations) = .ok spec ↔
      role.DeclaresSpec settings spec := by
  rcases annotated_or_unannotated role.annotations with hbelow | hnone
  · rw [declaredSpec_of_annotated hbelow]
    refine ⟨?_, ?_⟩
    · intro h
      cases h
      exact .byAnnotations hbelow (AnnotationIndex.eq_identitySpec_iff.1 rfl)
    · intro hdeclares
      exact congrArg Except.ok (hdeclares.eq_identitySpec hbelow).symm
  · rw [declaredSpec_of_unannotated hnone, Outcome.map_eq_ok_iff]
    refine ⟨?_, ?_⟩
    · intro h
      obtain ⟨host, hparse, rfl⟩ := h
      exact .byHostName hnone hparse
    · intro hdeclares
      cases hdeclares with
      | byAnnotations hbelow _ =>
        obtain ⟨entry, hentry, hlives⟩ := hbelow
        exact absurd hlives (hnone entry hentry)
      | byHostName _ hparse => exact ⟨_, hparse, rfl⟩

/-! ## Validation -/

/-- The kinds of controllers, of which a role may name one. -/
def controllers : List KubernetesKind :=
  [.deployment, .deploymentConfig, .statefulSet]

/-- A Kubernetes spec is well formed when it has a namespace and at most one controller. -/
theorem wellFormed_iff {spec : ResourceSet KubernetesKind} :
    WellFormed spec ↔ spec.contains .podNamespace = true ∧
      ∀ a ∈ controllers, ∀ b ∈ controllers,
        spec.contains a = true → spec.contains b = true → a = b := by
  have hrequired : ∀ kind : KubernetesKind,
      ConstraintKind.group kind = .required ↔ kind = .podNamespace := by
    intro kind
    cases kind <;> decide
  have hexclusive : ∀ kind : KubernetesKind,
      ConstraintKind.group kind = .exclusive ↔ kind ∈ controllers := by
    intro kind
    cases kind <;> decide
  refine ⟨?_, ?_⟩
  · intro h
    obtain ⟨hall, hone⟩ := h
    refine ⟨hall _ ((hrequired _).2 rfl), fun a ha b hb => ?_⟩
    exact hone a b ((hexclusive a).2 ha) ((hexclusive b).2 hb)
  · intro h
    obtain ⟨hnamespace, hone⟩ := h
    refine ⟨fun kind hkind => ?_, fun a b ha hb => ?_⟩
    · rw [(hrequired kind).1 hkind]
      exact hnamespace
    · exact hone a ((hexclusive a).1 ha) b ((hexclusive b).1 hb)

/-- A role is valid exactly when it names nothing else in scope and declares a well-formed spec;
validation then answers with that spec. -/
theorem validate_eq_ok_iff {role : KubernetesRole} {settings : KubernetesSettings}
    {identity : ApplicationIdentity} :
    role.validate settings = .ok identity ↔
      PermittedScope KubernetesKind role.serviceId role.annotations ∧
        role.DeclaresSpec settings identity.spec ∧ WellFormed identity.spec ∧
        identity.containerName = role.containerName settings (.ofList role.annotations) := by
  obtain ⟨spec, container⟩ := identity
  simp only [validate, identityFrom, Outcome.bind_eq_ok_iff, Outcome.pure_eq_ok_iff,
    declaredSpec_eq_ok_iff]
  refine ⟨?_, ?_⟩
  · intro h
    obtain ⟨⟨⟩, hscope, _, ⟨declared, hdeclares, rfl⟩, ⟨⟩, hwell, heq⟩ := h
    cases heq
    exact ⟨checkScope_eq_ok_iff.1 hscope, hdeclares, checkSpec_eq_ok_iff.1 hwell, rfl⟩
  · intro h
    obtain ⟨hscope, hdeclares, hwell, rfl⟩ := h
    exact ⟨(), checkScope_eq_ok_iff.2 hscope, _, ⟨spec, hdeclares, rfl⟩, (),
      checkSpec_eq_ok_iff.2 hwell, rfl⟩

theorem isConfigurationError_of_validate {role : KubernetesRole} {settings : KubernetesSettings}
    {error : RestrictionError} (herror : role.validate settings = .error error) :
    error.isConfigurationError = true := by
  unfold validate at herror
  rcases Outcome.bind_eq_error_iff.1 herror with hscope | ⟨_, _, hrest⟩
  · exact isConfigurationError_of_checkScope hscope
  rcases Outcome.bind_eq_error_iff.1 hrest with hidentity | ⟨identity, _, hrest⟩
  · -- an identity cannot be built only if the name of the host cannot be read
    unfold identityFrom declaredSpec at hidentity
    rcases Outcome.bind_eq_error_iff.1 hidentity with hspec | ⟨_, _, hpure⟩
    · split at hspec
      · cases hspec
      · exact HostIdentifier.isConfigurationError_of_parse (Outcome.map_eq_error_iff.1 hspec)
    · cases hpure
  · rcases Outcome.bind_eq_error_iff.1 hrest with hspec | ⟨_, _, hpure⟩
    · exact isConfigurationError_of_checkSpec hspec
    · cases hpure

end KubernetesRole

end WorkloadGuard
