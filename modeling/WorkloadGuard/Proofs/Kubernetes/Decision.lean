import WorkloadGuard.Proofs.Kubernetes.Validation
import WorkloadGuard.Proofs.Matching
import WorkloadGuard.Service

/-!
# Decisions on Kubernetes logins

A login from a pod passes through the role store, the checks of the role and the comparison with the
pod. Here the whole way is one condition on what the store answers: `Grants` lists everything that a
role must declare, `Shows` everything that a pod must show, field by field, and no stage asks for
more or for less.

## Main statements

- `ApplicationIdentity.accept_eq_ok_iff`: an identity accepts the pods that show its spec.
- `Service.authorizeKubernetes_iff_grants`: a login from a pod is accepted exactly when the role
  that it stands for grants the pod a spec, and the answer carries that spec.
-/

namespace WorkloadGuard

/-! ## What a pod shows -/

namespace PodIdentity

/-- A pod shows a spec: for each value of the spec, the field of that kind is present and holds the
value, and the value is not empty. -/
structure Shows (identity : PodIdentity) (spec : ResourceSet KubernetesKind) : Prop where
  podNamespace : ∀ value, spec.get? .podNamespace = some value →
    identity.podNamespace = value ∧ value ≠ ""
  serviceAccount : ∀ value, spec.get? .serviceAccount = some value →
    identity.serviceAccount = value ∧ value ≠ ""
  pod : ∀ value, spec.get? .pod = some value → identity.pod = value ∧ value ≠ ""
  deployment : ∀ value, spec.get? .deployment = some value →
    identity.deployment = some value ∧ value ≠ ""
  deploymentConfig : ∀ value, spec.get? .deploymentConfig = some value →
    identity.deploymentConfig = some value ∧ value ≠ ""
  statefulSet : ∀ value, spec.get? .statefulSet = some value →
    identity.statefulSet = some value ∧ value ≠ ""

theorem get?_observed_eq_some_iff {pod : PodIdentity} {kind : KubernetesKind} {value : String} :
    pod.observed.get? kind = some value ↔ pod.field? kind = some value ∧ value ≠ "" := by
  simp [observed, Option.filter_eq_some_iff]

/-- What is observed of a pod holds exactly the specs that the pod shows. -/
theorem forall_get?_observed_iff {pod : PodIdentity} {spec : ResourceSet KubernetesKind} :
    (∀ kind value, spec.get? kind = some value → pod.observed.get? kind = some value) ↔
      pod.Shows spec := by
  simp only [get?_observed_eq_some_iff]
  constructor
  · intro h
    -- the fields that every pod has hold plain texts
    have hplain {kind : KubernetesKind} {field : String} (hfield : pod.field? kind = some field)
        (value : String) (hvalue : spec.get? kind = some value) : field = value ∧ value ≠ "" := by
      simpa [hfield] using h kind value hvalue
    exact
      { podNamespace := hplain rfl
        serviceAccount := hplain rfl
        pod := hplain rfl
        deployment := h .deployment
        deploymentConfig := h .deploymentConfig
        statefulSet := h .statefulSet }
  · intro hshows kind value hvalue
    cases kind with
    | podNamespace => exact (hshows.podNamespace value hvalue).imp_left (congrArg some)
    | serviceAccount => exact (hshows.serviceAccount value hvalue).imp_left (congrArg some)
    | pod => exact (hshows.pod value hvalue).imp_left (congrArg some)
    | deployment => exact hshows.deployment value hvalue
    | deploymentConfig => exact hshows.deploymentConfig value hvalue
    | statefulSet => exact hshows.statefulSet value hvalue

end PodIdentity

theorem ApplicationIdentity.accept_eq_ok_iff {identity : ApplicationIdentity} {pod : PodIdentity} :
    identity.accept pod = .ok () ↔ pod.Shows identity.spec := by
  unfold accept
  rw [ResourceSet.matchAgainst_eq_ok_iff, PodIdentity.forall_get?_observed_iff]

/-! ## What a role grants -/

namespace KubernetesRole

/-- A role grants a pod the spec `spec`: the role is valid and declares the spec, and the pod shows
all of it. -/
structure Grants (role : KubernetesRole) (settings : KubernetesSettings) (pod : PodIdentity)
    (spec : ResourceSet KubernetesKind) : Prop where
  /-- Every annotation in scope names a permitted constraint. -/
  permitted : PermittedScope KubernetesKind role.serviceId role.annotations
  /-- The role declares the spec, by its annotations or else by the name of its host. -/
  declared : role.DeclaresSpec settings spec
  /-- The spec has a namespace. -/
  namespaced : spec.contains .podNamespace = true
  /-- The spec has at most one controller. -/
  oneController : ∀ a ∈ controllers, ∀ b ∈ controllers,
    spec.contains a = true → spec.contains b = true → a = b
  /-- The pod shows every declared value, and an empty value shows nothing. -/
  shown : pod.Shows spec

theorem Grants.podNamespace_eq {role : KubernetesRole} {settings : KubernetesSettings}
    {pod : PodIdentity} {spec : ResourceSet KubernetesKind}
    (hgrants : role.Grants settings pod spec) :
    spec.get? .podNamespace = some pod.podNamespace := by
  obtain ⟨value, hvalue⟩ := Option.isSome_iff_exists.1 hgrants.namespaced
  rw [hvalue, (hgrants.shown.podNamespace value hvalue).1]

theorem grants_iff {role : KubernetesRole} {settings : KubernetesSettings} {pod : PodIdentity}
    {spec : ResourceSet KubernetesKind} :
    role.Grants settings pod spec ↔
      ∃ identity, role.validate settings = .ok identity ∧ identity.accept pod = .ok () ∧
        identity.spec = spec := by
  refine ⟨?_, ?_⟩
  · intro h
    obtain ⟨hscope, hdeclares, hnamespace, hone, hshown⟩ := h
    refine ⟨⟨spec, role.containerName settings (.ofList role.annotations)⟩, ?_, ?_, rfl⟩
    · exact validate_eq_ok_iff.2 ⟨hscope, hdeclares, wellFormed_iff.2 ⟨hnamespace, hone⟩, rfl⟩
    · exact ApplicationIdentity.accept_eq_ok_iff.2 hshown
  · intro h
    obtain ⟨identity, hvalid, haccept, rfl⟩ := h
    obtain ⟨hscope, hdeclares, hwell, _⟩ := validate_eq_ok_iff.1 hvalid
    obtain ⟨hnamespace, hone⟩ := wellFormed_iff.1 hwell
    exact ⟨hscope, hdeclares, hnamespace, hone, ApplicationIdentity.accept_eq_ok_iff.1 haccept⟩

end KubernetesRole

/-! ## The decision of the service -/

namespace Service

/-- A login from a pod passes exactly when the store has its role, the role is valid and the
identity of the role accepts the pod. -/
theorem authorizeKubernetes_eq_ok_iff {service : Service} {request : KubernetesRequest}
    {identity : ApplicationIdentity} :
    service.authorizeKubernetes request = .ok identity ↔
      ∃ annotations, service.store.annotationsOf request.roleId = .ok (some annotations) ∧
        KubernetesRole.validate ⟨request.roleId, annotations, request.serviceId⟩
          service.settings.kubernetes = .ok identity ∧
        identity.accept request.pod = .ok () := by
  simp only [authorizeKubernetes, Outcome.bind_eq_ok_iff, Outcome.pure_eq_ok_iff,
    Outcome.mapError_eq_ok_iff, annotationsOf_eq_ok_iff]
  refine ⟨?_, ?_⟩
  · intro h
    obtain ⟨annotations, hstore, _, hvalid, ⟨⟩, haccept, rfl⟩ := h
    exact ⟨annotations, hstore, hvalid, haccept⟩
  · intro h
    obtain ⟨annotations, hstore, hvalid, haccept⟩ := h
    exact ⟨annotations, hstore, identity, hvalid, (), haccept, rfl⟩

/-- A login from a pod is accepted exactly when the store holds annotations for the role that the
login stands for and this role grants the pod a spec. The answer carries that spec, and so the
namespace of the pod itself. -/
theorem authorizeKubernetes_iff_grants (service : Service) (request : KubernetesRequest) :
    (∀ spec,
      (∃ identity, service.authorizeKubernetes request = .ok identity ∧ identity.spec = spec) ↔
        ∃ annotations,
          service.store.annotationsOf (.ofLogin request.account request.username) =
            .ok (some annotations) ∧
          KubernetesRole.Grants
            ⟨.ofLogin request.account request.username, annotations, request.serviceId⟩
            service.settings.kubernetes request.pod spec) ∧
    ∀ identity, service.authorizeKubernetes request = .ok identity →
      identity.podNamespace? = some request.pod.podNamespace := by
  have hiff : ∀ spec,
      (∃ identity, service.authorizeKubernetes request = .ok identity ∧ identity.spec = spec) ↔
        ∃ annotations, service.store.annotationsOf request.roleId = .ok (some annotations) ∧
          KubernetesRole.Grants ⟨request.roleId, annotations, request.serviceId⟩
            service.settings.kubernetes request.pod spec := by
    intro spec
    simp only [authorizeKubernetes_eq_ok_iff, KubernetesRole.grants_iff]
    refine ⟨?_, ?_⟩
    · intro h
      obtain ⟨identity, ⟨annotations, hstore, hvalid, haccept⟩, hspec⟩ := h
      exact ⟨annotations, hstore, identity, hvalid, haccept, hspec⟩
    · intro h
      obtain ⟨annotations, hstore, identity, hvalid, haccept, hspec⟩ := h
      exact ⟨identity, ⟨annotations, hstore, hvalid, haccept⟩, hspec⟩
  refine ⟨hiff, fun identity hok => ?_⟩
  obtain ⟨annotations, _, hgrants⟩ := (hiff identity.spec).1 ⟨identity, hok, rfl⟩
  exact hgrants.podNamespace_eq

/-- A host that declares a service account, a pod and a deployment is let in from the pod that shows
all three; the container that it names besides is no part of the spec. It is not let in from another
pod or under another account, nor if a stateful set has the name of the deployment. -/
theorem authorizeKubernetes_of_till :
    let annotations : List AnnotationEntry :=
      [⟨"authn-k8s/namespace", "shop"⟩, ⟨"authn-k8s/prod/service-account", "clerk"⟩,
        ⟨"authn-k8s/pod", "till-0"⟩, ⟨"authn-k8s/deployment", "till"⟩,
        ⟨"authn-k8s/authentication-container-name", "sidecar"⟩]
    let store : RoleStore :=
      ⟨fun id => .ok (if id = ⟨"acme:host:till"⟩ then some annotations else none)⟩
    let service : Service := ⟨store, {}⟩
    let login (pod : PodIdentity) : KubernetesRequest := ⟨"acme", "prod", "host/till", pod⟩
    let till : PodIdentity :=
      { podNamespace := "shop", serviceAccount := "clerk", pod := "till-0", deployment := "till" }
    (∃ identity, service.authorizeKubernetes (login till) = .ok identity ∧
      identity.spec.toSpecs = [(.podNamespace, "shop"), (.serviceAccount, "clerk"),
        (.pod, "till-0"), (.deployment, "till")] ∧
      identity.podNamespace? = some "shop") ∧
    ∀ pod ∈ [{ till with serviceAccount := "guest" }, { till with pod := "till-1" },
        { till with deployment := none, statefulSet := "till" }],
      ∀ identity, service.authorizeKubernetes (login pod) ≠ .ok identity := by
  intro annotations store service login till
  have hstore : service.store.annotationsOf (.ofLogin "acme" "host/till") =
      .ok (some annotations) := by
    rw [show RoleId.ofLogin "acme" "host/till" = ⟨"acme:host:till"⟩ by decide]
    exact congrArg Except.ok (if_pos rfl)
  let spec := (AnnotationIndex.ofList annotations).identitySpec KubernetesKind "prod"
  have hbelow : ∃ entry ∈ annotations, LivesBelow KubernetesRole.provider entry.name :=
    ⟨_, List.mem_cons_self, by decide⟩
  have hscope : checkScope KubernetesKind (.ofList annotations) "prod" = .ok () :=
    Outcome.toOption_eq_some_iff.1 (by decide +kernel)
  have haccept : ApplicationIdentity.accept ⟨spec, "authenticator"⟩ till = .ok () :=
    Outcome.toOption_eq_some_iff.1 (by decide +kernel)
  have hgrants : KubernetesRole.Grants ⟨.ofLogin "acme" "host/till", annotations, "prod"⟩
      service.settings.kubernetes till spec :=
    { permitted := checkScope_eq_ok_iff.1 hscope
      declared := .byAnnotations hbelow (AnnotationIndex.eq_identitySpec_iff.1 rfl)
      namespaced := by decide +kernel
      oneController := by decide +kernel
      shown := ApplicationIdentity.accept_eq_ok_iff.1 haccept }
  refine ⟨?_, ?_⟩
  · obtain ⟨hiff, hnamespace⟩ := authorizeKubernetes_iff_grants service (login till)
    obtain ⟨identity, hok, hspec⟩ := (hiff spec).2 ⟨annotations, hstore, hgrants⟩
    refine ⟨identity, hok, ?_, hnamespace identity hok⟩
    rw [hspec]
    decide +kernel
  · intro pod hpod identity hok
    obtain ⟨found, hfound, hgranted⟩ :=
      ((authorizeKubernetes_iff_grants service (login pod)).1 identity.spec).1 ⟨identity, hok, rfl⟩
    obtain rfl : annotations = found := Option.some.inj (Except.ok.inj (hstore.symm.trans hfound))
    -- the annotations declare the same spec, whichever pod asks
    have hspec : identity.spec = spec := hgranted.declared.eq_identitySpec hbelow
    have hshown := hgranted.shown
    rw [hspec] at hshown
    simp only [List.mem_cons, List.not_mem_nil, or_false] at hpod
    rcases hpod with rfl | rfl | rfl
    · exact absurd (hshown.serviceAccount "clerk" (by rfl)).1 (by decide)
    · exact absurd (hshown.pod "till-0" (by rfl)).1 (by decide)
    · exact absurd (hshown.deployment "till" (by rfl)).1 (by decide)

end Service

end WorkloadGuard
