import WorkloadGuard.Proofs.Azure.Decision
import WorkloadGuard.Proofs.Kubernetes.Decision

/-!
# Adding restrictions

A role is narrowed by writing more annotations for it. Here a role is read twice, the second time
with annotations inserted anywhere in its list. An insertion can replace a value, by coming first or
by being written for the service; where it replaces none, the declared spec only grows, and a spec
that asks for more is satisfied by fewer requests.

## Main statements

- `keepsResolved_append`: annotations at the end of a list that are not written for the service
  replace no value.
- `stricter_admits_no_more`: whatever a role with such insertions admits, the role without them
  admits.
-/

namespace WorkloadGuard

/-! ## Insertions that replace nothing -/

/-- Every kind that resolves in `a` resolves to the same value in `b`. -/
def KeepsResolved (K : Type) [DecidableEq K] [ConstraintKind K] (serviceId : String)
    (a b : List AnnotationEntry) : Prop :=
  ∀ (kind : K) (value : String),
    (AnnotationIndex.ofList a).resolve (ConstraintKind.provider K) serviceId
        (ConstraintKind.spelling kind) = some value →
      (AnnotationIndex.ofList b).resolve (ConstraintKind.provider K) serviceId
        (ConstraintKind.spelling kind) = some value

section KeepsResolved

variable {K : Type} [DecidableEq K] [ConstraintKind K] {serviceId : String}
  {a b : List AnnotationEntry}

theorem KeepsResolved.identitySpec_le (hkeeps : KeepsResolved K serviceId a b) :
    (AnnotationIndex.ofList a).identitySpec K serviceId ≤
      (AnnotationIndex.ofList b).identitySpec K serviceId :=
  hkeeps

/-- What is written at the end of a list replaces no value, unless it is written for the service:
then it comes before a value for all services. -/
theorem keepsResolved_append (hother : ∀ entry ∈ b,
      ¬ LivesBelow (ConstraintKind.provider K ++ "/" ++ serviceId) entry.name) :
    KeepsResolved K serviceId a (a ++ b) := by
  intro kind value hvalue
  have hspecific : annotationValue? b
      (specificName (ConstraintKind.provider K) serviceId (ConstraintKind.spelling kind)) =
        none := by
    rw [annotationValue?_eq_none_iff]
    intro entry hentry hname
    exact hother entry hentry ⟨_, hname⟩
  rw [AnnotationIndex.resolve_eq_annotationValue?] at hvalue ⊢
  simp only [AnnotationIndex.entries_ofList, annotationValue?_append, hspecific,
    Option.or_none] at hvalue ⊢
  by_cases hid : serviceId = ""
  · rw [if_pos hid] at hvalue ⊢
    rw [hvalue, Option.some_or]
  · rw [if_neg hid] at hvalue ⊢
    rw [← Option.or_assoc, hvalue, Option.some_or]

end KeepsResolved

/-! ## Specs that ask for more -/

/-- A pod that satisfies an identity satisfies each identity that asks for less. -/
theorem ApplicationIdentity.accept_of_le {identity stricter : ApplicationIdentity}
    {pod : PodIdentity} (hle : identity.spec ≤ stricter.spec)
    (haccept : stricter.accept pod = .ok ()) : identity.accept pod = .ok () :=
  ResourceSet.matchAgainst_of_le hle haccept

/-- A token that satisfies a spec satisfies each spec that asks for less. -/
theorem TokenClaims.satisfy_of_le {claims : TokenClaims} {spec stricter : ResourceSet AzureKind}
    (hle : spec ≤ stricter) (hsatisfy : claims.satisfy stricter = .ok ()) :
    claims.satisfy spec = .ok () := by
  obtain ⟨observed, hobserved, hmatch⟩ := Outcome.bind_eq_ok_iff.1 hsatisfy
  exact Outcome.bind_eq_ok_iff.2 ⟨observed, hobserved, ResourceSet.matchAgainst_of_le hle hmatch⟩

/-- Insertions that replace nothing can only add to what a valid Kubernetes role asks for, provided
that the role was read from its annotations before. -/
theorem KubernetesRole.spec_le_of_validate {hostId : RoleId} {settings : KubernetesSettings}
    {serviceId : String} {annotations extended : List AnnotationEntry}
    {identity stricter : ApplicationIdentity} (hinserted : annotations.Sublist extended)
    (hbelow : ∃ entry ∈ annotations, LivesBelow provider entry.name)
    (hkeeps : KeepsResolved KubernetesKind serviceId annotations extended)
    (hvalid : validate ⟨hostId, annotations, serviceId⟩ settings = .ok identity)
    (hstricter : validate ⟨hostId, extended, serviceId⟩ settings = .ok stricter) :
    identity.spec ≤ stricter.spec := by
  obtain ⟨_, hdeclares, _, _⟩ := validate_eq_ok_iff.1 hvalid
  obtain ⟨_, hdeclaresMore, _, _⟩ := validate_eq_ok_iff.1 hstricter
  -- what was below the provider is still in the list, so the mode does not change
  obtain ⟨entry, hentry, hlives⟩ := hbelow
  have hbelowMore : ∃ entry ∈ extended, LivesBelow provider entry.name :=
    ⟨entry, hinserted.subset hentry, hlives⟩
  rw [hdeclares.eq_identitySpec ⟨entry, hentry, hlives⟩,
    hdeclaresMore.eq_identitySpec hbelowMore]
  exact hkeeps.identitySpec_le

theorem AzureRole.spec_le_of_validate {serviceId : String}
    {annotations extended : List AnnotationEntry} {spec stricter : ResourceSet AzureKind}
    (hkeeps : KeepsResolved AzureKind serviceId annotations extended)
    (hvalid : validate ⟨annotations, serviceId⟩ = .ok spec)
    (hstricter : validate ⟨extended, serviceId⟩ = .ok stricter) : spec ≤ stricter := by
  obtain ⟨_, _, rfl⟩ := validate_eq_ok_iff.1 hvalid
  obtain ⟨_, _, rfl⟩ := validate_eq_ok_iff.1 hstricter
  exact hkeeps.identitySpec_le

/-! ## Fewer requests -/

/-- Annotations are inserted into those of a role and replace no value. If both roles are valid, the
role without the insertions admits whatever the other admits. A Kubernetes role must have been read
from its annotations before, since the first of them puts the name of the host out of use. -/
theorem stricter_admits_no_more (annotations extended : List AnnotationEntry) (serviceId : String)
    (hinserted : annotations.Sublist extended) :
    (∀ (hostId : RoleId) (settings : KubernetesSettings) (identity stricter : ApplicationIdentity)
      (pod : PodIdentity),
      (∃ entry ∈ annotations, LivesBelow KubernetesRole.provider entry.name) →
      KeepsResolved KubernetesKind serviceId annotations extended →
      KubernetesRole.validate ⟨hostId, annotations, serviceId⟩ settings = .ok identity →
      KubernetesRole.validate ⟨hostId, extended, serviceId⟩ settings = .ok stricter →
      stricter.accept pod = .ok () → identity.accept pod = .ok ()) ∧
    ∀ (spec stricter : ResourceSet AzureKind) (claims : TokenClaims),
      KeepsResolved AzureKind serviceId annotations extended →
      AzureRole.validate ⟨annotations, serviceId⟩ = .ok spec →
      AzureRole.validate ⟨extended, serviceId⟩ = .ok stricter →
      claims.satisfy stricter = .ok () → claims.satisfy spec = .ok () := by
  refine ⟨?_, ?_⟩
  · intro hostId settings identity stricter pod hbelow hkeeps hvalid hstricter haccept
    have hle : identity.spec ≤ stricter.spec :=
      KubernetesRole.spec_le_of_validate hinserted hbelow hkeeps hvalid hstricter
    exact ApplicationIdentity.accept_of_le hle haccept
  · intro spec stricter claims hkeeps hvalid hstricter hsatisfy
    have hle : spec ≤ stricter := AzureRole.spec_le_of_validate hkeeps hvalid hstricter
    exact TokenClaims.satisfy_of_le hle hsatisfy

/-- A host of both providers admits the pod and the token to which it could be narrowed. -/
theorem shop_admits_of_narrowed :
    let shop : List AnnotationEntry :=
      [⟨"authn-k8s/namespace", "shop"⟩, ⟨"authn-azure/subscription-id", "s"⟩,
        ⟨"authn-azure/resource-group", "g"⟩]
    let pod : PodIdentity := { podNamespace := "shop", serviceAccount := "default", pod := "web-0" }
    let claims : TokenClaims := ⟨"/subscriptions/s/resourcegroups/g/providers/a/b/c", "id"⟩
    (∃ identity, KubernetesRole.validate ⟨⟨"acme:host:web"⟩, shop, "prod"⟩ {} = .ok identity ∧
      identity.accept pod = .ok ()) ∧
    ∃ spec, AzureRole.validate ⟨shop, "prod"⟩ = .ok spec ∧ claims.satisfy spec = .ok () := by
  intro shop pod claims
  let narrowed : List AnnotationEntry :=
    shop ++ [⟨"authn-k8s/pod", "web-0"⟩, ⟨"authn-azure/system-assigned-identity", "id"⟩]
  have hmore := stricter_admits_no_more shop narrowed "prod" (List.sublist_append_left _ _)
  refine ⟨?_, ?_⟩
  · let role (annotations : List AnnotationEntry) : KubernetesRole :=
      ⟨⟨"acme:host:web"⟩, annotations, "prod"⟩
    have hvalid : ((role shop).validate {}).toOption.isSome = true := by decide +kernel
    have hadmits : ((role narrowed).validate {} >>= (·.accept pod)).toOption = some () := by
      decide +kernel
    obtain ⟨identity, hidentity⟩ := Outcome.isSome_toOption_iff.1 hvalid
    obtain ⟨stricter, hstricter, haccept⟩ :=
      Outcome.bind_eq_ok_iff.1 (Outcome.toOption_eq_some_iff.1 hadmits)
    have hbelow : ∃ entry ∈ shop, LivesBelow KubernetesRole.provider entry.name :=
      ⟨_, List.mem_cons_self, by decide⟩
    have hkeeps : KeepsResolved KubernetesKind "prod" shop narrowed :=
      keepsResolved_append (by decide)
    refine ⟨identity, hidentity, ?_⟩
    exact hmore.1 _ _ identity stricter pod hbelow hkeeps hidentity hstricter haccept
  · let role (annotations : List AnnotationEntry) : AzureRole := ⟨annotations, "prod"⟩
    have hvalid : (role shop).validate.toOption.isSome = true := by decide +kernel
    have hadmits : ((role narrowed).validate >>= claims.satisfy).toOption = some () := by
      decide +kernel
    obtain ⟨spec, hspec⟩ := Outcome.isSome_toOption_iff.1 hvalid
    obtain ⟨stricter, hstricter, hsatisfy⟩ :=
      Outcome.bind_eq_ok_iff.1 (Outcome.toOption_eq_some_iff.1 hadmits)
    have hkeeps : KeepsResolved AzureKind "prod" shop narrowed := keepsResolved_append (by decide)
    refine ⟨spec, hspec, ?_⟩
    exact hmore.2 spec stricter claims hkeeps hspec hstricter hsatisfy

end WorkloadGuard
