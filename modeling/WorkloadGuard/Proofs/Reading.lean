import Mathlib.Data.List.Basic
import WorkloadGuard.Proofs.Azure.Validation
import WorkloadGuard.Proofs.Kubernetes.Validation

/-!
# What is read of annotations

A role is read for one service of one provider: its names in scope are searched for an offender, and
the values of permitted names are looked up. Two lists of annotations on which these readings agree
cannot be told apart by an Azure role. A Kubernetes role reads two things more: whether any
annotation lives below the provider, and the older annotation for the container.

## Main statements

- `AzureRole.validate_congr`, `KubernetesRole.validate_congr`: roles that read alike have the same
  outcome of validation, be it a value or an error.
- `KubernetesRole.buildIdentity_congr`: and the same identity without validation.
-/

namespace WorkloadGuard

/-- The scope check has the same outcome when the same offender comes first below each parent. -/
theorem checkScope_congr {K : Type} [DecidableEq K] [ConstraintKind K] {serviceId : String}
    {a b : List AnnotationEntry}
    (hoffender : ∀ parent ∈ scopeParents K serviceId,
      firstOffender? K (.ofList a) parent = firstOffender? K (.ofList b) parent) :
    checkScope K (.ofList a) serviceId = checkScope K (.ofList b) serviceId := by
  have hsearch : (scopeParents K serviceId).findSome? (firstOffender? K (.ofList a)) =
      (scopeParents K serviceId).findSome? (firstOffender? K (.ofList b)) := by
    rw [← List.head?_filterMap, ← List.head?_filterMap, List.filterMap_congr hoffender]
  unfold checkScope
  rw [hsearch]

/-- Two lists of annotations hold the same offenders and the same values for a service. -/
structure ReadsAlike (K : Type) [DecidableEq K] [ConstraintKind K] (serviceId : String)
    (a b : List AnnotationEntry) : Prop where
  /-- Below each scope parent, the same offender comes first. -/
  offender : ∀ parent ∈ scopeParents K serviceId,
    firstOffender? K (.ofList a) parent = firstOffender? K (.ofList b) parent
  /-- Each permitted name has the same value. -/
  resolved : ∀ base ∈ ConstraintKind.permitted K,
    (AnnotationIndex.ofList a).resolve (ConstraintKind.provider K) serviceId base =
      (AnnotationIndex.ofList b).resolve (ConstraintKind.provider K) serviceId base

namespace ReadsAlike

variable {K : Type} [DecidableEq K] [ConstraintKind K] {serviceId : String}
  {a b : List AnnotationEntry}

theorem checkScope_eq (halike : ReadsAlike K serviceId a b) :
    checkScope K (.ofList a) serviceId = checkScope K (.ofList b) serviceId :=
  checkScope_congr halike.offender

theorem identitySpec_eq (halike : ReadsAlike K serviceId a b) :
    (AnnotationIndex.ofList a).identitySpec K serviceId =
      (AnnotationIndex.ofList b).identitySpec K serviceId := by
  apply ResourceSet.ext
  funext kind
  exact halike.resolved _ (ConstraintKind.spelling_mem_permitted kind)

end ReadsAlike

/-! ## Roles that read alike -/

namespace AzureRole

variable {serviceId : String} {a b : List AnnotationEntry}

theorem declaredSpec_congr (halike : ReadsAlike AzureKind serviceId a b) :
    declaredSpec ⟨a, serviceId⟩ = declaredSpec ⟨b, serviceId⟩ :=
  halike.identitySpec_eq

theorem validate_congr (halike : ReadsAlike AzureKind serviceId a b) :
    validate ⟨a, serviceId⟩ = validate ⟨b, serviceId⟩ := by
  simp only [validate, halike.checkScope_eq, halike.identitySpec_eq]

end AzureRole

namespace KubernetesRole

/-- Two lists of annotations that a Kubernetes role cannot tell apart. -/
structure ReadsAlike (settings : KubernetesSettings) (serviceId : String)
    (a b : List AnnotationEntry) : Prop
    extends WorkloadGuard.ReadsAlike KubernetesKind serviceId a b where
  /-- Both or neither decide that the role is read from its annotations. -/
  mode : (AnnotationIndex.ofList a).hasProvider provider =
    (AnnotationIndex.ofList b).hasProvider provider
  /-- The older annotation names the same container. -/
  legacy : annotationValue? a settings.legacyContainerKey =
    annotationValue? b settings.legacyContainerKey

variable {settings : KubernetesSettings} {serviceId : String} {a b : List AnnotationEntry}
  {hostId : RoleId}

theorem ReadsAlike.declaredSpec_eq (halike : ReadsAlike settings serviceId a b) :
    declaredSpec ⟨hostId, a, serviceId⟩ settings (.ofList a) =
      declaredSpec ⟨hostId, b, serviceId⟩ settings (.ofList b) := by
  simp only [declaredSpec, halike.mode, halike.identitySpec_eq]

theorem ReadsAlike.containerName_eq (halike : ReadsAlike settings serviceId a b) :
    containerName ⟨hostId, a, serviceId⟩ settings (.ofList a) =
      containerName ⟨hostId, b, serviceId⟩ settings (.ofList b) := by
  have hkey : KubernetesKind.containerNameKey ∈ ConstraintKind.permitted KubernetesKind := by
    decide
  simp only [containerName, AnnotationIndex.get?_ofList, halike.legacy]
  rw [provider, halike.resolved _ hkey]

theorem buildIdentity_congr (halike : ReadsAlike settings serviceId a b) :
    buildIdentity ⟨hostId, a, serviceId⟩ settings =
      buildIdentity ⟨hostId, b, serviceId⟩ settings := by
  simp only [buildIdentity, identityFrom, halike.declaredSpec_eq, halike.containerName_eq]

theorem validate_congr (halike : ReadsAlike settings serviceId a b) :
    validate ⟨hostId, a, serviceId⟩ settings = validate ⟨hostId, b, serviceId⟩ settings := by
  simp only [validate, identityFrom, halike.checkScope_eq, halike.declaredSpec_eq,
    halike.containerName_eq]

end KubernetesRole

end WorkloadGuard
