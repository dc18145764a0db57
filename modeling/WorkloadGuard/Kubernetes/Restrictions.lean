import WorkloadGuard.Kubernetes.HostIdentifier
import WorkloadGuard.Kubernetes.Settings
import WorkloadGuard.Matching
import WorkloadGuard.Validation

/-!
# Kubernetes restrictions

A Kubernetes role declares its restrictions by `authn-k8s/` annotations or, when it has none, by the
name of its host. The pod that logs in must show every declared value; a field that is absent or
empty shows nothing.
-/

namespace WorkloadGuard

/-! ## Identities -/

/-- Who a Kubernetes role is: its constraints and the container to talk to. -/
structure ApplicationIdentity where
  spec : ResourceSet KubernetesKind
  containerName : String

namespace ApplicationIdentity

def podNamespace? (identity : ApplicationIdentity) : Option String :=
  identity.spec.get? .podNamespace

def workload? (identity : ApplicationIdentity) : Option (KubernetesKind × String) :=
  identity.spec.toSpecs.find? fun spec => spec.1.narrowsNamespace

def isNamespaceScoped (identity : ApplicationIdentity) : Bool :=
  identity.workload?.isNone

end ApplicationIdentity

/-- The pod behind a request, as the cluster reports it. -/
structure PodIdentity where
  podNamespace : String
  serviceAccount : String
  pod : String
  deployment : Option String := none
  deploymentConfig : Option String := none
  statefulSet : Option String := none
  deriving DecidableEq, Repr

namespace PodIdentity

def field? (pod : PodIdentity) : KubernetesKind → Option String
  | .podNamespace => some pod.podNamespace
  | .serviceAccount => some pod.serviceAccount
  | .pod => some pod.pod
  | .deployment => pod.deployment
  | .deploymentConfig => pod.deploymentConfig
  | .statefulSet => pod.statefulSet

/-- The resources observed of the pod; an empty value is no observation. -/
def observed (pod : PodIdentity) : ResourceSet KubernetesKind :=
  ⟨fun kind => (pod.field? kind).filter fun value => value != ""⟩

end PodIdentity

/-! ## Roles -/

/-- The declared side of a Kubernetes request. -/
structure KubernetesRole where
  /-- The id of the role, read when no annotation declares restrictions. -/
  hostId : RoleId
  annotations : List AnnotationEntry
  serviceId : String

namespace KubernetesRole

def provider : String :=
  ConstraintKind.provider KubernetesKind

/-- The constraints of a role: its annotations if any is below the prefix, else the host's name. -/
def declaredSpec (role : KubernetesRole) (settings : KubernetesSettings)
    (index : AnnotationIndex) : Except RestrictionError (ResourceSet KubernetesKind) :=
  if index.hasProvider provider then .ok (index.identitySpec KubernetesKind role.serviceId)
  else
    (HostIdentifier.parse settings.acceptUnderscoredHostSegments role.hostId).map
      HostIdentifier.toSpec

/-- The container of a role: the one named for the service or for all services, else the one named
by the older annotation, else the default. -/
def containerName (role : KubernetesRole) (settings : KubernetesSettings)
    (index : AnnotationIndex) : String :=
  ((index.resolve provider role.serviceId KubernetesKind.containerNameKey).or
    (index.get? settings.legacyContainerKey)).getD settings.defaultContainerName

/-- The identity that a role declares according to an index of its annotations. -/
def identityFrom (role : KubernetesRole) (settings : KubernetesSettings)
    (index : AnnotationIndex) : Except RestrictionError ApplicationIdentity := do
  let spec ← role.declaredSpec settings index
  return ⟨spec, role.containerName settings index⟩

def buildIdentity (role : KubernetesRole) (settings : KubernetesSettings) :
    Except RestrictionError ApplicationIdentity :=
  role.identityFrom settings (.ofList role.annotations)

def validate (role : KubernetesRole) (settings : KubernetesSettings) :
    Except RestrictionError ApplicationIdentity := do
  let index := AnnotationIndex.ofList role.annotations
  checkScope KubernetesKind index role.serviceId
  let identity ← role.identityFrom settings index
  checkSpec identity.spec
  return identity

end KubernetesRole

/-! ## Decisions -/

namespace ApplicationIdentity

def accept (identity : ApplicationIdentity) (pod : PodIdentity) : Except RestrictionError Unit :=
  identity.spec.matchAgainst pod.observed

end ApplicationIdentity

/-- The identity that a role declares, if the pod satisfies it; the role is not validated. -/
def KubernetesRole.authorize (role : KubernetesRole) (settings : KubernetesSettings)
    (pod : PodIdentity) : Except RestrictionError ApplicationIdentity := do
  let identity ← role.buildIdentity settings
  identity.accept pod
  return identity

end WorkloadGuard
