/-!
# Kubernetes settings

What an operator can set about the reading of Kubernetes roles.
-/

namespace WorkloadGuard

/-- Settings for Kubernetes roles. -/
structure KubernetesSettings where
  defaultContainerName : String := "authenticator"
  /-- The older annotation that is asked for the container before the default. -/
  legacyContainerKey : String := "kubernetes/authentication-container-name"
  /-- Whether host names may spell constraint types with underscores. -/
  acceptUnderscoredHostSegments : Bool := true
  deriving DecidableEq, Repr

/-- Settings for the decisions about roles. -/
structure EngineSettings where
  kubernetes : KubernetesSettings := {}
  deriving DecidableEq, Repr

end WorkloadGuard
