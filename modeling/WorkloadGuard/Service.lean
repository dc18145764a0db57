import WorkloadGuard.Azure.Restrictions
import WorkloadGuard.Kubernetes.Restrictions
import WorkloadGuard.RoleStore

/-!
# The restriction service

One authentication attempt: the login names a role, the role store gives its annotations, the role
is validated, and the request is matched against it. What the store reports is kept apart from what
the role or the request is refused for: a store that is unavailable stays so, and any other error of
the store becomes an internal one.
-/

namespace WorkloadGuard

/-! ## Requests -/

/-- A login that shows a verified token. -/
structure AzureRequest where
  account : String
  serviceId : String
  username : String
  claims : TokenClaims

/-- A login from a pod. -/
structure KubernetesRequest where
  account : String
  serviceId : String
  username : String
  pod : PodIdentity

def AzureRequest.roleId (request : AzureRequest) : RoleId :=
  .ofLogin request.account request.username

def KubernetesRequest.roleId (request : KubernetesRequest) : RoleId :=
  .ofLogin request.account request.username

/-! ## Errors of the service -/

/-- Why the service refuses a request. -/
inductive ServiceError where
  | roleNotFound (roleId : String)
  | storeUnavailable (reason : String)
  | restriction (error : RestrictionError)
  /-- The role store failed in any other way. -/
  | internal (reason : String)
  deriving DecidableEq, Repr

namespace ServiceError

def message : ServiceError → String
  | roleNotFound roleId => "role '" ++ roleId ++ "' not found"
  | storeUnavailable reason => "role store is not available: " ++ reason
  | restriction error => error.message
  | internal reason => "internal error: " ++ reason

def ofStore : RestrictionError → ServiceError
  | .serviceUnavailable reason => storeUnavailable reason
  | error => internal error.message

def toRestrictionError : ServiceError → RestrictionError
  | roleNotFound roleId => .roleNotFound roleId
  | storeUnavailable reason => .serviceUnavailable reason
  | restriction error => error
  | internal reason => .internal reason

end ServiceError

/-! ## The service and its clients -/

/-- A role store together with the settings for decisions. -/
structure Service where
  store : RoleStore
  settings : EngineSettings

namespace Service

def annotationsOf (service : Service) (id : RoleId) :
    Except ServiceError (List AnnotationEntry) :=
  match service.store.annotationsOf id with
  | .error error => .error (.ofStore error)
  | .ok none => .error (.roleNotFound id.text)
  | .ok (some annotations) => .ok annotations

theorem annotationsOf_eq_ok_iff {service : Service} {id : RoleId}
    {annotations : List AnnotationEntry} :
    service.annotationsOf id = .ok annotations ↔
      service.store.annotationsOf id = .ok (some annotations) := by
  unfold annotationsOf
  split
  · rename_i error herror
    simp [herror]
  · rename_i hnone
    simp [hnone]
  · rename_i found hfound
    simp [hfound]

def authorizeAzure (service : Service) (request : AzureRequest) : Except ServiceError Unit := do
  let annotations ← service.annotationsOf request.roleId
  let role : AzureRole := ⟨annotations, request.serviceId⟩
  let spec ← role.validate.mapError .restriction
  (request.claims.satisfy spec).mapError .restriction

/-- Decides a login from a pod, and answers with the identity of its role. -/
def authorizeKubernetes (service : Service) (request : KubernetesRequest) :
    Except ServiceError ApplicationIdentity := do
  let annotations ← service.annotationsOf request.roleId
  let role : KubernetesRole := ⟨request.roleId, annotations, request.serviceId⟩
  let identity ← (role.validate service.settings.kubernetes).mapError .restriction
  (identity.accept request.pod).mapError .restriction
  return identity

/-- What a client sees of the decision on a login that shows a verified token. -/
def answerAzure (service : Service) (request : AzureRequest) : Except RestrictionError Unit :=
  (service.authorizeAzure request).mapError ServiceError.toRestrictionError

def answerKubernetes (service : Service) (request : KubernetesRequest) :
    Except RestrictionError ApplicationIdentity :=
  (service.authorizeKubernetes request).mapError ServiceError.toRestrictionError

end Service

end WorkloadGuard
