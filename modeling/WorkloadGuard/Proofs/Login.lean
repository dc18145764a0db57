import WorkloadGuard.Policy.Check
import WorkloadGuard.Proofs.Refusal

/-!
# Logins of either provider

The service decides logins with tokens and logins from pods, by the same stages. Here both are one
kind of thing, so that what holds of all logins is said once: a refusal comes from the store, from
the checks of the role or from the comparison with the request, and a client sees it reworded.

## Main statements

- `Service.authorize_eq_error_iff`: everything for which a login is refused.
- `Service.authorize_eq_configurationError_iff`: a login is refused for its role exactly when the
  check of the role fails.
-/

namespace WorkloadGuard

/-! ## Logins -/

/-- A login with either provider. -/
inductive Login where
  | kubernetes (request : KubernetesRequest)
  | azure (request : AzureRequest)

namespace Login

def provider : Login → Provider
  | kubernetes _ => .kubernetes
  | azure _ => .azure

def roleId : Login → RoleId
  | kubernetes request => request.roleId
  | azure request => request.roleId

def serviceId : Login → String
  | kubernetes request => request.serviceId
  | azure request => request.serviceId

/-! ## Roles and logins at fault -/

/-- With these annotations, the role that a login stands for is not valid. -/
def RoleInvalid (settings : EngineSettings) (annotations : List AnnotationEntry) :
    Login → RestrictionError → Prop
  | .kubernetes request, error =>
    KubernetesRole.validate ⟨request.roleId, annotations, request.serviceId⟩ settings.kubernetes =
      .error error
  | .azure request, error => AzureRole.validate ⟨annotations, request.serviceId⟩ = .error error

/-- With these annotations the role is valid, and the login does not show what it demands. -/
def Unmet (settings : EngineSettings) (annotations : List AnnotationEntry) :
    Login → RestrictionError → Prop
  | .kubernetes request, error =>
    ∃ identity, KubernetesRole.validate ⟨request.roleId, annotations, request.serviceId⟩
        settings.kubernetes = .ok identity ∧
      identity.accept request.pod = .error error
  | .azure request, error =>
    ∃ spec, AzureRole.validate ⟨annotations, request.serviceId⟩ = .ok spec ∧
      request.claims.satisfy spec = .error error

variable {settings : EngineSettings} {annotations : List AnnotationEntry} {login : Login}
  {error : RestrictionError}

/-- The check of a record finds the role invalid with the same error. -/
theorem roleInvalid_iff_check :
    login.RoleInvalid settings annotations error ↔
      RoleRecord.check ⟨login.roleId, annotations⟩ login.provider login.serviceId settings =
        .error error := by
  cases login with
  | kubernetes request => exact Outcome.map_eq_error_iff.symm
  | azure request => exact Outcome.map_eq_error_iff.symm

theorem isConfigurationError_of_roleInvalid
    (hinvalid : login.RoleInvalid settings annotations error) :
    error.isConfigurationError = true := by
  cases login with
  | kubernetes request => exact KubernetesRole.isConfigurationError_of_validate hinvalid
  | azure request => exact AzureRole.isConfigurationError_of_validate hinvalid

theorem isRequestError_of_unmet (hunmet : login.Unmet settings annotations error) :
    error.isRequestError = true := by
  cases login with
  | kubernetes request =>
    obtain ⟨identity, _, haccept⟩ := hunmet
    exact ApplicationIdentity.isRequestError_of_accept haccept
  | azure request =>
    obtain ⟨spec, _, hsatisfy⟩ := hunmet
    exact TokenClaims.isRequestError_of_satisfy hsatisfy

end Login

/-! ## Decisions on logins -/

namespace Service

/-- Decides a login, whatever a successful one is answered with. -/
def authorize (service : Service) : Login → Except ServiceError Unit
  | .kubernetes request => (service.authorizeKubernetes request).map fun _ => ()
  | .azure request => service.authorizeAzure request

/-- What a client sees of the decision on a login. -/
def answer (service : Service) : Login → Except RestrictionError Unit
  | .kubernetes request => (service.answerKubernetes request).map fun _ => ()
  | .azure request => service.answerAzure request

variable {service : Service} {login : Login} {error : RestrictionError}

theorem answer_eq_error_iff :
    service.answer login = .error error ↔
      ∃ cause, service.authorize login = .error cause ∧ cause.toRestrictionError = error := by
  cases login with
  | kubernetes request =>
    simp only [answer, authorize, answerKubernetes, Outcome.map_eq_error_iff,
      Outcome.mapError_eq_error_iff]
  | azure request => simp only [answer, authorize, answerAzure, Outcome.mapError_eq_error_iff]

theorem answer_eq_configurationError_iff :
    service.answer login = .error error ∧ error.isConfigurationError = true ↔
      service.authorize login = .error (.restriction error) ∧
        error.isConfigurationError = true := by
  rw [answer_eq_error_iff]
  refine ⟨?_, ?_⟩
  · intro h
    obtain ⟨⟨cause, hrefused, rfl⟩, hconfiguration⟩ := h
    cases cause with
    | restriction error => exact ⟨hrefused, hconfiguration⟩
    | roleNotFound | storeUnavailable | internal => cases hconfiguration
  · intro h
    obtain ⟨hrefused, hconfiguration⟩ := h
    exact ⟨⟨_, hrefused, rfl⟩, hconfiguration⟩

/-- A login is refused by the store, or else by the checks of its role or the comparison with it,
and their errors are kept. -/
theorem authorize_eq_error_iff {cause : ServiceError} :
    service.authorize login = .error cause ↔
      service.annotationsOf login.roleId = .error cause ∨
        ∃ annotations, service.store.annotationsOf login.roleId = .ok (some annotations) ∧
          ∃ error, cause = .restriction error ∧
            (login.RoleInvalid service.settings annotations error ∨
              login.Unmet service.settings annotations error) := by
  cases login with
  | kubernetes request =>
    simp only [authorize, Outcome.map_eq_error_iff]
    exact authorizeKubernetes_eq_error_iff
  | azure request => exact authorizeAzure_eq_error_iff

/-- A login is refused for its role exactly when the store has the role and the role is not
valid. -/
theorem authorize_eq_configurationError_iff_roleInvalid :
    service.authorize login = .error (.restriction error) ∧ error.isConfigurationError = true ↔
      ∃ annotations, service.store.annotationsOf login.roleId = .ok (some annotations) ∧
        login.RoleInvalid service.settings annotations error := by
  rw [authorize_eq_error_iff]
  refine ⟨?_, ?_⟩
  · intro h
    obtain ⟨hread | ⟨annotations, hstore, _, hcause, hfault⟩, hconfiguration⟩ := h
    · exact absurd hread annotationsOf_ne_restriction
    cases hcause
    rcases hfault with hinvalid | hunmet
    · exact ⟨annotations, hstore, hinvalid⟩
    · -- a login that is compared at all is refused for itself
      have hrequest := Login.isRequestError_of_unmet hunmet
      rw [RestrictionError.not_isConfigurationError_of_isRequestError hrequest] at hconfiguration
      cases hconfiguration
  · intro h
    obtain ⟨annotations, hstore, hinvalid⟩ := h
    refine ⟨.inr ⟨annotations, hstore, error, rfl, .inl hinvalid⟩, ?_⟩
    exact Login.isConfigurationError_of_roleInvalid hinvalid

/-- A login is refused for its role exactly when the store has the role and its check fails. -/
theorem authorize_eq_configurationError_iff :
    service.authorize login = .error (.restriction error) ∧ error.isConfigurationError = true ↔
      ∃ annotations, service.store.annotationsOf login.roleId = .ok (some annotations) ∧
        RoleRecord.check ⟨login.roleId, annotations⟩ login.provider login.serviceId
          service.settings = .error error := by
  simp only [authorize_eq_configurationError_iff_roleInvalid, Login.roleInvalid_iff_check]

end Service

end WorkloadGuard
