import WorkloadGuard.Proofs.Azure.Validation
import WorkloadGuard.Proofs.Kubernetes.Validation
import WorkloadGuard.Service

/-!
# Whose fault a refusal is

A login is refused because its role could not be read, because the role is configured wrongly, or
because the request does not show what the role demands. Every stage of a decision reports causes of
one of these groups and of no other, so the cause of a refusal tells the stage that it comes from.

## Main statements

- `TokenClaims.isRequestError_of_satisfy`, `ApplicationIdentity.isRequestError_of_accept`: comparing
  a request with a role blames the request.
- `Service.authorizeAzure_eq_error_iff`, `Service.authorizeKubernetes_eq_error_iff`: everything for
  which a login is refused.
-/

namespace WorkloadGuard

/-! ## The fault of a request -/

/-- Whether the request itself is at fault, given what its role demands. -/
def RestrictionError.isRequestError : RestrictionError → Bool
  | malformedResourcePath .. | providerFieldsMissing _ | tokenFieldMissing _
  | restrictionUnmet _ => true
  | _ => false

/-- A refusal is not blamed on the request and on the role at once. -/
theorem RestrictionError.not_isConfigurationError_of_isRequestError {error : RestrictionError}
    (hrequest : error.isRequestError = true) : error.isConfigurationError = false := by
  cases error with
  | malformedResourcePath | providerFieldsMissing | tokenFieldMissing | restrictionUnmet => rfl
  | _ => cases hrequest

theorem ResourceSet.isRequestError_of_matchAgainst {K : Type} [DecidableEq K] [ConstraintKind K]
    {declared observed : ResourceSet K} {error : RestrictionError}
    (herror : declared.matchAgainst observed = .error error) : error.isRequestError = true := by
  unfold matchAgainst at herror
  split at herror
  · cases herror
    rfl
  · cases herror

theorem ResourcePath.isRequestError_of_parse {claim : String} {error : RestrictionError}
    (herror : parse claim = .error error) : error.isRequestError = true := by
  unfold parse at herror
  split at herror
  · -- one of the sections is missing
    cases herror
    rfl
  · split at herror
    · cases herror
    · -- the provider segments are no pairs
      cases herror
      rfl

theorem TokenClaims.isRequestError_of_identity {claims : TokenClaims} {path : ResourcePath}
    {error : RestrictionError} (herror : claims.identity path = .error error) :
    error.isRequestError = true := by
  unfold TokenClaims.identity at herror
  split at herror
  · cases herror
  · split at herror
    · -- there is no object id
      cases herror
      rfl
    · cases herror

/-- A token that does not satisfy a spec is itself at fault. -/
theorem TokenClaims.isRequestError_of_satisfy {claims : TokenClaims} {spec : ResourceSet AzureKind}
    {error : RestrictionError} (herror : claims.satisfy spec = .error error) :
    error.isRequestError = true := by
  unfold satisfy at herror
  rcases Outcome.bind_eq_error_iff.1 herror with hobserved | ⟨_, _, hmatch⟩
  · unfold observed at hobserved
    rcases Outcome.bind_eq_error_iff.1 hobserved with hparse | ⟨_, _, hrest⟩
    · exact ResourcePath.isRequestError_of_parse hparse
    rcases Outcome.bind_eq_error_iff.1 hrest with hidentity | ⟨_, _, hpure⟩
    · exact isRequestError_of_identity hidentity
    · cases hpure
  · exact ResourceSet.isRequestError_of_matchAgainst hmatch

/-- A pod that an identity does not accept is itself at fault. -/
theorem ApplicationIdentity.isRequestError_of_accept {identity : ApplicationIdentity}
    {pod : PodIdentity} {error : RestrictionError} (herror : identity.accept pod = .error error) :
    error.isRequestError = true :=
  ResourceSet.isRequestError_of_matchAgainst herror

/-! ## Refusals by the service -/

namespace Service

variable {service : Service} {error : RestrictionError}

/-- The role of a login cannot be read when the store does not have it or fails. -/
theorem annotationsOf_eq_error_iff {id : RoleId} {cause : ServiceError} :
    service.annotationsOf id = .error cause ↔
      service.store.annotationsOf id = .ok none ∧ cause = .roleNotFound id.text ∨
        ∃ failure, service.store.annotationsOf id = .error failure ∧ cause = .ofStore failure := by
  unfold annotationsOf
  split
  · rename_i failure hfailure
    simp [hfailure, eq_comm]
  · rename_i hnone
    simp [hnone, eq_comm]
  · rename_i found hfound
    simp [hfound]

theorem annotationsOf_ne_restriction {id : RoleId} :
    service.annotationsOf id ≠ .error (.restriction error) := by
  intro h
  rcases annotationsOf_eq_error_iff.1 h with ⟨_, hcause⟩ | ⟨failure, _, hcause⟩
  · cases hcause
  · -- the error of a store is reworded, and never to a restriction
    cases failure <;> cases hcause

/-- Everything for which a login with a token is refused: its role cannot be read, the role is not
valid, or the token does not satisfy the spec of the role. -/
theorem authorizeAzure_eq_error_iff {request : AzureRequest} {cause : ServiceError} :
    service.authorizeAzure request = .error cause ↔
      service.annotationsOf request.roleId = .error cause ∨
        ∃ annotations, service.store.annotationsOf request.roleId = .ok (some annotations) ∧
          ∃ error, cause = .restriction error ∧
            (AzureRole.validate ⟨annotations, request.serviceId⟩ = .error error ∨
              ∃ spec, AzureRole.validate ⟨annotations, request.serviceId⟩ = .ok spec ∧
                request.claims.satisfy spec = .error error) := by
  simp only [authorizeAzure, Outcome.bind_eq_error_iff, Outcome.mapError_eq_error_iff,
    Outcome.mapError_eq_ok_iff, annotationsOf_eq_ok_iff]
  refine or_congr_right (exists_congr fun annotations => and_congr_right fun _ => ⟨?_, ?_⟩)
  · intro h
    rcases h with ⟨error, hvalidate, rfl⟩ | ⟨spec, hvalid, error, hsatisfy, rfl⟩
    · exact ⟨error, rfl, .inl hvalidate⟩
    · exact ⟨error, rfl, .inr ⟨spec, hvalid, hsatisfy⟩⟩
  · intro h
    obtain ⟨error, rfl, hvalidate | ⟨spec, hvalid, hsatisfy⟩⟩ := h
    · exact .inl ⟨error, hvalidate, rfl⟩
    · exact .inr ⟨spec, hvalid, error, hsatisfy, rfl⟩

theorem authorizeKubernetes_eq_error_iff {request : KubernetesRequest} {cause : ServiceError} :
    service.authorizeKubernetes request = .error cause ↔
      service.annotationsOf request.roleId = .error cause ∨
        ∃ annotations, service.store.annotationsOf request.roleId = .ok (some annotations) ∧
          ∃ error, cause = .restriction error ∧
            (KubernetesRole.validate ⟨request.roleId, annotations, request.serviceId⟩
                service.settings.kubernetes = .error error ∨
              ∃ identity, KubernetesRole.validate ⟨request.roleId, annotations, request.serviceId⟩
                  service.settings.kubernetes = .ok identity ∧
                identity.accept request.pod = .error error) := by
  simp only [authorizeKubernetes, Outcome.bind_eq_error_iff, Outcome.mapError_eq_error_iff,
    Outcome.mapError_eq_ok_iff, annotationsOf_eq_ok_iff]
  refine or_congr_right (exists_congr fun annotations => and_congr_right fun _ => ⟨?_, ?_⟩)
  · intro h
    rcases h with ⟨error, hvalidate, rfl⟩ |
      ⟨identity, hvalid, ⟨error, haccept, rfl⟩ | ⟨_, _, hpure⟩⟩
    · exact ⟨error, rfl, .inl hvalidate⟩
    · exact ⟨error, rfl, .inr ⟨identity, hvalid, haccept⟩⟩
    · cases hpure
  · intro h
    obtain ⟨error, rfl, hvalidate | ⟨identity, hvalid, haccept⟩⟩ := h
    · exact .inl ⟨error, hvalidate, rfl⟩
    · exact .inr ⟨identity, hvalid, .inl ⟨error, haccept, rfl⟩⟩

end Service

end WorkloadGuard
