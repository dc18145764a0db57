import WorkloadGuard.Proofs.Login

/-!
# Causes of refusals

Whoever is refused sees one error, and it tells where the refusal comes from. The store does not
have the role, is unavailable or fails in another way; or the role is not valid; or the login does
not show what the role demands. Here each cause is tied to its errors, in both directions. Until the
role is known to be valid nothing that a login shows is looked at, so all causes but the last are
the same for every pod and every token.

## Main statements

- `Service.answer_eq_error_iff_cause`: a login is refused exactly for one of the five causes.
- `Service.answer_tells_cause`: the error that a client sees tells the cause, and unless the login
  itself is at fault it does not depend on what the login shows.
-/

namespace WorkloadGuard

/-! ## What does not depend on what is shown -/

namespace Login

/-- Two logins ask the same provider for the same role and service, whatever they show. -/
structure SameSubject (a b : Login) : Prop where
  provider : a.provider = b.provider
  roleId : a.roleId = b.roleId
  serviceId : a.serviceId = b.serviceId

variable {settings : EngineSettings} {annotations : List AnnotationEntry} {login other : Login}
  {error : RestrictionError}

/-- Whether a role is valid does not depend on what a login shows. -/
theorem SameSubject.roleInvalid (hsame : login.SameSubject other)
    (hinvalid : login.RoleInvalid settings annotations error) :
    other.RoleInvalid settings annotations error := by
  rw [roleInvalid_iff_check] at hinvalid ⊢
  rw [← hsame.provider, ← hsame.roleId, ← hsame.serviceId]
  exact hinvalid

end Login

/-! ## The five causes -/

namespace Service

/-- What the refusal of a login comes from, together with the error that its client sees. -/
inductive Cause (service : Service) (login : Login) : RestrictionError → Prop where
  /-- The store does not have the role. -/
  | roleNotFound (hnone : service.store.annotationsOf login.roleId = .ok none) :
      Cause service login (.roleNotFound login.roleId.text)
  /-- The store says that it is not available. -/
  | storeUnavailable {reason : String}
      (hfailure : service.store.annotationsOf login.roleId = .error (.serviceUnavailable reason)) :
      Cause service login (.serviceUnavailable reason)
  /-- The store fails with any other error, be it one that speaks of a role. -/
  | storeFailed {failure : RestrictionError}
      (hfailure : service.store.annotationsOf login.roleId = .error failure)
      (hother : ∀ reason, failure ≠ .serviceUnavailable reason) :
      Cause service login (.internal failure.message)
  /-- The role is not valid. -/
  | roleInvalid {annotations : List AnnotationEntry} {error : RestrictionError}
      (hstore : service.store.annotationsOf login.roleId = .ok (some annotations))
      (hinvalid : login.RoleInvalid service.settings annotations error) :
      Cause service login error
  /-- The role is valid and the login does not show what it demands. -/
  | unmet {annotations : List AnnotationEntry} {error : RestrictionError}
      (hstore : service.store.annotationsOf login.roleId = .ok (some annotations))
      (hunmet : login.Unmet service.settings annotations error) :
      Cause service login error

variable {service : Service} {login other : Login} {error : RestrictionError}

theorem toRestrictionError_ofStore {failure : RestrictionError}
    (hother : ∀ reason, failure ≠ .serviceUnavailable reason) :
    (ServiceError.ofStore failure).toRestrictionError = .internal failure.message := by
  cases failure with
  | serviceUnavailable reason => exact absurd rfl (hother reason)
  | _ => rfl

/-- A login is refused exactly for one of the five causes. -/
theorem answer_eq_error_iff_cause :
    service.answer login = .error error ↔ service.Cause login error := by
  simp only [answer_eq_error_iff, authorize_eq_error_iff, annotationsOf_eq_error_iff]
  refine ⟨?_, ?_⟩
  · intro h
    obtain ⟨_, (⟨hnone, rfl⟩ | ⟨failure, hfailure, rfl⟩) |
      ⟨annotations, hstore, _, rfl, hinvalid | hunmet⟩, rfl⟩ := h
    · exact .roleNotFound hnone
    · by_cases hreason : ∃ reason, failure = .serviceUnavailable reason
      · obtain ⟨reason, rfl⟩ := hreason
        exact .storeUnavailable hfailure
      · have hother : ∀ reason, failure ≠ .serviceUnavailable reason := not_exists.1 hreason
        rw [toRestrictionError_ofStore hother]
        exact .storeFailed hfailure hother
    · exact .roleInvalid hstore hinvalid
    · exact .unmet hstore hunmet
  · intro h
    cases h with
    | roleNotFound hnone => exact ⟨_, .inl (.inl ⟨hnone, rfl⟩), rfl⟩
    | storeUnavailable hfailure => exact ⟨_, .inl (.inr ⟨_, hfailure, rfl⟩), rfl⟩
    | storeFailed hfailure hother =>
      exact ⟨_, .inl (.inr ⟨_, hfailure, rfl⟩), toRestrictionError_ofStore hother⟩
    | roleInvalid hstore hinvalid => exact ⟨_, .inr ⟨_, hstore, _, rfl, .inl hinvalid⟩, rfl⟩
    | unmet hstore hunmet => exact ⟨_, .inr ⟨_, hstore, _, rfl, .inr hunmet⟩, rfl⟩

/-- Unless the login itself is at fault, what it shows has no part in the cause. -/
theorem Cause.of_sameSubject (hcause : service.Cause login error)
    (hrequest : error.isRequestError = false) (hsame : login.SameSubject other) :
    service.Cause other error := by
  cases hcause with
  | roleNotFound hnone =>
    rw [hsame.roleId] at hnone ⊢
    exact .roleNotFound hnone
  | storeUnavailable hfailure =>
    rw [hsame.roleId] at hfailure
    exact .storeUnavailable hfailure
  | storeFailed hfailure hother =>
    rw [hsame.roleId] at hfailure
    exact .storeFailed hfailure hother
  | roleInvalid hstore hinvalid =>
    rw [hsame.roleId] at hstore
    exact .roleInvalid hstore (hsame.roleInvalid hinvalid)
  | unmet hstore hunmet =>
    rw [Login.isRequestError_of_unmet hunmet] at hrequest
    cases hrequest

/-! ## What an error tells -/

theorem cause_roleNotFound_iff {role : String} :
    service.Cause login (.roleNotFound role) ↔
      service.store.annotationsOf login.roleId = .ok none ∧ role = login.roleId.text := by
  refine ⟨?_, ?_⟩
  · intro h
    cases h with
    | roleNotFound hnone => exact ⟨hnone, rfl⟩
    | roleInvalid _ hinvalid => cases Login.isConfigurationError_of_roleInvalid hinvalid
    | unmet _ hunmet => cases Login.isRequestError_of_unmet hunmet
  · intro h
    obtain ⟨hnone, rfl⟩ := h
    exact .roleNotFound hnone

theorem cause_serviceUnavailable_iff {reason : String} :
    service.Cause login (.serviceUnavailable reason) ↔
      service.store.annotationsOf login.roleId = .error (.serviceUnavailable reason) := by
  refine ⟨?_, .storeUnavailable⟩
  intro h
  cases h with
  | storeUnavailable hfailure => exact hfailure
  | roleInvalid _ hinvalid => cases Login.isConfigurationError_of_roleInvalid hinvalid
  | unmet _ hunmet => cases Login.isRequestError_of_unmet hunmet

theorem cause_internal_iff {reason : String} :
    service.Cause login (.internal reason) ↔
      ∃ failure, service.store.annotationsOf login.roleId = .error failure ∧
        (∀ other, failure ≠ .serviceUnavailable other) ∧ reason = failure.message := by
  refine ⟨?_, ?_⟩
  · intro h
    cases h with
    | storeFailed hfailure hother => exact ⟨_, hfailure, hother, rfl⟩
    | roleInvalid _ hinvalid => cases Login.isConfigurationError_of_roleInvalid hinvalid
    | unmet _ hunmet => cases Login.isRequestError_of_unmet hunmet
  · intro h
    obtain ⟨failure, hfailure, hother, rfl⟩ := h
    exact .storeFailed hfailure hother

theorem cause_and_isConfigurationError_iff :
    service.Cause login error ∧ error.isConfigurationError = true ↔
      ∃ annotations, service.store.annotationsOf login.roleId = .ok (some annotations) ∧
        login.RoleInvalid service.settings annotations error := by
  rw [← answer_eq_error_iff_cause, answer_eq_configurationError_iff,
    authorize_eq_configurationError_iff_roleInvalid]

theorem cause_and_isRequestError_iff :
    service.Cause login error ∧ error.isRequestError = true ↔
      ∃ annotations, service.store.annotationsOf login.roleId = .ok (some annotations) ∧
        login.Unmet service.settings annotations error := by
  refine ⟨?_, ?_⟩
  · intro h
    obtain ⟨hcause, hrequest⟩ := h
    cases hcause with
    | roleNotFound | storeUnavailable | storeFailed => cases hrequest
    | roleInvalid _ hinvalid =>
      have hconfiguration := Login.isConfigurationError_of_roleInvalid hinvalid
      rw [RestrictionError.not_isConfigurationError_of_isRequestError hrequest] at hconfiguration
      cases hconfiguration
    | unmet hstore hunmet => exact ⟨_, hstore, hunmet⟩
  · intro h
    obtain ⟨annotations, hstore, hunmet⟩ := h
    exact ⟨.unmet hstore hunmet, Login.isRequestError_of_unmet hunmet⟩

/-- The error that a client sees tells the cause of the refusal: the role is not found exactly when
the store does not have it, the service is unavailable exactly when the store is, an internal error
is any other failure of the store with its message, an error of configuration is the one that the
checks of the role report, and all other errors are those of a login compared with a valid role.
Unless the login is at fault, the answer is the same whatever it shows. The errors of the checks and
of the comparison reach the service and its clients unchanged. -/
theorem answer_tells_cause (service : Service) (login : Login) :
    (∀ role, service.answer login = .error (.roleNotFound role) ↔
      service.store.annotationsOf login.roleId = .ok none ∧ role = login.roleId.text) ∧
    (∀ reason, service.answer login = .error (.serviceUnavailable reason) ↔
      service.store.annotationsOf login.roleId = .error (.serviceUnavailable reason)) ∧
    (∀ reason, service.answer login = .error (.internal reason) ↔
      ∃ failure, service.store.annotationsOf login.roleId = .error failure ∧
        (∀ other, failure ≠ .serviceUnavailable other) ∧ reason = failure.message) ∧
    (∀ error, service.answer login = .error error ∧ error.isConfigurationError = true ↔
      ∃ annotations, service.store.annotationsOf login.roleId = .ok (some annotations) ∧
        login.RoleInvalid service.settings annotations error) ∧
    (∀ error, service.answer login = .error error ∧ error.isRequestError = true ↔
      ∃ annotations, service.store.annotationsOf login.roleId = .ok (some annotations) ∧
        login.Unmet service.settings annotations error) ∧
    (∀ error, service.answer login = .error error → error.isRequestError = false →
      ∀ other, login.SameSubject other → service.answer other = .error error) ∧
    ∀ annotations error, service.store.annotationsOf login.roleId = .ok (some annotations) →
      login.RoleInvalid service.settings annotations error ∨
        login.Unmet service.settings annotations error →
      service.authorize login = .error (.restriction error) ∧
        service.answer login = .error error := by
  simp only [answer_eq_error_iff_cause]
  refine ⟨fun _ => cause_roleNotFound_iff, fun _ => cause_serviceUnavailable_iff,
    fun _ => cause_internal_iff, fun _ => cause_and_isConfigurationError_iff,
    fun _ => cause_and_isRequestError_iff, ?_, ?_⟩
  · intro error hcause hrequest other hsame
    exact hcause.of_sameSubject hrequest hsame
  · intro annotations error hstore hfault
    refine ⟨authorize_eq_error_iff.2 (.inr ⟨annotations, hstore, error, rfl, hfault⟩), ?_⟩
    rcases hfault with hinvalid | hunmet
    · exact .roleInvalid hstore hinvalid
    · exact .unmet hstore hunmet

/-- A store that reports a missing role as a failure is broken, whatever the token holds; and a role
without a subscription is refused for that before the token is read. -/
theorem answer_tells_failure_of_store :
    let token (claim : String) : Login := .azure ⟨"acme", "prod", "host/web", ⟨claim, ""⟩⟩
    let broken : Service := ⟨.failing (.roleNotFound "acme:host:web"), {}⟩
    let empty : Service := ⟨⟨fun _ => .ok (some [])⟩, {}⟩
    broken.answer (token "/subscriptions/s") =
        .error (.internal "role 'acme:host:web' not found") ∧
      broken.answer (token "") = .error (.internal "role 'acme:host:web' not found") ∧
      empty.answer (token "") = .error (.constraintMissing "subscription-id") := by
  intro token broken empty
  have hbroken : broken.answer (token "/subscriptions/s") =
      .error (.internal "role 'acme:host:web' not found") := by
    refine ((answer_tells_cause broken (token "/subscriptions/s")).2.2.1 _).2 ?_
    refine ⟨.roleNotFound "acme:host:web", rfl, ?_, by decide⟩
    intro reason hreason
    cases hreason
  refine ⟨hbroken, ?_, ?_⟩
  · exact (answer_tells_cause broken (token "/subscriptions/s")).2.2.2.2.2.1 _ hbroken rfl
      (token "") ⟨rfl, rfl, rfl⟩
  · have hinvalid : AzureRole.validate ⟨[], "prod"⟩ =
        .error (.constraintMissing "subscription-id") := rfl
    exact ((answer_tells_cause empty (token "")).2.2.2.2.2.2 [] _ rfl (.inl hinvalid)).2

end Service

end WorkloadGuard
