import WorkloadGuard.Proofs.Login

/-!
# Offline checks and online refusals

A policy is checked record by record, long before anyone logs in; a login goes from its name to a
role, through the store and the checks of the role to the comparison with the request. Here both are
related, for the store of a fixed list of records: the check of the record that the store keeps for
a login says whether the login will be refused for its role, and with which error. Records that the
store does not keep have no say, and nothing that a request holds has.

## Main statements

- `answer_eq_configurationError_iff_check`: for the service of a list of records and for its
  clients, a login is refused for its role exactly when the check of the role's first record fails;
  a list without failures never makes a login fail for its role.
-/

namespace WorkloadGuard

/-! ## Lists of records -/

/-- The first record of a role fails its check for a provider with `error`. -/
def FirstRecordFails (records : List RoleRecord) (settings : EngineSettings) (id : RoleId)
    (provider : Provider) (serviceId : String) (error : RestrictionError) : Prop :=
  ∃ record, (records.find? fun record => record.id == id) = some record ∧
    record.check provider serviceId settings = .error error

/-- The service that decides by a fixed list of records. -/
def Service.ofRecords (records : List RoleRecord) (settings : EngineSettings) : Service :=
  ⟨(StaticRoleStore.ofRecords records).toRoleStore, settings⟩

theorem Service.annotationsOf_ofRecords_eq_some_iff {records : List RoleRecord}
    {settings : EngineSettings} {id : RoleId} {annotations : List AnnotationEntry} :
    (ofRecords records settings).store.annotationsOf id = .ok (some annotations) ↔
      (records.find? fun record => record.id == id) = some ⟨id, annotations⟩ := by
  simp only [ofRecords, StaticRoleStore.toRoleStore, StaticRoleStore.get?_ofRecords,
    Except.ok.injEq, Option.map_eq_some_iff]
  refine ⟨?_, ?_⟩
  · intro h
    obtain ⟨record, hfind, rfl⟩ := h
    have hid : record.id = id := by simpa using List.find?_some hfind
    rw [hfind, ← hid]
  · intro hfind
    exact ⟨_, hfind, rfl⟩

theorem Service.authorize_ofRecords_eq_configurationError_iff {records : List RoleRecord}
    {settings : EngineSettings} {login : Login} {error : RestrictionError} :
    (ofRecords records settings).authorize login = .error (.restriction error) ∧
        error.isConfigurationError = true ↔
      FirstRecordFails records settings login.roleId login.provider login.serviceId error := by
  rw [authorize_eq_configurationError_iff]
  simp only [annotationsOf_ofRecords_eq_some_iff]
  refine ⟨?_, ?_⟩
  · intro h
    obtain ⟨annotations, hfind, hcheck⟩ := h
    exact ⟨_, hfind, hcheck⟩
  · intro h
    obtain ⟨⟨id, annotations⟩, hfind, hcheck⟩ := h
    -- the record that is found has the id that was looked for
    have hid : id = login.roleId := by simpa using List.find?_some hfind
    subst hid
    exact ⟨annotations, hfind, hcheck⟩

/-- Checking the records of a list tells which logins will be refused for their roles once the list
is served, and with which errors: those whose first record fails its check. Service and clients
report the same, and if no record fails for the provider of a login, the login is never refused for
its role. -/
theorem Service.answer_eq_configurationError_iff_check (records : List RoleRecord)
    (settings : EngineSettings) (login : Login) :
    (∀ error,
      ((ofRecords records settings).authorize login = .error (.restriction error) ∧
          error.isConfigurationError = true ↔
        FirstRecordFails records settings login.roleId login.provider login.serviceId error) ∧
      ((ofRecords records settings).answer login = .error error ∧
          error.isConfigurationError = true ↔
        FirstRecordFails records settings login.roleId login.provider login.serviceId error)) ∧
    ((∀ record ∈ records, record.check login.provider login.serviceId settings = .ok ()) →
      ∀ error, (ofRecords records settings).answer login = .error error →
        error.isConfigurationError = false) := by
  refine ⟨fun error => ⟨authorize_ofRecords_eq_configurationError_iff, ?_⟩, ?_⟩
  · rw [answer_eq_configurationError_iff]
    exact authorize_ofRecords_eq_configurationError_iff
  · intro hvalid error hanswer
    -- an error of configuration would be that of a record of the list
    rw [← Bool.not_eq_true]
    intro hconfiguration
    obtain ⟨record, hfind, hcheck⟩ := authorize_ofRecords_eq_configurationError_iff.1
      (answer_eq_configurationError_iff.1 ⟨hanswer, hconfiguration⟩)
    rw [hvalid record (List.mem_of_find?_eq_some hfind)] at hcheck
    cases hcheck

/-- A list without failures refuses a pod of another namespace, and the role is not to blame. -/
theorem Service.answer_of_other_namespace :
    let records : List RoleRecord := [⟨⟨"acme:host:web"⟩, [⟨"authn-k8s/namespace", "shop"⟩]⟩]
    let login : Login := .kubernetes ⟨"acme", "prod", "host/web",
      { podNamespace := "bank", serviceAccount := "default", pod := "web-0" }⟩
    ∃ error, (ofRecords records {}).answer login = .error error ∧
      error.isConfigurationError = false := by
  intro records login
  have hrefused : ((ofRecords records {}).answer login).toOption = none := by decide
  obtain ⟨error, hanswer⟩ := Outcome.toOption_eq_none_iff.1 hrefused
  refine ⟨error, hanswer, ?_⟩
  refine (answer_eq_configurationError_iff_check records {} login).2 ?_ error hanswer
  intro record hrecord
  have hvalid : (record.check login.provider login.serviceId {}).toOption = some () := by
    rw [List.mem_singleton.1 hrecord]
    decide
  exact Outcome.toOption_eq_some_iff.1 hvalid

end WorkloadGuard
