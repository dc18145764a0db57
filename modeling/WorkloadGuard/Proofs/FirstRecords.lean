import Mathlib.Data.List.Dedup
import WorkloadGuard.Proofs.OfflineCheck

/-!
# First records

A list may hold records of one role more than once. The store made of it serves the first of them,
and neither later records of the role nor those of other roles have a say: a login is decided alike
by any two lists in which its role has the same first record.

## Main statements

- `find?_eq_some_iff_firstRecord`: a search for an id finds its first record.
- `StaticRoleStore.size_ofRecords`: a store has one entry for each id that occurs.
- `sameFirstRecord_of_filter_eq`, `sameFirstRecord_of_repeated`: records of other roles come and go
  and change places, and so do later records of a role.
- `Service.authorizeKubernetes_congr`, `Service.authorizeAzure_congr`: of its store, a service reads
  the answer for the role of a login and no other.
- `Service.serves_first_records`: what is served, and which lists decide a login alike.
-/

namespace WorkloadGuard

/-! ## The first record of a role -/

/-- `record` is the first of the records that have the id `id`. -/
def FirstRecord (records : List RoleRecord) (id : RoleId) (record : RoleRecord) : Prop :=
  ∃ before after, records = before ++ record :: after ∧ record.id = id ∧
    ∀ other ∈ before, other.id ≠ id

/-- A role has the same first record in both lists, and so it is in both or in neither. -/
def SameFirstRecord (a b : List RoleRecord) (id : RoleId) : Prop :=
  ∀ record, FirstRecord a id record ↔ FirstRecord b id record

theorem find?_eq_some_iff_firstRecord {records : List RoleRecord} {id : RoleId}
    {record : RoleRecord} :
    (records.find? fun record => record.id == id) = some record ↔
      FirstRecord records id record := by
  rw [List.find?_eq_some_iff_append]
  unfold FirstRecord
  constructor
  · intro h
    obtain ⟨hid, before, after, rfl, hbefore⟩ := h
    exact ⟨before, after, rfl, by simpa using hid, fun other hother => by
      simpa using hbefore other hother⟩
  · intro h
    obtain ⟨before, after, rfl, hid, hbefore⟩ := h
    exact ⟨by simpa using hid, before, after, rfl, fun other hother => by
      simpa using hbefore other hother⟩

theorem find?_eq_none_iff_forall_id_ne {records : List RoleRecord} {id : RoleId} :
    (records.find? fun record => record.id == id) = none ↔ ∀ record ∈ records, record.id ≠ id := by
  simp

/-! ## Lists with the same first record -/

section SameFirst

variable {a b : List RoleRecord} {id : RoleId}

theorem sameFirstRecord_iff :
    SameFirstRecord a b id ↔
      (a.find? fun record => record.id == id) = b.find? fun record => record.id == id := by
  unfold SameFirstRecord
  simp only [← find?_eq_some_iff_firstRecord]
  exact Option.ext_iff.symm

/-- Records of other roles may be added, removed and reordered. -/
theorem sameFirstRecord_of_filter_eq
    (hfilter : (a.filter fun record => record.id == id) = b.filter fun record => record.id == id) :
    SameFirstRecord a b id := by
  rw [sameFirstRecord_iff, ← List.head?_filter, ← List.head?_filter, hfilter]

/-- A record may be added or dropped as long as its role has a record before it. -/
theorem sameFirstRecord_of_repeated {before after : List RoleRecord} {record : RoleRecord}
    (hrepeated : ∃ other ∈ before, other.id = record.id) (id : RoleId) :
    SameFirstRecord (before ++ record :: after) (before ++ after) id := by
  rw [sameFirstRecord_iff, List.find?_append, List.find?_append]
  by_cases hid : record.id = id
  · -- the search is over before it gets to the record
    obtain ⟨other, hother, heq⟩ := hrepeated
    have hfound : (before.find? fun record => record.id == id).isSome = true := by
      rw [List.find?_isSome]
      exact ⟨other, hother, by simpa using heq.trans hid⟩
    obtain ⟨first, hfirst⟩ := Option.isSome_iff_exists.1 hfound
    rw [hfirst, Option.some_or, Option.some_or]
  · have hskip : (record.id == id) = false := by simpa using hid
    simp only [List.find?_cons, hskip]

end SameFirst

/-! ## Stores -/

namespace StaticRoleStore

theorem annotationsOf_ofRecords (records : List RoleRecord) (id : RoleId) :
    (ofRecords records).toRoleStore.annotationsOf id =
      .ok ((records.find? fun record => record.id == id).map RoleRecord.annotations) := by
  rw [← get?_ofRecords]
  rfl

theorem mem_roles_ofRecords {records : List RoleRecord} {id : RoleId} :
    id.text ∈ (ofRecords records).roles ↔ ∃ record ∈ records, record.id = id := by
  have hlookup : (ofRecords records).roles[id.text]? =
      (records.find? fun record => record.id == id).map RoleRecord.annotations :=
    get?_ofRecords records id
  rw [Std.TreeMap.mem_iff_isSome_getElem?, hlookup, Option.isSome_map, List.find?_isSome]
  simp only [beq_iff_eq]

/-- A store has as many entries as there are different ids in its list. -/
theorem size_ofRecords (records : List RoleRecord) :
    (ofRecords records).size = (records.map RoleRecord.id).dedup.length := by
  -- the keys of the table and the ids of the list are the same texts, and each is there once
  have htexts : Function.Injective RoleId.text := fun a b h => congrArg RoleId.mk h
  have hkeys : (ofRecords records).roles.keys.Perm
      ((records.map RoleRecord.id).dedup.map RoleId.text) := by
    rw [List.perm_ext_iff_of_nodup Std.TreeMap.nodup_keys ((List.nodup_dedup _).map htexts)]
    intro text
    have hmem : text ∈ (ofRecords records).roles ↔ ∃ record ∈ records, record.id = ⟨text⟩ :=
      mem_roles_ofRecords
    rw [Std.TreeMap.mem_keys, hmem]
    simp only [List.mem_map, List.mem_dedup]
    constructor
    · intro h
      obtain ⟨record, hrecord, hid⟩ := h
      exact ⟨⟨text⟩, ⟨record, hrecord, hid⟩, rfl⟩
    · intro h
      obtain ⟨_, ⟨record, hrecord, rfl⟩, rfl⟩ := h
      exact ⟨record, hrecord, rfl⟩
  rw [size, ← Std.TreeMap.length_keys, hkeys.length_eq, List.length_map]

end StaticRoleStore

/-! ## Decisions -/

namespace Service

variable {service other : Service}

/-- Of its store, a service reads no more than the answer for the role of the login. -/
theorem authorizeKubernetes_congr {request : KubernetesRequest}
    (hsettings : service.settings = other.settings)
    (hstore : service.store.annotationsOf request.roleId =
      other.store.annotationsOf request.roleId) :
    service.authorizeKubernetes request = other.authorizeKubernetes request := by
  simp only [authorizeKubernetes, annotationsOf, hstore, hsettings]

theorem authorizeAzure_congr {request : AzureRequest}
    (hstore : service.store.annotationsOf request.roleId =
      other.store.annotationsOf request.roleId) :
    service.authorizeAzure request = other.authorizeAzure request := by
  simp only [authorizeAzure, annotationsOf, hstore]

theorem annotationsOf_ofRecords_congr {a b : List RoleRecord} {id : RoleId}
    (hsame : SameFirstRecord a b id) (settings : EngineSettings) :
    (ofRecords a settings).store.annotationsOf id =
      (ofRecords b settings).store.annotationsOf id := by
  simp only [ofRecords, StaticRoleStore.annotationsOf_ofRecords, sameFirstRecord_iff.1 hsame]

/-- A store never fails: it serves the annotations of the first record of a role, and nothing
exactly if no record has the id; it has as many entries as there are different ids. Two lists in
which the role of a login has the same first record decide the login alike, for the service and for
its clients. That is so if the lists have the same records of the role in the same order, whatever
records of other roles they have, and if one list repeats a role further down. -/
theorem serves_first_records :
    (∀ records,
      let store := StaticRoleStore.ofRecords records
      store.size = (records.map RoleRecord.id).dedup.length ∧
        ∀ id,
          (∀ error, store.toRoleStore.annotationsOf id ≠ .error error) ∧
          (∀ annotations, store.toRoleStore.annotationsOf id = .ok (some annotations) ↔
            ∃ record, FirstRecord records id record ∧ record.annotations = annotations) ∧
          (store.toRoleStore.annotationsOf id = .ok none ↔
            ∀ record ∈ records, record.id ≠ id)) ∧
    (∀ a b settings (request : KubernetesRequest), SameFirstRecord a b request.roleId →
      (ofRecords a settings).authorizeKubernetes request =
          (ofRecords b settings).authorizeKubernetes request ∧
        (ofRecords a settings).answerKubernetes request =
          (ofRecords b settings).answerKubernetes request) ∧
    (∀ a b settings (request : AzureRequest), SameFirstRecord a b request.roleId →
      (ofRecords a settings).authorizeAzure request =
          (ofRecords b settings).authorizeAzure request ∧
        (ofRecords a settings).answerAzure request =
          (ofRecords b settings).answerAzure request) ∧
    (∀ (a b : List RoleRecord) id,
      (a.filter fun record => record.id == id) = (b.filter fun record => record.id == id) →
      SameFirstRecord a b id) ∧
    ∀ (before after : List RoleRecord) record, (∃ other ∈ before, other.id = record.id) →
      ∀ id, SameFirstRecord (before ++ record :: after) (before ++ after) id := by
  refine ⟨?_, ?_, ?_, ?_, ?_⟩
  · intro records store
    refine ⟨StaticRoleStore.size_ofRecords records, fun id => ?_⟩
    rw [StaticRoleStore.annotationsOf_ofRecords]
    refine ⟨nofun, fun annotations => ?_, ?_⟩
    · simp only [Except.ok.injEq, Option.map_eq_some_iff, find?_eq_some_iff_firstRecord]
    · rw [Except.ok.injEq, Option.map_eq_none_iff, find?_eq_none_iff_forall_id_ne]
  · intro a b settings request hsame
    have hdecision : (ofRecords a settings).authorizeKubernetes request =
        (ofRecords b settings).authorizeKubernetes request :=
      authorizeKubernetes_congr rfl (annotationsOf_ofRecords_congr hsame settings)
    refine ⟨hdecision, ?_⟩
    rw [answerKubernetes, answerKubernetes, hdecision]
  · intro a b settings request hsame
    have hdecision : (ofRecords a settings).authorizeAzure request =
        (ofRecords b settings).authorizeAzure request :=
      authorizeAzure_congr (annotationsOf_ofRecords_congr hsame settings)
    refine ⟨hdecision, ?_⟩
    rw [answerAzure, answerAzure, hdecision]
  · intro a b id hfilter
    exact sameFirstRecord_of_filter_eq hfilter
  · intro before after record hrepeated id
    exact sameFirstRecord_of_repeated hrepeated id

/-- A second record of the host `web` does not count, and neither does one of the host `till`. -/
theorem serves_first_web :
    let web : RoleRecord := ⟨⟨"acme:host:web"⟩, [⟨"authn-k8s/namespace", "shop"⟩]⟩
    let moved : RoleRecord := ⟨⟨"acme:host:web"⟩, [⟨"authn-k8s/namespace", "bank"⟩]⟩
    let till : RoleRecord := ⟨⟨"acme:host:till"⟩, []⟩
    let pod : KubernetesRequest := ⟨"acme", "prod", "host/web",
      { podNamespace := "shop", serviceAccount := "default", pod := "web-0" }⟩
    let token : AzureRequest := ⟨"acme", "prod", "host/web", ⟨"/subscriptions/s", "id"⟩⟩
    (ofRecords [web, moved] {}).authorizeKubernetes pod =
        (ofRecords [web] {}).authorizeKubernetes pod ∧
      (ofRecords [till, web] {}).answerAzure token = (ofRecords [web] {}).answerAzure token := by
  intro web moved till pod token
  obtain ⟨_, hkubernetes, hazure, hothers, hlater⟩ := serves_first_records
  have hmoved : SameFirstRecord [web, moved] [web] pod.roleId :=
    hlater [web] [] moved ⟨web, List.mem_singleton_self web, rfl⟩ pod.roleId
  have htill : SameFirstRecord [till, web] [web] token.roleId :=
    hothers [till, web] [web] token.roleId (by decide)
  exact ⟨(hkubernetes _ _ {} pod hmoved).1, (hazure _ _ {} token htill).2⟩

end Service

end WorkloadGuard
