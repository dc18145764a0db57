import WorkloadGuard.Proofs.Azure.ResourcePath
import WorkloadGuard.Proofs.Azure.Validation
import WorkloadGuard.Proofs.Matching
import WorkloadGuard.Service

/-!
# Decisions on Azure logins

A login with a token passes through the role store, the checks of the role, the reading of the
token and the comparison of both. Here the whole way is one condition on what the store answers:
`Grants` lists everything that a role must declare and a token must show. A token shows one managed
identity, and the marker in its path decides which kind of identity that is.

## Main statements

- `TokenClaims.identity_eq_ok_iff`: the identity that a token shows.
- `TokenClaims.satisfy_eq_ok_iff`: what a token must show to satisfy a spec, valid or not.
- `Service.authorizeAzure_iff_grants`: a login with a token is accepted exactly when the role that
  it stands for grants the token.
-/

namespace WorkloadGuard

/-! ## What a token shows -/

namespace ResourcePath

/-- Some provider segment is the namespace of identities that users assign, in any case. -/
def NamesManagedIdentity (path : ResourcePath) : Prop :=
  ∃ segment ∈ path.providers, segment.toLower = "microsoft.managedidentity"

theorem isUserAssigned_iff {path : ResourcePath} :
    path.isUserAssigned = true ↔ path.NamesManagedIdentity := by
  have hmarker : managedIdentityProvider.toLower = "microsoft.managedidentity" := by
    decide +kernel
  unfold isUserAssigned NamesManagedIdentity
  simp only [List.any_eq_true, Text.equalsIgnoringCase_iff, hmarker]

/-- The resources observed of a path and one identity. -/
def resourcesWith (path : ResourcePath) (identity : AzureKind × String) : ResourceSet AzureKind :=
  .ofSpecs
    [(.subscriptionId, path.subscriptionId), (.resourceGroup, path.resourceGroup), identity]

/-- The last write of a kind counts, and the identity is written last. -/
theorem get?_resourcesWith (path : ResourcePath) (kind other : AzureKind) (value : String) :
    (path.resourcesWith (kind, value)).get? other =
      if other = kind then some value else if other = .resourceGroup then some path.resourceGroup
      else if other = .subscriptionId then some path.subscriptionId else none :=
  rfl

/-- The resources of a path and one identity hold a spec exactly when the sections of the path agree
with it and it asks for no other identity. -/
theorem forall_get?_resourcesWith_iff {spec : ResourceSet AzureKind} {path : ResourcePath}
    {kind : AzureKind} {value : String} (hsubscription : kind ≠ .subscriptionId)
    (hgroup : kind ≠ .resourceGroup) :
    (∀ other declared, spec.get? other = some declared →
      (path.resourcesWith (kind, value)).get? other = some declared) ↔
      (∀ declared, spec.get? .subscriptionId = some declared → declared = path.subscriptionId) ∧
        (∀ declared, spec.get? .resourceGroup = some declared → declared = path.resourceGroup) ∧
        (∀ declared, spec.get? .userAssignedIdentity = some declared →
          kind = .userAssignedIdentity ∧ declared = value) ∧
        (∀ declared, spec.get? .systemAssignedIdentity = some declared →
          kind = .systemAssignedIdentity ∧ declared = value) := by
  simp only [get?_resourcesWith]
  refine ⟨?_, ?_⟩
  · intro hall
    refine ⟨?_, ?_, ?_, ?_⟩
    · intro declared hdeclared
      have hshown := hall _ _ hdeclared
      simpa [hsubscription.symm, eq_comm] using hshown
    · intro declared hdeclared
      have hshown := hall _ _ hdeclared
      simpa [hgroup.symm, eq_comm] using hshown
    · intro declared hdeclared
      have hshown := hall _ _ hdeclared
      simpa [eq_comm] using hshown
    · intro declared hdeclared
      have hshown := hall _ _ hdeclared
      simpa [eq_comm] using hshown
  · intro h other declared hdeclared
    obtain ⟨hs, hg, hu, hi⟩ := h
    cases other with
    | subscriptionId => simp [hsubscription.symm, hs declared hdeclared]
    | resourceGroup => simp [hgroup.symm, hg declared hdeclared]
    | userAssignedIdentity =>
      obtain ⟨rfl, rfl⟩ := hu declared hdeclared
      simp
    | systemAssignedIdentity =>
      obtain ⟨rfl, rfl⟩ := hi declared hdeclared
      simp

end ResourcePath

namespace TokenClaims

/-- A token whose path has the marker shows the name of its resource, and any other token shows its
object id, which must not be empty. -/
theorem identity_eq_ok_iff {claims : TokenClaims} {path : ResourcePath} {name : String}
    {identity : AzureKind × String} (hname : path.resourceName? = some name) :
    claims.identity path = .ok identity ↔
      path.NamesManagedIdentity ∧ identity = (.userAssignedIdentity, name) ∨
        ¬ path.NamesManagedIdentity ∧ claims.objectId ≠ "" ∧
          identity = (.systemAssignedIdentity, claims.objectId) := by
  rw [← ResourcePath.isUserAssigned_iff]
  unfold TokenClaims.identity
  rw [hname]
  by_cases hmarker : path.isUserAssigned = true
  · have hnamed : (some name).filter (fun _ => path.isUserAssigned) = some name := by
      simp [hmarker]
    rw [hnamed]
    simp only [hmarker, Except.ok.injEq, true_and, not_true, false_and, or_false]
    exact eq_comm
  · have hunnamed : (some name).filter (fun _ => path.isUserAssigned) = none := by
      simp [hmarker]
    rw [hunnamed]
    by_cases hid : claims.objectId = ""
    · simp [hmarker, hid]
    · simp only [hmarker, hid, if_false, Except.ok.injEq, false_and, not_false_iff, ne_eq,
        true_and, false_or, Bool.false_eq_true]
      exact eq_comm

/-- The path of a token is `path`, and every value of a spec is shown by it. -/
structure Shows (claims : TokenClaims) (path : ResourcePath) (spec : ResourceSet AzureKind) :
    Prop where
  parsed : ResourcePath.parse claims.resourcePath = .ok path
  /-- Without the marker the token must have an object id. -/
  objectId : ¬ path.NamesManagedIdentity → claims.objectId ≠ ""
  subscription : ∀ value, spec.get? .subscriptionId = some value → value = path.subscriptionId
  resourceGroup : ∀ value, spec.get? .resourceGroup = some value → value = path.resourceGroup
  userAssigned : ∀ name, spec.get? .userAssignedIdentity = some name →
    path.NamesManagedIdentity ∧ path.providers.getLast? = some name
  systemAssigned : ∀ id, spec.get? .systemAssignedIdentity = some id →
    ¬ path.NamesManagedIdentity ∧ id = claims.objectId

theorem observed_eq_ok_iff {claims : TokenClaims} {observed : ResourceSet AzureKind} :
    claims.observed = .ok observed ↔
      ∃ path identity, ResourcePath.parse claims.resourcePath = .ok path ∧
        claims.identity path = .ok identity ∧ observed = path.resourcesWith identity := by
  simp only [TokenClaims.observed, Outcome.bind_eq_ok_iff, Outcome.pure_eq_ok_iff]
  refine ⟨?_, ?_⟩
  · intro h
    obtain ⟨path, hparse, identity, hidentity, hobserved⟩ := h
    exact ⟨path, identity, hparse, hidentity, hobserved.symm⟩
  · intro h
    obtain ⟨path, identity, hparse, hidentity, hobserved⟩ := h
    exact ⟨path, hparse, identity, hidentity, hobserved.symm⟩

section Shows

variable {claims : TokenClaims} {path : ResourcePath} {spec : ResourceSet AzureKind}

/-- With the marker, a token shows what its path and the name of its resource hold. -/
theorem shows_iff_of_marker {name : String}
    (hparse : ResourcePath.parse claims.resourcePath = .ok path)
    (hname : path.resourceName? = some name) (hmarker : path.NamesManagedIdentity) :
    claims.Shows path spec ↔ ∀ kind value, spec.get? kind = some value →
      (path.resourcesWith (.userAssignedIdentity, name)).get? kind = some value := by
  rw [ResourcePath.forall_get?_resourcesWith_iff (by decide) (by decide)]
  refine ⟨?_, ?_⟩
  · intro hshows
    refine ⟨hshows.subscription, hshows.resourceGroup, ?_, ?_⟩
    · intro declared hdeclared
      have hlast : some name = some declared :=
        hname.symm.trans (hshows.userAssigned declared hdeclared).2
      exact ⟨rfl, (Option.some.inj hlast).symm⟩
    · -- an identity assigned by the system would exclude the marker
      intro declared hdeclared
      exact absurd hmarker (hshows.systemAssigned declared hdeclared).1
  · intro h
    obtain ⟨hs, hg, hu, hi⟩ := h
    refine ⟨hparse, fun hno => absurd hmarker hno, hs, hg, ?_, ?_⟩
    · intro declared hdeclared
      rw [(hu declared hdeclared).2]
      exact ⟨hmarker, hname⟩
    · intro declared hdeclared
      cases (hi declared hdeclared).1

/-- Without the marker, a token shows what its path and its object id hold, if it has one. -/
theorem shows_iff_of_no_marker (hparse : ResourcePath.parse claims.resourcePath = .ok path)
    (hmarker : ¬ path.NamesManagedIdentity) :
    claims.Shows path spec ↔ claims.objectId ≠ "" ∧
      ∀ kind value, spec.get? kind = some value →
        (path.resourcesWith (.systemAssignedIdentity, claims.objectId)).get? kind =
          some value := by
  rw [ResourcePath.forall_get?_resourcesWith_iff (by decide) (by decide)]
  refine ⟨?_, ?_⟩
  · intro hshows
    refine ⟨hshows.objectId hmarker, hshows.subscription, hshows.resourceGroup, ?_, ?_⟩
    · -- an identity assigned by a user would need the marker
      intro declared hdeclared
      exact absurd (hshows.userAssigned declared hdeclared).1 hmarker
    · intro declared hdeclared
      exact ⟨rfl, (hshows.systemAssigned declared hdeclared).2⟩
  · intro h
    obtain ⟨hid, hs, hg, hu, hi⟩ := h
    refine ⟨hparse, fun _ => hid, hs, hg, ?_, ?_⟩
    · intro declared hdeclared
      cases (hu declared hdeclared).1
    · intro declared hdeclared
      exact ⟨hmarker, (hi declared hdeclared).2⟩

/-- A token satisfies a spec exactly when it can be read and shows every value of the spec. -/
theorem satisfy_eq_ok_iff : claims.satisfy spec = .ok () ↔ ∃ path, claims.Shows path spec := by
  simp only [satisfy, Outcome.bind_eq_ok_iff, observed_eq_ok_iff,
    ResourceSet.matchAgainst_eq_ok_iff]
  refine ⟨?_, ?_⟩
  · intro h
    obtain ⟨observed, ⟨path, identity, hparse, hidentity, rfl⟩, hmatch⟩ := h
    obtain ⟨name, hname⟩ := ResourcePath.exists_resourceName?_of_parse hparse
    rcases (identity_eq_ok_iff hname).1 hidentity with ⟨hmarker, rfl⟩ | ⟨hmarker, hid, rfl⟩
    · exact ⟨path, (shows_iff_of_marker hparse hname hmarker).2 hmatch⟩
    · exact ⟨path, (shows_iff_of_no_marker hparse hmarker).2 ⟨hid, hmatch⟩⟩
  · intro h
    obtain ⟨path, hshows⟩ := h
    obtain ⟨name, hname⟩ := ResourcePath.exists_resourceName?_of_parse hshows.parsed
    by_cases hmarker : path.NamesManagedIdentity
    · have hmatch := (shows_iff_of_marker hshows.parsed hname hmarker).1 hshows
      refine ⟨_, ⟨path, (.userAssignedIdentity, name), hshows.parsed, ?_, rfl⟩, hmatch⟩
      exact (identity_eq_ok_iff hname).2 (.inl ⟨hmarker, rfl⟩)
    · obtain ⟨hid, hmatch⟩ := (shows_iff_of_no_marker hshows.parsed hmarker).1 hshows
      refine ⟨_, ⟨path, (.systemAssignedIdentity, claims.objectId), hshows.parsed, ?_, rfl⟩, hmatch⟩
      exact (identity_eq_ok_iff hname).2 (.inr ⟨hmarker, hid, rfl⟩)

end Shows

end TokenClaims

/-! ## What a role grants -/

namespace AzureRole

/-- A role grants a token whose path is `path`: the role is valid, the token can be read, and it
shows every declared value. -/
structure Grants (role : AzureRole) (claims : TokenClaims) (path : ResourcePath) : Prop where
  /-- Every annotation in scope names a permitted constraint. -/
  permitted : PermittedScope AzureKind role.serviceId role.annotations
  parsed : ResourcePath.parse claims.resourcePath = .ok path
  /-- Without the marker the token must have an object id. -/
  objectId : ¬ path.NamesManagedIdentity → claims.objectId ≠ ""
  /-- The role declares the subscription of the token. -/
  subscription : role.Declares .subscriptionId path.subscriptionId
  /-- The role declares the resource group of the token. -/
  resourceGroup : role.Declares .resourceGroup path.resourceGroup
  /-- The role does not declare identities of both kinds. -/
  oneIdentity : ¬ ((∃ name, role.Declares .userAssignedIdentity name) ∧
    ∃ id, role.Declares .systemAssignedIdentity id)
  userAssigned : ∀ name, role.Declares .userAssignedIdentity name →
    path.NamesManagedIdentity ∧ path.providers.getLast? = some name
  systemAssigned : ∀ id, role.Declares .systemAssignedIdentity id →
    ¬ path.NamesManagedIdentity ∧ id = claims.objectId

theorem exists_grants_iff {role : AzureRole} {claims : TokenClaims} :
    (∃ path, role.Grants claims path) ↔
      ∃ spec, role.validate = .ok spec ∧ claims.satisfy spec = .ok () := by
  simp only [validate_eq_ok_iff, wellFormed_iff, contains_declaredSpec_iff,
    TokenClaims.satisfy_eq_ok_iff]
  refine ⟨?_, ?_⟩
  · intro h
    obtain ⟨path, hgrants⟩ := h
    refine ⟨role.declaredSpec, ⟨hgrants.permitted, ⟨⟨_, hgrants.subscription⟩,
      ⟨_, hgrants.resourceGroup⟩, hgrants.oneIdentity⟩, rfl⟩, path, ?_⟩
    refine ⟨hgrants.parsed, hgrants.objectId, ?_, ?_, ?_, ?_⟩
    · intro value hvalue
      have hpath := get?_declaredSpec_eq_some_iff.2 hgrants.subscription
      exact Option.some.inj (hvalue.symm.trans hpath)
    · intro value hvalue
      have hpath := get?_declaredSpec_eq_some_iff.2 hgrants.resourceGroup
      exact Option.some.inj (hvalue.symm.trans hpath)
    · intro name hname
      exact hgrants.userAssigned name (get?_declaredSpec_eq_some_iff.1 hname)
    · intro id hid
      exact hgrants.systemAssigned id (get?_declaredSpec_eq_some_iff.1 hid)
  · intro h
    obtain ⟨spec, ⟨hscope, ⟨⟨subscription, hs⟩, ⟨group, hg⟩, hone⟩, rfl⟩, path, hshows⟩ := h
    have hsubscription : subscription = path.subscriptionId :=
      hshows.subscription _ (get?_declaredSpec_eq_some_iff.2 hs)
    have hgroup : group = path.resourceGroup :=
      hshows.resourceGroup _ (get?_declaredSpec_eq_some_iff.2 hg)
    subst hsubscription hgroup
    refine ⟨path, hscope, hshows.parsed, hshows.objectId, hs, hg, hone, ?_, ?_⟩
    · intro name hname
      exact hshows.userAssigned name (get?_declaredSpec_eq_some_iff.2 hname)
    · intro id hid
      exact hshows.systemAssigned id (get?_declaredSpec_eq_some_iff.2 hid)

end AzureRole

/-! ## The decision of the service -/

namespace Service

theorem authorizeAzure_eq_ok_iff {service : Service} {request : AzureRequest} :
    service.authorizeAzure request = .ok () ↔
      ∃ annotations, service.store.annotationsOf request.roleId = .ok (some annotations) ∧
        ∃ spec, AzureRole.validate ⟨annotations, request.serviceId⟩ = .ok spec ∧
          request.claims.satisfy spec = .ok () := by
  simp only [authorizeAzure, Outcome.bind_eq_ok_iff, Outcome.mapError_eq_ok_iff,
    annotationsOf_eq_ok_iff]

/-- A login with a token is accepted exactly when the store holds annotations for the role that the
login stands for and this role grants the token. -/
theorem authorizeAzure_iff_grants (service : Service) (request : AzureRequest) :
    service.authorizeAzure request = .ok () ↔
      ∃ annotations,
        service.store.annotationsOf (.ofLogin request.account request.username) =
          .ok (some annotations) ∧
        ∃ path, AzureRole.Grants ⟨annotations, request.serviceId⟩ request.claims path := by
  simp only [authorizeAzure_eq_ok_iff, AzureRole.exists_grants_iff]
  exact Iff.rfl

/-- A token for the identity `till` is accepted in mixed case and without an object id, and one for
another identity is not. -/
theorem authorizeAzure_of_mixed_case :
    let annotations : List AnnotationEntry :=
      [⟨"authn-azure/subscription-id", "s"⟩, ⟨"authn-azure/prod/resource-group", "shop"⟩,
        ⟨"authn-azure/user-assigned-identity", "till"⟩]
    let store : RoleStore :=
      ⟨fun id => .ok (if id = ⟨"acme:host:till"⟩ then some annotations else none)⟩
    let service : Service := ⟨store, {}⟩
    let token (name : String) : AzureRequest := ⟨"acme", "prod", "host/till",
      ⟨"/SUBSCRIPTIONS/s/resourceGroups/shop/Providers/MICROSOFT.ManagedIdentity/ids/" ++ name, ""⟩⟩
    service.authorizeAzure (token "till") = .ok () ∧
      service.authorizeAzure (token "bank") ≠ .ok () := by
  intro annotations store service token
  have hstore : service.store.annotationsOf (.ofLogin "acme" "host/till") =
      .ok (some annotations) := by
    rw [show RoleId.ofLogin "acme" "host/till" = ⟨"acme:host:till"⟩ by decide]
    exact congrArg Except.ok (if_pos rfl)
  let role : AzureRole := ⟨annotations, "prod"⟩
  let path (name : String) : ResourcePath :=
    ⟨"s", "shop", ["MICROSOFT.ManagedIdentity", "ids", name]⟩
  have hmarker (name : String) : (path name).NamesManagedIdentity :=
    ⟨"MICROSOFT.ManagedIdentity", List.mem_cons_self, by decide +kernel⟩
  have hscope : checkScope AzureKind (.ofList annotations) "prod" = .ok () := by rfl
  have huser : role.declaredSpec.get? .userAssignedIdentity = some "till" := by decide +kernel
  have hsystem : role.declaredSpec.get? .systemAssignedIdentity = none := by decide +kernel
  have hnone (id : String) : ¬ role.Declares .systemAssignedIdentity id := by
    rw [← AzureRole.get?_declaredSpec_eq_some_iff, hsystem]
    exact nofun
  refine ⟨?_, ?_⟩
  · have hgrants : role.Grants (token "till").claims (path "till") :=
      { permitted := checkScope_eq_ok_iff.1 hscope
        parsed := Outcome.toOption_eq_some_iff.1 (by decide +kernel)
        objectId := fun hno => absurd (hmarker "till") hno
        subscription := AzureRole.get?_declaredSpec_eq_some_iff.1 (by decide +kernel)
        resourceGroup := AzureRole.get?_declaredSpec_eq_some_iff.1 (by decide +kernel)
        oneIdentity := fun hboth => hboth.2.elim hnone
        userAssigned := fun name hname => ⟨hmarker "till",
          huser.symm.trans (AzureRole.get?_declaredSpec_eq_some_iff.2 hname)⟩
        systemAssigned := fun id hid => absurd hid (hnone id) }
    exact (authorizeAzure_iff_grants service _).2 ⟨annotations, hstore, path "till", hgrants⟩
  · -- the last segment of the path is not the name that the role declares
    intro hok
    obtain ⟨found, hfound, other, hgrants⟩ := (authorizeAzure_iff_grants service _).1 hok
    obtain rfl : annotations = found := Option.some.inj (Except.ok.inj (hstore.symm.trans hfound))
    have hparse : ResourcePath.parse (token "bank").claims.resourcePath = .ok (path "bank") :=
      Outcome.toOption_eq_some_iff.1 (by decide +kernel)
    obtain rfl : other = path "bank" := Except.ok.inj (hgrants.parsed.symm.trans hparse)
    have hlast : some "bank" = some "till" :=
      (hgrants.userAssigned "till" (AzureRole.get?_declaredSpec_eq_some_iff.1 huser)).2
    exact absurd hlast (by decide)

end Service

end WorkloadGuard
