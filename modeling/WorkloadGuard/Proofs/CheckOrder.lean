import WorkloadGuard.Proofs.ScopeOffenders

/-!
# The order of the checks

A role can break several rules at once, and validation reports one of them. Here `Verdict` says for
each provider what validation comes to: every rule is listed together with the rules that come
before it, which must be kept for this one to be reported. No rule speaks of those that come after
it, so whatever else is wrong with a role does not matter.

## Main statements

- `KubernetesRole.checkSpec_eq`, `AzureRole.checkSpec_eq`: the checks of a spec as one choice among
  their errors.
- `KubernetesRole.validate_eq_iff_verdict`, `AzureRole.validate_eq_iff_verdict`: validation comes to
  its verdict and to nothing else.
- `validate_stops_at_first_violation`: the same for both providers, and what is known of a valid
  identity.
-/

namespace WorkloadGuard

/-! ## Identities -/

namespace ApplicationIdentity

variable {identity : ApplicationIdentity}

/-- An identity is scoped to its namespace when no other kind is declared. -/
theorem isNamespaceScoped_iff :
    identity.isNamespaceScoped = true ↔
      ∀ kind, identity.spec.contains kind = true → kind = .podNamespace := by
  unfold isNamespaceScoped workload?
  rw [Option.isNone_iff_eq_none, List.find?_eq_none]
  simp only [ResourceSet.mem_toSpecs, KubernetesKind.narrowsNamespace, bne_iff_ne, ne_eq,
    Classical.not_not, ResourceSet.contains, Option.isSome_iff_exists]
  refine ⟨?_, ?_⟩
  · intro hall kind hkind
    obtain ⟨value, hvalue⟩ := hkind
    exact hall (kind, value) hvalue
  · intro hall spec hspec
    exact hall spec.1 ⟨spec.2, hspec⟩

/-- With a namespace, an identity is scoped to it exactly when its spec has one entry. -/
theorem isNamespaceScoped_iff_size {podNamespace : String}
    (hnamespace : identity.spec.get? .podNamespace = some podNamespace) :
    identity.isNamespaceScoped = true ↔ identity.spec.size = 1 := by
  -- the namespace is the first of the kinds, and the others are counted after it
  have hkinds : identity.spec.kinds = .podNamespace ::
      [KubernetesKind.serviceAccount, .pod, .deployment, .deploymentConfig, .statefulSet].filter
        identity.spec.contains :=
    List.filter_cons_of_pos (by simp [ResourceSet.contains, hnamespace])
  rw [isNamespaceScoped_iff, ResourceSet.size, hkinds, List.length_cons, Nat.add_eq_right,
    List.length_eq_zero_iff, List.filter_eq_nil_iff]
  refine ⟨?_, ?_⟩
  · intro hall kind hkind hcontains
    rw [hall kind hcontains] at hkind
    exact absurd hkind (by decide)
  · intro hnone kind hcontains
    cases kind with
    | podNamespace => rfl
    | _ => exact absurd hcontains (hnone _ (by decide))

end ApplicationIdentity

/-! ## Kubernetes roles -/

namespace KubernetesRole

/-- What validation of a Kubernetes role comes to. -/
inductive Verdict (role : KubernetesRole) (settings : KubernetesSettings) :
    Except RestrictionError ApplicationIdentity → Prop where
  /-- A name in scope is not permitted. -/
  | outOfScope {base : String}
      (hblamed : Blamed KubernetesKind role.serviceId role.annotations base) :
      Verdict role settings (.error (ConstraintKind.unsupported KubernetesKind base))
  /-- The role is read from the name of its host, and the name cannot be read. -/
  | unreadableHost {error : RestrictionError}
      (hscope : PermittedScope KubernetesKind role.serviceId role.annotations)
      (hnone : ∀ entry ∈ role.annotations, ¬ LivesBelow provider entry.name)
      (hparse : HostIdentifier.parse settings.acceptUnderscoredHostSegments role.hostId =
        .error error) :
      Verdict role settings (.error error)
  /-- No namespace is declared. -/
  | withoutNamespace {spec : ResourceSet KubernetesKind}
      (hscope : PermittedScope KubernetesKind role.serviceId role.annotations)
      (hdeclares : role.DeclaresSpec settings spec)
      (hnamespace : spec.get? .podNamespace = none) :
      Verdict role settings (.error .namespaceMissing)
  /-- Two or more controllers are declared; the error lists these and no others. -/
  | severalControllers {spec : ResourceSet KubernetesKind} {podNamespace : String}
      (hscope : PermittedScope KubernetesKind role.serviceId role.annotations)
      (hdeclares : role.DeclaresSpec settings spec)
      (hnamespace : spec.get? .podNamespace = some podNamespace)
      (hseveral : 2 ≤ (controllers.filter spec.contains).length) :
      Verdict role settings
        (.error (.exclusiveConstraints ((controllers.filter spec.contains).map
          KubernetesKind.spelling)))
  /-- Nothing is wrong, and the answer is what the role declares. -/
  | valid {identity : ApplicationIdentity} {podNamespace : String}
      (hscope : PermittedScope KubernetesKind role.serviceId role.annotations)
      (hbuild : role.buildIdentity settings = .ok identity)
      (hnamespace : identity.spec.get? .podNamespace = some podNamespace)
      (hone : (controllers.filter identity.spec.contains).length ≤ 1) :
      Verdict role settings (.ok identity)

/-- The checks of a Kubernetes spec: first the namespace, then the controllers. -/
theorem checkSpec_eq (spec : ResourceSet KubernetesKind) :
    checkSpec spec =
      if spec.get? .podNamespace = none then .error .namespaceMissing
      else if (controllers.filter spec.contains).length ≤ 1 then .ok ()
      else .error (.exclusiveConstraints ((controllers.filter spec.contains).map
        KubernetesKind.spelling)) := by
  have hmissing : firstMissing? spec =
      if spec.get? .podNamespace = none then some .podNamespace else none := by
    show [KubernetesKind.podNamespace].find? (fun kind => !spec.contains kind) = _
    cases hnamespace : spec.get? .podNamespace <;> simp [ResourceSet.contains, hnamespace]
  have hexclusive : declaredExclusive spec = controllers.filter spec.contains := rfl
  unfold checkSpec checkRequired checkExclusive
  rw [hmissing, hexclusive]
  by_cases hnamespace : spec.get? .podNamespace = none
  · rw [if_pos hnamespace, if_pos hnamespace]
    rfl
  · rw [if_neg hnamespace, if_neg hnamespace]
    rfl

variable {role : KubernetesRole} {settings : KubernetesSettings}

/-- A role that declares a spec has an identity with this spec. -/
theorem buildIdentity_of_declaresSpec {spec : ResourceSet KubernetesKind}
    (hdeclares : role.DeclaresSpec settings spec) :
    role.buildIdentity settings =
      .ok ⟨spec, role.containerName settings (.ofList role.annotations)⟩ := by
  unfold buildIdentity identityFrom
  rw [declaredSpec_eq_ok_iff.2 hdeclares]
  rfl

theorem declaresSpec_of_buildIdentity {identity : ApplicationIdentity}
    (hbuild : role.buildIdentity settings = .ok identity) :
    role.DeclaresSpec settings identity.spec := by
  obtain ⟨spec, hspec, hpure⟩ := Outcome.bind_eq_ok_iff.1 hbuild
  cases hpure
  exact declaredSpec_eq_ok_iff.1 hspec

/-- A role has no identity only if it is read from the name of its host and this cannot be read. -/
theorem buildIdentity_eq_error_iff {error : RestrictionError} :
    role.buildIdentity settings = .error error ↔
      (∀ entry ∈ role.annotations, ¬ LivesBelow provider entry.name) ∧
        HostIdentifier.parse settings.acceptUnderscoredHostSegments role.hostId = .error error := by
  have hspec : role.buildIdentity settings = .error error ↔
      role.declaredSpec settings (.ofList role.annotations) = .error error := by
    unfold buildIdentity identityFrom
    rw [Outcome.bind_eq_error_iff]
    exact or_iff_left (fun ⟨_, _, hpure⟩ => nomatch hpure)
  rw [hspec]
  rcases annotated_or_unannotated role.annotations with hbelow | hnone
  · rw [declaredSpec_of_annotated hbelow]
    refine ⟨nofun, ?_⟩
    intro h
    obtain ⟨entry, hentry, hlives⟩ := hbelow
    exact absurd hlives (h.1 entry hentry)
  · rw [declaredSpec_of_unannotated hnone, Outcome.map_eq_error_iff]
    exact (and_iff_right hnone).symm

/-! ### One stage after the other -/

theorem validate_of_blamed {base : String}
    (hblamed : Blamed KubernetesKind role.serviceId role.annotations base) :
    role.validate settings = .error (ConstraintKind.unsupported KubernetesKind base) := by
  simp only [validate, checkScope_of_blamed hblamed]
  rfl

/-- Once its names have passed, a role is judged by the spec of its identity. -/
theorem validate_of_permittedScope
    (hscope : PermittedScope KubernetesKind role.serviceId role.annotations) :
    role.validate settings = role.buildIdentity settings >>= fun identity =>
      (checkSpec identity.spec).map fun _ => identity := by
  simp only [validate, checkScope_of_permittedScope hscope]
  rfl

/-- Every outcome of validation is a verdict on the role. -/
theorem verdict_validate (role : KubernetesRole) (settings : KubernetesSettings) :
    role.Verdict settings (role.validate settings) := by
  by_cases hscope : PermittedScope KubernetesKind role.serviceId role.annotations
  · rw [validate_of_permittedScope hscope]
    cases hbuild : role.buildIdentity settings with
    | error error =>
      obtain ⟨hnone, hparse⟩ := buildIdentity_eq_error_iff.1 hbuild
      exact .unreadableHost hscope hnone hparse
    | ok identity =>
      have hdeclares := declaresSpec_of_buildIdentity hbuild
      show Verdict role settings ((checkSpec identity.spec).map fun _ => identity)
      rw [checkSpec_eq]
      by_cases hnone : identity.spec.get? .podNamespace = none
      · rw [if_pos hnone]
        exact .withoutNamespace hscope hdeclares hnone
      · obtain ⟨podNamespace, hnamespace⟩ := Option.ne_none_iff_exists'.1 hnone
        rw [if_neg hnone]
        by_cases hone : (controllers.filter identity.spec.contains).length ≤ 1
        · rw [if_pos hone]
          exact .valid hscope hbuild hnamespace hone
        · rw [if_neg hone]
          exact .severalControllers hscope hdeclares hnamespace (Nat.lt_of_not_le hone)
  · obtain ⟨base, hblamed⟩ := exists_blamed_iff.2 hscope
    rw [validate_of_blamed hblamed]
    exact .outOfScope hblamed

/-- Validation of a Kubernetes role comes to its verdict and to nothing else. -/
theorem validate_eq_iff_verdict {outcome : Except RestrictionError ApplicationIdentity} :
    role.validate settings = outcome ↔ role.Verdict settings outcome := by
  refine ⟨fun h => h ▸ verdict_validate role settings, ?_⟩
  intro hverdict
  cases hverdict with
  | outOfScope hblamed => exact validate_of_blamed hblamed
  | unreadableHost hscope hnone hparse =>
    rw [validate_of_permittedScope hscope, buildIdentity_eq_error_iff.2 ⟨hnone, hparse⟩]
    rfl
  | withoutNamespace hscope hdeclares hnamespace =>
    rw [validate_of_permittedScope hscope, buildIdentity_of_declaresSpec hdeclares]
    show (checkSpec _).map _ = _
    rw [checkSpec_eq, if_pos hnamespace]
    rfl
  | severalControllers hscope hdeclares hnamespace hseveral =>
    rw [validate_of_permittedScope hscope, buildIdentity_of_declaresSpec hdeclares]
    show (checkSpec _).map _ = _
    rw [checkSpec_eq, if_neg (by simp [hnamespace]), if_neg (Nat.not_le_of_lt hseveral)]
    rfl
  | valid hscope hbuild hnamespace hone =>
    rw [validate_of_permittedScope hscope, hbuild]
    show (checkSpec _).map _ = _
    rw [checkSpec_eq, if_neg (by simp [hnamespace]), if_pos hone]
    rfl

end KubernetesRole

/-! ## Azure roles -/

namespace AzureRole

/-- What validation of an Azure role comes to. -/
inductive Verdict (role : AzureRole) :
    Except RestrictionError (ResourceSet AzureKind) → Prop where
  /-- A name in scope is not permitted. -/
  | outOfScope {base : String}
      (hblamed : Blamed AzureKind role.serviceId role.annotations base) :
      Verdict role (.error (ConstraintKind.unsupported AzureKind base))
  | withoutSubscription
      (hscope : PermittedScope AzureKind role.serviceId role.annotations)
      (hnone : ∀ value, ¬ role.Declares .subscriptionId value) :
      Verdict role (.error (.constraintMissing "subscription-id"))
  | withoutResourceGroup {subscription : String}
      (hscope : PermittedScope AzureKind role.serviceId role.annotations)
      (hsubscription : role.Declares .subscriptionId subscription)
      (hnone : ∀ value, ¬ role.Declares .resourceGroup value) :
      Verdict role (.error (.constraintMissing "resource-group"))
  /-- An identity of either kind is declared. -/
  | bothIdentities {subscription group user system : String}
      (hscope : PermittedScope AzureKind role.serviceId role.annotations)
      (hsubscription : role.Declares .subscriptionId subscription)
      (hgroup : role.Declares .resourceGroup group)
      (huser : role.Declares .userAssignedIdentity user)
      (hsystem : role.Declares .systemAssignedIdentity system) :
      Verdict role
        (.error (.exclusiveConstraints ["user-assigned-identity", "system-assigned-identity"]))
  /-- Nothing is wrong, and the answer is what the role declares. -/
  | valid {subscription group : String}
      (hscope : PermittedScope AzureKind role.serviceId role.annotations)
      (hsubscription : role.Declares .subscriptionId subscription)
      (hgroup : role.Declares .resourceGroup group)
      (hone : ∀ user system, role.Declares .userAssignedIdentity user →
        ¬ role.Declares .systemAssignedIdentity system) :
      Verdict role (.ok role.declaredSpec)

theorem firstMissing?_eq (spec : ResourceSet AzureKind) :
    firstMissing? spec =
      if spec.get? .subscriptionId = none then some .subscriptionId
      else if spec.get? .resourceGroup = none then some .resourceGroup else none := by
  show [AzureKind.subscriptionId, .resourceGroup].find? (fun kind => !spec.contains kind) = _
  cases hsubscription : spec.get? .subscriptionId <;> cases hgroup : spec.get? .resourceGroup <;>
    simp [ResourceSet.contains, hsubscription, hgroup]

theorem checkExclusive_eq (spec : ResourceSet AzureKind) :
    checkExclusive spec =
      if spec.get? .userAssignedIdentity = none ∨ spec.get? .systemAssignedIdentity = none then
        .ok ()
      else
        .error (.exclusiveConstraints ["user-assigned-identity", "system-assigned-identity"]) := by
  have hdeclared : declaredExclusive spec =
      [AzureKind.userAssignedIdentity, .systemAssignedIdentity].filter spec.contains := rfl
  unfold checkExclusive
  rw [hdeclared]
  cases huser : spec.get? .userAssignedIdentity with
  | none =>
    cases hsystem : spec.get? .systemAssignedIdentity <;>
      simp [ResourceSet.contains, huser, hsystem]
  | some user =>
    cases hsystem : spec.get? .systemAssignedIdentity with
    | none => simp [ResourceSet.contains, huser, hsystem]
    | some system =>
      have hboth : [AzureKind.userAssignedIdentity, .systemAssignedIdentity].filter
          spec.contains = [AzureKind.userAssignedIdentity, .systemAssignedIdentity] := by
        simp [ResourceSet.contains, huser, hsystem]
      rw [hboth]
      rfl

/-- The checks of an Azure spec: first the subscription, then the resource group, then the
identities. -/
theorem checkSpec_eq (spec : ResourceSet AzureKind) :
    checkSpec spec =
      if spec.get? .subscriptionId = none then .error (.constraintMissing "subscription-id")
      else if spec.get? .resourceGroup = none then .error (.constraintMissing "resource-group")
      else if spec.get? .userAssignedIdentity = none ∨ spec.get? .systemAssignedIdentity = none then
        .ok ()
      else
        .error (.exclusiveConstraints ["user-assigned-identity", "system-assigned-identity"]) := by
  unfold checkSpec checkRequired
  rw [firstMissing?_eq, checkExclusive_eq]
  by_cases hsubscription : spec.get? .subscriptionId = none
  · rw [if_pos hsubscription, if_pos hsubscription]
    rfl
  rw [if_neg hsubscription, if_neg hsubscription]
  by_cases hgroup : spec.get? .resourceGroup = none
  · rw [if_pos hgroup, if_pos hgroup]
    rfl
  · rw [if_neg hgroup, if_neg hgroup]
    rfl

variable {role : AzureRole}

theorem get?_declaredSpec_eq_none_iff {kind : AzureKind} :
    role.declaredSpec.get? kind = none ↔ ∀ value, ¬ role.Declares kind value := by
  rw [Option.eq_none_iff_forall_ne_some]
  exact forall_congr' fun value => not_congr get?_declaredSpec_eq_some_iff

theorem get?_declaredSpec_ne_none_iff {kind : AzureKind} :
    role.declaredSpec.get? kind ≠ none ↔ ∃ value, role.Declares kind value := by
  rw [Option.ne_none_iff_exists']
  exact exists_congr fun value => get?_declaredSpec_eq_some_iff

/-! ### One stage after the other -/

theorem validate_of_blamed {base : String}
    (hblamed : Blamed AzureKind role.serviceId role.annotations base) :
    role.validate = .error (ConstraintKind.unsupported AzureKind base) := by
  simp only [validate, checkScope_of_blamed hblamed]
  rfl

/-- Once its names have passed, a role is judged by its spec. -/
theorem validate_of_permittedScope
    (hscope : PermittedScope AzureKind role.serviceId role.annotations) :
    role.validate = (checkSpec role.declaredSpec).map fun _ => role.declaredSpec := by
  simp only [validate, checkScope_of_permittedScope hscope]
  rfl

/-- Every outcome of validation is a verdict on the role. -/
theorem verdict_validate (role : AzureRole) : role.Verdict role.validate := by
  by_cases hscope : PermittedScope AzureKind role.serviceId role.annotations
  · rw [validate_of_permittedScope hscope, checkSpec_eq]
    split
    · rename_i hnone
      exact .withoutSubscription hscope (get?_declaredSpec_eq_none_iff.1 hnone)
    rename_i hsome
    obtain ⟨subscription, hsubscription⟩ := get?_declaredSpec_ne_none_iff.1 hsome
    split
    · rename_i hnone
      exact .withoutResourceGroup hscope hsubscription (get?_declaredSpec_eq_none_iff.1 hnone)
    rename_i hsome
    obtain ⟨group, hgroup⟩ := get?_declaredSpec_ne_none_iff.1 hsome
    split
    · rename_i hone
      refine .valid hscope hsubscription hgroup ?_
      intro user system huser hsystem
      rw [get?_declaredSpec_eq_none_iff, get?_declaredSpec_eq_none_iff] at hone
      rcases hone with hone | hone
      · exact hone user huser
      · exact hone system hsystem
    · rename_i hboth
      obtain ⟨huser, hsystem⟩ := not_or.1 hboth
      obtain ⟨user, huser⟩ := get?_declaredSpec_ne_none_iff.1 huser
      obtain ⟨system, hsystem⟩ := get?_declaredSpec_ne_none_iff.1 hsystem
      exact .bothIdentities hscope hsubscription hgroup huser hsystem
  · obtain ⟨base, hblamed⟩ := exists_blamed_iff.2 hscope
    rw [validate_of_blamed hblamed]
    exact .outOfScope hblamed

/-- Validation of an Azure role comes to its verdict and to nothing else. -/
theorem validate_eq_iff_verdict {outcome : Except RestrictionError (ResourceSet AzureKind)} :
    role.validate = outcome ↔ role.Verdict outcome := by
  refine ⟨fun h => h ▸ verdict_validate role, ?_⟩
  have hsome {kind : AzureKind} {value : String} (hdeclares : role.Declares kind value) :
      ¬ role.declaredSpec.get? kind = none :=
    get?_declaredSpec_ne_none_iff.2 ⟨value, hdeclares⟩
  intro hverdict
  cases hverdict with
  | outOfScope hblamed => exact validate_of_blamed hblamed
  | withoutSubscription hscope hnone =>
    rw [validate_of_permittedScope hscope, checkSpec_eq,
      if_pos (get?_declaredSpec_eq_none_iff.2 hnone)]
    rfl
  | withoutResourceGroup hscope hsubscription hnone =>
    rw [validate_of_permittedScope hscope, checkSpec_eq, if_neg (hsome hsubscription),
      if_pos (get?_declaredSpec_eq_none_iff.2 hnone)]
    rfl
  | bothIdentities hscope hsubscription hgroup huser hsystem =>
    rw [validate_of_permittedScope hscope, checkSpec_eq, if_neg (hsome hsubscription),
      if_neg (hsome hgroup), if_neg (not_or.2 ⟨hsome huser, hsome hsystem⟩)]
    rfl
  | valid hscope hsubscription hgroup hone =>
    have hnone : role.declaredSpec.get? .userAssignedIdentity = none ∨
        role.declaredSpec.get? .systemAssignedIdentity = none := by
      by_cases huser : ∃ user, role.Declares .userAssignedIdentity user
      · obtain ⟨user, huser⟩ := huser
        exact .inr (get?_declaredSpec_eq_none_iff.2 fun system => hone user system huser)
      · exact .inl (get?_declaredSpec_eq_none_iff.2 fun user h => huser ⟨user, h⟩)
    rw [validate_of_permittedScope hscope, checkSpec_eq, if_neg (hsome hsubscription),
      if_neg (hsome hgroup), if_pos hnone]
    rfl

end AzureRole

/-! ## Both providers -/

/-- Validation applies its checks in a fixed order and reports the first violation, with all that
belongs to it, whatever else is wrong with the role. Without a violation it answers with what the
role declares; a Kubernetes role then has a namespace, and it is scoped to it exactly when it
declares nothing else. -/
theorem validate_stops_at_first_violation :
    (∀ (role : KubernetesRole) (settings : KubernetesSettings),
      (∀ outcome, role.validate settings = outcome ↔ role.Verdict settings outcome) ∧
      ∀ identity, role.validate settings = .ok identity →
        (∃ podNamespace, identity.podNamespace? = some podNamespace) ∧
          (identity.isNamespaceScoped = true ↔ identity.spec.size = 1)) ∧
    ∀ (role : AzureRole) (outcome : Except RestrictionError (ResourceSet AzureKind)),
      role.validate = outcome ↔ role.Verdict outcome := by
  refine ⟨fun role settings => ⟨fun outcome => KubernetesRole.validate_eq_iff_verdict, ?_⟩,
    fun role outcome => AzureRole.validate_eq_iff_verdict⟩
  intro identity hvalid
  cases KubernetesRole.validate_eq_iff_verdict.1 hvalid with
  | valid _ _ hnamespace _ =>
    exact ⟨⟨_, hnamespace⟩, ApplicationIdentity.isNamespaceScoped_iff_size hnamespace⟩

/-- With two controllers and no namespace it is the namespace that is reported, and a host that says
no more than its namespace is scoped to it. -/
theorem validate_of_two_controllers :
    let faulty : KubernetesRole := ⟨⟨"acme:host:shop/*/*"⟩,
      [⟨"authn-k8s/deployment", "web"⟩, ⟨"authn-k8s/prod/stateful-set", "db"⟩], "prod"⟩
    let host : KubernetesRole := ⟨⟨"acme:host:shop/*/*"⟩, [], "prod"⟩
    faulty.validate {} = .error .namespaceMissing ∧
      ∃ identity, host.validate {} = .ok identity ∧
        (identity.isNamespaceScoped = true ↔ identity.spec.size = 1) := by
  intro faulty host
  refine ⟨?_, ?_⟩
  · have hchecked : (checkScope KubernetesKind (.ofList faulty.annotations) "prod").toOption =
        some () := by decide
    have hscope : PermittedScope KubernetesKind faulty.serviceId faulty.annotations :=
      checkScope_eq_ok_iff.1 (Outcome.toOption_eq_some_iff.1 hchecked)
    have hbelow : ∃ entry ∈ faulty.annotations, LivesBelow KubernetesRole.provider entry.name :=
      ⟨_, List.mem_cons_self, by decide⟩
    have hdeclares : faulty.DeclaresSpec {}
        ((AnnotationIndex.ofList faulty.annotations).identitySpec KubernetesKind "prod") :=
      KubernetesRole.declaredSpec_eq_ok_iff.1 (KubernetesRole.declaredSpec_of_annotated hbelow)
    have hverdict : faulty.Verdict {} (.error .namespaceMissing) :=
      .withoutNamespace hscope hdeclares (by decide)
    exact ((validate_stops_at_first_violation.1 faulty {}).1 _).2 hverdict
  · have hvalid : (host.validate {}).toOption.isSome = true := by decide
    obtain ⟨identity, hidentity⟩ := Outcome.isSome_toOption_iff.1 hvalid
    have hknown := (validate_stops_at_first_violation.1 host {}).2 identity hidentity
    exact ⟨identity, hidentity, hknown.2⟩

end WorkloadGuard
