import WorkloadGuard.Proofs.Kubernetes.Modes
import WorkloadGuard.Proofs.Resolution
import WorkloadGuard.Proofs.ScopeOffenders

/-!
# The container of a role

A Kubernetes role may name the container that the authenticator talks to. It does so by an
annotation for its service or for all services, which stand below the provider like constraints do,
or by an older one; without any the container is the default one. Here `NamesContainer` is this
chain. The annotations below the provider count as names in scope and decide, with the others, that
a role is read from its annotations. Yet they restrict nothing: a role that has another annotation
below the provider is refused with the same error or has the same spec, however those for the
container are edited.

## Main statements

- `Edited.annotationValue?_eq`, `Edited.firstOffender?_eq`: what the readers of a list do not see of
  an edit.
- `KubernetesRole.containerName_eq_iff`: the container is the one that the chain names.
- `KubernetesRole.container_restricts_nothing`: the chain, and the edits that no restriction sees.
-/

namespace WorkloadGuard

/-! ## Edited lists -/

/-- A list is edited in its annotations called by `names`: some may be put in or taken out, or be
changed, which is both at one place; the others stay as they are, in their order. -/
inductive Edited (names : List String) : List AnnotationEntry → List AnnotationEntry → Prop where
  | nil : Edited names [] []
  /-- An annotation stays, whatever its name is. -/
  | keep (entry : AnnotationEntry) {a b : List AnnotationEntry} (hrest : Edited names a b) :
      Edited names (entry :: a) (entry :: b)
  /-- An annotation is put in. -/
  | insert {entry : AnnotationEntry} {a b : List AnnotationEntry} (hname : entry.name ∈ names)
      (hrest : Edited names a b) : Edited names a (entry :: b)
  /-- An annotation is taken out. -/
  | remove {entry : AnnotationEntry} {a b : List AnnotationEntry} (hname : entry.name ∈ names)
      (hrest : Edited names a b) : Edited names (entry :: a) b

/-- Below one parent, what comes first offends, or else the first offender is one of the rest. -/
theorem firstOffender?_cons {K : Type} [DecidableEq K] [ConstraintKind K] {parent : String}
    (entry : AnnotationEntry) (entries : List AnnotationEntry) :
    firstOffender? K (.ofList (entry :: entries)) parent =
      ((AnnotationIndex.baseBelow? parent entry.name).filter
        fun base => !ConstraintKind.isPermitted K base).or
          (firstOffender? K (.ofList entries) parent) := by
  simp only [firstOffender?, AnnotationIndex.namesOneLevelBelow, AnnotationIndex.entries_ofList,
    List.filterMap_cons]
  cases AnnotationIndex.baseBelow? parent entry.name with
  | none => rfl
  | some base =>
    show List.find? _ (base :: _) = _
    rw [List.find?_cons, Option.filter_some]
    cases ConstraintKind.isPermitted K base with
    | true => rfl
    | false => rfl

namespace Edited

variable {names : List String} {a b : List AnnotationEntry}

/-- An annotation with another name is still there. -/
theorem mem (hedited : Edited names a b) {entry : AnnotationEntry} (hentry : entry ∈ a)
    (hname : entry.name ∉ names) : entry ∈ b := by
  induction hedited with
  | nil => exact hentry
  | keep first _ ih =>
    rcases List.mem_cons.1 hentry with rfl | hrest
    · exact List.mem_cons_self
    · exact List.mem_cons_of_mem _ (ih hrest)
  | insert _ _ ih => exact List.mem_cons_of_mem _ (ih hentry)
  | remove hfirst _ ih =>
    rcases List.mem_cons.1 hentry with rfl | hrest
    · exact absurd hfirst hname
    · exact ih hrest

/-- A look-up under another name finds what it found before. -/
theorem annotationValue?_eq (hedited : Edited names a b) {name : String} (hname : name ∉ names) :
    annotationValue? a name = annotationValue? b name := by
  have hother {entry : AnnotationEntry} (hentry : entry.name ∈ names) : entry.name ≠ name :=
    fun heq => hname (heq ▸ hentry)
  induction hedited with
  | nil => rfl
  | @keep entry a b _ ih =>
    calc annotationValue? ([entry] ++ a) name
        = (annotationValue? [entry] name).or (annotationValue? a name) :=
          annotationValue?_append [entry] a name
      _ = (annotationValue? [entry] name).or (annotationValue? b name) := by rw [ih]
      _ = annotationValue? ([entry] ++ b) name := (annotationValue?_append [entry] b name).symm
  | insert hentry _ ih => rw [annotationValue?_cons_of_ne (hother hentry), ih]
  | remove hentry _ ih => rw [annotationValue?_cons_of_ne (hother hentry), ih]

variable {K : Type} [DecidableEq K] [ConstraintKind K]

/-- The first offender stays the same if no edited name declares anything but what is permitted. -/
theorem firstOffender?_eq (hedited : Edited names a b) {parent : String}
    (hpermitted : ∀ name ∈ names, ∀ base, IsBaseBelow parent base name →
      base ∈ ConstraintKind.permitted K) :
    firstOffender? K (.ofList a) parent = firstOffender? K (.ofList b) parent := by
  have hpassed {entry : AnnotationEntry} (hentry : entry.name ∈ names) :
      (AnnotationIndex.baseBelow? parent entry.name).filter
        (fun base => !ConstraintKind.isPermitted K base) = none := by
    -- whatever follows the parent in an edited name is permitted
    rw [Option.filter_eq_none_iff]
    intro base hbase
    have hbelow := AnnotationIndex.baseBelow?_eq_some_iff.1 hbase
    simpa [ConstraintKind.isPermitted] using hpermitted entry.name hentry base hbelow
  induction hedited with
  | nil => rfl
  | keep entry _ ih => rw [firstOffender?_cons, firstOffender?_cons, ih]
  | insert hentry _ ih => rw [firstOffender?_cons, hpassed hentry, Option.none_or, ih]
  | remove hentry _ ih => rw [firstOffender?_cons, hpassed hentry, Option.none_or, ih]

theorem checkScope_eq (hedited : Edited names a b) {serviceId : String}
    (hpermitted : ∀ name ∈ names, ∀ base, CountsInScope K serviceId base name →
      base ∈ ConstraintKind.permitted K) :
    checkScope K (.ofList a) serviceId = checkScope K (.ofList b) serviceId := by
  apply checkScope_congr
  intro parent hparent
  apply hedited.firstOffender?_eq
  intro name hname base hbelow
  exact hpermitted name hname base (countsInScope_iff_exists_parent.2 ⟨parent, hparent, hbelow⟩)

end Edited

/-! ## Names for one service -/

theorem specificName_inj {provider serviceId a b : String} :
    specificName provider serviceId a = specificName provider serviceId b ↔ a = b := by
  -- below the service the name is built like one for all services
  show genericName (provider ++ "/" ++ serviceId) a = genericName _ b ↔ a = b
  exact genericName_inj

/-- For the scope check, a name for one service declares its own constraint and no other. -/
theorem CountsInScope.eq_of_specificName {K : Type} [DecidableEq K] [ConstraintKind K]
    {serviceId base declared : String} (hnonempty : declared ≠ "")
    (hsegment : '/' ∉ declared.toList)
    (hcounts : CountsInScope K serviceId base
      (specificName (ConstraintKind.provider K) serviceId declared)) :
    base = declared := by
  rcases hcounts with hgeneric | ⟨_, hspecific⟩
  · exact absurd hgeneric (not_isBaseBelow_of_nested hnonempty)
  · exact hspecific.unique ((isBaseBelow_and_not_endsInSlash_iff hnonempty hsegment).2 rfl).1

namespace KubernetesRole

/-! ## The chain of names -/

/-- `value` is the container that annotations name for a service: by the first annotation that asks
for the container of this service, of all services, or by the older name, each asked for where the
one before it is missing; else it is the default. The empty id is that of no service. -/
inductive NamesContainer (settings : KubernetesSettings) (serviceId : String)
    (entries : List AnnotationEntry) : String → Prop where
  /-- The container is named for this service. -/
  | specific {value : String} (hid : serviceId ≠ "")
      (hfirst : FirstValue entries
        (specificName provider serviceId KubernetesKind.containerNameKey) value) :
      NamesContainer settings serviceId entries value
  /-- The container is named for all services. -/
  | generic {value : String}
      (hspecific : serviceId ≠ "" → ∀ entry ∈ entries,
        entry.name ≠ specificName provider serviceId KubernetesKind.containerNameKey)
      (hfirst : FirstValue entries (genericName provider KubernetesKind.containerNameKey) value) :
      NamesContainer settings serviceId entries value
  /-- The container is named by the older annotation. -/
  | legacy {value : String}
      (hspecific : serviceId ≠ "" → ∀ entry ∈ entries,
        entry.name ≠ specificName provider serviceId KubernetesKind.containerNameKey)
      (hgeneric : ∀ entry ∈ entries,
        entry.name ≠ genericName provider KubernetesKind.containerNameKey)
      (hfirst : FirstValue entries settings.legacyContainerKey value) :
      NamesContainer settings serviceId entries value
  /-- No annotation names a container. -/
  | default
      (hspecific : serviceId ≠ "" → ∀ entry ∈ entries,
        entry.name ≠ specificName provider serviceId KubernetesKind.containerNameKey)
      (hgeneric : ∀ entry ∈ entries,
        entry.name ≠ genericName provider KubernetesKind.containerNameKey)
      (hlegacy : ∀ entry ∈ entries, entry.name ≠ settings.legacyContainerKey) :
      NamesContainer settings serviceId entries settings.defaultContainerName

section Chain

variable {role : KubernetesRole} {settings : KubernetesSettings} {value : String}

/-- A container that resolves is named for the service or for all services. -/
theorem containerName_of_declaresValue
    (hdeclares : DeclaresValue provider role.serviceId role.annotations
      KubernetesKind.containerNameKey value) :
    role.containerName settings (.ofList role.annotations) = value := by
  have hresolve : (AnnotationIndex.ofList role.annotations).resolve provider role.serviceId
      KubernetesKind.containerNameKey = some value :=
    AnnotationIndex.resolve_eq_some_iff.2 hdeclares
  rw [containerName, hresolve]
  rfl

/-- A container that is named neither for the service nor for all services does not resolve. -/
theorem containerName_of_unresolved
    (hspecific : role.serviceId ≠ "" → ∀ entry ∈ role.annotations,
      entry.name ≠ specificName provider role.serviceId KubernetesKind.containerNameKey)
    (hgeneric : ∀ entry ∈ role.annotations,
      entry.name ≠ genericName provider KubernetesKind.containerNameKey) :
    role.containerName settings (.ofList role.annotations) =
      (annotationValue? role.annotations settings.legacyContainerKey).getD
        settings.defaultContainerName := by
  have hresolve : (AnnotationIndex.ofList role.annotations).resolve provider role.serviceId
      KubernetesKind.containerNameKey = none :=
    AnnotationIndex.resolve_eq_none_iff.2 fun entry hentry =>
      ⟨hgeneric entry hentry, fun hid => hspecific hid entry hentry⟩
  rw [containerName, hresolve, Option.none_or, AnnotationIndex.get?_ofList]

/-- The chain names the container that is found, and no other. -/
theorem NamesContainer.eq
    (hnames : NamesContainer settings role.serviceId role.annotations value) :
    role.containerName settings (.ofList role.annotations) = value := by
  cases hnames with
  | specific hid hfirst => exact containerName_of_declaresValue (.specific hid hfirst)
  | generic hspecific hfirst => exact containerName_of_declaresValue (.generic hspecific hfirst)
  | legacy hspecific hgeneric hfirst =>
    rw [containerName_of_unresolved hspecific hgeneric, annotationValue?_eq_some_iff.2 hfirst,
      Option.getD_some]
  | default hspecific hgeneric hlegacy =>
    rw [containerName_of_unresolved hspecific hgeneric, annotationValue?_eq_none_iff.2 hlegacy,
      Option.getD_none]

/-- Every list of annotations names a container. -/
theorem exists_namesContainer (settings : KubernetesSettings) (serviceId : String)
    (entries : List AnnotationEntry) :
    ∃ value, NamesContainer settings serviceId entries value := by
  -- the cases follow the look-ups, one name after the other
  cases hresolve : (AnnotationIndex.ofList entries).resolve provider serviceId
      KubernetesKind.containerNameKey with
  | some value =>
    refine ⟨value, ?_⟩
    cases AnnotationIndex.resolve_eq_some_iff.1 hresolve with
    | specific hid hfirst => exact .specific hid hfirst
    | generic hspecific hfirst => exact .generic hspecific hfirst
  | none =>
    have hnone := AnnotationIndex.resolve_eq_none_iff.1 hresolve
    have hspecific : serviceId ≠ "" → ∀ entry ∈ entries,
        entry.name ≠ specificName provider serviceId KubernetesKind.containerNameKey :=
      fun hid entry hentry => (hnone entry hentry).2 hid
    have hgeneric : ∀ entry ∈ entries,
        entry.name ≠ genericName provider KubernetesKind.containerNameKey :=
      fun entry hentry => (hnone entry hentry).1
    cases hlegacy : annotationValue? entries settings.legacyContainerKey with
    | some value =>
      exact ⟨value, .legacy hspecific hgeneric (annotationValue?_eq_some_iff.1 hlegacy)⟩
    | none => exact ⟨_, .default hspecific hgeneric (annotationValue?_eq_none_iff.1 hlegacy)⟩

/-- The container of a role is the one that the chain names. -/
theorem containerName_eq_iff :
    role.containerName settings (.ofList role.annotations) = value ↔
      NamesContainer settings role.serviceId role.annotations value := by
  refine ⟨?_, NamesContainer.eq⟩
  rintro rfl
  obtain ⟨named, hnamed⟩ := exists_namesContainer settings role.serviceId role.annotations
  rw [hnamed.eq]
  exact hnamed

theorem containerName_of_buildIdentity {identity : ApplicationIdentity}
    (hbuild : role.buildIdentity settings = .ok identity) :
    identity.containerName = role.containerName settings (.ofList role.annotations) := by
  unfold buildIdentity identityFrom at hbuild
  obtain ⟨spec, _, hpure⟩ := Outcome.bind_eq_ok_iff.1 hbuild
  cases hpure
  rfl

end Chain

/-! ## Edits of the container -/

/-- The names below the provider that ask for the container of a service, and of all services. -/
def containerNames (serviceId : String) : List String :=
  [specificName provider serviceId KubernetesKind.containerNameKey,
    genericName provider KubernetesKind.containerNameKey]

theorem mem_containerNames {serviceId name : String} :
    name ∈ containerNames serviceId ↔
      name = specificName provider serviceId KubernetesKind.containerNameKey ∨
        name = genericName provider KubernetesKind.containerNameKey := by
  simp [containerNames]

/-- The scope check accepts the names that ask for a container. -/
theorem permitted_of_containerNames {serviceId name base : String}
    (hname : name ∈ containerNames serviceId)
    (hcounts : CountsInScope KubernetesKind serviceId base name) :
    base ∈ ConstraintKind.permitted KubernetesKind := by
  have hkey : KubernetesKind.containerNameKey ∈ ConstraintKind.permitted KubernetesKind := by
    decide
  obtain ⟨hnonempty, hsegment⟩ := ConstraintKind.slash_notMem_permitted (K := KubernetesKind) _ hkey
  -- each of the two names declares the container and nothing else
  rcases mem_containerNames.1 hname with rfl | rfl
  · rwa [hcounts.eq_of_specificName hnonempty hsegment]
  · rwa [hcounts.eq_of_genericName hsegment]

/-- Neither name of a kind asks for a container. -/
theorem kind_notMem_containerNames (kind : KubernetesKind) (serviceId : String) :
    genericName provider (ConstraintKind.spelling kind) ∉ containerNames serviceId ∧
      specificName provider serviceId (ConstraintKind.spelling kind) ∉
        containerNames serviceId := by
  have hspelling : ConstraintKind.spelling kind ≠ KubernetesKind.containerNameKey := by
    cases kind <;> decide
  have hkey : '/' ∉ KubernetesKind.containerNameKey.toList := by decide
  simp only [mem_containerNames, not_or]
  refine ⟨⟨?_, ?_⟩, ?_, ?_⟩
  · exact genericName_ne_specificName (ConstraintKind.slash_notMem_spelling kind)
  · exact mt genericName_inj.1 hspelling
  · exact mt specificName_inj.1 hspelling
  · exact (genericName_ne_specificName hkey).symm

section Edits

variable {serviceId : String} {names : List String} {a b : List AnnotationEntry}

/-- An edit of the container changes no value of a kind. -/
theorem identitySpec_of_edited (hnames : names ⊆ containerNames serviceId)
    (hedited : Edited names a b) :
    (AnnotationIndex.ofList a).identitySpec KubernetesKind serviceId =
      (AnnotationIndex.ofList b).identitySpec KubernetesKind serviceId := by
  apply ResourceSet.ext
  funext kind
  obtain ⟨hgeneric, hspecific⟩ := kind_notMem_containerNames kind serviceId
  show (AnnotationIndex.ofList a).resolve provider serviceId _ =
    (AnnotationIndex.ofList b).resolve provider serviceId _
  simp only [AnnotationIndex.resolve_eq_annotationValue?, AnnotationIndex.entries_ofList,
    hedited.annotationValue?_eq (mt (@hnames _) hgeneric),
    hedited.annotationValue?_eq (mt (@hnames _) hspecific)]

/-- Another annotation below the provider keeps a role from being read by the name of its host. -/
theorem declaredSpec_of_edited (hnames : names ⊆ containerNames serviceId)
    (hedited : Edited names a b)
    (hother : ∃ entry ∈ a, LivesBelow provider entry.name ∧ entry.name ∉ names) (hostId : RoleId)
    (settings : KubernetesSettings) :
    declaredSpec ⟨hostId, a, serviceId⟩ settings (.ofList a) =
      declaredSpec ⟨hostId, b, serviceId⟩ settings (.ofList b) := by
  obtain ⟨entry, hentry, hlives, hname⟩ := hother
  -- the other annotation outlives the edit, so both lists are read and not the host
  have hbelow : ∃ entry ∈ a, LivesBelow provider entry.name := ⟨entry, hentry, hlives⟩
  have hstill : ∃ entry ∈ b, LivesBelow provider entry.name :=
    ⟨entry, hedited.mem hentry hname, hlives⟩
  have hread : declaredSpec ⟨hostId, b, serviceId⟩ settings (.ofList b) =
      .ok ((AnnotationIndex.ofList b).identitySpec KubernetesKind serviceId) :=
    declaredSpec_of_annotated hstill
  calc declaredSpec ⟨hostId, a, serviceId⟩ settings (.ofList a)
      = .ok ((AnnotationIndex.ofList a).identitySpec KubernetesKind serviceId) :=
        declaredSpec_of_annotated hbelow
    _ = .ok ((AnnotationIndex.ofList b).identitySpec KubernetesKind serviceId) := by
        rw [identitySpec_of_edited hnames hedited]
    _ = declaredSpec ⟨hostId, b, serviceId⟩ settings (.ofList b) := hread.symm

end Edits

/-! ## Outcomes without the container -/

/-- What is built of a role without its container is its declared spec. -/
theorem map_spec_buildIdentity (role : KubernetesRole) (settings : KubernetesSettings) :
    (role.buildIdentity settings).map ApplicationIdentity.spec =
      role.declaredSpec settings (.ofList role.annotations) := by
  unfold buildIdentity identityFrom
  cases role.declaredSpec settings (.ofList role.annotations) with
  | error error => rfl
  | ok spec => rfl

/-- Validation does not look at the container: without it, what is left are the check of the scope,
the declared spec and the checks of the spec. -/
theorem map_spec_validate (role : KubernetesRole) (settings : KubernetesSettings) :
    (role.validate settings).map ApplicationIdentity.spec = do
      checkScope KubernetesKind (.ofList role.annotations) role.serviceId
      let spec ← role.declaredSpec settings (.ofList role.annotations)
      checkSpec spec
      return spec := by
  simp only [validate, identityFrom]
  cases checkScope KubernetesKind (.ofList role.annotations) role.serviceId with
  | error error => rfl
  | ok _ =>
    cases role.declaredSpec settings (.ofList role.annotations) with
    | error error => rfl
    | ok spec =>
      -- the container is in the identity now, and the checks that are left look past it
      show Except.map _ (checkSpec spec >>= fun _ => pure _) = checkSpec spec >>= fun _ => pure spec
      cases checkSpec spec with
      | error error => rfl
      | ok _ => rfl

/-- The container is looked up by itself and restricts nothing. Where an identity is built, its
container is the one that the chain names. Where annotations are edited that ask for it below the
provider, and another annotation below the provider is there, what is built and validated is the
same but for the container: the same error, or identities with the same spec. This holds whatever
the older annotation is called. -/
theorem container_restricts_nothing (hostId : RoleId) (serviceId : String)
    (settings : KubernetesSettings) (annotations : List AnnotationEntry) :
    (∀ identity, buildIdentity ⟨hostId, annotations, serviceId⟩ settings = .ok identity →
      ∀ value, identity.containerName = value ↔
        NamesContainer settings serviceId annotations value) ∧
    ∀ names ⊆ containerNames serviceId, ∀ edited, Edited names annotations edited →
      (∃ entry ∈ annotations, LivesBelow provider entry.name ∧ entry.name ∉ names) →
      (validate ⟨hostId, edited, serviceId⟩ settings).map ApplicationIdentity.spec =
          (validate ⟨hostId, annotations, serviceId⟩ settings).map ApplicationIdentity.spec ∧
        (buildIdentity ⟨hostId, edited, serviceId⟩ settings).map ApplicationIdentity.spec =
          (buildIdentity ⟨hostId, annotations, serviceId⟩ settings).map
            ApplicationIdentity.spec := by
  refine ⟨?_, ?_⟩
  · intro identity hbuild value
    rw [containerName_of_buildIdentity hbuild]
    exact containerName_eq_iff
  · intro names hnames edited hedited hother
    have hscope : checkScope KubernetesKind (.ofList annotations) serviceId =
        checkScope KubernetesKind (.ofList edited) serviceId :=
      hedited.checkScope_eq fun name hname _ hcounts =>
        permitted_of_containerNames (hnames hname) hcounts
    have hdeclared := declaredSpec_of_edited hnames hedited hother hostId settings
    refine ⟨?_, ?_⟩
    · simp only [map_spec_validate, hscope, hdeclared]
    · simp only [map_spec_buildIdentity, hdeclared]

/-- With the container of its own service taken out and another one for all services put in front, a
role stays in its namespace. -/
theorem container_of_till :
    let side : AnnotationEntry := ⟨"authn-k8s/prod/authentication-container-name", "side"⟩
    let main : AnnotationEntry := ⟨"authn-k8s/authentication-container-name", "main"⟩
    let spare : AnnotationEntry := ⟨"authn-k8s/authentication-container-name", "spare"⟩
    let shop : AnnotationEntry := ⟨"authn-k8s/namespace", "shop"⟩
    let role : KubernetesRole := ⟨⟨"acme:host:till"⟩, [main, side, shop], "prod"⟩
    let edited : KubernetesRole := ⟨⟨"acme:host:till"⟩, [spare, main, shop], "prod"⟩
    Edited (containerNames "prod") role.annotations edited.annotations ∧
      (∃ identity, role.buildIdentity {} = .ok identity ∧ identity.containerName = "side") ∧
      (edited.validate {}).map ApplicationIdentity.spec =
        (role.validate {}).map ApplicationIdentity.spec := by
  intro side main spare shop role edited
  have hedited : Edited (containerNames "prod") role.annotations edited.annotations :=
    .insert (by decide) (.keep main (.remove (by decide) (.keep shop .nil)))
  have hother : ∃ entry ∈ role.annotations,
      LivesBelow provider entry.name ∧ entry.name ∉ containerNames "prod" :=
    ⟨shop, by decide, by decide, by decide⟩
  have hstands := container_restricts_nothing role.hostId "prod" {} role.annotations
  refine ⟨hedited, ?_, ?_⟩
  · have hbuilt : (role.buildIdentity {}).toOption.isSome = true := by decide
    obtain ⟨identity, hidentity⟩ := Outcome.isSome_toOption_iff.1 hbuilt
    refine ⟨identity, hidentity, (hstands.1 identity hidentity "side").2 ?_⟩
    exact .specific (by decide) ⟨[main], [shop], rfl, by decide⟩
  · exact (hstands.2 _ (List.Subset.refl _) _ hedited hother).1

end KubernetesRole

end WorkloadGuard
