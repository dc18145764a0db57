import WorkloadGuard.Proofs.Kubernetes.Decision
import WorkloadGuard.Proofs.Kubernetes.Modes

/-!
# From names of hosts to annotations

A spec can be written as annotations, one for each of its kinds, under the names that hold for all
services. Here it is shown that these annotations are read back as the very spec, for every service
and in whatever order they stand, and that the scope check has nothing against them. So a host that
declares its restrictions by its name can be given annotations instead, under any name.

## Main statements

- `identitySpec_of_written`: a spec that is written as annotations is read back.
- `permittedScope_of_written`: and its annotations are permitted.
- `KubernetesRole.migrated_declares_same`: a host that is moved from its name to annotations is
  still valid, and it admits the same pods.
-/

namespace WorkloadGuard

/-! ## Names for all services -/

/-- A constraint has a name of its own. -/
theorem genericName_inj {provider a b : String} :
    genericName provider a = genericName provider b ↔ a = b := by
  refine ⟨fun h => ?_, fun h => h ▸ rfl⟩
  have hchars := congrArg String.toList h
  exact String.toList_inj.1 (by simpa [genericName] using hchars)

/-- A name for all services is not below any of them. -/
theorem not_livesBelow_child_genericName {provider child base : String}
    (hsegment : '/' ∉ base.toList) :
    ¬ LivesBelow (provider ++ "/" ++ child) (genericName provider base) := by
  intro hlives
  obtain ⟨rest, hname⟩ := hlives
  have hbase : base.toList = child.toList ++ '/' :: rest.toList := by
    have hchars := congrArg String.toList hname
    simpa [genericName] using hchars
  apply hsegment
  rw [hbase]
  exact List.mem_append_right _ List.mem_cons_self

/-- For the scope check, a name for all services declares its own constraint and no other. -/
theorem CountsInScope.eq_of_genericName {K : Type} [DecidableEq K] [ConstraintKind K]
    {serviceId base declared : String} (hsegment : '/' ∉ declared.toList)
    (hcounts : CountsInScope K serviceId base (genericName (ConstraintKind.provider K) declared)) :
    base = declared := by
  rcases hcounts with hgeneric | ⟨_, hspecific⟩
  · rcases hgeneric.spelled with hname | hname
    · exact (genericName_inj.1 hname).symm
    · -- the slash at the end would be one of the segment
      have hdeclared : declared = base ++ "/" := by
        apply genericName_inj.1
        rw [hname, genericName, String.append_assoc]
      rw [hdeclared] at hsegment
      exact absurd (by simp) hsegment
  · exact absurd hspecific.livesBelow (not_livesBelow_child_genericName hsegment)

/-! ## Specs written as annotations -/

section Written

variable {K : Type} [DecidableEq K] [ConstraintKind K]

/-- The annotations that give each kind of a set its value, for all services. -/
def ResourceSet.toAnnotations (set : ResourceSet K) : List AnnotationEntry :=
  set.toSpecs.map fun spec =>
    ⟨genericName (ConstraintKind.provider K) (ConstraintKind.spelling spec.1), spec.2⟩

theorem ResourceSet.mem_toAnnotations {set : ResourceSet K} {entry : AnnotationEntry} :
    entry ∈ set.toAnnotations ↔
      ∃ kind, entry.name = genericName (ConstraintKind.provider K) (ConstraintKind.spelling kind) ∧
        set.get? kind = some entry.value := by
  simp only [toAnnotations, List.mem_map]
  refine ⟨?_, ?_⟩
  · rintro ⟨⟨kind, value⟩, hspec, rfl⟩
    exact ⟨kind, rfl, mem_toSpecs.1 hspec⟩
  · rintro ⟨kind, hname, hvalue⟩
    exact ⟨(kind, entry.value), mem_toSpecs.2 hvalue, by rw [← hname]⟩

/-- The spelling of a kind is a single segment. -/
theorem ConstraintKind.slash_notMem_spelling (kind : K) :
    '/' ∉ (ConstraintKind.spelling kind).toList :=
  (ConstraintKind.slash_notMem_permitted _ (ConstraintKind.spelling_mem_permitted kind)).2

variable {set : ResourceSet K} {entries : List AnnotationEntry} {serviceId : String}
  (hwritten : ∀ entry, entry ∈ entries ↔ entry ∈ set.toAnnotations)
include hwritten

/-- What a set holds for a kind is found under the name of the kind. -/
theorem annotationValue?_of_written (kind : K) :
    annotationValue? entries
        (genericName (ConstraintKind.provider K) (ConstraintKind.spelling kind)) =
      set.get? kind := by
  -- the kind decides the value, so it does not matter which annotation of a name comes first
  have hmem (value : String) :
      ⟨genericName (ConstraintKind.provider K) (ConstraintKind.spelling kind), value⟩ ∈ entries ↔
        set.get? kind = some value := by
    rw [hwritten, ResourceSet.mem_toAnnotations]
    refine ⟨?_, fun hvalue => ⟨kind, rfl, hvalue⟩⟩
    rintro ⟨other, hname, hvalue⟩
    rw [ConstraintKind.spelling_injective _ _ (genericName_inj.1 hname)]
    exact hvalue
  cases hfound : annotationValue? entries
      (genericName (ConstraintKind.provider K) (ConstraintKind.spelling kind)) with
  | none =>
    rw [annotationValue?_eq_none_iff] at hfound
    symm
    rw [Option.eq_none_iff_forall_ne_some]
    intro value hvalue
    exact hfound _ ((hmem value).2 hvalue) rfl
  | some value =>
    exact ((hmem value).1 (annotationValue?_eq_some_iff.1 hfound).mem).symm

theorem exists_kind_of_written {entry : AnnotationEntry} (hentry : entry ∈ entries) :
    ∃ kind : K,
      entry.name = genericName (ConstraintKind.provider K) (ConstraintKind.spelling kind) := by
  obtain ⟨kind, hname, _⟩ := ResourceSet.mem_toAnnotations.1 ((hwritten entry).1 hentry)
  exact ⟨kind, hname⟩

/-- A spec that is written as annotations is read back, for every service. -/
theorem identitySpec_of_written :
    (AnnotationIndex.ofList entries).identitySpec K serviceId = set := by
  apply ResourceSet.ext
  funext kind
  show (AnnotationIndex.ofList entries).resolve _ serviceId _ = set.get? kind
  have hspecific : annotationValue? entries (specificName (ConstraintKind.provider K) serviceId
      (ConstraintKind.spelling kind)) = none := by
    rw [annotationValue?_eq_none_iff]
    intro entry hentry hname
    obtain ⟨declared, hgeneric⟩ := exists_kind_of_written hwritten hentry
    have hlives : LivesBelow (ConstraintKind.provider K ++ "/" ++ serviceId) entry.name :=
      ⟨_, hname⟩
    rw [hgeneric] at hlives
    exact not_livesBelow_child_genericName (ConstraintKind.slash_notMem_spelling declared) hlives
  rw [AnnotationIndex.resolve_eq_annotationValue?]
  simp only [AnnotationIndex.entries_ofList, annotationValue?_of_written hwritten, hspecific,
    Option.none_or, ite_self]

/-- The annotations of a spec pass the scope check, for every service. -/
theorem permittedScope_of_written : PermittedScope K serviceId entries := by
  intro entry hentry base hcounts
  obtain ⟨kind, hname⟩ := exists_kind_of_written hwritten hentry
  rw [hname] at hcounts
  rw [hcounts.eq_of_genericName (ConstraintKind.slash_notMem_spelling kind)]
  exact ConstraintKind.spelling_mem_permitted kind

end Written

/-! ## Hosts moved to annotations -/

namespace KubernetesRole

/-- A role with the annotations of a well-formed spec is valid and declares this spec. -/
theorem validate_of_written {spec : ResourceSet KubernetesKind}
    {annotations : List AnnotationEntry} (hwell : WellFormed spec)
    (hwritten : ∀ entry, entry ∈ annotations ↔ entry ∈ spec.toAnnotations) (hostId : RoleId)
    (serviceId : String) (settings : KubernetesSettings) :
    ∃ identity, validate ⟨hostId, annotations, serviceId⟩ settings = .ok identity ∧
      identity.spec = spec := by
  -- the annotation of the namespace puts the name of the host out of use
  have hbelow : ∃ entry ∈ annotations, LivesBelow provider entry.name := by
    obtain ⟨value, hvalue⟩ := Option.isSome_iff_exists.1 (wellFormed_iff.1 hwell).1
    refine ⟨⟨genericName provider (KubernetesKind.spelling .podNamespace), value⟩, ?_, ⟨_, rfl⟩⟩
    exact (hwritten _).2 (ResourceSet.mem_toAnnotations.2 ⟨.podNamespace, rfl, hvalue⟩)
  have hdeclares : DeclaresSpec ⟨hostId, annotations, serviceId⟩ settings spec := by
    rw [← declaredSpec_eq_ok_iff, declaredSpec_of_annotated hbelow]
    exact congrArg Except.ok (identitySpec_of_written hwritten)
  refine ⟨⟨spec, containerName ⟨hostId, annotations, serviceId⟩ settings (.ofList annotations)⟩,
    ?_, rfl⟩
  exact validate_eq_ok_iff.2 ⟨permittedScope_of_written hwritten, hdeclares, hwell, rfl⟩

/-- A host whose name can be read declares by its name what it declares when the parsed name is
written as annotations instead, in any order, for any service and under any name: both roles are
valid, their specs are equal, and they give every pod the same answer. -/
theorem migrated_declares_same (hostId other : RoleId) (settings : KubernetesSettings)
    (serviceId otherService : String) (host : HostIdentifier) (annotations : List AnnotationEntry)
    (hparse : HostIdentifier.parse settings.acceptUnderscoredHostSegments hostId = .ok host)
    (hwritten : annotations.Perm host.toSpec.toAnnotations) :
    ∃ named annotated,
      validate ⟨hostId, [], serviceId⟩ settings = .ok named ∧
        validate ⟨other, annotations, otherService⟩ settings = .ok annotated ∧
        annotated.spec = named.spec ∧ ∀ pod, annotated.accept pod = named.accept pod := by
  have hnone : ∀ entry ∈ ([] : List AnnotationEntry), ¬ LivesBelow provider entry.name := nofun
  have hnamed : validate ⟨hostId, [], serviceId⟩ settings =
      .ok ⟨host.toSpec, settings.defaultContainerName⟩ := by
    rw [validate_of_unannotated hostId serviceId settings hnone, identityOfHost, hparse]
    rfl
  obtain ⟨annotated, hannotated, hspec⟩ := validate_of_written host.wellFormed_toSpec
    (fun _ => hwritten.mem_iff) other otherService settings
  refine ⟨_, annotated, hnamed, hannotated, hspec, fun pod => ?_⟩
  rw [ApplicationIdentity.accept, ApplicationIdentity.accept, hspec]

/-- A host that spells its constraint with an underscore is moved to annotations with a dash. -/
theorem migrated_till :
    let annotations : List AnnotationEntry :=
      [⟨"authn-k8s/service-account", "till"⟩, ⟨"authn-k8s/namespace", "shop"⟩]
    ∃ named annotated,
      validate ⟨⟨"acme:host:shop/service_account/till"⟩, [], "prod"⟩ {} = .ok named ∧
        validate ⟨⟨"acme:host:web"⟩, annotations, "staging"⟩ {} = .ok annotated ∧
        annotated.spec = named.spec ∧ ∀ pod, annotated.accept pod = named.accept pod := by
  intro annotations
  have hparse : HostIdentifier.parse true ⟨"acme:host:shop/service_account/till"⟩ =
      .ok ⟨"shop", some (.serviceAccount, "till")⟩ := by rfl
  have hwritten : annotations.Perm (HostIdentifier.toSpec
      ⟨"shop", some (.serviceAccount, "till")⟩).toAnnotations := by decide
  exact migrated_declares_same ⟨"acme:host:shop/service_account/till"⟩ ⟨"acme:host:web"⟩ {} "prod"
    "staging" _ annotations hparse hwritten

end KubernetesRole

end WorkloadGuard
