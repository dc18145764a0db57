import WorkloadGuard.Proofs.Reading

/-!
# Isolation of services and providers

A policy may hold annotations of several providers and, below one provider, of several services.
Here a role is read twice, without and with one more annotation somewhere in its list. If the name
of that annotation is foreign to a service, because it is not below the provider or because it is
below another service, then both readings have the same outcome: nothing can be granted to a
service, taken from it or broken for it by what is written for others.

## Main statements

- `Foreign.not_countsInScope`: a foreign name does not declare anything for the service.
- `readsAlike_insert`: an annotation that does not count in scope is not read.
- `outcome_insert_foreign`: with a foreign annotation more, a role of either provider is built and
  validated with the same outcome.
-/

namespace WorkloadGuard

/-! ## Foreign names -/

/-- A name that is not meant for a service of a provider. -/
inductive Foreign (provider serviceId name : String) : Prop where
  /-- The name is not below the provider. -/
  | otherProvider (hprovider : ¬ LivesBelow provider name)
  /-- The name has something below a child of the provider, and it is not below the service. -/
  | otherService (other rest : String) (hrest : rest ≠ "")
      (hname : name = provider ++ "/" ++ other ++ "/" ++ rest)
      (hservice : ¬ LivesBelow (provider ++ "/" ++ serviceId) name)

/-- What has something below a child is more than one segment, and a slash dropped from its end does
not make it one. -/
theorem not_isBaseBelow_of_nested {parent other rest base : String} (hrest : rest ≠ "") :
    ¬ IsBaseBelow parent base (parent ++ other ++ "/" ++ rest) := by
  intro hbelow
  apply hbelow.segment
  rcases hbelow.spelled with hname | hname
  · have hbase : base.toList = other.toList ++ '/' :: rest.toList := by
      have hchars := congrArg String.toList hname
      simpa [eq_comm] using hchars
    rw [hbase]
    exact List.mem_append_right _ List.mem_cons_self
  · -- the slash that is dropped is the last character of `rest`, not the one in front of it
    have hrest' : rest.toList ≠ [] := by simpa using hrest
    have hlist : base.toList ++ ['/'] = other.toList ++ '/' :: rest.toList := by
      have hchars := congrArg String.toList hname
      simpa [eq_comm] using hchars
    have hbase : base.toList = other.toList ++ '/' :: rest.toList.dropLast := by
      have hinit := congrArg List.dropLast hlist
      rwa [List.dropLast_concat, List.dropLast_append_of_ne_nil (List.cons_ne_nil _ _),
        List.dropLast_cons_of_ne_nil hrest'] at hinit
    rw [hbase]
    exact List.mem_append_right _ List.mem_cons_self

namespace Foreign

variable {K : Type} [DecidableEq K] [ConstraintKind K] {serviceId name : String}

/-- A foreign name does not declare anything for the service. -/
theorem not_countsInScope (hforeign : Foreign (ConstraintKind.provider K) serviceId name)
    (base : String) : ¬ CountsInScope K serviceId base name := by
  intro hcounts
  cases hforeign with
  | otherProvider hprovider => exact hprovider hcounts.livesBelow
  | otherService _ _ hrest hname hservice =>
    rcases hcounts with hgeneric | ⟨_, hspecific⟩
    · rw [hname] at hgeneric
      exact not_isBaseBelow_of_nested hrest hgeneric
    · exact hservice hspecific.livesBelow

end Foreign

/-! ## One annotation more -/

section Insert

variable {before after : List AnnotationEntry} {entry : AnnotationEntry}

/-- A look-up does not see an annotation of another name. -/
theorem annotationValue?_insert {name : String} (hname : entry.name ≠ name) :
    annotationValue? (before ++ entry :: after) name = annotationValue? (before ++ after) name := by
  rw [annotationValue?_append, annotationValue?_append, annotationValue?_cons_of_ne hname]

theorem namesOneLevelBelow_insert {parent : String}
    (hout : ∀ base, ¬ IsBaseBelow parent base entry.name) :
    (AnnotationIndex.ofList (before ++ entry :: after)).namesOneLevelBelow parent =
      (AnnotationIndex.ofList (before ++ after)).namesOneLevelBelow parent := by
  have hnone : AnnotationIndex.baseBelow? parent entry.name = none := by
    rw [Option.eq_none_iff_forall_ne_some]
    intro base hbase
    exact hout base (AnnotationIndex.baseBelow?_eq_some_iff.1 hbase)
  simp only [AnnotationIndex.namesOneLevelBelow, AnnotationIndex.entries_ofList,
    List.filterMap_append, List.filterMap_cons, hnone]

/-- Whether a provider has annotations does not depend on one more, unless it is the only one. -/
theorem hasProvider_insert {provider : String}
    (hother : LivesBelow provider entry.name →
      ∃ other ∈ before ++ after, LivesBelow provider other.name) :
    (AnnotationIndex.ofList (before ++ entry :: after)).hasProvider provider =
      (AnnotationIndex.ofList (before ++ after)).hasProvider provider := by
  rw [Bool.eq_iff_iff, AnnotationIndex.hasProvider_iff, AnnotationIndex.hasProvider_iff]
  simp only [AnnotationIndex.entries_ofList]
  refine ⟨?_, ?_⟩
  · intro h
    obtain ⟨other, hmem, hlives⟩ := h
    rcases List.mem_append.1 hmem with hbefore | hmem
    · exact ⟨other, List.mem_append_left _ hbefore, hlives⟩
    rcases List.mem_cons.1 hmem with rfl | hafter
    · exact hother hlives
    · exact ⟨other, List.mem_append_right _ hafter, hlives⟩
  · intro h
    obtain ⟨other, hmem, hlives⟩ := h
    have hsublist : (before ++ after).Sublist (before ++ entry :: after) :=
      (List.sublist_cons_self entry after).append_left before
    exact ⟨other, hsublist.subset hmem, hlives⟩

variable {K : Type} [DecidableEq K] [ConstraintKind K] {serviceId : String}

/-- An annotation that does not count in scope for the service is not read. -/
theorem readsAlike_insert (hout : ∀ base, ¬ CountsInScope K serviceId base entry.name) :
    ReadsAlike K serviceId (before ++ entry :: after) (before ++ after) where
  offender parent hparent := by
    have hbelow : ∀ base, ¬ IsBaseBelow parent base entry.name := by
      intro base hbase
      exact hout base (countsInScope_iff_exists_parent.2 ⟨parent, hparent, hbase⟩)
    simp only [firstOffender?, namesOneLevelBelow_insert hbelow]
  resolved base hbase := by
    obtain ⟨hnonempty, hsegment⟩ := ConstraintKind.slash_notMem_permitted (K := K) base hbase
    -- the annotation has neither of the names of the constraint
    have hnames : ¬ (entry.name = genericName (ConstraintKind.provider K) base ∨
        serviceId ≠ "" ∧ entry.name = specificName (ConstraintKind.provider K) serviceId base) := by
      intro hname
      exact hout base ((countsInScope_and_not_endsInSlash_iff hnonempty hsegment).2 hname).1
    obtain ⟨hgeneric, hspecific⟩ := not_or.1 hnames
    simp only [AnnotationIndex.resolve_eq_annotationValue?, AnnotationIndex.entries_ofList,
      annotationValue?_insert hgeneric]
    by_cases hid : serviceId = ""
    · rw [if_pos hid, if_pos hid]
    · have hname : entry.name ≠ specificName (ConstraintKind.provider K) serviceId base :=
        fun heq => hspecific ⟨hid, heq⟩
      rw [if_neg hid, if_neg hid, annotationValue?_insert hname]

end Insert

/-! ## The same outcome -/

/-- With one annotation more that is foreign to the service, a role is built and validated with the
same outcome, value or error. An Azure role asks for no more; for a Kubernetes role the annotation
must not be the older one for the container and, if it is below the provider, not the only one. -/
theorem outcome_insert_foreign (before after : List AnnotationEntry) (entry : AnnotationEntry)
    (serviceId : String) :
    (Foreign (ConstraintKind.provider AzureKind) serviceId entry.name →
      AzureRole.validate ⟨before ++ entry :: after, serviceId⟩ =
          AzureRole.validate ⟨before ++ after, serviceId⟩ ∧
        AzureRole.declaredSpec ⟨before ++ entry :: after, serviceId⟩ =
          AzureRole.declaredSpec ⟨before ++ after, serviceId⟩) ∧
    ∀ (hostId : RoleId) (settings : KubernetesSettings),
      Foreign KubernetesRole.provider serviceId entry.name →
      entry.name ≠ settings.legacyContainerKey →
      (LivesBelow KubernetesRole.provider entry.name →
        ∃ other ∈ before ++ after, LivesBelow KubernetesRole.provider other.name) →
      KubernetesRole.validate ⟨hostId, before ++ entry :: after, serviceId⟩ settings =
          KubernetesRole.validate ⟨hostId, before ++ after, serviceId⟩ settings ∧
        KubernetesRole.buildIdentity ⟨hostId, before ++ entry :: after, serviceId⟩ settings =
          KubernetesRole.buildIdentity ⟨hostId, before ++ after, serviceId⟩ settings := by
  refine ⟨?_, ?_⟩
  · intro hforeign
    have halike : ReadsAlike AzureKind serviceId (before ++ entry :: after) (before ++ after) :=
      readsAlike_insert hforeign.not_countsInScope
    exact ⟨AzureRole.validate_congr halike, AzureRole.declaredSpec_congr halike⟩
  · intro hostId settings hforeign hlegacy hother
    have halike : KubernetesRole.ReadsAlike settings serviceId (before ++ entry :: after)
        (before ++ after) :=
      ⟨readsAlike_insert hforeign.not_countsInScope, hasProvider_insert hother,
        annotationValue?_insert hlegacy⟩
    exact ⟨KubernetesRole.validate_congr halike, KubernetesRole.buildIdentity_congr halike⟩

/-- A constraint that no provider knows breaks neither provider's role where it is written for
another service. -/
theorem outcome_insert_bogus :
    let bogus : AnnotationEntry := ⟨"authn-k8s/other/bogus", "x"⟩
    let namespaced : AnnotationEntry := ⟨"authn-k8s/namespace", "shop"⟩
    AzureRole.validate ⟨[namespaced, bogus], "prod"⟩ = AzureRole.validate ⟨[namespaced], "prod"⟩ ∧
      KubernetesRole.validate ⟨⟨"acme:host:web"⟩, [namespaced, bogus], "prod"⟩ {} =
        KubernetesRole.validate ⟨⟨"acme:host:web"⟩, [namespaced], "prod"⟩ {} := by
  intro bogus namespaced
  have hinsert := outcome_insert_foreign [namespaced] [] bogus "prod"
  have hforeign : Foreign KubernetesRole.provider "prod" bogus.name :=
    .otherService "other" "bogus" (by decide) rfl (by decide)
  refine ⟨(hinsert.1 (.otherProvider (by decide))).1, ?_⟩
  refine (hinsert.2 ⟨"acme:host:web"⟩ {} hforeign (by decide) ?_).1
  intro _
  exact ⟨namespaced, List.mem_singleton_self _, by decide⟩

end WorkloadGuard
