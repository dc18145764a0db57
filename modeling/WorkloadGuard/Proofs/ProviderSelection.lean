import WorkloadGuard.Proofs.Kubernetes.HostLogins
import WorkloadGuard.Proofs.Login

/-!
# The providers that a role is meant for

A policy check has to guess for which providers a role is meant, and the engine decides on its own
whether a role is read from its annotations. The check takes the prefix of a provider off a name and
looks for a slash behind it, the engine looks for prefix and slash together. Here it is shown that
both find the same names, so that no role which the engine reads from annotations is left out, and
no host goes unchecked.

## Main statements

- `RoleRecord.hasAnnotationsOf_eq_hasProvider`: the check and the engine find the same annotations.
- `RoleRecord.providers_follow_index`: which providers are selected, and what that covers.
-/

namespace WorkloadGuard

namespace RoleRecord

variable {record : RoleRecord}

/-! ## Annotations of a provider -/

theorem hasAnnotationsOf_iff {provider : Provider} :
    record.hasAnnotationsOf provider = true ↔
      ∃ entry ∈ record.annotations, LivesBelow provider.annotationRoot entry.name := by
  unfold hasAnnotationsOf
  rw [List.any_eq_true]
  refine exists_congr fun entry => and_congr_right fun _ => ?_
  rw [Option.any_eq_true]
  simp only [Text.dropLead?_eq_some_iff_append, Text.startsWith_iff]
  constructor
  · intro h
    obtain ⟨_, hname, rest, rfl⟩ := h
    exact ⟨rest, hname.trans String.append_assoc.symm⟩
  · intro h
    obtain ⟨rest, hname⟩ := h
    exact ⟨"/" ++ rest, hname.trans String.append_assoc, rest, rfl⟩

/-- Taking the prefix off first finds the same names as looking for the prefix and its slash. -/
theorem hasAnnotationsOf_eq_hasProvider (record : RoleRecord) (provider : Provider) :
    record.hasAnnotationsOf provider =
      (AnnotationIndex.ofList record.annotations).hasProvider provider.annotationRoot := by
  rw [Bool.eq_iff_iff, hasAnnotationsOf_iff, AnnotationIndex.hasProvider_iff,
    AnnotationIndex.entries_ofList]

/-! ## Selected providers -/

/-- The selection as the index of a record's annotations sees it. -/
theorem providers_auto_eq (record : RoleRecord) :
    let index := AnnotationIndex.ofList record.annotations
    record.providers .auto =
      (if index.hasProvider "authn-k8s" ||
          (record.id.kind? == some "host" && !index.hasProvider "authn-azure")
        then [.kubernetes] else []) ++
        (if index.hasProvider "authn-azure" then [.azure] else []) := by
  intro index
  have hkubernetes : record.hasAnnotationsOf .kubernetes = index.hasProvider "authn-k8s" :=
    hasAnnotationsOf_eq_hasProvider record .kubernetes
  have hazure : record.hasAnnotationsOf .azure = index.hasProvider "authn-azure" :=
    hasAnnotationsOf_eq_hasProvider record .azure
  simp only [providers, hkubernetes, hazure]

theorem kubernetes_mem_providers_iff :
    .kubernetes ∈ record.providers .auto ↔
      (AnnotationIndex.ofList record.annotations).hasProvider "authn-k8s" = true ∨
        record.id.kind? = some "host" ∧
          (AnnotationIndex.ofList record.annotations).hasProvider "authn-azure" = false := by
  simp [providers_auto_eq]

theorem azure_mem_providers_iff :
    .azure ∈ record.providers .auto ↔
      (AnnotationIndex.ofList record.annotations).hasProvider "authn-azure" = true := by
  simp [providers_auto_eq]

theorem providers_auto_sublist (record : RoleRecord) :
    (record.providers .auto).Sublist [.kubernetes, .azure] := by
  rw [providers_auto_eq]
  show List.Sublist _ ([Provider.kubernetes] ++ [Provider.azure])
  -- each part is the provider that stands in its place, or empty
  apply List.Sublist.append
  · split
    · exact List.Sublist.refl _
    · exact List.nil_sublist _
  · split
    · exact List.Sublist.refl _
    · exact List.nil_sublist _

/-- A host is checked for Azure if it has annotations for it, and for Kubernetes if it has not. -/
theorem providers_auto_ne_nil_of_host (hhost : record.id.kind? = some "host") :
    record.providers .auto ≠ [] := by
  cases hazure : (AnnotationIndex.ofList record.annotations).hasProvider "authn-azure" with
  | true => exact List.ne_nil_of_mem (azure_mem_providers_iff.2 hazure)
  | false => exact List.ne_nil_of_mem (kubernetes_mem_providers_iff.2 (.inr ⟨hhost, hazure⟩))

/-- Azure is selected exactly for the roles with Azure annotations in the index of the engine, and
Kubernetes for those with Kubernetes annotations and for hosts without Azure ones; both are listed
in this order and none is repeated. So Kubernetes is selected whenever the engine reads a role from
its annotations, and where it is not selected the engine reads nothing but the name of the host. The
role of a host login, under an account without a colon, is checked for one provider at least. -/
theorem providers_follow_index (record : RoleRecord) :
    let index := AnnotationIndex.ofList record.annotations
    (.azure ∈ record.providers .auto ↔ index.hasProvider "authn-azure" = true) ∧
      (.kubernetes ∈ record.providers .auto ↔ index.hasProvider "authn-k8s" = true ∨
        record.id.kind? = some "host" ∧ index.hasProvider "authn-azure" = false) ∧
      (record.providers .auto).Sublist [.kubernetes, .azure] ∧
      (index.hasProvider KubernetesRole.provider = true → .kubernetes ∈ record.providers .auto) ∧
      (.kubernetes ∉ record.providers .auto → ∀ serviceId settings,
        KubernetesRole.declaredSpec ⟨record.id, record.annotations, serviceId⟩ settings index =
          (HostIdentifier.parse settings.acceptUnderscoredHostSegments record.id).map
            HostIdentifier.toSpec) ∧
      ∀ account host, ':' ∉ account.toList → record.id = .ofLogin account ("host/" ++ host) →
        record.providers .auto ≠ [] := by
  intro index
  have hmode : index.hasProvider KubernetesRole.provider = true →
      .kubernetes ∈ record.providers .auto :=
    fun hannotated => kubernetes_mem_providers_iff.2 (.inl hannotated)
  refine ⟨azure_mem_providers_iff, kubernetes_mem_providers_iff, providers_auto_sublist record,
    hmode, ?_, ?_⟩
  · intro hunselected serviceId settings
    apply KubernetesRole.declaredSpec_of_unannotated
    intro entry hentry hlives
    exact hunselected (hmode (AnnotationIndex.hasProvider_iff.2 ⟨entry, hentry, hlives⟩))
  · intro account host haccount hid
    apply providers_auto_ne_nil_of_host
    rw [hid]
    exact RoleId.kind?_ofLogin haccount (.host host)

/-- A host without annotations below a prefix is checked, and an annotation that only looks like a
Kubernetes one does not hide that its name is read. -/
theorem providers_of_till :
    let till : RoleRecord := ⟨⟨"acme:host:shop/pod/till:1"⟩, [⟨"authn-k8s", "shop"⟩]⟩
    let batch : RoleRecord := ⟨⟨"acme:user:batch"⟩, [⟨"authn-k8s2/namespace", "shop"⟩]⟩
    let web : RoleRecord := ⟨⟨"acme:user:web"⟩, [⟨"authn-k8s/", "shop"⟩]⟩
    till.providers .auto ≠ [] ∧ .kubernetes ∈ web.providers .auto ∧
      KubernetesRole.declaredSpec ⟨batch.id, batch.annotations, "prod"⟩ {}
          (AnnotationIndex.ofList batch.annotations) =
        (HostIdentifier.parse true batch.id).map HostIdentifier.toSpec := by
  intro till batch web
  refine ⟨?_, ?_, ?_⟩
  · exact (providers_follow_index till).2.2.2.2.2 "acme" "shop/pod/till:1" (by decide) (by decide)
  · exact (providers_follow_index web).2.2.2.1 (by decide)
  · exact (providers_follow_index batch).2.2.2.2.1 (by decide) "prod" {}

end RoleRecord

end WorkloadGuard
