import WorkloadGuard.Proofs.Azure.Decision
import WorkloadGuard.Proofs.Kubernetes.Decision

/-!
# Empty values

No check keeps a role from declaring an empty value. That such a role lets nobody in rests on what
requests show: nothing that is observed of a pod or of a token is ever empty. A pod passes over its
empty fields, a token without an object id and without a marker shows nothing at all, and no segment
of a resource path may be empty.

## Main statements

- `ResourceSet.forall_holdsEmpty_refused_iff`: declared sets with an empty value are refused exactly
  where no empty value is observed.
- `holdsEmpty_never_satisfied`: no pod and no token satisfies a set with an empty value, validated
  or not.
-/

namespace WorkloadGuard

/-! ## Sets with an empty value -/

namespace ResourceSet

variable {K : Type}

/-- Some kind has the empty value. -/
def HoldsEmpty (set : ResourceSet K) : Prop :=
  ∃ kind, set.get? kind = some ""

theorem HoldsEmpty.mono {s t : ResourceSet K} (hempty : s.HoldsEmpty) (hle : s ≤ t) :
    t.HoldsEmpty := by
  obtain ⟨kind, hkind⟩ := hempty
  exact ⟨kind, hle kind "" hkind⟩

/-- Every set with an empty value is refused exactly where no empty value is observed. -/
theorem forall_holdsEmpty_refused_iff [DecidableEq K] [ConstraintKind K]
    {observed : ResourceSet K} :
    (∀ declared : ResourceSet K, declared.HoldsEmpty →
      ∃ error, declared.matchAgainst observed = .error error) ↔ ¬ observed.HoldsEmpty := by
  simp only [Outcome.exists_eq_error_iff, ne_eq, matchAgainst_eq_ok_iff_le]
  refine ⟨?_, ?_⟩
  · intro hrefused hempty
    -- what is observed would itself be a declared set that matches
    exact hrefused observed hempty le_rfl
  · intro hobserved declared hdeclared hle
    exact hobserved (hdeclared.mono hle)

end ResourceSet

/-! ## What requests show -/

theorem PodIdentity.not_holdsEmpty_observed (pod : PodIdentity) : ¬ pod.observed.HoldsEmpty := by
  intro hempty
  obtain ⟨kind, hkind⟩ := hempty
  exact (get?_observed_eq_some_iff.1 hkind).2 rfl

/-- Whatever a path and an identity show is a part of one of them. -/
theorem ResourcePath.eq_part_of_get?_resourcesWith {path : ResourcePath}
    {identity : AzureKind × String} {kind : AzureKind} {value : String}
    (hvalue : (path.resourcesWith identity).get? kind = some value) :
    value = identity.2 ∨ value = path.resourceGroup ∨ value = path.subscriptionId := by
  obtain ⟨shown, name⟩ := identity
  rw [get?_resourcesWith] at hvalue
  split at hvalue
  · exact .inl (Option.some.inj hvalue).symm
  split at hvalue
  · exact .inr (.inl (Option.some.inj hvalue).symm)
  split at hvalue
  · exact .inr (.inr (Option.some.inj hvalue).symm)
  · cases hvalue

namespace TokenClaims

variable {claims : TokenClaims} {path : ResourcePath}

/-- The identity that a token shows is not empty: it is the last segment of a path that can be read,
or an object id that has passed the test for emptiness. -/
theorem identity_ne_empty {identity : AzureKind × String}
    (hparse : ResourcePath.parse claims.resourcePath = .ok path)
    (hidentity : claims.identity path = .ok identity) : identity.2 ≠ "" := by
  obtain ⟨name, hname⟩ := ResourcePath.exists_resourceName?_of_parse hparse
  rcases (identity_eq_ok_iff hname).1 hidentity with ⟨_, rfl⟩ | ⟨_, hid, rfl⟩
  · exact ResourcePath.ne_empty_of_parse hparse (.inr (.inr (List.mem_of_getLast? hname)))
  · exact hid

theorem not_holdsEmpty_of_observed {observed : ResourceSet AzureKind}
    (hobserved : claims.observed = .ok observed) : ¬ observed.HoldsEmpty := by
  obtain ⟨path, identity, hparse, hidentity, rfl⟩ := observed_eq_ok_iff.1 hobserved
  intro hempty
  obtain ⟨kind, hkind⟩ := hempty
  rcases ResourcePath.eq_part_of_get?_resourcesWith hkind with hpart | hpart | hpart
  · exact identity_ne_empty hparse hidentity hpart.symm
  · exact ResourcePath.ne_empty_of_parse hparse (.inr (.inl hpart)) rfl
  · exact ResourcePath.ne_empty_of_parse hparse (.inl hpart) rfl

end TokenClaims

/-! ## Declared empty values -/

/-- Nothing that is observed of a pod or of a token is empty; so no pod and no token satisfies a
declared set with an empty value, whether or not the set has been validated. -/
theorem holdsEmpty_never_satisfied :
    (∀ pod : PodIdentity, ¬ pod.observed.HoldsEmpty) ∧
    (∀ (claims : TokenClaims) (observed : ResourceSet AzureKind), claims.observed = .ok observed →
      ¬ observed.HoldsEmpty) ∧
    (∀ spec : ResourceSet KubernetesKind, spec.HoldsEmpty → ∀ pod : PodIdentity,
      (∃ error, spec.matchAgainst pod.observed = .error error) ∧
        ∀ containerName, ∃ error,
          ApplicationIdentity.accept ⟨spec, containerName⟩ pod = .error error) ∧
    ∀ spec : ResourceSet AzureKind, spec.HoldsEmpty → ∀ claims : TokenClaims,
      ∃ error, claims.satisfy spec = .error error := by
  refine ⟨PodIdentity.not_holdsEmpty_observed, fun _ _ => TokenClaims.not_holdsEmpty_of_observed,
    ?_, ?_⟩
  · intro spec hempty pod
    have hrefused : ∃ error, spec.matchAgainst pod.observed = .error error :=
      ResourceSet.forall_holdsEmpty_refused_iff.2 pod.not_holdsEmpty_observed spec hempty
    exact ⟨hrefused, fun _ => hrefused⟩
  · intro spec hempty claims
    unfold TokenClaims.satisfy
    cases hobserved : claims.observed with
    | error error => exact ⟨error, rfl⟩
    | ok observed =>
      have hnone := TokenClaims.not_holdsEmpty_of_observed hobserved
      exact ResourceSet.forall_holdsEmpty_refused_iff.2 hnone spec hempty

/-- An empty namespace does not match that of a pod without one, and an empty object id does not
match that of a token without one. -/
theorem empty_field_not_satisfied :
    let namespaced : ResourceSet KubernetesKind := .ofSpecs [(.podNamespace, "")]
    let assigned : ResourceSet AzureKind := .ofSpecs [(.systemAssignedIdentity, "")]
    let path := "/subscriptions/s/resourcegroups/g/providers/Microsoft.Compute/virtualMachines/vm"
    (∃ error, ApplicationIdentity.accept ⟨namespaced, "authenticator"⟩
      { podNamespace := "", serviceAccount := "", pod := "" } = .error error) ∧
    (∃ error, TokenClaims.satisfy ⟨path, ""⟩ assigned = .error error) ∧
    ∃ observed, TokenClaims.observed ⟨path, "id"⟩ = .ok observed ∧ ¬ observed.HoldsEmpty := by
  intro namespaced assigned path
  have hread : (TokenClaims.observed ⟨path, "id"⟩).toOption.isSome = true := by decide +kernel
  obtain ⟨observed, hobserved⟩ := Outcome.isSome_toOption_iff.1 hread
  refine ⟨?_, ?_, observed, hobserved, ?_⟩
  · exact (holdsEmpty_never_satisfied.2.2.1 namespaced ⟨.podNamespace, rfl⟩ _).2 "authenticator"
  · exact holdsEmpty_never_satisfied.2.2.2 assigned ⟨.systemAssignedIdentity, rfl⟩ ⟨path, ""⟩
  · exact holdsEmpty_never_satisfied.2.1 ⟨path, "id"⟩ observed hobserved

end WorkloadGuard
