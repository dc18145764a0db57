import WorkloadGuard.Proofs.Azure.Decision

/-!
# The one identity of a token

A token shows its subscription, its resource group and one identity, of a kind that its path
decides: with the marker of identities that users assign it is the name of the resource, whatever
the object id, and without the marker it is the object id, which must then be given. Neither kind
ever passes for the other, so a role that demands one refuses every token with the other.

## Main statements

- `identity_eq_error_iff`: the only fault of a token whose path can be read.
- `observed_of_marker`, `observed_of_no_marker`: what a token shows in either case.
- `refused_of_other_identity`: a token never shows the other kind.
- `observed_shows_one_identity`: what tokens with a given path show, and which roles they cannot
  satisfy.
-/

namespace WorkloadGuard

/-- The listing of what a path and an identity show has three kinds and no more. -/
theorem ResourcePath.toSpecs_resourcesWith (path : ResourcePath) (kind : AzureKind) (value : String)
    (hkind : kind = .userAssignedIdentity ∨ kind = .systemAssignedIdentity) :
    (path.resourcesWith (kind, value)).toSpecs =
      [(.subscriptionId, path.subscriptionId), (.resourceGroup, path.resourceGroup),
        (kind, value)] := by
  rcases hkind with rfl | rfl
  · rfl
  · rfl

namespace TokenClaims

variable {claims : TokenClaims} {path : ResourcePath}

/-- An identity is missing only without the marker and without an object id. -/
theorem identity_eq_error_iff {name : String} {error : RestrictionError}
    (hname : path.resourceName? = some name) :
    claims.identity path = .error error ↔
      ¬ path.NamesManagedIdentity ∧ claims.objectId = "" ∧
        error = .tokenFieldMissing objectIdField := by
  rw [← ResourcePath.isUserAssigned_iff]
  unfold TokenClaims.identity
  rw [hname]
  by_cases hmarker : path.isUserAssigned = true
  · have hnamed : (some name).filter (fun _ => path.isUserAssigned) = some name := by
      simp [hmarker]
    rw [hnamed]
    simp [hmarker]
  · have hunnamed : (some name).filter (fun _ => path.isUserAssigned) = none := by
      simp [hmarker]
    rw [hunnamed]
    by_cases hid : claims.objectId = ""
    · simp [hmarker, hid, eq_comm]
    · simp [hid]

variable {resourcePath objectId : String}

/-- Once its path can be read, a token is at fault only for its identity. -/
theorem observed_eq_error_iff {error : RestrictionError}
    (hparse : ResourcePath.parse resourcePath = .ok path) :
    observed ⟨resourcePath, objectId⟩ = .error error ↔
      identity ⟨resourcePath, objectId⟩ path = .error error := by
  simp only [observed, Outcome.bind_eq_error_iff, hparse]
  refine ⟨?_, fun herror => .inr ⟨path, rfl, .inl herror⟩⟩
  rintro (hread | ⟨other, hother, hidentity | ⟨_, _, hpure⟩⟩)
  · cases hread
  · rw [Except.ok.inj hother]
    exact hidentity
  · cases hpure

theorem observed_of_parse_eq_error {error : RestrictionError}
    (hparse : ResourcePath.parse resourcePath = .error error) :
    observed ⟨resourcePath, objectId⟩ = .error error := by
  unfold observed
  rw [hparse]
  rfl

/-- With the marker, the name of the resource is shown, and the object id is not looked at. -/
theorem observed_of_marker {name : String} (hparse : ResourcePath.parse resourcePath = .ok path)
    (hname : path.providers.getLast? = some name) (hmarker : path.NamesManagedIdentity) :
    observed ⟨resourcePath, objectId⟩ = .ok (path.resourcesWith (.userAssignedIdentity, name)) :=
  observed_eq_ok_iff.2
    ⟨path, _, hparse, (identity_eq_ok_iff hname).2 (.inl ⟨hmarker, rfl⟩), rfl⟩

/-- Without the marker, the object id is shown if there is one. -/
theorem observed_of_no_marker (hparse : ResourcePath.parse resourcePath = .ok path)
    (hmarker : ¬ path.NamesManagedIdentity) (hid : objectId ≠ "") :
    observed ⟨resourcePath, objectId⟩ =
      .ok (path.resourcesWith (.systemAssignedIdentity, objectId)) := by
  obtain ⟨name, hname⟩ := ResourcePath.exists_resourceName?_of_parse hparse
  exact observed_eq_ok_iff.2
    ⟨path, _, hparse, (identity_eq_ok_iff hname).2 (.inr ⟨hmarker, hid, rfl⟩), rfl⟩

/-- A token without the marker does not satisfy a spec with an identity that a user assigns, nor
does one with the marker satisfy a spec with one that the system assigns. -/
theorem refused_of_other_identity (hparse : ResourcePath.parse resourcePath = .ok path)
    (objectId : String) (spec : ResourceSet AzureKind) :
    (spec.contains .userAssignedIdentity = true → ¬ path.NamesManagedIdentity →
      ∃ error, satisfy ⟨resourcePath, objectId⟩ spec = .error error) ∧
    (spec.contains .systemAssignedIdentity = true → path.NamesManagedIdentity →
      ∃ error, satisfy ⟨resourcePath, objectId⟩ spec = .error error) := by
  have hshows : satisfy ⟨resourcePath, objectId⟩ spec = .ok () →
      Shows ⟨resourcePath, objectId⟩ path spec := by
    intro hok
    obtain ⟨other, hother⟩ := satisfy_eq_ok_iff.1 hok
    rw [Except.ok.inj (hparse.symm.trans hother.parsed)]
    exact hother
  refine ⟨fun hcontains hmarker => ?_, fun hcontains hmarker => ?_⟩
  · obtain ⟨name, hname⟩ := Option.isSome_iff_exists.1 hcontains
    refine Outcome.exists_eq_error_iff.2 fun hok => ?_
    exact hmarker ((hshows hok).userAssigned name hname).1
  · obtain ⟨id, hid⟩ := Option.isSome_iff_exists.1 hcontains
    refine Outcome.exists_eq_error_iff.2 fun hok => ?_
    exact ((hshows hok).systemAssigned id hid).1 hmarker

/-- Tokens with one path show one identity. If the path cannot be read, its error is all that they
show. If it can, a token is at fault only if it has neither the marker nor an object id; otherwise
it shows the two sections of the path and, with the marker, the name of the resource, the same for
all object ids, or, without it, the object id. A role that declares an identity of one kind is never
satisfied by a token with one of the other. -/
theorem observed_shows_one_identity (resourcePath : String) :
    (∀ error, ResourcePath.parse resourcePath = .error error →
      ∀ objectId, observed ⟨resourcePath, objectId⟩ = .error error) ∧
    ∀ path, ResourcePath.parse resourcePath = .ok path →
      (∀ objectId error, observed ⟨resourcePath, objectId⟩ = .error error ↔
        ¬ path.NamesManagedIdentity ∧ objectId = "" ∧ error = .tokenFieldMissing "oid") ∧
      (path.NamesManagedIdentity →
        ∃ name shown, path.providers.getLast? = some name ∧
          ResourceSet.toSpecs shown = [(.subscriptionId, path.subscriptionId),
            (.resourceGroup, path.resourceGroup), (.userAssignedIdentity, name)] ∧
          ∀ objectId, observed ⟨resourcePath, objectId⟩ = .ok shown) ∧
      (¬ path.NamesManagedIdentity → ∀ objectId, objectId ≠ "" →
        ∃ shown, observed ⟨resourcePath, objectId⟩ = .ok shown ∧
          ResourceSet.toSpecs shown = [(.subscriptionId, path.subscriptionId),
            (.resourceGroup, path.resourceGroup), (.systemAssignedIdentity, objectId)]) ∧
      (∀ (spec : ResourceSet AzureKind) (objectId : String),
        (spec.contains .userAssignedIdentity = true → ¬ path.NamesManagedIdentity →
          ∃ error, satisfy ⟨resourcePath, objectId⟩ spec = .error error) ∧
        (spec.contains .systemAssignedIdentity = true → path.NamesManagedIdentity →
          ∃ error, satisfy ⟨resourcePath, objectId⟩ spec = .error error)) ∧
      ∀ (role : AzureRole) (objectId value : String),
        (role.Declares .userAssignedIdentity value → ¬ path.NamesManagedIdentity →
          ∃ error, role.authorize ⟨resourcePath, objectId⟩ = .error error) ∧
        (role.Declares .systemAssignedIdentity value → path.NamesManagedIdentity →
          ∃ error, role.authorize ⟨resourcePath, objectId⟩ = .error error) := by
  refine ⟨fun error hparse objectId => observed_of_parse_eq_error hparse, fun path hparse => ?_⟩
  refine ⟨fun objectId error => ?_, fun hmarker => ?_, fun hmarker objectId hid => ?_,
    fun spec objectId => refused_of_other_identity hparse objectId spec,
    fun role objectId value => ?_⟩
  · obtain ⟨name, hname⟩ := ResourcePath.exists_resourceName?_of_parse hparse
    exact (observed_eq_error_iff hparse).trans (identity_eq_error_iff hname)
  · obtain ⟨name, hname⟩ := ResourcePath.exists_resourceName?_of_parse hparse
    have hspecs := path.toSpecs_resourcesWith .userAssignedIdentity name (.inl rfl)
    exact ⟨name, _, hname, hspecs, fun objectId => observed_of_marker hparse hname hmarker⟩
  · have hspecs := path.toSpecs_resourcesWith .systemAssignedIdentity objectId (.inr rfl)
    exact ⟨_, observed_of_no_marker hparse hmarker hid, hspecs⟩
  · have hrefused := refused_of_other_identity hparse objectId role.declaredSpec
    refine ⟨fun hdeclares => hrefused.1 ?_, fun hdeclares => hrefused.2 ?_⟩
    · exact AzureRole.contains_declaredSpec_iff.2 ⟨value, hdeclares⟩
    · exact AzureRole.contains_declaredSpec_iff.2 ⟨value, hdeclares⟩

/-- A token for the identity `till` does without an object id, and it does not satisfy a role that
demands one. -/
theorem observed_of_till :
    let claim := "/subscriptions/s/resourceGroups/g/providers/microsoft.managedidentity/kind/till"
    let role : AzureRole := ⟨[⟨"authn-azure/system-assigned-identity", "id"⟩], "prod"⟩
    (∃ shown, ResourceSet.toSpecs shown = [(.subscriptionId, "s"), (.resourceGroup, "g"),
        (.userAssignedIdentity, "till")] ∧
      ∀ objectId, observed ⟨claim, objectId⟩ = .ok shown) ∧
    ∃ error, role.authorize ⟨claim, "id"⟩ = .error error := by
  intro claim role
  let path : ResourcePath := ⟨"s", "g", ["microsoft.managedidentity", "kind", "till"]⟩
  have hparse : ResourcePath.parse claim = .ok path :=
    Outcome.toOption_eq_some_iff.1 (by decide +kernel)
  have hmarker : path.NamesManagedIdentity :=
    ⟨"microsoft.managedidentity", List.mem_cons_self, by decide +kernel⟩
  have hdeclares : role.Declares .systemAssignedIdentity "id" :=
    AzureRole.get?_declaredSpec_eq_some_iff.1 (by decide +kernel)
  obtain ⟨_, hmarked, _, _, hroles⟩ := (observed_shows_one_identity claim).2 path hparse
  obtain ⟨name, shown, hname, hspecs, hshown⟩ := hmarked hmarker
  cases hname
  exact ⟨⟨shown, hspecs, hshown⟩, (hroles role "id" "id").2 hdeclares hmarker⟩

end TokenClaims

end WorkloadGuard
