import WorkloadGuard.Azure.ResourcePath
import WorkloadGuard.Proofs.Outcome

/-!
# Resource paths that can be read

A resource path is read section by section, and the reader stops at the first section that is
missing. Here its success is related to the segments of the path: `SpelledBy` says that they are
the parts of the path behind their keywords. No segment may be empty, so no part of a path is.

## Main statements

- `sections_eq_ok_iff`: the sections that are read are those that the segments spell.
- `parse_eq_ok_iff`: a path is read when, besides, its provider segments are complete.
- `ne_empty_of_parse`: no part of a path that is read is empty.
-/

namespace WorkloadGuard

namespace ResourcePath

/-! ## Keywords -/

theorem toLower_keyword :
    ∀ keyword ∈ ["subscriptions", "resourcegroups", "providers"], keyword.toLower = keyword := by
  decide +kernel

/-! ## Sections -/

/-- A keyword is written in lower case, and recognised in any. -/
theorem takeSection?_eq_some_iff {keyword value : String} {segments rest : List String}
    (hlower : keyword.toLower = keyword) :
    takeSection? keyword segments = some (value, rest) ↔
      ∃ segment, segment.toLower = keyword ∧ segments = segment :: value :: rest := by
  unfold takeSection?
  split
  · rename_i segment found tail
    rw [Option.ite_none_right_eq_some, Option.some.injEq, Prod.mk.injEq,
      Text.equalsIgnoringCase_iff, hlower]
    refine ⟨?_, ?_⟩
    · intro h
      obtain ⟨hkeyword, rfl, rfl⟩ := h
      exact ⟨segment, hkeyword, rfl⟩
    · intro h
      obtain ⟨_, hkeyword, heq⟩ := h
      cases heq
      exact ⟨hkeyword, rfl, rfl⟩
  · rename_i hshort
    refine ⟨?_, ?_⟩
    · intro h
      cases h
    · intro h
      obtain ⟨segment, _, heq⟩ := h
      exact absurd heq (hshort segment value rest)

theorem takeProviders?_eq_some_iff {segments providers : List String} :
    takeProviders? segments = some providers ↔
      ∃ segment, segment.toLower = "providers" ∧ segments = segment :: providers := by
  cases segments with
  | nil => simp [takeProviders?]
  | cons segment rest =>
    rw [takeProviders?, Option.ite_none_right_eq_some, Option.some.injEq,
      Text.equalsIgnoringCase_iff, toLower_keyword "providers" (by simp)]
    refine ⟨?_, ?_⟩
    · intro h
      obtain ⟨hkeyword, rfl⟩ := h
      exact ⟨segment, hkeyword, rfl⟩
    · intro h
      obtain ⟨_, hkeyword, heq⟩ := h
      cases heq
      exact ⟨hkeyword, rfl⟩

/-- The segments are those of the path, with its three keywords written in any case, and none of
them is empty. -/
structure SpelledBy (path : ResourcePath) (segments : List String) : Prop where
  spelled : ∃ subscriptions resourceGroups providers,
    subscriptions.toLower = "subscriptions" ∧ resourceGroups.toLower = "resourcegroups" ∧
      providers.toLower = "providers" ∧
      segments = path.segments subscriptions resourceGroups providers
  nonempty : "" ∉ segments

/-- The sections that are read are those that the segments of the claim spell. -/
theorem sections_eq_ok_iff {claim : String} {path : ResourcePath} :
    sections claim = .ok path ↔
      ∃ rest, claim = "/" ++ rest ∧ path.SpelledBy (Text.splitOn '/' rest) := by
  have hsubscriptions := toLower_keyword "subscriptions" (by simp)
  have hresourcegroups := toLower_keyword "resourcegroups" (by simp)
  simp only [sections]
  refine ⟨?_, ?_⟩
  · intro h
    split at h
    · rename_i rest hrest
      have hclaim := Text.dropLead?_eq_some_iff_append.1 hrest
      split at h
      · cases h
      · rename_i hnonempty
        split at h
        · rename_i subscriptionId tail hsubscription
          obtain ⟨subscriptions, hs, hsegments⟩ :=
            (takeSection?_eq_some_iff hsubscriptions).1 hsubscription
          split at h
          · rename_i resourceGroup tail' hgroup
            obtain ⟨resourceGroups, hg, rfl⟩ :=
              (takeSection?_eq_some_iff hresourcegroups).1 hgroup
            split at h
            · rename_i providers hproviders
              obtain ⟨keyword, hp, rfl⟩ := takeProviders?_eq_some_iff.1 hproviders
              cases h
              exact ⟨rest, hclaim, ⟨_, _, _, hs, hg, hp, hsegments⟩, hnonempty⟩
            · cases h
          · cases h
        · cases h
    · cases h
  · intro h
    obtain ⟨rest, rfl, hspelled, hnonempty⟩ := h
    obtain ⟨subscriptions, resourceGroups, providers, hs, hg, hp, hsegments⟩ := hspelled
    have hsubscription : takeSection? "subscriptions" (Text.splitOn '/' rest) =
        some (path.subscriptionId,
          resourceGroups :: path.resourceGroup :: providers :: path.providers) :=
      (takeSection?_eq_some_iff hsubscriptions).2 ⟨subscriptions, hs, hsegments⟩
    have hgroup : takeSection? "resourcegroups"
        (resourceGroups :: path.resourceGroup :: providers :: path.providers) =
          some (path.resourceGroup, providers :: path.providers) :=
      (takeSection?_eq_some_iff hresourcegroups).2 ⟨resourceGroups, hg, rfl⟩
    have hproviders : takeProviders? (providers :: path.providers) = some path.providers :=
      takeProviders?_eq_some_iff.2 ⟨providers, hp, rfl⟩
    simp only [Text.dropLead?_eq_some_iff_append.2 rfl, hnonempty, if_false, hsubscription, hgroup,
      hproviders]
    rfl

/-- A path is read when its sections can be and its provider segments are complete. -/
theorem parse_eq_ok_iff {claim : String} {path : ResourcePath} :
    parse claim = .ok path ↔ sections claim = .ok path ∧ path.hasProviderFields = true := by
  unfold parse
  split
  · rename_i defect hdefect
    simp [hdefect]
  · rename_i found hfound
    rw [hfound, Except.ok.injEq]
    split
    · rename_i hfields
      rw [Except.ok.injEq]
      refine ⟨?_, And.left⟩
      intro h
      subst h
      exact ⟨rfl, hfields⟩
    · rename_i hfields
      refine ⟨?_, ?_⟩
      · intro h
        cases h
      · intro h
        obtain ⟨rfl, hpath⟩ := h
        exact absurd hpath hfields

/-! ## Parts of a path -/

theorem exists_resourceName?_of_parse {claim : String} {path : ResourcePath}
    (hparse : parse claim = .ok path) : ∃ name, path.resourceName? = some name := by
  have hfields := (parse_eq_ok_iff.1 hparse).2
  -- there are at least three provider segments, so there is a last one
  have hlength : 3 ≤ path.providers.length := by
    unfold hasProviderFields at hfields
    rw [Bool.and_eq_true, decide_eq_true_eq] at hfields
    exact hfields.1
  have hne : path.providers ≠ [] := by
    intro hnil
    rw [hnil] at hlength
    simp at hlength
  exact ⟨path.providers.getLast hne, List.getLast?_eq_some_getLast hne⟩

/-- No part of a path that is read is empty. -/
theorem ne_empty_of_parse {claim part : String} {path : ResourcePath}
    (hparse : parse claim = .ok path)
    (hpart : part = path.subscriptionId ∨ part = path.resourceGroup ∨ part ∈ path.providers) :
    part ≠ "" := by
  obtain ⟨rest, _, hspelled⟩ := sections_eq_ok_iff.1 (parse_eq_ok_iff.1 hparse).1
  obtain ⟨subscriptions, resourceGroups, providers, _, _, _, hsegments⟩ := hspelled.spelled
  have hmem : part ∈ Text.splitOn '/' rest := by
    rw [hsegments]
    rcases hpart with rfl | rfl | hprovider
    · simp [segments]
    · simp [segments]
    · simp [segments, hprovider]
  intro hempty
  subst hempty
  exact hspelled.nonempty hmem

end ResourcePath

end WorkloadGuard
