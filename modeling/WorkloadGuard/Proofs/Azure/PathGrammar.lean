import Mathlib.Algebra.Ring.Parity
import WorkloadGuard.Proofs.Azure.ResourcePath

/-!
# The grammar of resource paths

A resource path is written by joining its parts and three keywords with slashes. Here writing is set
against reading: what is read is what has been written, and no letter of it is lost, save that the
keywords may be written in any case. Of the paths that are written so, those are refused whose
provider segments are no namespace with pairs of type and name; all other texts are refused because
they are no paths at all.

## Main statements

- `sections_eq_ok_iff_writtenAs`: the sections that are read are those that have been written.
- `parse_loses_nothing`: which texts are read, as what, and how the others are refused.
-/

namespace WorkloadGuard

namespace ResourcePath

/-! ## Writing -/

/-- The claim is the path, written with its three keywords in some case. -/
def WrittenAs (path : ResourcePath) (claim : String) : Prop :=
  ∃ subscriptions resourceGroups providers,
    claim = joinSegments (path.segments subscriptions resourceGroups providers) ∧
      subscriptions.toLower = "subscriptions" ∧ resourceGroups.toLower = "resourcegroups" ∧
      providers.toLower = "providers" ∧
      ∀ segment ∈ path.segments subscriptions resourceGroups providers,
        segment ≠ "" ∧ '/' ∉ segment.toList

/-- Segments are joined to a claim exactly if the claim has them behind its first slash, provided
that none of them holds a slash. -/
theorem eq_joinSegments_iff {claim : String} {segments : List String} (hne : segments ≠ []) :
    (claim = joinSegments segments ∧ ∀ segment ∈ segments, '/' ∉ segment.toList) ↔
      ∃ rest, claim = "/" ++ rest ∧ Text.splitOn '/' rest = segments := by
  refine ⟨?_, ?_⟩
  · rintro ⟨hclaim, hfree⟩
    exact ⟨_, hclaim, Text.splitOn_eq_iff.2 ⟨hne, rfl, hfree⟩⟩
  · rintro ⟨rest, hclaim, hsplit⟩
    obtain ⟨_, hrest, hfree⟩ := Text.splitOn_eq_iff.1 hsplit
    exact ⟨hclaim.trans (congrArg ("/" ++ ·) hrest), hfree⟩

/-- The sections that are read are those that have been written. -/
theorem sections_eq_ok_iff_writtenAs {claim : String} {path : ResourcePath} :
    sections claim = .ok path ↔ path.WrittenAs claim := by
  have hne (subscriptions resourceGroups providers : String) :
      path.segments subscriptions resourceGroups providers ≠ [] := List.cons_ne_nil _ _
  rw [sections_eq_ok_iff]
  refine ⟨?_, ?_⟩
  · rintro ⟨rest, hclaim, ⟨subscriptions, resourceGroups, providers, hs, hg, hp, hsegments⟩,
      hnonempty⟩
    obtain ⟨hjoined, hfree⟩ := (eq_joinSegments_iff (hne _ _ _)).2 ⟨rest, hclaim, hsegments⟩
    refine ⟨subscriptions, resourceGroups, providers, hjoined, hs, hg, hp, ?_⟩
    intro segment hsegment
    refine ⟨fun hempty => hnonempty ?_, hfree segment hsegment⟩
    rw [hsegments, ← hempty]
    exact hsegment
  · rintro ⟨subscriptions, resourceGroups, providers, hjoined, hs, hg, hp, hsegment⟩
    obtain ⟨rest, hclaim, hsegments⟩ := (eq_joinSegments_iff (hne _ _ _)).1
      ⟨hjoined, fun segment hmem => (hsegment segment hmem).2⟩
    refine ⟨rest, hclaim, ⟨subscriptions, resourceGroups, providers, hs, hg, hp, hsegments⟩, ?_⟩
    intro hempty
    rw [hsegments] at hempty
    exact (hsegment "" hempty).1 rfl

/-! ## Reading what has been written -/

theorem hasProviderFields_iff {path : ResourcePath} :
    path.hasProviderFields = true ↔ 3 ≤ path.providers.length ∧ Odd path.providers.length := by
  rw [hasProviderFields, Bool.and_eq_true, decide_eq_true_eq, beq_iff_eq, Nat.odd_iff]

theorem hasProviderFields_eq_false_iff {path : ResourcePath} :
    path.hasProviderFields = false ↔
      path.providers.length < 3 ∨ Even path.providers.length := by
  rw [← Bool.not_eq_true, hasProviderFields_iff, not_and_or, Nat.not_le, Nat.not_odd_iff_even]

/-- Provider segments are missed exactly in what has been written as a path. -/
theorem parse_eq_providerFieldsMissing_iff {claim : String} :
    parse claim = .error (.providerFieldsMissing claim) ↔
      ∃ path, sections claim = .ok path ∧ path.hasProviderFields = false := by
  unfold parse
  cases hsections : sections claim with
  | error defect => simp
  | ok path => cases hfields : path.hasProviderFields <;> simp [hfields]

/-- A claim is called malformed exactly if it has a defect. -/
theorem exists_parse_eq_malformed_iff {claim : String} :
    (∃ defect : Defect, parse claim = .error (.malformedResourcePath claim defect.reason)) ↔
      ∀ path, sections claim ≠ .ok path := by
  unfold parse
  cases hsections : sections claim with
  | error defect => exact iff_of_true ⟨defect, rfl⟩ nofun
  | ok path => cases hfields : path.hasProviderFields <;> simp [hfields]

/-- Reading undoes writing. A text is read as a path exactly if it is the path, written with
keywords in some case, and the provider segments are a namespace with at least one pair of type and
name. It is refused for its provider segments if these are fewer or not paired but all else is in
place, and as malformed in every other case. -/
theorem parse_loses_nothing (claim : String) :
    (∀ path, parse claim = .ok path ↔
      path.WrittenAs claim ∧ 3 ≤ path.providers.length ∧ Odd path.providers.length) ∧
    (parse claim = .error (.providerFieldsMissing claim) ↔
      ∃ path : ResourcePath, path.WrittenAs claim ∧
        (path.providers.length < 3 ∨ Even path.providers.length)) ∧
    ((∃ defect : Defect, parse claim = .error (.malformedResourcePath claim defect.reason)) ↔
      ∀ path : ResourcePath, ¬ path.WrittenAs claim) := by
  refine ⟨fun path => ?_, ?_, ?_⟩
  · rw [parse_eq_ok_iff, sections_eq_ok_iff_writtenAs, hasProviderFields_iff]
  · rw [parse_eq_providerFieldsMissing_iff]
    simp only [sections_eq_ok_iff_writtenAs, hasProviderFields_eq_false_iff]
  · rw [exists_parse_eq_malformed_iff]
    simp only [ne_eq, sections_eq_ok_iff_writtenAs]

/-- Keywords are read in mixed case, and all else is kept as it is written; a type without a name
is still missed. -/
theorem parse_of_mixed_case :
    let till : ResourcePath := ⟨"S", "Shop", ["Microsoft.Web", "Sites", "Till"]⟩
    let unnamed := "/Subscriptions/S/ResourceGroups/Shop/PROVIDERS/Microsoft.Web/Sites"
    parse "/SUBSCRIPTIONS/S/resourceGroups/Shop/Providers/Microsoft.Web/Sites/Till" = .ok till ∧
      parse unnamed = .error (.providerFieldsMissing unnamed) := by
  intro till unnamed
  refine ⟨((parse_loses_nothing _).1 till).2 ⟨?_, by decide, by decide⟩, ?_⟩
  · exact ⟨"SUBSCRIPTIONS", "resourceGroups", "Providers", by decide +kernel, by decide +kernel,
      by decide +kernel, by decide +kernel, by decide⟩
  · refine (parse_loses_nothing unnamed).2.1.2 ⟨⟨"S", "Shop", ["Microsoft.Web", "Sites"]⟩, ?_, ?_⟩
    · exact ⟨"Subscriptions", "ResourceGroups", "PROVIDERS", by decide +kernel, by decide +kernel,
        by decide +kernel, by decide +kernel, by decide⟩
    · exact .inl (by decide)

end ResourcePath

end WorkloadGuard
