import Mathlib.Order.Defs.PartialOrder
import WorkloadGuard.Matching

/-!
# What matching establishes

Matching searches the declared kinds for one that is not observed with its value. Here its verdict
is the inclusion of one map in another, whatever the order of the search. Inclusion is an order on
resource sets, so fewer declared and more observed values match all the more.

## Main statements

- `matchAgainst_eq_ok_iff`: a request matches when it shows every declared value.
- `matchAgainst_of_le`: whatever satisfies a set satisfies each set that is included in it.
-/

namespace WorkloadGuard

namespace ResourceSet

variable {K : Type} [DecidableEq K] [ConstraintKind K]

theorem firstUnmet?_eq_none_iff {declared observed : ResourceSet K} :
    declared.firstUnmet? observed = none ↔
      ∀ kind value, declared.get? kind = some value → observed.get? kind = some value := by
  unfold firstUnmet?
  rw [Option.map_eq_none_iff, List.find?_eq_none]
  refine ⟨?_, ?_⟩
  · intro hall kind value hdeclared
    have hspec := hall (kind, value) (mem_toSpecs.2 hdeclared)
    simpa using hspec
  · intro hall spec hmem
    obtain ⟨kind, value⟩ := spec
    have hobserved := hall kind value (mem_toSpecs.1 hmem)
    simp [hobserved]

/-- A request matches exactly when it shows every declared value. -/
theorem matchAgainst_eq_ok_iff {declared observed : ResourceSet K} :
    declared.matchAgainst observed = .ok () ↔
      ∀ kind value, declared.get? kind = some value → observed.get? kind = some value := by
  rw [← firstUnmet?_eq_none_iff]
  unfold matchAgainst
  split
  · rename_i kind hkind
    simp [hkind]
  · rename_i hnone
    simp [hnone]

/-! ## Inclusion -/

/-- A set is included in another that gives each of its kinds the same value. -/
instance : PartialOrder (ResourceSet K) where
  le s t := ∀ kind value, s.get? kind = some value → t.get? kind = some value
  le_refl _ _ _ h := h
  le_trans _ _ _ hst htu kind value h := htu kind value (hst kind value h)
  le_antisymm s t hst hts := by
    apply ResourceSet.ext
    funext kind
    apply Option.ext
    intro value
    exact ⟨hst kind value, hts kind value⟩

theorem matchAgainst_eq_ok_iff_le {declared observed : ResourceSet K} :
    declared.matchAgainst observed = .ok () ↔ declared ≤ observed :=
  matchAgainst_eq_ok_iff

/-- Whatever satisfies a set satisfies each set that is included in it. -/
theorem matchAgainst_of_le {declared wider observed : ResourceSet K} (hle : declared ≤ wider)
    (hmatch : wider.matchAgainst observed = .ok ()) : declared.matchAgainst observed = .ok () := by
  rw [matchAgainst_eq_ok_iff_le] at hmatch ⊢
  exact le_trans hle hmatch

end ResourceSet

end WorkloadGuard
