import Mathlib.Data.List.Destutter
import Mathlib.Data.Prod.Lex
import Mathlib.Data.String.Basic
import WorkloadGuard.Policy.Scan

/-!
# The order of paths

Paths are compared by their components, so two paths with the same components are neither before nor
behind each other. Here the order is shown to be a linear one on components, and a scan to list its
paths in this order: strictly, so no two paths with the same components are listed, and completely,
so the components of every candidate are there.

## Main statements

- `Path.precedes_iff`: paths are ordered as their components are.
- `PolicyScan.map_components_findFiles`: what is found has the components of the candidates, each
  once.
- `PolicyScan.findFiles_strictly_ordered`: what is found is strictly ordered.
-/

namespace WorkloadGuard

/-! ## Components -/

namespace Path

/-- What lists of one linear order are compared by is their lexicographic order. -/
theorem lexLE_iff {α : Type} [LinearOrder α] {before : α → α → Bool}
    (hbefore : ∀ a b, before a b = true ↔ a < b) {as bs : List α} :
    lexLE before as bs = true ↔ as ≤ bs := by
  rw [← not_lt]
  induction as generalizing bs with
  | nil => exact iff_of_true (by rw [lexLE]) List.not_lex_nil
  | cons a as ih =>
    cases bs with
    | nil => exact iff_of_false (by simp [lexLE]) (not_not.2 .nil)
    | cons b bs =>
      have hcons : b :: bs < a :: as ↔ b < a ∨ b = a ∧ bs < as := List.cons_lt_cons_iff
      rw [lexLE, hcons, Bool.or_eq_true, Bool.and_eq_true, Bool.not_eq_true', ← Bool.not_eq_true,
        hbefore, hbefore, ih]
      rcases lt_trichotomy a b with hlt | rfl | hlt
      · simp [hlt, hlt.not_gt, hlt.ne']
      · simp
      · simp [hlt, hlt.not_gt]

theorem charBefore_iff {a b : Char} : charBefore a b = true ↔ a < b := by
  rw [charBefore, Nat.blt_eq]
  exact Iff.rfl

namespace Component

/-- The root and the dots come before all names, and names are ordered as texts are. -/
def sortKey : Component → ℕ ×ₗ String
  | name text => toLex (3, text)
  | component => toLex (component.rank, "")

theorem sortKey_injective : Function.Injective sortKey := by
  intro a b h
  cases a <;> cases b <;> simp_all [sortKey, rank]

instance : LinearOrder Component :=
  LinearOrder.lift' sortKey sortKey_injective

theorem before_iff {a b : Component} : before a b = true ↔ a < b := by
  show before a b = true ↔ sortKey a < sortKey b
  have hnames (s t : String) : (!lexLE charBefore t.toList s.toList) = true ↔ s < t := by
    rw [Bool.not_eq_true', ← Bool.not_eq_true, lexLE_iff fun _ _ => charBefore_iff, not_le,
      String.lt_iff_toList_lt]
  cases a <;> cases b <;> simp [before, sortKey, rank, Prod.Lex.toLex_lt_toLex, hnames]

end Component

/-- Paths are ordered as their components are. -/
theorem precedes_iff {a b : String} : precedes a b = true ↔ components a ≤ components b :=
  lexLE_iff fun _ _ => Component.before_iff

theorem pairwise_components_mergeSort (paths : List String) :
    ((paths.mergeSort precedes).map components).Pairwise (· ≤ ·) := by
  rw [List.pairwise_map]
  refine (List.pairwise_mergeSort ?_ ?_ paths).imp precedes_iff.1
  · intro a b c hab hbc
    exact precedes_iff.2 (le_trans (precedes_iff.1 hab) (precedes_iff.1 hbc))
  · intro a b
    rw [Bool.or_eq_true, precedes_iff, precedes_iff]
    exact le_total _ _

end Path

/-! ## Repeats -/

namespace PolicyScan

theorem cons_dropRepeatsOf (last : String) (paths : List String) :
    last :: dropRepeatsOf last paths =
      paths.destutter' (fun a b => Path.components a ≠ Path.components b) last := by
  induction paths generalizing last with
  | nil => rfl
  | cons path paths ih =>
    rw [dropRepeatsOf, List.destutter'_cons, Path.sameComponents]
    by_cases hsame : Path.components last = Path.components path
    · simp [hsame, ih]
    · simp [hsame, ih]

theorem dropRepeats_eq (paths : List String) :
    dropRepeats paths =
      paths.destutter fun a b => Path.components a ≠ Path.components b := by
  cases paths with
  | nil => rfl
  | cons path paths => exact cons_dropRepeatsOf path paths

/-! ## What is found -/

variable {tree : FileTree} {paths exclude : List String}

/-- What is found has the components of the candidates, each once. -/
theorem map_components_findFiles :
    (findFiles tree paths exclude).map Path.components =
      (((candidates tree paths exclude).mergeSort Path.precedes).map Path.components).dedup := by
  rw [findFiles, dropRepeats_eq]
  -- in an ordered list, equal components stand side by side
  refine Eq.trans ?_ (Path.pairwise_components_mergeSort _).destutter_eq_dedup
  exact List.map_destutter fun _ _ _ _ => Iff.rfl

theorem findFiles_sublist :
    (findFiles tree paths exclude).Sublist
      ((candidates tree paths exclude).mergeSort Path.precedes) := by
  rw [findFiles, dropRepeats_eq]
  exact List.destutter_sublist _ _

theorem mem_candidates_of_mem_findFiles {file : String}
    (hfile : file ∈ findFiles tree paths exclude) : file ∈ candidates tree paths exclude :=
  List.mem_mergeSort.1 (findFiles_sublist.subset hfile)

/-- Every candidate is found under some path with its components. -/
theorem exists_mem_findFiles {path : String} (hpath : path ∈ candidates tree paths exclude) :
    ∃ file ∈ findFiles tree paths exclude, Path.components file = Path.components path := by
  have hmem : Path.components path ∈ (findFiles tree paths exclude).map Path.components := by
    rw [map_components_findFiles, List.mem_dedup]
    exact List.mem_map_of_mem (List.mem_mergeSort.2 hpath)
  exact List.mem_map.1 hmem

/-- What is found is strictly ordered, so no two of its paths have the same components. -/
theorem findFiles_strictly_ordered :
    ((findFiles tree paths exclude).map Path.components).Pairwise (· < ·) := by
  have hordered : ((findFiles tree paths exclude).map Path.components).Pairwise (· ≤ ·) :=
    (Path.pairwise_components_mergeSort _).sublist (findFiles_sublist.map _)
  have honce : ((findFiles tree paths exclude).map Path.components).Nodup := by
    rw [map_components_findFiles]
    exact List.nodup_dedup _
  exact (hordered.and honce).imp fun h => lt_of_le_of_ne h.1 h.2

end PolicyScan

end WorkloadGuard
