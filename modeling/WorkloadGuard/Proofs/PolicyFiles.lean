import WorkloadGuard.Proofs.Files.Extensions
import WorkloadGuard.Proofs.Files.PathOrder
import WorkloadGuard.Proofs.Files.Places

/-!
# The policy files that are found

A scan walks directories, filters what it meets, sorts it and drops repeats. Here it is shown what
comes of it, for every tree and every list of paths: exactly the policy files that the listed paths
stand for and no pattern excludes, up to how their paths are spelled, in order and each once.

## Main statements

- `FileEntry.mem_filesBelow_iff`: the walk finds the files that are not below a skipped directory.
- `PolicyScan.mem_candidates_iff`: what passes the filters.
- `PolicyScan.map_components_findFiles_congr`: what is found depends on the set of candidates alone.
- `PolicyScan.findFiles_lists_candidates`: what a scan finds.
-/

namespace WorkloadGuard

/-! ## Files below a directory -/

namespace FileEntry

/-- From a directory, names lead to a file, and no directory on the way has a name in `skipped`. -/
inductive HoldsFile (skipped : List String) : FileEntry → List String → Prop where
  /-- The file is in the directory itself. -/
  | child {children : List (String × FileEntry)} {name : String} {contents : ByteArray}
      (hchild : (name, .file contents) ∈ children) : HoldsFile skipped (.directory children) [name]
  /-- The file is below another directory in it. -/
  | deeper {children inner : List (String × FileEntry)} {name : String} {names : List String}
      (hchild : (name, .directory inner) ∈ children) (hkept : name ∉ skipped)
      (hbelow : HoldsFile skipped (.directory inner) names) :
      HoldsFile skipped (.directory children) (name :: names)

/-- The walk of a directory finds the files that it holds, save those below skipped directories. -/
theorem mem_filesBelow_iff {skipped names : List String} {children : List (String × FileEntry)} :
    names ∈ (directory children).filesBelow skipped ↔
      HoldsFile skipped (.directory children) names := by
  induction names generalizing children with
  | nil =>
    rw [filesBelow, mem_filesAmong_iff]
    apply iff_of_false
    · rintro ⟨_, _, _, _, _, _, hnil⟩
      cases hnil
    · intro hholds
      cases hholds
  | cons name names ih =>
    rw [filesBelow, mem_filesAmong_iff]
    constructor
    · rintro ⟨_, child, _, hchild, hkept, hrest, heq⟩
      cases heq
      cases child with
      | file contents =>
        rw [filesBelow, List.mem_singleton] at hrest
        subst hrest
        exact .child hchild
      | directory inner =>
        have hname : name ∉ skipped := fun hskipped => hkept ⟨rfl, hskipped⟩
        exact .deeper hchild hname (ih.1 hrest)
    · intro hholds
      cases hholds with
      | @child _ _ contents hchild =>
        -- a file is never skipped, whatever its name is
        have hkept : ¬ (isDirectory (.file contents) = true ∧ name ∈ skipped) :=
          fun hskipped => Bool.false_ne_true hskipped.1
        exact ⟨name, _, [], hchild, hkept, List.mem_singleton_self _, rfl⟩
      | deeper hchild hkept hbelow =>
        exact ⟨_, _, _, hchild, fun hskipped => hkept hskipped.2, ih.2 hbelow, rfl⟩

end FileEntry

/-! ## Policy files -/

namespace PolicyScan

/-- What a listed path stands for: itself if it leads to a file, and the files below it if it leads
to a directory, by the path of the directory and the names below it, with slashes between them. A
directory that is listed may have any name. -/
@[mk_iff]
inductive StandsFor (tree : FileTree) (listed : String) : String → Prop where
  | file {contents : ByteArray} (hentry : tree.entry listed = .ok (.file contents)) :
      StandsFor tree listed listed
  | below {children : List (String × FileEntry)} {names : List String}
      (hentry : tree.entry listed = .ok (.directory children))
      (hholds : FileEntry.HoldsFile ["target", "node_modules", ".git"] (.directory children)
        names) :
      StandsFor tree listed
        (listed ++ (if listed.toList.getLast? = some '/' then "" else "/") ++
          String.intercalate "/" names)

/-- The name at the end of a path has an extension of policies, in upper or lower case. -/
def NamesPolicy (path : String) : Prop :=
  ∃ stem ending, Path.EndsIn path (stem ++ "." ++ ending) ∧ stem ≠ "" ∧ '.' ∉ ending.toList ∧
    ending.toLower ∈ ["yaml", "yml", "json"]

/-- A pattern that can be read matches the path, or the name at its end. -/
def Excluded (exclude : List String) (path : String) : Prop :=
  ∃ pattern ∈ exclude, ∃ tokens, Glob.parse? pattern = some tokens ∧
    (Glob.matchesChars tokens path.toList = true ∨
      ∃ name, Path.EndsIn path name ∧ Glob.matchesChars tokens name.toList = true)

/-- What a scan is asked for: a policy file that a listed path stands for and that no pattern
excludes. -/
structure IsCandidate (tree : FileTree) (paths exclude : List String) (path : String) : Prop where
  listed : ∃ listed ∈ paths, StandsFor tree listed path
  policy : NamesPolicy path
  kept : ¬ Excluded exclude path

variable {tree : FileTree} {paths exclude : List String} {path : String}

theorem mem_reachable_iff {listed : String} :
    path ∈ reachable tree listed ↔ StandsFor tree listed path := by
  have hjoin (names : List String) : Path.join listed names =
      listed ++ (if listed.toList.getLast? = some '/' then "" else "/") ++
        String.intercalate "/" names := by
    unfold Path.join
    split <;> simp
  rw [standsFor_iff]
  unfold reachable
  cases hentry : tree.entry listed with
  | error failure => simp
  | ok entry =>
    cases entry with
    | file contents => simp
    | directory children =>
      simp only [List.mem_map, FileEntry.mem_filesBelow_iff, skippedDirectories, hjoin]
      simp [eq_comm]

theorem isPolicyPath_iff : isPolicyPath path = true ↔ NamesPolicy path := by
  have hextensions : extensions.map String.toLower = ["yaml", "yml", "json"] := by decide +kernel
  unfold isPolicyPath NamesPolicy
  rw [← hextensions]
  simp only [List.any_eq_true, Path.hasExtension_iff, Path.extension?_eq_some_iff, List.mem_map]
  constructor
  · intro h
    obtain ⟨wanted, hwanted, ending, ⟨stem, hname, hstem, hending⟩, hsame⟩ := h
    exact ⟨stem, ending, hname, hstem, hending, wanted, hwanted, hsame.symm⟩
  · intro h
    obtain ⟨stem, ending, hname, hstem, hending, wanted, hwanted, hsame⟩ := h
    exact ⟨wanted, hwanted, ending, ⟨stem, hname, hstem, hending⟩, hsame.symm⟩

theorem isExcluded_iff :
    isExcluded (exclude.filterMap Glob.parse?) path = true ↔ Excluded exclude path := by
  unfold isExcluded Excluded
  simp only [List.any_eq_true, List.mem_filterMap, Bool.or_eq_true, Option.any_eq_true,
    Path.fileName?_eq_some_iff, Glob.matchesText_eq]
  constructor
  · intro h
    obtain ⟨tokens, ⟨pattern, hpattern, hparse⟩, hmatches⟩ := h
    exact ⟨pattern, hpattern, tokens, hparse, hmatches⟩
  · intro h
    obtain ⟨pattern, hpattern, tokens, hparse, hmatches⟩ := h
    exact ⟨tokens, ⟨pattern, hpattern, hparse⟩, hmatches⟩

/-- What passes the filters of a scan is what is asked for. -/
theorem mem_candidates_iff :
    path ∈ candidates tree paths exclude ↔ IsCandidate tree paths exclude path := by
  unfold candidates
  simp only [List.mem_filter, List.mem_flatMap, mem_reachable_iff, Bool.and_eq_true,
    Bool.not_eq_true', ← Bool.not_eq_true, isPolicyPath_iff, isExcluded_iff]
  constructor
  · intro h
    obtain ⟨hlisted, hpolicy, hkept⟩ := h
    exact ⟨hlisted, hpolicy, hkept⟩
  · intro h
    exact ⟨h.listed, h.policy, h.kept⟩

/-! ## What is found -/

/-- Scans with the same spellings among their candidates find the same, up to how it is spelled. -/
theorem map_components_findFiles_congr {others patterns : List String}
    (hsame : ∀ spelling,
      spelling ∈ (candidates tree paths exclude).map Path.components ↔
        spelling ∈ (candidates tree others patterns).map Path.components) :
    (findFiles tree paths exclude).map Path.components =
      (findFiles tree others patterns).map Path.components := by
  have hmem (paths exclude : List String) (spelling : List Path.Component) :
      spelling ∈ (findFiles tree paths exclude).map Path.components ↔
        spelling ∈ (candidates tree paths exclude).map Path.components := by
    rw [map_components_findFiles, List.mem_dedup]
    simp only [List.mem_map, List.mem_mergeSort]
  -- both are strictly ordered, so their members decide how they are listed
  have hperm : ((findFiles tree paths exclude).map Path.components).Perm
      ((findFiles tree others patterns).map Path.components) := by
    rw [List.perm_ext_iff_of_nodup (findFiles_strictly_ordered.imp ne_of_lt)
      (findFiles_strictly_ordered.imp ne_of_lt)]
    intro spelling
    rw [hmem, hmem, hsame]
  exact hperm.eq_of_pairwise (fun _ _ _ _ hlt hgt => absurd hlt hgt.not_gt)
    findFiles_strictly_ordered findFiles_strictly_ordered

/-- Patterns that cannot be read act as if they had not been given. -/
theorem findFiles_filter_readable (tree : FileTree) (paths exclude : List String) :
    findFiles tree paths (exclude.filter fun pattern => (Glob.parse? pattern).isSome) =
      findFiles tree paths exclude := by
  have hpatterns : (exclude.filter fun pattern => (Glob.parse? pattern).isSome).filterMap
      Glob.parse? = exclude.filterMap Glob.parse? := by
    rw [List.filterMap_filter]
    refine List.filterMap_congr fun pattern _ => ?_
    cases Glob.parse? pattern with
    | none => rfl
    | some tokens => rfl
  simp only [findFiles, candidates, hpatterns]

/-- A scan finds exactly the policy files that it is asked for. What it finds is strictly ordered by
path components, so no two paths have the same ones; every path found is a candidate, and the
components of every candidate are found. Patterns that cannot be read make no difference, and
neither does the order in which paths are listed, nor how often. -/
theorem findFiles_lists_candidates (tree : FileTree) (paths exclude : List String) :
    let files := findFiles tree paths exclude
    (files.map Path.components).Pairwise (· < ·) ∧
      (∀ file ∈ files, IsCandidate tree paths exclude file) ∧
      (∀ path, (∃ file ∈ files, Path.components file = Path.components path) ↔
        ∃ candidate, IsCandidate tree paths exclude candidate ∧
          Path.components candidate = Path.components path) ∧
      findFiles tree paths (exclude.filter fun pattern => (Glob.parse? pattern).isSome) = files ∧
      ∀ others, (∀ listed, listed ∈ others ↔ listed ∈ paths) →
        (findFiles tree others exclude).map Path.components = files.map Path.components := by
  intro files
  have hcandidate : ∀ file ∈ files, IsCandidate tree paths exclude file :=
    fun file hfile => mem_candidates_iff.1 (mem_candidates_of_mem_findFiles hfile)
  refine ⟨findFiles_strictly_ordered, hcandidate, fun path => ⟨?_, ?_⟩,
    findFiles_filter_readable tree paths exclude, fun others hothers => ?_⟩
  · intro h
    obtain ⟨file, hfile, hsame⟩ := h
    exact ⟨file, hcandidate file hfile, hsame⟩
  · intro h
    obtain ⟨candidate, hcandidate, hsame⟩ := h
    obtain ⟨file, hfile, hspelled⟩ := exists_mem_findFiles (mem_candidates_iff.2 hcandidate)
    exact ⟨file, hfile, hspelled.trans hsame⟩
  · -- the same paths are listed, so the candidates are the same
    apply map_components_findFiles_congr
    intro spelling
    simp only [candidates, List.mem_map, List.mem_filter, List.mem_flatMap, hothers]

/-- In a listed directory the till and the shelf are found. The notes are no policy, a draft is
excluded by its name, and what was built lies below a skipped directory. To list the directory
twice, beside a file of it, makes no difference. -/
theorem findFiles_of_repeated_shop :
    let policy : FileEntry := .file ByteArray.empty
    let shop : FileEntry := .directory
      [("till.yaml", policy), ("Shelf.YML", policy), ("notes.md", policy), ("draft-1.json", policy),
        ("target", .directory [("web.json", policy)])]
    let tree : FileTree := ⟨.directory [("shop", shop)], []⟩
    let exclude := ["draft-?.*", "["]
    findFiles tree ["shop"] exclude = ["shop/Shelf.YML", "shop/till.yaml"] ∧
      (∀ file ∈ findFiles tree ["shop"] exclude, IsCandidate tree ["shop"] exclude file) ∧
      (∀ path ∈ ["shop/notes.md", "shop/draft-1.json", "shop/target/web.json"],
        ¬ IsCandidate tree ["shop"] exclude path) ∧
      (findFiles tree ["shop/till.yaml", "shop", "shop"] exclude).map Path.components =
        (findFiles tree ["shop", "shop/till.yaml"] exclude).map Path.components := by
  intro policy shop tree exclude
  have hcandidates : candidates tree ["shop"] exclude = ["shop/till.yaml", "shop/Shelf.YML"] := by
    decide +kernel
  have horder : Path.precedes "shop/till.yaml" "shop/Shelf.YML" = false := by decide +kernel
  have hsorted : ["shop/till.yaml", "shop/Shelf.YML"].mergeSort Path.precedes =
      ["shop/Shelf.YML", "shop/till.yaml"] := by
    simp [List.mergeSort, List.MergeSort.Internal.splitInTwo, horder]
  have hfound : findFiles tree ["shop"] exclude = ["shop/Shelf.YML", "shop/till.yaml"] := by
    rw [findFiles, hcandidates, hsorted]
    decide +kernel
  have hother : ∀ path ∈ ["shop/notes.md", "shop/draft-1.json", "shop/target/web.json"],
      ∀ file ∈ ["shop/Shelf.YML", "shop/till.yaml"],
        Path.components file ≠ Path.components path := by
    decide +kernel
  obtain ⟨_, hcandidate, hcomplete, _⟩ := findFiles_lists_candidates tree ["shop"] exclude
  refine ⟨hfound, hcandidate, fun path hpath hskipped => ?_, ?_⟩
  · obtain ⟨file, hfile, hsame⟩ := (hcomplete path).2 ⟨path, hskipped, rfl⟩
    rw [hfound] at hfile
    exact hother path hpath file hfile hsame
  · refine (findFiles_lists_candidates tree ["shop", "shop/till.yaml"] exclude).2.2.2.2 _ ?_
    intro listed
    simp only [List.mem_cons, List.not_mem_nil, or_false]
    exact ⟨by rintro (h | h | h) <;> simp [h], by rintro (h | h) <;> simp [h]⟩

end PolicyScan

end WorkloadGuard
