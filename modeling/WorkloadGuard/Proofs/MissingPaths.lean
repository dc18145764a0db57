import WorkloadGuard.Proofs.ReportedFailures

/-!
# Paths that lead nowhere

A run is given paths to search. A path that leads to nothing, because it is mistyped or because
there is a file where a directory is needed, stands for no policy file, and so nothing that it could
be at fault for is ever loaded. Here a run is compared with the run without such paths: they come
out alike, and the exit code speaks for the remaining paths only.

## Main statements

- `CommandLine.validate_filter_hasEntry`: the report of a run is that for the paths that lead
  somewhere.
- `CommandLine.run_passes_over_missing_paths`: hence its outcome, and when it ends with 0.
- `CommandLine.run_clean_without_files`: a run whose only path leads nowhere ends with 0.
-/

namespace WorkloadGuard

/-- Whether a path leads to a file or a directory. -/
def FileTree.hasEntry (tree : FileTree) (path : String) : Bool :=
  (tree.entry path).toOption.isSome

/-! ## Scans -/

namespace PolicyScan

variable {tree : FileTree}

/-- A path that leads nowhere stands for no file. -/
theorem reachable_of_not_hasEntry {path : String} (hmissing : ¬ tree.hasEntry path = true) :
    reachable tree path = [] := by
  unfold reachable
  cases hentry : tree.entry path with
  | error failure => rfl
  | ok entry =>
    have hpresent : tree.hasEntry path = true := by
      rw [FileTree.hasEntry, hentry]
      rfl
    exact absurd hpresent hmissing

theorem flatMap_reachable_filter (paths : List String) :
    (paths.filter tree.hasEntry).flatMap (reachable tree) = paths.flatMap (reachable tree) := by
  induction paths with
  | nil => rfl
  | cons path paths ih =>
    by_cases hpath : tree.hasEntry path = true
    · rw [List.filter_cons_of_pos hpath, List.flatMap_cons, List.flatMap_cons, ih]
    · rw [List.filter_cons_of_neg hpath, List.flatMap_cons, reachable_of_not_hasEntry hpath,
        List.nil_append, ih]

/-- The files found are those for the paths that lead somewhere. -/
theorem findFiles_filter_hasEntry (paths exclude : List String) :
    findFiles tree (paths.filter tree.hasEntry) exclude = findFiles tree paths exclude := by
  simp only [findFiles, candidates, flatMap_reachable_filter]

theorem findFiles_nil (exclude : List String) : findFiles tree [] exclude = [] := by
  simp only [findFiles, candidates, List.flatMap_nil, List.filter_nil, List.mergeSort_nil,
    dropRepeats]

end PolicyScan

/-! ## Runs -/

namespace CommandLine

/-- The report of a run is that for the paths that lead somewhere. -/
theorem validate_filter_hasEntry (tree : FileTree) (options : Options) (settings : EngineSettings) :
    validate tree { options with paths := options.paths.filter tree.hasEntry } settings =
      validate tree options settings := by
  simp only [validate, PolicyScan.findFiles_filter_hasEntry]

/-- A run passes over the paths that lead nowhere. It comes out as if they had not been given, and
ends with 0 exactly when all files found for the other paths can be loaded and all roles in them are
valid. If no path leads anywhere, it always ends with 0. -/
theorem run_passes_over_missing_paths (tree : FileTree) (environment : List (String × String))
    (arguments : List String) (options : Options) (settings : AppSettings)
    (hparse : parse arguments = .ok (.validate options))
    (hsettings : AppSettings.load tree options.config environment = .ok settings) :
    let present := options.paths.filter tree.hasEntry
    run tree environment arguments =
        .ofReport (validate tree { options with paths := present } settings.restrictions)
          options.json ∧
      ((run tree environment arguments).exitCode = 0 ↔
        ∀ file ∈ PolicyScan.findFiles tree present options.exclude,
          ∃ records, Policy.load tree file = .ok records ∧
            ∀ record ∈ records, ∀ provider ∈ record.providers options.selection,
              record.check provider options.serviceId settings.restrictions = .ok ()) ∧
      ((∀ path ∈ options.paths, tree.hasEntry path = false) →
        (run tree environment arguments).exitCode = 0) := by
  intro present
  have hrun : run tree environment arguments =
      .ofReport (validate tree { options with paths := present } settings.restrictions)
        options.json := by
    rw [run_of_settings hparse hsettings, validate_filter_hasEntry]
  have hcode : (run tree environment arguments).exitCode = 0 ↔
      (validate tree { options with paths := present } settings.restrictions).failures = [] := by
    rw [hrun, exitCode_ofReport_eq_zero_iff]
  refine ⟨hrun, hcode.trans validate_failures_eq_nil_iff, fun hmissing => ?_⟩
  have hpresent : present = [] := by
    rw [List.filter_eq_nil_iff]
    intro path hpath
    rw [hmissing path hpath]
    exact Bool.false_ne_true
  rw [hcode, validate_failures_eq_nil_iff]
  intro file hfile
  rw [hpresent, PolicyScan.findFiles_nil] at hfile
  cases hfile

/-- Beside a file that is fine, a path that leads nowhere makes no difference. -/
theorem run_clean_beside_missing_path :
    let tree : FileTree := ⟨.directory [("web.json", .file "\x7b\x7d".toUTF8)], []⟩
    tree.hasEntry "wbe.json" = false ∧
      (run tree [] ["web.json", "wbe.json", "--service-id", "prod"]).exitCode = 0 := by
  intro tree
  let options : Options :=
    { paths := ["web.json", "wbe.json"], serviceId := "prod", selection := .auto, exclude := [],
      json := false, verbose := false, config := none }
  have hparse : parse ["web.json", "wbe.json", "--service-id", "prod"] =
      .ok (.validate options) := by rfl
  have hsettings : AppSettings.load tree options.config [] = .ok {} :=
    Outcome.toOption_eq_some_iff.1 (by decide +kernel)
  have hfiles : PolicyScan.findFiles tree (options.paths.filter tree.hasEntry) options.exclude =
      ["web.json"] := by decide +kernel
  have hload : Policy.load tree "web.json" = .ok [] :=
    Outcome.toOption_eq_some_iff.1 (by decide +kernel)
  refine ⟨by decide +kernel, ?_⟩
  refine (run_passes_over_missing_paths tree [] _ options {} hparse hsettings).2.1.2 ?_
  intro file hfile
  rw [hfiles, List.mem_singleton] at hfile
  subst hfile
  exact ⟨[], hload, nofun⟩

/-- A run whose only path leads nowhere ends with 0. -/
theorem run_clean_without_files :
    let tree : FileTree := ⟨.directory [], []⟩
    tree.hasEntry "missing.yaml" = false ∧
      (run tree [] ["missing.yaml", "--service-id", "prod"]).exitCode = 0 := by
  decide +kernel

end CommandLine

end WorkloadGuard
