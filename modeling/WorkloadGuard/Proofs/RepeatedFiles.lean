import WorkloadGuard.Proofs.Files.PathOrder
import WorkloadGuard.Proofs.Files.Places
import WorkloadGuard.Proofs.ReportedFailures

/-!
# Files that are found more than once

A scan drops a path that has the components of another, but paths with different components can lead
to the same file: `./web.json` and `web.json`, or `shop/../web.json` and `web.json`. Such a file is
found more than once, and a run checks it as often as it is found. Here it is shown how often that
is: once for each way in which the candidates for it are spelled. Paths that all start from one
place and go down from there have one spelling for each file, so given such paths a scan finds every
file once.

## Main statements

- `PolicyScan.exists_below_of_mem_candidates`: a candidate is a file, and its components continue
  those of a listed path.
- `PolicyScan.length_filter_leadsTo`: how often a file is found.
- `PolicyScan.findFiles_repeats_spellings`: what is found, how often, and when only once.
- `CommandLine.run_counts_web_twice`: a run that checks its only file twice.
-/

namespace WorkloadGuard

/-- Whether a path can be followed, to the place with the given names. -/
def FileTree.leadsTo (tree : FileTree) (names : List String) (path : String) : Bool :=
  (tree.location path).toOption == some names

theorem FileTree.leadsTo_iff {tree : FileTree} {names : List String} {path : String} :
    tree.leadsTo names path = true ↔ tree.location path = .ok names := by
  rw [leadsTo, beq_iff_eq, Outcome.toOption_eq_some_iff]

namespace PolicyScan

variable {tree : FileTree} {paths exclude : List String}

/-! ## Candidates -/

/-- What a listed path stands for lies at that path or below it, and is a file. -/
theorem exists_below_of_mem_reachable {listed path : String} (hwell : tree.WellFormed)
    (hpath : path ∈ reachable tree listed) :
    (∃ contents, tree.entry path = .ok (.file contents)) ∧
      ∃ names : List String,
        Path.components path = Path.components listed ++ names.map .name := by
  unfold reachable at hpath
  split at hpath
  · rename_i contents hentry
    rw [List.mem_singleton.1 hpath]
    exact ⟨⟨contents, hentry⟩, [], (List.append_nil _).symm⟩
  · rename_i entry hnoFile hentry
    obtain ⟨here, hlocation, hhere⟩ := FileTree.entry_eq_ok_iff.1 hentry
    obtain ⟨names, hnames, rfl⟩ := List.mem_map.1 hpath
    obtain ⟨⟨contents, hcontents⟩, hentryNames⟩ :=
      FileEntry.file_of_mem_filesBelow (hwell.of_descend? hhere) hnames
    -- a directory is no file, so something has to be below it
    have hne : names ≠ [] := by
      rintro rfl
      exact hnoFile contents (Option.some.inj hcontents)
    have hfound : tree.root.descend? (here ++ names) = some (.file contents) := by
      rw [FileEntry.descend?_append, hhere]
      exact hcontents
    have hjoin : tree.location (Path.join listed names) = .ok (here ++ names) :=
      FileTree.location_join hlocation hne hentryNames (by rw [hfound]; rfl)
    refine ⟨⟨contents, FileTree.entry_eq_ok_iff.2 ⟨_, hjoin, hfound⟩⟩, names, ?_⟩
    exact Path.components_join (FileTree.location_eq_ok_iff.1 hlocation).1 hne hentryNames
  · cases hpath

/-- A candidate is a file, and its components continue those of a listed path. -/
theorem exists_below_of_mem_candidates {path : String} (hwell : tree.WellFormed)
    (hpath : path ∈ candidates tree paths exclude) :
    (∃ contents, tree.entry path = .ok (.file contents)) ∧
      ∃ listed ∈ paths, ∃ names : List String,
        Path.components path = Path.components listed ++ names.map .name := by
  obtain ⟨hpath, _⟩ := List.mem_filter.1 hpath
  obtain ⟨listed, hlisted, hpath⟩ := List.mem_flatMap.1 hpath
  obtain ⟨hfile, hbelow⟩ := exists_below_of_mem_reachable hwell hpath
  exact ⟨hfile, listed, hlisted, hbelow⟩

theorem exists_location_of_mem_candidates {path : String} (hwell : tree.WellFormed)
    (hpath : path ∈ candidates tree paths exclude) : ∃ names, tree.location path = .ok names := by
  obtain ⟨⟨_, hentry⟩, _⟩ := exists_below_of_mem_candidates hwell hpath
  obtain ⟨names, hlocation, _⟩ := FileTree.entry_eq_ok_iff.1 hentry
  exact ⟨names, hlocation⟩

/-- Candidates with the same components are one file. -/
theorem location_eq_of_mem_candidates {a b : String} (hwell : tree.WellFormed)
    (ha : a ∈ candidates tree paths exclude) (hb : b ∈ candidates tree paths exclude)
    (hsame : Path.components a = Path.components b) : tree.location a = tree.location b := by
  obtain ⟨names, ha⟩ := exists_location_of_mem_candidates hwell ha
  obtain ⟨others, hb⟩ := exists_location_of_mem_candidates hwell hb
  rw [ha, hb, FileTree.location_eq_of_components_eq ha hb hsame]

/-! ## How often a file is found -/

/-- A file is found once for each way in which the candidates for it are spelled. -/
theorem length_filter_leadsTo (hwell : tree.WellFormed) (names : List String) :
    ((findFiles tree paths exclude).filter (tree.leadsTo names)).length =
      (((candidates tree paths exclude).filter (tree.leadsTo names)).map
        Path.components).dedup.length := by
  -- both sides list the same spellings, and each of them once
  rw [← List.length_map Path.components]
  refine List.Perm.length_eq ?_
  have honce : (((findFiles tree paths exclude).filter (tree.leadsTo names)).map
      Path.components).Nodup := by
    refine List.Nodup.sublist (List.filter_sublist.map _) ?_
    exact findFiles_strictly_ordered.imp ne_of_lt
  rw [List.perm_ext_iff_of_nodup honce (List.nodup_dedup _)]
  intro spelling
  rw [List.mem_dedup]
  refine ⟨?_, ?_⟩
  · intro hspelling
    obtain ⟨file, hfile, rfl⟩ := List.mem_map.1 hspelling
    obtain ⟨hfile, hleads⟩ := List.mem_filter.1 hfile
    refine List.mem_map_of_mem (List.mem_filter.2 ⟨?_, hleads⟩)
    exact mem_candidates_of_mem_findFiles hfile
  · intro hspelling
    obtain ⟨path, hpath, rfl⟩ := List.mem_map.1 hspelling
    obtain ⟨hpath, hleads⟩ := List.mem_filter.1 hpath
    obtain ⟨file, hfile, hsame⟩ := exists_mem_findFiles hpath
    have hlocation : tree.location file = tree.location path :=
      location_eq_of_mem_candidates hwell (mem_candidates_of_mem_findFiles hfile) hpath hsame
    rw [← hsame]
    refine List.mem_map_of_mem (List.mem_filter.2 ⟨hfile, ?_⟩)
    rw [FileTree.leadsTo_iff, hlocation]
    exact FileTree.leadsTo_iff.1 hleads

/-- No file is found twice exactly when all candidates for a file are spelled alike. -/
theorem nodup_location_findFiles_iff (hwell : tree.WellFormed) :
    ((findFiles tree paths exclude).map tree.location).Nodup ↔
      ∀ a ∈ candidates tree paths exclude, ∀ b ∈ candidates tree paths exclude,
        tree.location a = tree.location b → Path.components a = Path.components b := by
  have hdistinct : (findFiles tree paths exclude).Pairwise
      fun a b => Path.components a ≠ Path.components b :=
    (List.pairwise_map.1 findFiles_strictly_ordered).imp ne_of_lt
  refine ⟨?_, ?_⟩
  · intro honce a ha b hb hsame
    obtain ⟨file, hfile, hspelled⟩ := exists_mem_findFiles ha
    obtain ⟨other, hother, hotherSpelled⟩ := exists_mem_findFiles hb
    have hlocation : tree.location file = tree.location other := by
      rw [location_eq_of_mem_candidates hwell (mem_candidates_of_mem_findFiles hfile) ha hspelled,
        location_eq_of_mem_candidates hwell (mem_candidates_of_mem_findFiles hother) hb
          hotherSpelled, hsame]
    rw [← hspelled, ← hotherSpelled, List.inj_on_of_nodup_map honce hfile hother hlocation]
  · intro hspelled
    rw [List.Nodup, List.pairwise_map]
    refine hdistinct.imp_of_mem fun {a b} ha hb hne hsame => hne ?_
    exact hspelled a (mem_candidates_of_mem_findFiles ha) b (mem_candidates_of_mem_findFiles hb)
      hsame

/-- From one place down there is one spelling for each file. -/
theorem components_eq_of_same_lead {lead : List Path.Component}
    (hlead : ∀ path ∈ paths, ∃ names : List String,
      Path.components path = lead ++ names.map .name)
    (hwell : tree.WellFormed) {a b : String} (ha : a ∈ candidates tree paths exclude)
    (hb : b ∈ candidates tree paths exclude) (hsame : tree.location a = tree.location b) :
    Path.components a = Path.components b := by
  have hbelow : ∀ path ∈ candidates tree paths exclude, ∃ names : List String,
      Path.components path = lead ++ names.map .name := by
    intro path hpath
    obtain ⟨_, listed, hlisted, below, hpath⟩ := exists_below_of_mem_candidates hwell hpath
    obtain ⟨names, hlisted⟩ := hlead listed hlisted
    exact ⟨names ++ below, by rw [hpath, hlisted, List.map_append, List.append_assoc]⟩
  obtain ⟨place, haPlace⟩ := exists_location_of_mem_candidates hwell ha
  have hplaces : Path.place tree.workingDirectory a = Path.place tree.workingDirectory b := by
    rw [← FileTree.eq_place_of_location haPlace,
      ← FileTree.eq_place_of_location (hsame.symm.trans haPlace)]
  -- both places lie below the one that the lead leads to, so the names below it agree
  obtain ⟨names, ha⟩ := hbelow a ha
  obtain ⟨others, hb⟩ := hbelow b hb
  rw [Path.place, Path.place, ha, hb, List.foldl_append, List.foldl_append,
    Path.foldl_move_names, Path.foldl_move_names] at hplaces
  rw [ha, hb, List.append_cancel_left hplaces]

/-- A scan finds files, and each of them as often as the candidates for it are spelled in different
ways; so no file is found twice exactly when all candidates for a file are spelled alike. That is so
if the listed paths all start from one place and go down from there. -/
theorem findFiles_repeats_spellings (tree : FileTree) (paths exclude : List String)
    (hwell : tree.WellFormed) :
    let found := candidates tree paths exclude
    let files := findFiles tree paths exclude
    (∀ file ∈ files, tree.isFile file = true) ∧
      (∀ names, (files.filter (tree.leadsTo names)).length =
        ((found.filter (tree.leadsTo names)).map Path.components).dedup.length) ∧
      ((files.map tree.location).Nodup ↔ ∀ a ∈ found, ∀ b ∈ found,
        tree.location a = tree.location b → Path.components a = Path.components b) ∧
      ((∃ lead, ∀ path ∈ paths, ∃ names : List String,
          Path.components path = lead ++ names.map .name) →
        (files.map tree.location).Nodup) := by
  intro found files
  refine ⟨?_, length_filter_leadsTo hwell, nodup_location_findFiles_iff hwell, ?_⟩
  · intro file hfile
    obtain ⟨⟨contents, hentry⟩, _⟩ :=
      exists_below_of_mem_candidates hwell (mem_candidates_of_mem_findFiles hfile)
    rw [FileTree.isFile, hentry]
  · rintro ⟨lead, hlead⟩
    refine (nodup_location_findFiles_iff hwell).2 fun a ha b hb hsame => ?_
    exact components_eq_of_same_lead hlead hwell ha hb hsame

/-- A directory and a file in it, spelled with two slashes: the file is found once. -/
theorem findFiles_shop_once :
    let tree : FileTree :=
      ⟨.directory [("shop", .directory [("web.json", .file "\x7b\x7d".toUTF8)])], []⟩
    let paths := ["shop", "shop//web.json", "shop"]
    tree.WellFormed ∧ ((findFiles tree paths []).map tree.location).Nodup := by
  intro tree paths
  have hwell : tree.WellFormed :=
    .singleton (by decide) (.singleton (by decide) (.file _))
  refine ⟨hwell, (findFiles_repeats_spellings tree paths [] hwell).2.2.2 ⟨[], ?_⟩⟩
  intro path hpath
  simp only [paths, List.mem_cons, List.not_mem_nil, or_false] at hpath
  rcases hpath with rfl | rfl | rfl
  · exact ⟨["shop"], by decide⟩
  · exact ⟨["shop", "web.json"], by decide⟩
  · exact ⟨["shop"], by decide⟩

end PolicyScan

/-! ## Runs -/

namespace CommandLine

/-- A run checks its only file twice, under two paths to it. -/
theorem run_counts_web_twice :
    let web := "\x7b\"roles\": [\x7b\"id\": \"acme:host:shop/*/*\"\x7d]\x7d"
    let tree : FileTree := ⟨.directory [("web.json", .file web.toUTF8)], []⟩
    let paths := [".", "web.json"]
    tree.WellFormed ∧ PolicyScan.findFiles tree paths [] = ["./web.json", "web.json"] ∧
      ¬ ((PolicyScan.findFiles tree paths []).map tree.location).Nodup ∧
      run tree [] (paths ++ ["--service-id", "prod"]) =
        ⟨0, "2 file(s), 2 role(s) checked, 0 failure(s)\n"⟩ := by
  intro web tree paths
  have hcandidates : PolicyScan.candidates tree paths [] = ["./web.json", "web.json"] := by
    decide +kernel
  have hfiles : PolicyScan.findFiles tree paths [] = ["./web.json", "web.json"] := by
    rw [PolicyScan.findFiles, hcandidates, List.mergeSort_of_pairwise (by decide +kernel)]
    decide +kernel
  refine ⟨.singleton (by decide) (.file _), hfiles, ?_, ?_⟩
  · have hplaces : ["./web.json", "web.json"].map tree.location =
        [.ok ["web.json"], .ok ["web.json"]] := by rfl
    rw [hfiles, hplaces]
    simp
  · let options : Options :=
      { paths := paths, serviceId := "prod", selection := .auto, exclude := [], json := false,
        verbose := false, config := none }
    have hparse : parse (paths ++ ["--service-id", "prod"]) = .ok (.validate options) := by rfl
    have hsettings : AppSettings.load tree options.config [] = .ok {} :=
      Outcome.toOption_eq_some_iff.1 (by decide +kernel)
    have hreport : validate tree options {} = ⟨[], 2, 2⟩ := by
      unfold validate
      rw [hfiles]
      decide +kernel
    rw [run_of_settings hparse hsettings, hreport]
    decide +kernel

end CommandLine

end WorkloadGuard
