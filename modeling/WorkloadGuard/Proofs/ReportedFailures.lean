import Mathlib.Algebra.GroupWithZero.Nat
import Mathlib.Data.List.Basic
import Mathlib.Tactic.Choose
import WorkloadGuard.CommandLine
import WorkloadGuard.Proofs.Outcome

/-!
# What a run reports

A run goes through the files that it found, through the roles of each file that can be loaded, and
through the providers of each role. Here its report is compared with everything that can be at fault
on the way. Each fault has a place, made of the number of a file and, for a role, its number in the
file and that of a provider among those of the role. The failures of a report are what stands at
these places, in the order of the places, with nothing lost, repeated or added.

## Main statements

- `ListsInOrder.flatMap`: going through a list, entry by entry, lists what stands below the entries
  in order.
- `CommandLine.validate_listsInOrder`: the failures of a report list the faults of the files found.
- `CommandLine.validate_failures_eq_nil_iff`: a report is clean when all files and roles are.
- `CommandLine.run_reports_exactly`: the report and the exit code of a run.
-/

namespace WorkloadGuard

/-! ## Items at places -/

section Places

variable {α β : Type}

/-- The items are what stands at the places: in the order of the places, and each place once. -/
def ListsInOrder (stands : List Nat → α → Prop) (items : List α) : Prop :=
  ∃ placed : List (List Nat × α), placed.map Prod.snd = items ∧
    placed.Pairwise (fun a b => a.1 < b.1) ∧
    ∀ place item, (place, item) ∈ placed ↔ stands place item

/-- What stands below the entries of a list: the first number of a place is that of the entry. -/
inductive Below (entries : List α) (stands : α → List Nat → β → Prop) : List Nat → β → Prop where
  | intro {number : Nat} {entry : α} {place : List Nat} {item : β}
      (hentry : entries[number]? = some entry) (hstands : stands entry place item) :
      Below entries stands (number :: place) item

private theorem pairwise_zipIdx (entries : List α) (first : Nat) :
    (entries.zipIdx first).Pairwise fun a b => a.2 < b.2 := by
  induction entries generalizing first with
  | nil => exact .nil
  | cons entry entries ih =>
    rw [List.zipIdx_cons, List.pairwise_cons]
    exact ⟨fun other hother => List.le_snd_of_mem_zipIdx hother, ih (first + 1)⟩

namespace ListsInOrder

variable {stands : List Nat → α → Prop} {items : List α}

theorem congr {other : List Nat → α → Prop} (hlists : ListsInOrder stands items)
    (hsame : ∀ place item, stands place item ↔ other place item) : ListsInOrder other items := by
  obtain ⟨placed, hitems, horder, hmem⟩ := hlists
  exact ⟨placed, hitems, horder, fun place item => (hmem place item).trans (hsame place item)⟩

theorem mem_iff (hlists : ListsInOrder stands items) {item : α} :
    item ∈ items ↔ ∃ place, stands place item := by
  obtain ⟨placed, rfl, _, hmem⟩ := hlists
  simp only [List.mem_map, Prod.exists, exists_eq_right, hmem]

theorem singleton (item : α) :
    ListsInOrder (fun place other => place = [] ∧ item = other) [item] := by
  refine ⟨[([], item)], rfl, List.pairwise_singleton _ _, fun place other => ?_⟩
  simp [eq_comm]

theorem toList (found : Option α) :
    ListsInOrder (fun place item => place = [] ∧ found = some item) found.toList := by
  cases found with
  | none => exact ⟨[], rfl, .nil, by simp⟩
  | some item =>
    exact (singleton item).congr fun place other => by rw [Option.some.injEq]

/-- Going through a list, entry by entry, lists what stands below the entries in order. -/
theorem flatMap {entries : List α} {list : α → List β} {stands : α → List Nat → β → Prop}
    (hlists : ∀ entry ∈ entries, ListsInOrder (stands entry) (list entry)) :
    ListsInOrder (Below entries stands) (entries.flatMap list) := by
  choose! placed hplaced using hlists
  have hentry : ∀ numbered ∈ entries.zipIdx, numbered.1 ∈ entries := by
    intro numbered hmem
    exact List.mem_of_getElem? (List.mem_zipIdx_iff_getElem?.1 hmem)
  refine ⟨entries.zipIdx.flatMap fun numbered =>
    (placed numbered.1).map fun found => (numbered.2 :: found.1, found.2), ?_, ?_, ?_⟩
  · -- without their places, the items are those listed for the entries
    calc (entries.zipIdx.flatMap fun numbered =>
            (placed numbered.1).map fun found => (numbered.2 :: found.1, found.2)).map Prod.snd
        = entries.zipIdx.flatMap fun numbered => list numbered.1 := by
          rw [List.map_flatMap]
          refine List.flatMap_congr fun numbered hmem => ?_
          rw [List.map_map]
          exact (hplaced _ (hentry numbered hmem)).1
      _ = (entries.zipIdx.map Prod.fst).flatMap list := by rw [List.flatMap_map]
      _ = entries.flatMap list := by rw [List.zipIdx_map_fst]
  · -- below one entry the places are in order, and all are before those below a later entry
    rw [List.pairwise_flatMap]
    refine ⟨fun numbered hmem => ?_, ?_⟩
    · rw [List.pairwise_map]
      refine (hplaced _ (hentry numbered hmem)).2.1.imp fun hlt => ?_
      exact List.cons_lt_cons_iff.2 (.inr ⟨rfl, hlt⟩)
    · refine (pairwise_zipIdx entries 0).imp fun hlt a ha b hb => ?_
      obtain ⟨_, _, rfl⟩ := List.mem_map.1 ha
      obtain ⟨_, _, rfl⟩ := List.mem_map.1 hb
      exact List.cons_lt_cons_iff.2 (.inl hlt)
  · intro place item
    simp only [List.mem_flatMap, List.mem_map, Prod.mk.injEq]
    refine ⟨?_, ?_⟩
    · rintro ⟨numbered, hmem, found, hfound, rfl, rfl⟩
      refine .intro (List.mem_zipIdx_iff_getElem?.1 hmem) ?_
      exact ((hplaced _ (hentry numbered hmem)).2.2 _ _).1 hfound
    · rintro ⟨hnumber, hstands⟩
      rename_i number entry place
      have hmem : (entry, number) ∈ entries.zipIdx := List.mem_zipIdx_iff_getElem?.2 hnumber
      refine ⟨(entry, number), hmem, (place, item), ?_, rfl, rfl⟩
      exact ((hplaced _ (hentry _ hmem)).2.2 _ _).2 hstands

theorem filterMap (entries : List α) (find : α → Option β) :
    ListsInOrder (Below entries fun entry place item => place = [] ∧ find entry = some item)
      (entries.filterMap find) := by
  rw [List.filterMap_eq_flatMap_toList]
  exact flatMap fun entry _ => toList (find entry)

end ListsInOrder

end Places

/-! ## Faults of files -/

section Faults

variable (tree : FileTree) (serviceId : String) (selection : ProviderSelection)
  (settings : EngineSettings)

/-- What is at fault in a file: the file itself if it cannot be loaded, and else each role for each
of its providers for which the check of the role fails. -/
inductive FaultIn (file : String) : List Nat → PolicyFailure → Prop where
  /-- The file cannot be loaded; no role and no provider has a part in it. -/
  | unloadable {error : PolicyLoadError} (hload : Policy.load tree file = .error error) :
      FaultIn file [] (.unloadable file error)
  /-- A role of the file is not valid for one of its providers. -/
  | invalidRole {records : List RoleRecord} {record : RoleRecord} {provider : Provider}
      {error : RestrictionError} {i j : Nat} (hload : Policy.load tree file = .ok records)
      (hrecord : records[i]? = some record)
      (hprovider : (record.providers selection)[j]? = some provider)
      (hcheck : record.check provider serviceId settings = .error error) :
      FaultIn file [i, j] (.invalidRole file record.id provider error)

variable {tree serviceId selection settings}

theorem RoleRecord.failure?_eq_some_iff {record : RoleRecord} {file : String}
    {provider : Provider} {failure : PolicyFailure} :
    record.failure? file serviceId settings provider = some failure ↔
      ∃ error, record.check provider serviceId settings = .error error ∧
        failure = .invalidRole file record.id provider error := by
  unfold failure?
  split
  · rename_i hok
    simp [hok]
  · rename_i error herror
    simp [herror, eq_comm]

/-- In a file that cannot be loaded, only the file is at fault. -/
theorem faultIn_iff_of_error {file : String} {error : PolicyLoadError}
    (hload : Policy.load tree file = .error error) {place : List Nat} {failure : PolicyFailure} :
    FaultIn tree serviceId selection settings file place failure ↔
      place = [] ∧ .unloadable file error = failure := by
  refine ⟨fun hfault => ?_, ?_⟩
  · cases hfault with
    | unloadable hother =>
      rw [hload] at hother
      cases hother
      exact ⟨rfl, rfl⟩
    | invalidRole hother _ _ _ =>
      rw [hload] at hother
      cases hother
  · rintro ⟨rfl, rfl⟩
    exact .unloadable hload

/-- In a file that can be loaded, what is at fault stands below the providers of its roles. -/
theorem faultIn_iff_of_ok {file : String} {records : List RoleRecord}
    (hload : Policy.load tree file = .ok records) {place : List Nat} {failure : PolicyFailure} :
    FaultIn tree serviceId selection settings file place failure ↔
      Below records (fun record => Below (record.providers selection) fun provider place failure =>
        place = [] ∧ record.failure? file serviceId settings provider = some failure)
        place failure := by
  refine ⟨fun hfault => ?_, ?_⟩
  · cases hfault with
    | unloadable hother =>
      rw [hload] at hother
      cases hother
    | invalidRole hother hrecord hprovider hcheck =>
      rw [hload] at hother
      cases hother
      refine .intro hrecord (.intro hprovider ⟨rfl, ?_⟩)
      exact RoleRecord.failure?_eq_some_iff.2 ⟨_, hcheck, rfl⟩
  · rintro ⟨hrecord, hprovider, rfl, hfailure⟩
    obtain ⟨error, hcheck, rfl⟩ := RoleRecord.failure?_eq_some_iff.1 hfailure
    exact .invalidRole hload hrecord hprovider hcheck

/-- The failures of a file list what is at fault in it. -/
theorem Policy.listsInOrder_checkFile (file : String) :
    ListsInOrder (FaultIn tree serviceId selection settings file)
      (checkFile tree serviceId selection settings file).failures := by
  unfold checkFile
  cases hload : load tree file with
  | error error =>
    exact (ListsInOrder.singleton _).congr fun _ _ => (faultIn_iff_of_error hload).symm
  | ok records =>
    refine ListsInOrder.congr (.flatMap fun record _ => ?_)
      fun _ _ => (faultIn_iff_of_ok hload).symm
    exact .filterMap (record.providers selection) (record.failure? file serviceId settings)

theorem Policy.roles_checkFile (file : String) :
    (checkFile tree serviceId selection settings file).roles =
      ((load tree file).toOption.map List.length).getD 0 := by
  unfold checkFile
  cases load tree file with
  | error error => rfl
  | ok records => rfl

end Faults

/-! ## Reports -/

namespace CommandLine

variable {tree : FileTree} {options : Options} {settings : EngineSettings}

theorem failures_validate :
    (validate tree options settings).failures =
      (PolicyScan.findFiles tree options.paths options.exclude).flatMap fun file =>
        (Policy.checkFile tree options.serviceId options.selection settings file).failures := by
  simp only [validate, ValidationReport.ofChecks, List.flatMap_map]

/-- The failures of a report list the faults of the files found. -/
theorem validate_listsInOrder :
    ListsInOrder
      (Below (PolicyScan.findFiles tree options.paths options.exclude)
        (FaultIn tree options.serviceId options.selection settings))
      (validate tree options settings).failures := by
  rw [failures_validate]
  exact .flatMap fun file _ => Policy.listsInOrder_checkFile file

/-- A report counts the roles of the files that can be loaded. -/
theorem rolesChecked_validate :
    (validate tree options settings).rolesChecked =
      (((PolicyScan.findFiles tree options.paths options.exclude).filterMap fun file =>
        (Policy.load tree file).toOption).map List.length).sum := by
  unfold validate ValidationReport.ofChecks
  dsimp only
  induction PolicyScan.findFiles tree options.paths options.exclude with
  | nil => rfl
  | cons file files ih =>
    rw [List.map_cons, List.foldr_cons, ih, Policy.roles_checkFile, List.filterMap_cons]
    cases Policy.load tree file with
    | error error => simp [Except.toOption]
    | ok records => simp [Except.toOption]

theorem filesScanned_validate :
    (validate tree options settings).filesScanned =
      (PolicyScan.findFiles tree options.paths options.exclude).length :=
  rfl

/-- A report is clean exactly when every file found can be loaded and all roles in it are valid for
their providers. -/
theorem validate_failures_eq_nil_iff :
    (validate tree options settings).failures = [] ↔
      ∀ file ∈ PolicyScan.findFiles tree options.paths options.exclude,
        ∃ records, Policy.load tree file = .ok records ∧
          ∀ record ∈ records, ∀ provider ∈ record.providers options.selection,
            record.check provider options.serviceId settings = .ok () := by
  rw [List.eq_nil_iff_forall_not_mem]
  simp only [validate_listsInOrder.mem_iff]
  refine ⟨?_, ?_⟩
  · intro hclean file hfile
    obtain ⟨number, hnumber⟩ := List.mem_iff_getElem?.1 hfile
    cases hload : Policy.load tree file with
    | error error => exact absurd ⟨_, .intro hnumber (.unloadable hload)⟩ (hclean _)
    | ok records =>
      refine ⟨records, rfl, fun record hrecord provider hprovider => ?_⟩
      obtain ⟨_, hi⟩ := List.mem_iff_getElem?.1 hrecord
      obtain ⟨_, hj⟩ := List.mem_iff_getElem?.1 hprovider
      cases hcheck : record.check provider options.serviceId settings with
      | error error =>
        exact absurd ⟨_, .intro hnumber (.invalidRole hload hi hj hcheck)⟩ (hclean _)
      | ok _ => rfl
  · rintro hclean failure ⟨_, hnumber, hfault⟩
    obtain ⟨records, hload, hvalid⟩ := hclean _ (List.mem_of_getElem? hnumber)
    obtain ⟨hrecord, hprovider, _, hfailure⟩ := (faultIn_iff_of_ok hload).1 hfault
    obtain ⟨error, hcheck, _⟩ := RoleRecord.failure?_eq_some_iff.1 hfailure
    rw [hvalid _ (List.mem_of_getElem? hrecord) _ (List.mem_of_getElem? hprovider)] at hcheck
    cases hcheck

/-! ## Runs -/

theorem isClean_iff {report : ValidationReport} :
    report.isClean = true ↔ report.failures = [] :=
  List.isEmpty_iff

theorem exitCode_ofReport_eq_zero_iff {report : ValidationReport} {json : Bool} :
    (Outcome.ofReport report json).exitCode = 0 ↔ report.failures = [] := by
  simp [Outcome.ofReport, isClean_iff]

theorem exitCode_ofReport_eq_one_iff {report : ValidationReport} {json : Bool} :
    (Outcome.ofReport report json).exitCode = 1 ↔ report.failures ≠ [] := by
  simp [Outcome.ofReport, isClean_iff]

/-- A run with settings that can be loaded comes out as its report does. -/
theorem run_of_settings {environment : List (String × String)} {arguments : List String}
    {appSettings : AppSettings} (hparse : parse arguments = .ok (.validate options))
    (hsettings : AppSettings.load tree options.config environment = .ok appSettings) :
    run tree environment arguments =
      .ofReport (validate tree options appSettings.restrictions) options.json := by
  simp only [run, hparse, hsettings]

/-- A run reports what is at fault, all of it and nothing else: in the order of the files found, of
the roles in each and of the providers of a role. It counts the files found and the roles of those
that can be loaded, and ends with 0 if nothing is at fault and with 1 if something is. If its
settings cannot be loaded, it ends with 2 and prints nothing. -/
theorem run_reports_exactly (tree : FileTree) (environment : List (String × String))
    (arguments : List String) (options : Options)
    (hparse : parse arguments = .ok (.validate options)) :
    (∀ settings, AppSettings.load tree options.config environment = .ok settings →
      let files := PolicyScan.findFiles tree options.paths options.exclude
      let report := validate tree options settings.restrictions
      run tree environment arguments = .ofReport report options.json ∧
        ListsInOrder
          (Below files (FaultIn tree options.serviceId options.selection settings.restrictions))
          report.failures ∧
        report.filesScanned = files.length ∧
        report.rolesChecked =
          ((files.filterMap fun file => (Policy.load tree file).toOption).map List.length).sum ∧
        ((run tree environment arguments).exitCode = 0 ↔ report.failures = []) ∧
        ((run tree environment arguments).exitCode = 1 ↔ report.failures ≠ [])) ∧
    ∀ error, AppSettings.load tree options.config environment = .error error →
      run tree environment arguments = ⟨2, ""⟩ := by
  refine ⟨?_, ?_⟩
  · intro settings hsettings files report
    have hrun := run_of_settings hparse hsettings
    refine ⟨hrun, validate_listsInOrder, filesScanned_validate, rolesChecked_validate, ?_, ?_⟩
    · rw [hrun, exitCode_ofReport_eq_zero_iff]
    · rw [hrun, exitCode_ofReport_eq_one_iff]
  · intro error hsettings
    simp only [run, hparse, hsettings]

/-- A file that is no document does not keep a run from the file behind it. -/
theorem run_reports_old_and_web :
    let tree : FileTree := ⟨.directory
      [("web.json", .file "\x7b\"roles\": [\x7b\"id\": \"acme:host:shop/pod/*\"\x7d]\x7d".toUTF8),
        ("old.json", .file "roles".toUTF8)], []⟩
    let arguments := ["--service-id", "prod", "old.json", "web.json"]
    let report : ValidationReport :=
      ⟨[.unloadable "old.json" .invalidDocument,
        .invalidRole "web.json" ⟨"acme:host:shop/pod/*"⟩ .kubernetes
          (.malformedHostId "acme:host:shop/pod/*")], 2, 1⟩
    run tree [] arguments = .ofReport report false ∧ (run tree [] arguments).exitCode = 1 := by
  intro tree arguments report
  let options : Options :=
    { paths := ["old.json", "web.json"], serviceId := "prod", selection := .auto, exclude := [],
      json := false, verbose := false, config := none }
  have hparse : parse arguments = .ok (.validate options) := by rfl
  have hsettings : AppSettings.load tree options.config [] = .ok {} :=
    Outcome.toOption_eq_some_iff.1 (by decide +kernel)
  have hcandidates : PolicyScan.candidates tree options.paths options.exclude =
      ["old.json", "web.json"] := by decide +kernel
  have hfiles : PolicyScan.findFiles tree options.paths options.exclude =
      ["old.json", "web.json"] := by
    rw [PolicyScan.findFiles, hcandidates, List.mergeSort_of_pairwise (by decide +kernel)]
    decide +kernel
  have hreport : validate tree options {} = report := by
    unfold validate
    rw [hfiles]
    decide +kernel
  obtain ⟨hrun, _, _, _, _, hone⟩ :=
    (run_reports_exactly tree [] arguments options hparse).1 {} hsettings
  refine ⟨?_, hone.2 ?_⟩
  · rw [hrun, hreport]
  · rw [hreport]
    exact List.cons_ne_nil _ _

end CommandLine

end WorkloadGuard
