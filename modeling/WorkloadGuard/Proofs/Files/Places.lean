import WorkloadGuard.Files.Tree
import WorkloadGuard.Proofs.Outcome

/-!
# Where paths lead

A path is followed through a tree segment by segment. Where it leads, if it can be followed at all,
depends on its components alone. The trees of file systems give each name in a directory to one
entry, and no name is a path. In such a tree a directory that can be reached by a path is one from
which all that lies below it can be reached by longer paths.

## Main statements

- `FileTree.eq_place_of_location`: a path leads to the place that its components say.
- `Path.components_join`: the components of a longer path continue those of the shorter one.
- `FileTree.location_join`: what lies below a directory is reached by longer paths.
- `FileEntry.file_of_mem_filesBelow`: the files below an entry are reached by entry names.
-/

namespace WorkloadGuard

/-- A name that an entry of a directory can have. -/
structure IsEntryName (name : String) : Prop where
  ne_empty : name ≠ ""
  ne_dot : name ≠ "."
  ne_dots : name ≠ ".."
  no_slash : '/' ∉ name.toList

instance : DecidablePred IsEntryName := fun name =>
  decidable_of_iff (name ≠ "" ∧ name ≠ "." ∧ name ≠ ".." ∧ '/' ∉ name.toList)
    ⟨fun ⟨hempty, hdot, hdots, hslash⟩ => ⟨hempty, hdot, hdots, hslash⟩,
      fun h => ⟨h.ne_empty, h.ne_dot, h.ne_dots, h.no_slash⟩⟩

/-! ## Places -/

namespace Path

/-- Where a component leads to from a place. -/
def Component.move (here : List String) : Component → List String
  | root => []
  | current => here
  | parent => here.dropLast
  | name text => here ++ [text]

/-- The place that a path leads to, whether or not anything is there. -/
def place (start : List String) (path : String) : List String :=
  (components path).foldl Component.move start

theorem foldl_move_names (here names : List String) :
    (names.map Component.name).foldl Component.move here = here ++ names := by
  induction names generalizing here with
  | nil => rw [List.append_nil]; rfl
  | cons name names ih =>
    rw [List.append_cons]
    exact ih (here ++ [name])

theorem components_of_splitOn {path first : String} {rest : List String}
    (hsplit : Text.splitOn '/' path = first :: rest) :
    components path =
      (if first = "" ∧ rest ≠ [] then [.root] else (Component.ofFirstSegment? first).toList)
        ++ rest.filterMap Component.ofSegment? := by
  rw [components, hsplit]

/-- A path begins with a slash exactly if its first segment is empty and not the only one. -/
theorem startsWith_slash_iff {path first : String} {rest : List String}
    (hsplit : Text.splitOn '/' path = first :: rest) :
    Text.startsWith "/" path = true ↔ first = "" ∧ rest ≠ [] := by
  obtain ⟨_, hpath, hfree⟩ := Text.splitOn_eq_iff.1 hsplit
  rw [Text.startsWith_iff]
  cases rest with
  | nil =>
    -- a segment holds no slash
    have hfirst : path = first := hpath
    refine iff_of_false ?_ (fun h => h.2 rfl)
    rintro ⟨rest, rfl⟩
    refine hfree first List.mem_cons_self ?_
    rw [← hfirst]
    simp
  | cons second rest =>
    rw [String.intercalate_cons_cons] at hpath
    refine ⟨?_, ?_⟩
    · rintro ⟨behind, hbehind⟩
      refine ⟨?_, List.cons_ne_nil _ _⟩
      -- otherwise the slash would be in the first segment
      refine Classical.byContradiction fun hne => ?_
      obtain ⟨c, cs, hchars⟩ := List.exists_cons_of_ne_nil (mt String.toList_eq_nil_iff.1 hne)
      have heq := congrArg String.toList (hbehind.symm.trans hpath)
      simp only [String.toList_append, hchars] at heq
      refine hfree first List.mem_cons_self ?_
      rw [hchars, ← (List.cons.inj heq).1]
      exact List.mem_cons_self
    · rintro ⟨rfl, _⟩
      exact ⟨_, hpath⟩

/-! ### Longer paths -/

theorem join_ne_empty {directory : String} (hne : directory ≠ "") (names : List String) :
    join directory names ≠ "" := by
  unfold join
  split
  · exact fun h => hne (String.append_eq_empty_iff.1 h).1
  · exact fun h => hne (String.append_eq_empty_iff.1 (String.append_eq_empty_iff.1 h).1).1

theorem startsWith_join {directory : String} (hne : directory ≠ "") (names : List String) :
    Text.startsWith "/" (join directory names) = Text.startsWith "/" directory := by
  obtain ⟨c, cs, hchars⟩ := List.exists_cons_of_ne_nil (mt String.toList_eq_nil_iff.1 hne)
  unfold join Text.startsWith
  split
  · simp [hchars, List.isPrefixOf]
  · simp [hchars, List.isPrefixOf]

/-- A longer path has the segments of the shorter one, save an empty one at its end, and the names
below. -/
theorem splitOn_join (directory : String) {names : List String} (hne : names ≠ [])
    (hnames : ∀ name ∈ names, '/' ∉ name.toList) :
    ∃ lead, Text.splitOn '/' (join directory names) = lead ++ names ∧
      (Text.splitOn '/' directory = lead ∨ Text.splitOn '/' directory = lead ++ [""]) := by
  have hrest : Text.splitOn '/' (String.intercalate "/" names) = names :=
    Text.splitOn_eq_iff.2 ⟨hne, rfl, hnames⟩
  unfold join
  split
  · rename_i hslash
    obtain ⟨chars, hchars⟩ := List.getLast?_eq_some_iff.1 hslash
    have hdirectory : directory = String.ofList chars ++ String.singleton '/' ++ "" := by
      apply String.toList_inj.1
      simp [hchars]
    refine ⟨Text.splitOn '/' (String.ofList chars), ?_, .inr ?_⟩
    · rw [hdirectory, String.append_empty, Text.splitOn_append, hrest]
    · rw [hdirectory, Text.splitOn_append]
      rfl
  · exact ⟨_, (Text.splitOn_append '/' _ _).trans (congrArg _ hrest), .inl rfl⟩

namespace Component

theorem ofSegment?_eq_none_iff {segment : String} :
    ofSegment? segment = none ↔ segment = "" ∨ segment = "." := by
  unfold ofSegment?
  split
  · rename_i hblank
    exact iff_of_true rfl hblank
  · rename_i hblank
    split <;> exact iff_of_false nofun hblank

theorem ofSegment?_eq_name_iff {segment text : String} :
    ofSegment? segment = some (name text) ↔
      segment = text ∧ text ≠ "" ∧ text ≠ "." ∧ text ≠ ".." := by
  unfold ofSegment?
  split
  · rename_i hblank
    refine iff_of_false nofun ?_
    rintro ⟨rfl, hempty, hdot, _⟩
    exact hblank.elim hempty hdot
  · rename_i hblank
    obtain ⟨hempty, hdot⟩ := not_or.1 hblank
    split
    · rename_i hdots
      refine iff_of_false nofun ?_
      rintro ⟨rfl, _, _, hno⟩
      exact hno hdots
    · rename_i hdots
      rw [Option.some.injEq, name.injEq]
      constructor
      · rintro rfl
        exact ⟨rfl, hempty, hdot, hdots⟩
      · exact And.left

end Component

theorem filterMap_ofSegment? {names : List String} (hnames : ∀ name ∈ names, IsEntryName name) :
    names.filterMap Component.ofSegment? = names.map .name := by
  induction names with
  | nil => rfl
  | cons name names ih =>
    obtain ⟨⟨hempty, hdot, hdots, _⟩, hnames⟩ := List.forall_mem_cons.1 hnames
    have hname : Component.ofSegment? name = some (.name name) :=
      Component.ofSegment?_eq_name_iff.2 ⟨rfl, hempty, hdot, hdots⟩
    rw [List.filterMap_cons, hname, ih hnames, List.map_cons]

theorem components_join {directory : String} {names : List String} (hempty : directory ≠ "")
    (hne : names ≠ []) (hnames : ∀ name ∈ names, IsEntryName name) :
    components (join directory names) = components directory ++ names.map .name := by
  obtain ⟨lead, hjoin, hlead⟩ :=
    splitOn_join directory hne fun name hname => (hnames name hname).no_slash
  have hsole : Text.splitOn '/' directory ≠ [""] := by
    intro hsplit
    exact hempty (Text.splitOn_eq_iff.1 hsplit).2.1
  -- the segments of the directory that have components are in the lead
  obtain ⟨first, more, rest, rfl, hsplit, hkept⟩ : ∃ first more rest, lead = first :: more ∧
      Text.splitOn '/' directory = first :: rest ∧
      rest.filterMap Component.ofSegment? = more.filterMap Component.ofSegment? := by
    rcases hlead with hlead | hlead
    · obtain ⟨first, rest, hsplit⟩ := List.exists_cons_of_ne_nil (Text.splitOn_ne_nil '/' directory)
      exact ⟨first, rest, rest, hlead.symm.trans hsplit, hsplit, rfl⟩
    · cases lead with
      | nil => exact absurd hlead hsole
      | cons first more =>
        refine ⟨first, more, more ++ [""], rfl, hlead, ?_⟩
        rw [List.filterMap_append]
        exact List.append_nil _
  have hroot : first = "" → rest ≠ [] := by
    rintro rfl rfl
    exact hsole hsplit
  rw [List.cons_append] at hjoin
  rw [components_of_splitOn hjoin, components_of_splitOn hsplit, List.filterMap_append,
    filterMap_ofSegment? hnames, hkept, List.append_assoc]
  by_cases hfirst : first = ""
  · rw [if_pos ⟨hfirst, List.append_ne_nil_of_right_ne_nil more hne⟩,
      if_pos ⟨hfirst, hroot hfirst⟩]
  · rw [if_neg (mt And.left hfirst), if_neg (mt And.left hfirst)]

end Path

namespace FileTree

variable {tree : FileTree} {here there : List String}

theorem eq_of_step {segment : String} (hstep : tree.step here segment = .ok there) :
    there = (Path.Component.ofSegment? segment).elim here (Path.Component.move here) := by
  unfold step at hstep
  split at hstep
  · cases hstep
  · cases hstep
  · unfold Path.Component.ofSegment?
    split at hstep
    · rename_i hstay
      rw [if_pos hstay]
      exact (Except.ok.inj hstep).symm
    · rename_i hgo
      rw [if_neg hgo]
      split at hstep
      · rename_i hup
        rw [if_pos hup]
        exact (Except.ok.inj hstep).symm
      · rename_i hdown
        rw [if_neg hdown]
        split at hstep
        · exact (Except.ok.inj hstep).symm
        · cases hstep

theorem eq_of_foldlM_step {segments : List String}
    (hsteps : segments.foldlM tree.step here = .ok there) :
    there = (segments.filterMap Path.Component.ofSegment?).foldl Path.Component.move here := by
  induction segments generalizing here with
  | nil => exact (Except.ok.inj hsteps).symm
  | cons segment segments ih =>
    rw [List.foldlM_cons, Outcome.bind_eq_ok_iff] at hsteps
    obtain ⟨next, hstep, hsteps⟩ := hsteps
    rw [ih hsteps, eq_of_step hstep, List.filterMap_cons]
    cases Path.Component.ofSegment? segment with
    | none => rfl
    | some component => rfl

theorem location_eq_ok_iff {path : String} {names : List String} :
    tree.location path = .ok names ↔
      path ≠ "" ∧ (Text.splitOn '/' path).foldlM tree.step
        (if Text.startsWith "/" path then [] else tree.workingDirectory) = .ok names := by
  unfold location
  split
  · rename_i hempty
    exact iff_of_false nofun (fun h => h.1 hempty)
  · rename_i hne
    exact (and_iff_right hne).symm

/-- A path that can be followed leads to the place that its components say. -/
theorem eq_place_of_location {path : String} {names : List String}
    (hlocation : tree.location path = .ok names) :
    names = Path.place tree.workingDirectory path := by
  obtain ⟨_, hsteps⟩ := location_eq_ok_iff.1 hlocation
  obtain ⟨first, rest, hsplit⟩ := List.exists_cons_of_ne_nil (Text.splitOn_ne_nil '/' path)
  rw [eq_of_foldlM_step hsteps, Path.place, Path.components_of_splitOn hsplit, hsplit]
  by_cases hroot : first = "" ∧ rest ≠ []
  · rw [if_pos ((Path.startsWith_slash_iff hsplit).2 hroot), if_pos hroot, hroot.1]
    rfl
  · rw [if_neg (mt (Path.startsWith_slash_iff hsplit).1 hroot), if_neg hroot]
    unfold Path.Component.ofFirstSegment?
    split
    · -- a leading dot stays where it is
      rename_i hdot
      rw [hdot]
      rfl
    · rw [List.filterMap_cons]
      cases Path.Component.ofSegment? first with
      | none => rfl
      | some component => rfl

/-- Two paths with the same components lead to the same place. -/
theorem location_eq_of_components_eq {a b : String} {names others : List String}
    (ha : tree.location a = .ok names) (hb : tree.location b = .ok others)
    (hsame : Path.components a = Path.components b) : names = others := by
  rw [eq_place_of_location ha, eq_place_of_location hb, Path.place, Path.place, hsame]

theorem entry_eq_ok_iff {path : String} {entry : FileEntry} :
    tree.entry path = .ok entry ↔
      ∃ names, tree.location path = .ok names ∧ tree.root.descend? names = some entry := by
  unfold FileTree.entry
  rw [Outcome.bind_eq_ok_iff]
  refine exists_congr fun names => and_congr_right fun _ => ?_
  cases tree.root.descend? names with
  | none => exact iff_of_false nofun nofun
  | some found => rw [Outcome.pure_eq_ok_iff, Option.some.injEq]

end FileTree

/-! ## Trees of file systems -/

namespace FileEntry

/-- The names in a directory are distinct and no paths, and so it is in all directories below. -/
inductive WellFormed : FileEntry → Prop where
  | file (contents : ByteArray) : WellFormed (.file contents)
  | directory {children : List (String × FileEntry)} (hdistinct : (children.map Prod.fst).Nodup)
      (hnames : ∀ child ∈ children, IsEntryName child.1)
      (hchildren : ∀ child ∈ children, WellFormed child.2) : WellFormed (.directory children)

theorem WellFormed.singleton {name : String} {child : FileEntry} (hname : IsEntryName name)
    (hchild : child.WellFormed) : (FileEntry.directory [(name, child)]).WellFormed :=
  .directory (List.pairwise_singleton _ _) (List.forall_mem_singleton.2 hname)
    (List.forall_mem_singleton.2 hchild)

theorem descend?_append (names more : List String) (entry : FileEntry) :
    entry.descend? (names ++ more) = (entry.descend? names).bind (descend? more) := by
  induction names generalizing entry with
  | nil => rfl
  | cons name names ih =>
    rw [List.cons_append, descend?, descend?]
    cases entry.child? name with
    | none => rfl
    | some child => exact ih child

theorem child?_of_mem {children : List (String × FileEntry)} {name : String} {child : FileEntry}
    (hdistinct : (children.map Prod.fst).Nodup) (hmem : (name, child) ∈ children) :
    (directory children).child? name = some child := by
  have hfound : children.find? (fun other => other.1 == name) = some (name, child) := by
    induction children with
    | nil => cases hmem
    | cons other children ih =>
      rw [List.map_cons, List.nodup_cons] at hdistinct
      rcases List.mem_cons.1 hmem with rfl | hmem
      · exact List.find?_cons_of_pos (beq_self_eq_true _)
      · have hne : (other.1 == name) = false := by
          refine beq_false_of_ne fun heq => hdistinct.1 ?_
          rw [heq]
          exact List.mem_map_of_mem hmem
        simp only [List.find?_cons, hne]
        exact ih hdistinct.2 hmem
  rw [child?, hfound]
  rfl

theorem WellFormed.of_descend? {entry below : FileEntry} {names : List String}
    (hwell : entry.WellFormed) (hbelow : entry.descend? names = some below) :
    below.WellFormed := by
  induction names generalizing entry with
  | nil =>
    cases hbelow
    exact hwell
  | cons name names ih =>
    obtain ⟨child, hchild, hbelow⟩ := Option.bind_eq_some_iff.1 hbelow
    refine ih ?_ hbelow
    cases hwell with
    | file _ => cases hchild
    | directory _ _ hchildren =>
      obtain ⟨found, hfound, rfl⟩ := Option.map_eq_some_iff.1 hchild
      exact hchildren found (List.mem_of_find?_eq_some hfound)

/-- What is found among children is found below one of them, unless that is a directory to be
skipped. -/
theorem mem_filesAmong_iff {skipped names : List String} {children : List (String × FileEntry)} :
    names ∈ filesAmong skipped children ↔
      ∃ name child rest, (name, child) ∈ children ∧
        ¬ (child.isDirectory = true ∧ name ∈ skipped) ∧ rest ∈ filesBelow skipped child ∧
          names = name :: rest := by
  induction children with
  | nil => simp [filesAmong]
  | cons first children ih =>
    obtain ⟨name, child⟩ := first
    have hfound : names ∈ (if child.isDirectory && skipped.contains name then []
          else (child.filesBelow skipped).map (name :: ·)) ↔
        ¬ (child.isDirectory = true ∧ name ∈ skipped) ∧
          ∃ rest ∈ filesBelow skipped child, names = name :: rest := by
      have hprune : (child.isDirectory && skipped.contains name) = true ↔
          child.isDirectory = true ∧ name ∈ skipped := by
        simp
      rw [← hprune]
      split
      · rename_i hskipped
        exact iff_of_false List.not_mem_nil (fun h => h.1 hskipped)
      · rename_i hkept
        rw [and_iff_right hkept, List.mem_map]
        exact exists_congr fun rest => and_congr_right fun _ => eq_comm
    rw [filesAmong, List.mem_append, hfound, ih]
    refine ⟨?_, ?_⟩
    · rintro (⟨hkept, rest, hrest, rfl⟩ | ⟨name, child, rest, hmem, hfound⟩)
      · exact ⟨name, child, rest, List.mem_cons_self, hkept, hrest, rfl⟩
      · exact ⟨name, child, rest, List.mem_cons_of_mem _ hmem, hfound⟩
    · rintro ⟨other, inner, rest, hmem, hkept, hrest, hnames⟩
      rcases List.mem_cons.1 hmem with heq | hmem
      · cases heq
        exact .inl ⟨hkept, rest, hrest, hnames⟩
      · exact .inr ⟨other, inner, rest, hmem, hkept, hrest, hnames⟩

/-- The names of what lies below an entry lead to a file. -/
theorem file_of_mem_filesBelow {entry : FileEntry} {skipped names : List String}
    (hwell : entry.WellFormed) (hnames : names ∈ entry.filesBelow skipped) :
    (∃ contents, entry.descend? names = some (.file contents)) ∧
      ∀ name ∈ names, IsEntryName name := by
  -- the names are followed one child down at a time, and children are well-formed too
  induction names generalizing entry with
  | nil =>
    cases hwell with
    | file contents => exact ⟨⟨contents, rfl⟩, nofun⟩
    | directory _ _ _ =>
      rw [filesBelow] at hnames
      obtain ⟨_, _, _, _, _, _, hnil⟩ := mem_filesAmong_iff.1 hnames
      cases hnil
  | cons name names ih =>
    cases hwell with
    | file contents =>
      rw [filesBelow, List.mem_singleton] at hnames
      cases hnames
    | directory hdistinct hentryNames hchildren =>
      rw [filesBelow] at hnames
      obtain ⟨_, child, _, hmem, _, hrest, heq⟩ := mem_filesAmong_iff.1 hnames
      cases heq
      obtain ⟨⟨contents, hcontents⟩, hbelow⟩ := ih (hchildren _ hmem) hrest
      refine ⟨⟨contents, ?_⟩, List.forall_mem_cons.2 ⟨hentryNames _ hmem, hbelow⟩⟩
      rw [descend?, child?_of_mem hdistinct hmem]
      exact hcontents

end FileEntry

namespace FileTree

/-- A tree as file systems have them. -/
def WellFormed (tree : FileTree) : Prop :=
  tree.root.WellFormed

variable {tree : FileTree} {here : List String}

theorem step_name {name : String} (hname : IsEntryName name)
    (hfound : (tree.root.descend? (here ++ [name])).isSome = true) :
    tree.step here name = .ok (here ++ [name]) := by
  have habove := hfound
  rw [FileEntry.descend?_append] at habove
  unfold step
  split
  · rename_i hnone
    rw [hnone] at habove
    cases habove
  · -- a file has no children
    rename_i hfile
    rw [hfile] at habove
    cases habove
  · rw [if_neg (not_or.2 ⟨hname.ne_empty, hname.ne_dot⟩), if_neg hname.ne_dots, if_pos hfound]

/-- Names lead down as far as there are entries. -/
theorem foldlM_step_names {names : List String} (hnames : ∀ name ∈ names, IsEntryName name)
    (hfound : (tree.root.descend? (here ++ names)).isSome = true) :
    names.foldlM tree.step here = .ok (here ++ names) := by
  induction names generalizing here with
  | nil => rw [List.append_nil]; rfl
  | cons name names ih =>
    obtain ⟨hname, hnames⟩ := List.forall_mem_cons.1 hnames
    -- what lies further down can only be there if the next directory is
    rw [List.append_cons] at hfound ⊢
    have hnext : (tree.root.descend? (here ++ [name])).isSome = true := by
      rw [FileEntry.descend?_append] at hfound
      exact Option.isSome_of_isSome_bind hfound
    rw [List.foldlM_cons, step_name hname hnext]
    exact ih hnames hfound

/-- What lies below a directory is reached by longer paths. -/
theorem location_join {directory : String} {names : List String}
    (hdirectory : tree.location directory = .ok here) (hne : names ≠ [])
    (hnames : ∀ name ∈ names, IsEntryName name)
    (hfound : (tree.root.descend? (here ++ names)).isSome = true) :
    tree.location (Path.join directory names) = .ok (here ++ names) := by
  obtain ⟨hempty, hsteps⟩ := location_eq_ok_iff.1 hdirectory
  obtain ⟨lead, hjoin, hlead⟩ :=
    Path.splitOn_join directory hne fun name hname => (hnames name hname).no_slash
  refine location_eq_ok_iff.2 ⟨Path.join_ne_empty hempty names, ?_⟩
  rw [Path.startsWith_join hempty, hjoin, List.foldlM_append, Outcome.bind_eq_ok_iff]
  refine ⟨here, ?_, foldlM_step_names hnames hfound⟩
  rcases hlead with hlead | hlead
  · rw [← hlead]
    exact hsteps
  · -- the empty segment after the last slash stays where it is
    rw [hlead, List.foldlM_append, Outcome.bind_eq_ok_iff] at hsteps
    obtain ⟨there, hthere, hlast⟩ := hsteps
    rw [List.foldlM_cons, Outcome.bind_eq_ok_iff] at hlast
    obtain ⟨last, hstay, hlast⟩ := hlast
    have hlast_eq : last = there := eq_of_step hstay
    rw [hthere, ← hlast_eq]
    exact hlast

end FileTree

end WorkloadGuard
