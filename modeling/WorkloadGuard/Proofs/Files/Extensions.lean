import WorkloadGuard.Proofs.Files.Places

/-!
# File names and extensions

A path ends in the last of its segments that counts, and this is its file name unless it is a double
dot. The extension of a file name is what follows its last dot, unless nothing stands before that
dot. The functions take paths apart into components and cut names at all their dots; here they are
shown to follow these rules, which are rules on texts, and extensions to be compared without regard
to case.

## Main statements

- `fileName?_eq_some_iff`: the name at the end of a path.
- `extensionOfName?_eq_some_iff`: the extension of a name.
- `extension?_eq_some_iff`: the extension of a path is that of the name at its end.
- `hasExtension_iff`: a path has an extension in any case.
-/

namespace WorkloadGuard.Path

/-! ## The name at the end -/

/-- The path ends in the name: this is its last segment, apart from empty ones and single dots. -/
def EndsIn (path name : String) : Prop :=
  IsEntryName name ∧ ∃ lead trail : List String,
    path = String.intercalate "/" (lead ++ name :: trail) ∧
      (∀ segment ∈ lead, '/' ∉ segment.toList) ∧ ∀ segment ∈ trail, segment = "" ∨ segment = "."

/-- A root or a dot at the front is no name, and names are read there as behind it. -/
theorem getLast?_front_eq_name_iff {first name : String} {rest : List String} :
    (if first = "" ∧ rest ≠ [] then [Component.root]
      else (Component.ofFirstSegment? first).toList).getLast? = some (.name name) ↔
        Component.ofSegment? first = some (.name name) := by
  unfold Component.ofFirstSegment?
  split
  · rename_i hroot
    simp [hroot.1, Component.ofSegment?]
  · split
    · rename_i hdot
      simp [hdot, Component.ofSegment?]
    · cases Component.ofSegment? first <;> simp

/-- The last component is a name exactly if the last segment that counts is that name. -/
theorem getLast?_components_eq_name_iff {path name : String} :
    (components path).getLast? = some (.name name) ↔
      ∃ lead trail, Text.splitOn '/' path = lead ++ name :: trail ∧
        (∀ segment ∈ trail, segment = "" ∨ segment = ".") ∧
        name ≠ "" ∧ name ≠ "." ∧ name ≠ ".." := by
  obtain ⟨first, rest, hsplit⟩ := List.exists_cons_of_ne_nil (Text.splitOn_ne_nil '/' path)
  rw [components_of_splitOn hsplit, hsplit, List.getLast?_append, Option.or_eq_some_iff,
    List.getLast?_filterMap, List.findSome?_eq_some_iff, List.findSome?_eq_none_iff,
    getLast?_front_eq_name_iff]
  simp only [Component.ofSegment?_eq_name_iff, Component.ofSegment?_eq_none_iff, List.mem_reverse]
  constructor
  · rintro (⟨behind, _, before, hrest, ⟨hsame, hname⟩, hbehind⟩ | ⟨hrest, rfl, hname⟩)
    · -- the last segment that counts is behind the first one
      have hcut : rest = before.reverse ++ name :: behind.reverse := by
        simpa [hsame] using congrArg List.reverse hrest
      refine ⟨first :: before.reverse, behind.reverse, by rw [hcut]; rfl, ?_, hname⟩
      exact fun segment hsegment => hbehind segment (List.mem_reverse.1 hsegment)
    · exact ⟨[], rest, rfl, hrest, hname⟩
  · rintro ⟨lead, trail, hsegments, htrail, hname⟩
    cases lead with
    | nil =>
      obtain ⟨rfl, rfl⟩ := List.cons.inj hsegments
      exact .inr ⟨htrail, rfl, hname⟩
    | cons _ lead =>
      obtain ⟨rfl, rfl⟩ := List.cons.inj hsegments
      refine .inl ⟨trail.reverse, name, lead.reverse, by simp, ⟨rfl, hname⟩, ?_⟩
      exact fun segment hsegment => htrail segment (List.mem_reverse.1 hsegment)

theorem fileName?_eq_some_iff {path name : String} :
    fileName? path = some name ↔ EndsIn path name := by
  have hlast : fileName? path = some name ↔ (components path).getLast? = some (.name name) := by
    unfold fileName?
    split <;> simp_all
  rw [hlast, getLast?_components_eq_name_iff]
  simp only [Text.splitOn_eq_iff]
  constructor
  · rintro ⟨lead, trail, ⟨_, hpath, hfree⟩, htrail, hempty, hdot, hdots⟩
    refine ⟨⟨hempty, hdot, hdots, hfree name (by simp)⟩, lead, trail, hpath, ?_, htrail⟩
    exact fun segment hsegment => hfree segment (List.mem_append_left _ hsegment)
  · rintro ⟨hname, lead, trail, hpath, hlead, htrail⟩
    refine ⟨lead, trail, ⟨by simp, hpath, List.forall_mem_append.2 ⟨hlead, ?_⟩⟩, htrail,
      hname.ne_empty, hname.ne_dot, hname.ne_dots⟩
    refine List.forall_mem_cons.2 ⟨hname.no_slash, fun segment hsegment => ?_⟩
    rcases htrail segment hsegment with rfl | rfl <;> decide

example : fileName? "shop//till.yaml/./" = some "till.yaml" := by decide

/-! ## Extensions -/

/-- A name has the extension behind its last dot, unless nothing stands before that dot. -/
theorem extensionOfName?_append {stem ending : String} (hending : '.' ∉ ending.toList) :
    extensionOfName? (stem ++ "." ++ ending) = if stem = "" then none else some ending := by
  have hsplit : Text.splitOn '.' (stem ++ "." ++ ending) = Text.splitOn '.' stem ++ [ending] :=
    (Text.splitOn_append '.' stem ending).trans (by rw [Text.splitOn_of_notMem hending])
  unfold extensionOfName?
  rw [hsplit, List.reverse_append, List.reverse_singleton, List.singleton_append]
  split
  · rename_i heq
    exact absurd (List.cons.inj heq).2 (by simpa using Text.splitOn_ne_nil '.' stem)
  · -- the only piece before the last dot is empty
    rename_i heq
    have hpieces : Text.splitOn '.' stem = [""] := by simpa using (List.cons.inj heq).2
    have hstem : stem = "" := (Text.splitOn_eq_iff.1 hpieces).2.1
    rw [if_pos hstem]
  · rename_i heq
    cases heq
  · rename_i last pieces _ hempty heq
    obtain ⟨hlast, hpieces⟩ := List.cons.inj heq
    have hstem : stem ≠ "" := by
      intro hstem
      rw [hstem] at hpieces
      exact hempty hpieces.symm
    rw [if_neg hstem, hlast]

theorem extensionOfName?_of_notMem {name : String} (hfree : '.' ∉ name.toList) :
    extensionOfName? name = none := by
  rw [extensionOfName?, Text.splitOn_of_notMem hfree]
  rfl

/-- The last dot of a name, if there is one, is followed by its ending. -/
theorem exists_ending_of_mem {name : String} (hdot : '.' ∈ name.toList) :
    ∃ stem ending, name = stem ++ "." ++ ending ∧ '.' ∉ ending.toList := by
  -- the last dot is the first one from behind
  obtain ⟨behind, before, hcut, hbehind⟩ := List.eq_append_cons_of_mem (List.mem_reverse.2 hdot)
  refine ⟨String.ofList before.reverse, String.ofList behind.reverse, ?_, by simpa using hbehind⟩
  apply String.toList_inj.1
  simpa using congrArg List.reverse hcut

/-- An extension is what follows the last dot of a name, if something stands before that dot. -/
theorem extensionOfName?_eq_some_iff {name ending : String} :
    extensionOfName? name = some ending ↔
      ∃ stem, name = stem ++ "." ++ ending ∧ stem ≠ "" ∧ '.' ∉ ending.toList := by
  constructor
  · intro h
    by_cases hdot : '.' ∈ name.toList
    · obtain ⟨stem, found, rfl, hfound⟩ := exists_ending_of_mem hdot
      rw [extensionOfName?_append hfound] at h
      split at h
      · cases h
      · rename_i hstem
        cases h
        exact ⟨stem, rfl, hstem, hfound⟩
    · rw [extensionOfName?_of_notMem hdot] at h
      cases h
  · intro h
    obtain ⟨stem, rfl, hstem, hending⟩ := h
    rw [extensionOfName?_append hending, if_neg hstem]

theorem extension?_eq_some_iff {path ending : String} :
    extension? path = some ending ↔
      ∃ stem, EndsIn path (stem ++ "." ++ ending) ∧ stem ≠ "" ∧ '.' ∉ ending.toList := by
  simp only [extension?, Option.bind_eq_some_iff, extensionOfName?_eq_some_iff,
    fileName?_eq_some_iff]
  constructor
  · intro h
    obtain ⟨_, hname, stem, rfl, hending⟩ := h
    exact ⟨stem, hname, hending⟩
  · intro h
    obtain ⟨stem, hname, hending⟩ := h
    exact ⟨_, hname, stem, rfl, hending⟩

theorem hasExtension_iff {wanted path : String} :
    hasExtension wanted path = true ↔
      ∃ ending, extension? path = some ending ∧ ending.toLower = wanted.toLower := by
  rw [hasExtension, Option.any_eq_true]
  simp only [Text.equalsIgnoringCase_iff]

end WorkloadGuard.Path
