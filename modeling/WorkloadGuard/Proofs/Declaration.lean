import WorkloadGuard.AnnotationIndex

/-!
# Declared values

What a role declares is looked up in an index, name by name. Here the look-ups are related to the
annotations as they are listed: `FirstValue` is the value of the first annotation of a name, and
`DeclaresValue` is the rule by which a value for one service comes before a value for all.

## Main statements

- `annotationValue?_eq_some_iff`: a scan finds the first annotation of a name.
- `exists_firstValue_iff`: a name has a first value when it occurs.
- `AnnotationIndex.resolve_eq_some_iff`: the index resolves a constraint to its declared value.
- `AnnotationIndex.resolve_eq_none_iff`: a constraint is left open exactly when no annotation has
  either of its two names.
-/

namespace WorkloadGuard

/-! ## First values -/

/-- The first annotation called `name` has the value `value`. -/
def FirstValue (entries : List AnnotationEntry) (name value : String) : Prop :=
  ∃ before after, entries = before ++ ⟨name, value⟩ :: after ∧ ∀ entry ∈ before, entry.name ≠ name

theorem annotationValue?_eq_some_iff {entries : List AnnotationEntry} {name value : String} :
    annotationValue? entries name = some value ↔ FirstValue entries name value := by
  unfold annotationValue? FirstValue
  rw [Option.map_eq_some_iff]
  refine ⟨?_, ?_⟩
  · intro h
    obtain ⟨entry, hfind, rfl⟩ := h
    obtain ⟨hname, before, after, rfl, hbefore⟩ := List.find?_eq_some_iff_append.1 hfind
    have hentry : entry.name = name := by simpa using hname
    subst hentry
    exact ⟨before, after, rfl, fun other hother => by simpa using hbefore other hother⟩
  · intro h
    obtain ⟨before, after, rfl, hbefore⟩ := h
    refine ⟨⟨name, value⟩, List.find?_eq_some_iff_append.2 ⟨by simp, before, after, rfl, ?_⟩, rfl⟩
    intro other hother
    simpa using hbefore other hother

theorem annotationValue?_eq_none_iff {entries : List AnnotationEntry} {name : String} :
    annotationValue? entries name = none ↔ ∀ entry ∈ entries, entry.name ≠ name := by
  simp [annotationValue?]

theorem FirstValue.mem {entries : List AnnotationEntry} {name value : String}
    (hfirst : FirstValue entries name value) : ⟨name, value⟩ ∈ entries := by
  obtain ⟨before, after, rfl, _⟩ := hfirst
  exact List.mem_append_right _ List.mem_cons_self

/-- The names that have a first value are those that occur. -/
theorem exists_firstValue_iff {entries : List AnnotationEntry} {name : String} :
    (∃ value, FirstValue entries name value) ↔ ∃ entry ∈ entries, entry.name = name := by
  refine ⟨fun ⟨value, hfirst⟩ => ⟨⟨name, value⟩, hfirst.mem, rfl⟩, ?_⟩
  intro h
  obtain ⟨entry, hentry, hname⟩ := h
  have hfound : annotationValue? entries name ≠ none := by
    intro hnone
    exact annotationValue?_eq_none_iff.1 hnone entry hentry hname
  obtain ⟨value, hvalue⟩ := Option.ne_none_iff_exists'.1 hfound
  exact ⟨value, annotationValue?_eq_some_iff.1 hvalue⟩

theorem annotationValue?_append (a b : List AnnotationEntry) (name : String) :
    annotationValue? (a ++ b) name = (annotationValue? a name).or (annotationValue? b name) := by
  simp only [annotationValue?, List.find?_append, Option.map_or]

theorem annotationValue?_cons_of_ne {entry : AnnotationEntry} {name : String}
    (hname : entry.name ≠ name) (entries : List AnnotationEntry) :
    annotationValue? (entry :: entries) name = annotationValue? entries name := by
  have hskip : (entry.name == name) = false := by simpa using hname
  simp only [annotationValue?, List.find?_cons, hskip]

/-! ## Values for one service and for all -/

/-- `value` is what the annotations declare for `base` to a service: the first value given to this
service or, where none is, the first value given to all. The empty id is that of no service. -/
inductive DeclaresValue (provider serviceId : String) (entries : List AnnotationEntry)
    (base : String) : String → Prop where
  /-- The value is given to this service. -/
  | specific {value : String} (hid : serviceId ≠ "")
      (hfirst : FirstValue entries (specificName provider serviceId base) value) :
      DeclaresValue provider serviceId entries base value
  /-- The value is given to all services, and none is given to this one. -/
  | generic {value : String}
      (hnone : serviceId ≠ "" →
        ∀ entry ∈ entries, entry.name ≠ specificName provider serviceId base)
      (hfirst : FirstValue entries (genericName provider base) value) :
      DeclaresValue provider serviceId entries base value

namespace AnnotationIndex

variable {index : AnnotationIndex} {provider serviceId base value : String}

theorem resolve_eq_annotationValue? :
    index.resolve provider serviceId base =
      if serviceId = "" then annotationValue? index.entries (genericName provider base)
      else (annotationValue? index.entries (specificName provider serviceId base)).or
        (annotationValue? index.entries (genericName provider base)) := by
  simp only [resolve, get?_eq_annotationValue?, String.isEmpty_iff]

theorem resolve_eq_some_iff :
    index.resolve provider serviceId base = some value ↔
      DeclaresValue provider serviceId index.entries base value := by
  rw [resolve_eq_annotationValue?]
  by_cases hid : serviceId = ""
  · -- without an id only the name for all services is asked for
    rw [if_pos hid, annotationValue?_eq_some_iff]
    refine ⟨?_, ?_⟩
    · intro hfirst
      exact .generic (fun hne => absurd hid hne) hfirst
    · intro hdeclares
      cases hdeclares with
      | specific hne _ => exact absurd hid hne
      | generic _ hfirst => exact hfirst
  · -- with an id, the name for all services is asked for where the other is not found
    rw [if_neg hid, Option.or_eq_some_iff, annotationValue?_eq_some_iff,
      annotationValue?_eq_none_iff, annotationValue?_eq_some_iff]
    refine ⟨?_, ?_⟩
    · intro h
      rcases h with hfirst | ⟨hnone, hfirst⟩
      · exact .specific hid hfirst
      · exact .generic (fun _ => hnone) hfirst
    · intro hdeclares
      cases hdeclares with
      | specific _ hfirst => exact .inl hfirst
      | generic hnone hfirst => exact .inr ⟨hnone hid, hfirst⟩

/-- A constraint is left open exactly when no annotation has either of its names. -/
theorem resolve_eq_none_iff :
    index.resolve provider serviceId base = none ↔
      ∀ entry ∈ index.entries, entry.name ≠ genericName provider base ∧
        (serviceId ≠ "" → entry.name ≠ specificName provider serviceId base) := by
  rw [resolve_eq_annotationValue?]
  by_cases hid : serviceId = ""
  · simp [hid, annotationValue?_eq_none_iff]
  · rw [if_neg hid, Option.or_eq_none_iff, annotationValue?_eq_none_iff,
      annotationValue?_eq_none_iff]
    refine ⟨?_, ?_⟩
    · intro h entry hentry
      obtain ⟨hspecific, hgeneric⟩ := h
      exact ⟨hgeneric entry hentry, fun _ => hspecific entry hentry⟩
    · intro hnone
      exact ⟨fun entry hentry => (hnone entry hentry).2 hid, fun entry hentry =>
        (hnone entry hentry).1⟩

/-! ## Specs read from annotations -/

variable {K : Type} [DecidableEq K] [ConstraintKind K]

/-- A spec read from annotations gives each kind the value declared for its spelling. -/
theorem get?_identitySpec_eq_some_iff {kind : K} :
    (index.identitySpec K serviceId).get? kind = some value ↔
      DeclaresValue (ConstraintKind.provider K) serviceId index.entries
        (ConstraintKind.spelling kind) value :=
  resolve_eq_some_iff

/-- A spec read from annotations is the only one that holds the declared values. -/
theorem eq_identitySpec_iff {spec : ResourceSet K} :
    spec = index.identitySpec K serviceId ↔
      ∀ kind value, spec.get? kind = some value ↔
        DeclaresValue (ConstraintKind.provider K) serviceId index.entries
          (ConstraintKind.spelling kind) value := by
  refine ⟨?_, ?_⟩
  · intro h kind value
    subst h
    exact get?_identitySpec_eq_some_iff
  · intro hread
    apply ResourceSet.ext
    funext kind
    apply Option.ext
    intro value
    rw [hread kind value, get?_identitySpec_eq_some_iff]

end AnnotationIndex

end WorkloadGuard
