import WorkloadGuard.ResourceSet
import WorkloadGuard.Role
import Std.Data.TreeMap

/-!
# Annotation index

Constraints are declared by annotations below the prefix of a provider, either for every
authenticator service (`prefix/name`) or for one of them (`prefix/service/name`). The index answers
by name in one step; where a list holds a name twice, the first entry counts.

## Main statements

- `get?_ofList`: looking a name up in the index of a list finds what scanning the list finds.
-/

namespace WorkloadGuard

def annotationValue? (entries : List AnnotationEntry) (name : String) : Option String :=
  (entries.find? fun entry => entry.name == name).map AnnotationEntry.value

def genericName (provider base : String) : String :=
  provider ++ "/" ++ base

def specificName (provider serviceId base : String) : String :=
  provider ++ "/" ++ serviceId ++ "/" ++ base

namespace AnnotationIndex

/-! ## Tables of names -/

/-- Adds an annotation to a table that keeps the value it already has for a name. -/
def addNew (values : Std.TreeMap String String) (entry : AnnotationEntry) :
    Std.TreeMap String String :=
  values.insertIfNew entry.name entry.value

private theorem getElem?_foldl_addNew (entries : List AnnotationEntry)
    (values : Std.TreeMap String String) (name : String) :
    (entries.foldl addNew values)[name]? = values[name]?.or (annotationValue? entries name) := by
  induction entries generalizing values with
  | nil => simp [annotationValue?]
  | cons entry entries ih =>
    rw [List.foldl_cons, ih, addNew, Std.TreeMap.getElem?_insertIfNew]
    by_cases hname : entry.name = name
    · subst hname
      by_cases hmem : entry.name ∈ values
      · simp [hmem]
      · simp [hmem, annotationValue?]
    · simp [hname, annotationValue?]

theorem getElem?_addNew_entries (entries : List AnnotationEntry) (name : String) :
    (entries.foldl addNew ∅)[name]? = annotationValue? entries name := by
  simp [getElem?_foldl_addNew]

end AnnotationIndex

/-- A list of annotations together with a table of its names. -/
structure AnnotationIndex where
  entries : List AnnotationEntry
  /-- The value of the first annotation of each name. -/
  values : Std.TreeMap String String
  /-- The table holds what a scan of the list finds. -/
  getElem?_values : ∀ name, values[name]? = annotationValue? entries name

namespace AnnotationIndex

def ofList (entries : List AnnotationEntry) : AnnotationIndex :=
  ⟨entries, entries.foldl addNew ∅, getElem?_addNew_entries entries⟩

def get? (index : AnnotationIndex) (name : String) : Option String :=
  index.values[name]?

/-- Looking a name up in an index finds what scanning its annotations finds. -/
theorem get?_eq_annotationValue? (index : AnnotationIndex) (name : String) :
    index.get? name = annotationValue? index.entries name :=
  index.getElem?_values name

/-- Looking a name up in the index of a list finds what scanning the list finds. -/
@[simp]
theorem get?_ofList (entries : List AnnotationEntry) (name : String) :
    (ofList entries).get? name = annotationValue? entries name :=
  get?_eq_annotationValue? (ofList entries) name

@[simp]
theorem entries_ofList (entries : List AnnotationEntry) : (ofList entries).entries = entries :=
  rfl

/-! ## Constraints of a role -/

/-- The value declared for `base`: for this service if there is one, else for every service. -/
def resolve (index : AnnotationIndex) (provider serviceId base : String) : Option String :=
  -- the empty service id has no annotations of its own
  let generic := index.get? (genericName provider base)
  if serviceId.isEmpty then generic
  else (index.get? (specificName provider serviceId base)).or generic

variable (K : Type) [DecidableEq K] [ConstraintKind K] in
/-- The constraints that a role declares by annotations of the provider of `K`. -/
def identitySpec (index : AnnotationIndex) (serviceId : String) : ResourceSet K :=
  ⟨fun kind => index.resolve (ConstraintKind.provider K) serviceId (ConstraintKind.spelling kind)⟩

/-! ## The hierarchy of names -/

def hasProvider (index : AnnotationIndex) (provider : String) : Bool :=
  index.entries.any fun entry => Text.startsWith (provider ++ "/") entry.name

/-- The single segment that follows `parent` in `name`. -/
def baseBelow? (parent name : String) : Option String := do
  -- one trailing slash does not count; where nothing or more than one segment follows, there is
  -- none
  let rest ← Text.dropLead? parent name
  let base := Text.dropTrailing '/' rest
  if base = "" ∨ '/' ∈ base.toList then none else some base

/-- The segments that follow `parent` in the names of the annotations, in list order. The parent is
taken as it is, so it should end in a slash. -/
def namesOneLevelBelow (index : AnnotationIndex) (parent : String) : List String :=
  index.entries.filterMap fun entry => baseBelow? parent entry.name

end AnnotationIndex

end WorkloadGuard
