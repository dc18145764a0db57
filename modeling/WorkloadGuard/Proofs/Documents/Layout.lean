import WorkloadGuard.Proofs.Documents.Forms

/-!
# Layouts of documents

A layout says which parts of a document are records and what the fields of these are, down to every
depth. It carries the two statements about names that are no fields. In a closed record such a name
is a fault of the whole document, however deep the record lies. In an open record it is passed over,
and so the document without these members reads as the document with them.

## Main statements

- `RecordShape.onlyMember?_keepKnown`, `RecordShape.find?_keepKnown`: what is passed over is neither
  read nor blamed.
- `Layout.not_hasUnknownField_record`, `Layout.not_hasUnknownField_list`: a document has no unknown
  field if it fits its layout and its parts have none.
- `Layout.bind_toFields_withoutExtras`: a record without extra members reads as with them, if its
  parts do.
- `ReadsBack.of_forms`: when documents are read back.
-/

namespace WorkloadGuard

open Json (Value)

/-! ## Members that count -/

namespace RecordShape

variable {shape : RecordShape} {members : List (String × Value)}

/-- The members of an object that count for a record, which are all unless it is open; the values
are changed by their names. -/
def keepKnown (shape : RecordShape) (change : String → Value → Value)
    (members : List (String × Value)) : List (String × Value) :=
  (members.filter fun member => shape.closed || shape.fields.contains member.1).map
    fun member => (member.1, change member.1 member.2)

theorem onlyMember?_keepKnown {change : String → Value → Value} {name : String}
    (hname : name ∈ shape.fields) :
    onlyMember? (shape.keepKnown change members) name =
      (onlyMember? members name).map (Option.map (change name)) := by
  have hkept : ((shape.keepKnown change members).filter fun member => member.1 == name) =
      (members.filter fun member => member.1 == name).map
        fun member => (member.1, change member.1 member.2) := by
    rw [keepKnown, List.filter_map, List.filter_filter]
    congr 1
    refine List.filter_congr fun member _ => ?_
    -- a member of that name is a field and stays
    by_cases hmember : member.1 = name
    · simp [hmember, hname]
    · simp [hmember]
  simp only [onlyMember?, hkept]
  cases hfound : members.filter fun member => member.1 == name with
  | nil => rfl
  | cons member rest =>
    cases rest with
    | nil =>
      rw [← name_eq_of_filter_eq_cons hfound]
      rfl
    | cons other rest => rfl

/-- A closed record keeps all its members, and nothing is blamed in an open one, so the same member
is blamed. -/
theorem find?_keepKnown {change : String → Value → Value} :
    ((shape.keepKnown change members).find?
        fun member => shape.closed && !shape.fields.contains member.1) =
      (members.find? fun member => shape.closed && !shape.fields.contains member.1).map
        fun member => (member.1, change member.1 member.2) := by
  rw [keepKnown, List.find?_map, List.find?_filter]
  congr 2
  funext member
  cases hclosed : shape.closed with
  | true => simp
  | false => simp

end RecordShape

/-! ## Layouts -/

/-- What lies where in a document. -/
inductive Layout where
  /-- A text or a flag. -/
  | scalar
  | list (item : Layout)
  /-- A record, with the layout of each field. -/
  | record (shape : RecordShape) (field : String → Layout)

namespace Layout

/-! ### Unknown fields -/

/-- An object in the place of a closed record has a member that is no field, at any depth. -/
inductive HasUnknownField : Layout → Value → Prop where
  | here {shape : RecordShape} {field : String → Layout} {members : List (String × Value)}
      {member : String × Value} :
      shape.closed = true → member ∈ members → member.1 ∉ shape.fields →
        HasUnknownField (record shape field) (.object members)
  | inField {shape : RecordShape} {field : String → Layout} {document value : Value}
      {name : String} :
      (name, value) ∈ shape.given document → HasUnknownField (field name) value →
        HasUnknownField (record shape field) document
  | inItem {layout : Layout} {items : List Value} {item : Value} :
      item ∈ items → HasUnknownField layout item → HasUnknownField (list layout) (.array items)

variable {shape : RecordShape} {field : String → Layout} {layout : Layout} {document : Value}

theorem not_hasUnknownField_scalar : ¬ HasUnknownField scalar document :=
  nofun

theorem not_hasUnknownField_record (hfits : shape.Fits document)
    (hparts : ∀ name value, (name, value) ∈ shape.given document →
      ¬ (field name).HasUnknownField value) :
    ¬ (record shape field).HasUnknownField document := by
  intro h
  cases h with
  | here hclosed hmember hstray =>
    -- an array has no names of its own, so the document is an object
    cases hfits with
    | object hknown => exact hstray (hknown hclosed _ hmember)
  | inField hgiven hpart => exact hparts _ _ hgiven hpart

theorem not_hasUnknownField_list {α : Type} {form : Value → α → Prop} {entries : List α}
    (hform : ListForm form document entries)
    (hitems : ∀ item a, form item a → ¬ layout.HasUnknownField item) :
    ¬ (list layout).HasUnknownField document := by
  intro h
  obtain ⟨items, rfl, hforms⟩ := hform
  cases h with
  | inItem hitem hunknown =>
    obtain ⟨i, hi, rfl⟩ := List.getElem_of_mem hitem
    exact hitems _ _ (hforms.get hi (hforms.length_eq ▸ hi)) hunknown

/-! ### Complete documents -/

/-- At each depth, a record is an object that gives all its fields, in their order. -/
def IsComplete : Layout → Value → Prop
  | scalar, _ => True
  | list layout, document =>
    ∃ items, document = .array items ∧ ∀ item ∈ items, layout.IsComplete item
  | record shape field, document =>
    ∃ members, document = .object members ∧ members.map Prod.fst = shape.fields ∧
      ∀ member ∈ members, (field member.1).IsComplete member.2

theorem isComplete_array {α : Type} {write : α → Value}
    (hwrite : ∀ a, layout.IsComplete (write a)) (entries : List α) :
    (list layout).IsComplete (.array (entries.map write)) := by
  refine ⟨_, rfl, fun item hitem => ?_⟩
  obtain ⟨a, _, rfl⟩ := List.mem_map.1 hitem
  exact hwrite a

/-! ### Extra members -/

/-- The document without the members of its open records that are no fields, at any depth. -/
def withoutExtras : Layout → Value → Value
  | list layout, .array items => .array (items.map layout.withoutExtras)
  | record shape field, .object members =>
    .object (shape.keepKnown (fun name value => (field name).withoutExtras value) members)
  | record shape field, .array items =>
    -- an item is laid out as the field at its place
    .array (items.mapIdx fun i item => (field (shape.fields[i]?.getD "")).withoutExtras item)
  | _, document => document

/-- One record gives every field what another one does, without its extras. -/
def GivesWithoutExtras (shape : RecordShape) (field : String → Layout)
    (fields stripped : FieldValues Value) : Prop :=
  ∀ name ∈ shape.fields, stripped name = (fields name).map (Option.map (field name).withoutExtras)

theorem givesWithoutExtras_leadingItems {items : List Value} :
    GivesWithoutExtras shape field (shape.ofLeadingItems items)
      (shape.ofLeadingItems
        (items.mapIdx fun i item => (field (shape.fields[i]?.getD "")).withoutExtras item)) := by
  intro name hname
  have hplace : shape.fields[shape.fields.idxOf name]? = some name :=
    List.getElem?_idxOf hname
  simp only [RecordShape.ofLeadingItems, List.getElem?_mapIdx, hplace, Option.getD_some]
  rfl

/-- What is done with the fields of a record is done with those of the record without extras. -/
theorem bind_toFields_withoutExtras {α : Type}
    {use : FieldValues Value → Except DecodeError α}
    (huse : ∀ fields stripped, GivesWithoutExtras shape field fields stripped →
      use stripped = use fields) :
    (((record shape field).withoutExtras document).toFields shape >>= use) =
      (document.toFields shape >>= use) := by
  cases document with
  | object members =>
    simp only [withoutExtras, Value.toFields, RecordShape.ofMembers, RecordShape.find?_keepKnown]
    cases members.find? fun member => shape.closed && !shape.fields.contains member.1 with
    | some member => rfl
    | none => exact huse _ _ fun name hname => RecordShape.onlyMember?_keepKnown hname
  | array items =>
    simp only [withoutExtras, Value.toFields, RecordShape.ofItems, List.length_mapIdx]
    split
    · exact huse _ _ givesWithoutExtras_leadingItems
    · rfl
  | _ => rfl

/-! ### Reading without extra members -/

section Reading

variable {α : Type} {read : Value → Except DecodeError α} {fields stripped : FieldValues Value}
  {name : String}

theorem GivesWithoutExtras.bind_eq (h : GivesWithoutExtras shape field fields stripped)
    (hname : name ∈ shape.fields) {use : Option Value → Except DecodeError α}
    (huse : ∀ found, use (found.map (field name).withoutExtras) = use found) :
    (stripped name >>= use) = (fields name >>= use) := by
  rw [h name hname]
  cases fields name with
  | error error => rfl
  | ok found => exact huse found

theorem GivesWithoutExtras.required_eq (h : GivesWithoutExtras shape field fields stripped)
    (hname : name ∈ shape.fields)
    (hread : ∀ value, read ((field name).withoutExtras value) = read value) :
    stripped.required name read = fields.required name read := by
  refine h.bind_eq hname fun found => ?_
  cases found with
  | none => rfl
  | some value => exact hread value

theorem GivesWithoutExtras.defaulted_eq (h : GivesWithoutExtras shape field fields stripped)
    (hname : name ∈ shape.fields)
    (hread : ∀ value, read ((field name).withoutExtras value) = read value) (default : α) :
    stripped.defaulted name default read = fields.defaulted name default read := by
  refine h.bind_eq hname fun found => ?_
  cases found with
  | none => rfl
  | some value => exact hread value

theorem listOf_withoutExtras (hread : ∀ value, read (layout.withoutExtras value) = read value)
    (document : Value) :
    Json.format.listOf read ((list layout).withoutExtras document) =
      Json.format.listOf read document := by
  cases document with
  | array items =>
    show (items.map layout.withoutExtras).mapM read = items.mapM read
    rw [List.mapM_map]
    congr 1
    funext value
    exact hread value
  | _ => rfl

end Reading

end Layout

/-! ## Documents that are read back -/

/-- How the values of a type are read from documents and written to them. -/
structure ReadsBack {α : Type} (read : Value → Except DecodeError α) (write : α → Value)
    (form : Value → α → Prop) (layout : Layout) : Prop where
  /-- A document is read exactly if it has the form of a value, and as that value. -/
  read_iff (document : Value) (a : α) : read document = .ok a ↔ form document a
  /-- Every field is written. -/
  write_complete (a : α) : layout.IsComplete (write a)
  /-- What is written is read as the value it was written from. -/
  read_write (a : α) : read (write a) = .ok a
  /-- Writing what was read and reading it once more changes nothing. -/
  read_twice (document : Value) : (read document >>= fun a => read (write a)) = read document
  /-- An unknown field is refused, however deep it lies. -/
  refuses (document : Value) :
    layout.HasUnknownField document → ∃ error, read document = .error error

theorem ReadsBack.of_forms {α : Type} {read : Value → Except DecodeError α} {write : α → Value}
    {form : Value → α → Prop} {layout : Layout} (hreads : Reads read form)
    (hwrite : ∀ a, form (write a) a) (hcomplete : ∀ a, layout.IsComplete (write a))
    (hknown : ∀ document a, form document a → ¬ layout.HasUnknownField document) :
    ReadsBack read write form layout where
  read_iff := hreads
  write_complete := hcomplete
  read_write a := (hreads _ a).2 (hwrite a)
  read_twice document := by
    cases read document with
    | error error => rfl
    | ok a => exact (hreads _ a).2 (hwrite a)
  refuses document hunknown := by
    cases hread : read document with
    | error error => exact ⟨error, rfl⟩
    | ok a => exact absurd hunknown (hknown document a ((hreads document a).1 hread))

end WorkloadGuard
