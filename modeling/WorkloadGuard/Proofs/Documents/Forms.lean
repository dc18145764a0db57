import Mathlib.Data.List.Forall2
import WorkloadGuard.Proofs.RecordFields

/-!
# Forms of documents

A value can be written in more than one way: a record is an object or an array of its fields, and a
field with a default may be left out. A form is the relation of a document to the value that it
writes. Here are the forms of texts, flags, lists and fields, each with the reader that accepts
exactly this form, and what a document must be to be a record at all.

## Main statements

- `RecordShape.onlyMember?_zip`: an array gives its items as an object would give them as members.
- `RecordShape.toFields_eq_ok_iff`, `RecordShape.bind_fields_eq_ok_iff`: the documents that are read
  as records.
- `Reads.list`, `Reads.required_iff`, `Reads.defaulted_iff`: lists and fields are read in their
  forms if their parts are.
-/

namespace WorkloadGuard

open Json (Value)

/-! ## Records -/

namespace RecordShape

/-- What a document gives to a record by name: the members of an object, or the items of an array,
each under the name of the field at its place. -/
def given (shape : RecordShape) : Value → List (String × Value)
  | .object members => members
  | .array items => shape.fields.zip items
  | _ => []

/-- A document has the shape of a record. -/
inductive Fits (shape : RecordShape) : Value → Prop where
  /-- All members of an object are fields, if the record is closed. -/
  | object {members : List (String × Value)} :
      (shape.closed = true → ∀ member ∈ members, member.1 ∈ shape.fields) →
        Fits shape (.object members)
  /-- An array has no more items than there are fields. -/
  | array {items : List Value} : items.length ≤ shape.fields.length → Fits shape (.array items)

variable {shape : RecordShape} {document : Value}

theorem ofMembers_eq_ok_iff {δ : Type} {members : List (String × δ)} {fields : FieldValues δ} :
    shape.ofMembers members = .ok fields ↔
      (shape.closed = true → ∀ member ∈ members, member.1 ∈ shape.fields) ∧
        fields = onlyMember? members := by
  unfold ofMembers
  split
  · rename_i member hfound
    have hstray : shape.closed = true ∧ member.1 ∉ shape.fields := by
      simpa using List.find?_some hfound
    refine iff_of_false nofun fun h => ?_
    exact hstray.2 (h.1 hstray.1 member (List.mem_of_find?_eq_some hfound))
  · rename_i hnone
    have hknown : shape.closed = true → ∀ member ∈ members, member.1 ∈ shape.fields := by
      intro hclosed member hmember
      simpa [hclosed] using List.find?_eq_none.1 hnone member hmember
    rw [Except.ok.injEq, and_iff_right hknown, eq_comm]

/-- As long as no field is named twice, an item is the only one under its name. -/
theorem onlyMember?_zip {δ : Type} {names : List String} {items : List δ} (name : String)
    (hdistinct : names.Nodup) (hlength : items.length ≤ names.length) :
    onlyMember? (names.zip items) name = .ok items[names.idxOf name]? := by
  induction names generalizing items with
  | nil =>
    obtain rfl : items = [] := List.eq_nil_of_length_eq_zero (Nat.le_zero.1 hlength)
    rfl
  | cons first names ih =>
    cases items with
    | nil => rfl
    | cons item items =>
      obtain ⟨hfirst, hdistinct⟩ := List.nodup_cons.1 hdistinct
      have hrest := ih hdistinct (Nat.le_of_succ_le_succ hlength)
      by_cases hname : first = name
      · -- the name occurs no more among the rest
        subst hname
        have habsent : ∀ member ∈ names.zip items, member.1 ≠ first := by
          rintro ⟨other, _⟩ hmem rfl
          exact hfirst (List.of_mem_zip hmem).1
        have honly : OnlyMember ((first :: names).zip (item :: items)) first item :=
          ⟨[], names.zip items, rfl, habsent⟩
        rw [onlyMember?_eq_some_iff.2 honly, List.idxOf_cons_self, List.getElem?_cons_zero]
      · have hskip : (first == name) = false := beq_eq_false_iff_ne.2 hname
        rw [List.idxOf_cons, hskip, cond_false, List.getElem?_cons_succ, ← hrest]
        simp [onlyMember?, hname]

theorem toFields_eq_ok_iff {fields : FieldValues Value} (hdistinct : shape.fields.Nodup) :
    document.toFields shape = .ok fields ↔
      shape.Fits document ∧ fields = onlyMember? (shape.given document) := by
  cases document with
  | object members =>
    rw [Value.toFields, ofMembers_eq_ok_iff]
    exact and_congr_left fun _ => ⟨.object, fun | .object h => h⟩
  | array items =>
    rw [Value.toFields, ofItems]
    split
    · rename_i hlength
      -- the place of an item is the place of its field, so it is read as the member of that name
      have hitems : shape.ofLeadingItems items = onlyMember? (shape.given (.array items)) :=
        funext fun name => (onlyMember?_zip name hdistinct hlength).symm
      rw [hitems, Except.ok.injEq, and_iff_right (.array hlength), eq_comm]
    · rename_i hlength
      exact iff_of_false nofun fun h => by
        cases h.1 with
        | array h => exact hlength h
  | _ => exact iff_of_false nofun fun h => nomatch h.1

/-- Whatever is read from the fields of a record is read from what its document gives. -/
theorem bind_fields_eq_ok_iff {α : Type} {use : FieldValues Value → Except DecodeError α} {a : α}
    (hdistinct : shape.fields.Nodup) :
    (Json.format.fields shape document >>= use) = .ok a ↔
      shape.Fits document ∧ use (onlyMember? (shape.given document)) = .ok a := by
  show (document.toFields shape >>= use) = .ok a ↔ _
  simp only [Outcome.bind_eq_ok_iff, toFields_eq_ok_iff hdistinct, and_assoc]
  constructor
  · rintro ⟨fields, hfits, rfl, huse⟩
    exact ⟨hfits, huse⟩
  · rintro ⟨hfits, huse⟩
    exact ⟨_, hfits, rfl, huse⟩

/-- All that is given to a closed record are fields. -/
theorem Fits.mem_fields {name : String} {value : Value} (h : shape.Fits document)
    (hclosed : shape.closed = true) (hgiven : (name, value) ∈ shape.given document) :
    name ∈ shape.fields := by
  cases h with
  | object hknown => exact hknown hclosed (name, value) hgiven
  | array _ => exact (List.of_mem_zip hgiven).1

theorem Fits.of_names {members : List (String × Value)}
    (hnames : members.map Prod.fst = shape.fields) : shape.Fits (.object members) :=
  .object fun _ _ hmember => hnames ▸ List.mem_map_of_mem hmember

end RecordShape

/-! ## Readers and forms -/

section Readers

variable {α : Type}

/-- The reader accepts exactly the documents of a form, and reads the value that they write. -/
def Reads (read : Value → Except DecodeError α) (form : Value → α → Prop) : Prop :=
  ∀ document a, read document = .ok a ↔ form document a

def TextForm (document : Value) (text : String) : Prop :=
  document = .string text

def FlagForm (document : Value) (flag : Bool) : Prop :=
  document = .bool flag

/-- A list is an array with one item for each entry, in the same order. -/
def ListForm (form : Value → α → Prop) (document : Value) (list : List α) : Prop :=
  ∃ items, document = .array items ∧ List.Forall₂ form items list

/-- A field is given once, in its form. -/
def HasField (given : List (String × Value)) (name : String) (form : Value → α → Prop) (a : α) :
    Prop :=
  ∃ value, OnlyMember given name value ∧ form value a

/-- A field is given once, in its form, or it is left out and has its default. -/
def MayHaveField (given : List (String × Value)) (name : String) (default : α)
    (form : Value → α → Prop) (a : α) : Prop :=
  HasField given name form a ∨ (∀ member ∈ given, member.1 ≠ name) ∧ a = default

variable {read : Value → Except DecodeError α} {form : Value → α → Prop}
  {given : List (String × Value)} {name : String} {a default : α}

theorem reads_text : Reads Json.format.text TextForm :=
  fun _ _ => Value.toText_eq_ok_iff

theorem reads_flag : Reads Value.toFlag FlagForm :=
  fun _ _ => Value.toFlag_eq_ok_iff

theorem Reads.mapM_iff (h : Reads read form) {items : List Value} {list : List α} :
    items.mapM read = .ok list ↔ List.Forall₂ form items list := by
  induction items generalizing list with
  | nil =>
    rw [List.mapM_nil, Outcome.pure_eq_ok_iff, List.forall₂_nil_left_iff, eq_comm]
  | cons item items ih =>
    rw [List.mapM_cons, List.forall₂_cons_left_iff]
    simp only [Outcome.bind_eq_ok_iff, Outcome.pure_eq_ok_iff, h item, ih]
    constructor
    · rintro ⟨first, hfirst, rest, hrest, rfl⟩
      exact ⟨first, rest, hfirst, hrest, rfl⟩
    · rintro ⟨first, rest, hfirst, hrest, rfl⟩
      exact ⟨first, hfirst, rest, hrest, rfl⟩

theorem Reads.list (h : Reads read form) : Reads (Json.format.listOf read) (ListForm form) := by
  intro document list
  show (document.toItems >>= fun items => items.mapM read) = .ok list ↔ _
  rw [Outcome.bind_eq_ok_iff]
  refine exists_congr fun items => and_congr ?_ h.mapM_iff
  cases document <;> simp [Value.toItems]

theorem Reads.required_iff (h : Reads read form) :
    FieldValues.required (onlyMember? given) name read = .ok a ↔ HasField given name form a := by
  rw [FieldValues.required_eq_ok_iff]
  exact exists_congr fun value => and_congr onlyMember?_eq_some_iff (h value a)

theorem Reads.defaulted_iff (h : Reads read form) :
    FieldValues.defaulted (onlyMember? given) name default read = .ok a ↔
      MayHaveField given name default form a := by
  rw [FieldValues.defaulted_eq_ok_iff, onlyMember?_eq_none_iff]
  exact or_congr_left (exists_congr fun value => and_congr onlyMember?_eq_some_iff (h value a))

/-! ## What is written -/

theorem ListForm.of_write {write : α → Value} (hwrite : ∀ a, form (write a) a) (list : List α) :
    ListForm form (.array (list.map write)) list :=
  ⟨_, rfl, List.forall₂_map_left_iff.2 (List.forall₂_same.2 fun a _ => hwrite a)⟩

theorem HasField.of_mem {value : Value} (hmem : (name, value) ∈ given) (hform : form value a)
    (hdistinct : (given.map Prod.fst).Nodup) : HasField given name form a :=
  ⟨value, (onlyMember_iff_mem_of_nodup hdistinct).2 hmem, hform⟩

/-! ## Fields that are given -/

theorem HasField.form_of_mem {value : Value} (h : HasField given name form a)
    (hmem : (name, value) ∈ given) : form value a := by
  obtain ⟨only, honly, hform⟩ := h
  rw [honly.eq_of_mem hmem]
  exact hform

theorem MayHaveField.form_of_mem {value : Value} (h : MayHaveField given name default form a)
    (hmem : (name, value) ∈ given) : form value a := by
  rcases h with hgiven | ⟨habsent, _⟩
  · exact hgiven.form_of_mem hmem
  · exact absurd rfl (habsent _ hmem)

end Readers

end WorkloadGuard
