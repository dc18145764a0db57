import WorkloadGuard.Policy.Document
import WorkloadGuard.Proofs.Documents.Layout

/-!
# Policy documents

The forms in which annotations, roles and policies are written, and their layouts. Each reader
accepts exactly the documents of its form, and the form that is written out with every field is one
of them. Annotations are the open records of a policy: what else they hold changes nothing.

## Main statements

- `AnnotationEntry.reads`, `RoleRecord.reads`, `reads_policy`: which documents are read.
- `RoleRecord.readsBack`, `readsBack_policy`: roles and policies are read as they were written.
- `RoleRecord.ofDocument_withoutExtras`, `policyOfDocument_withoutExtras`: extra members of
  annotations are passed over.
-/

namespace WorkloadGuard

open Json (Value)

/-! ## Annotations -/

namespace AnnotationEntry

/-- A document that writes an annotation. -/
structure Form (document : Value) (entry : AnnotationEntry) : Prop where
  fits : shape.Fits document
  name : HasField (shape.given document) "name" TextForm entry.name
  value : HasField (shape.given document) "value" TextForm entry.value

def layout : Layout :=
  .record shape fun _ => .scalar

theorem nodup_fields : shape.fields.Nodup := by
  decide

theorem reads : Reads (ofDocument Json.format) Form := by
  intro document entry
  rw [ofDocument, RecordShape.bind_fields_eq_ok_iff nodup_fields]
  simp only [Outcome.bind_eq_ok_iff, Outcome.pure_eq_ok_iff, reads_text.required_iff]
  constructor
  · rintro ⟨hfits, name, hname, value, hvalue, rfl⟩
    exact ⟨hfits, hname, hvalue⟩
  · rintro ⟨hfits, hname, hvalue⟩
    exact ⟨hfits, _, hname, _, hvalue, rfl⟩

theorem form_toJson (entry : AnnotationEntry) : Form entry.toJson entry where
  fits := .of_names rfl
  name := .of_mem List.mem_cons_self rfl nodup_fields
  value := .of_mem (.tail _ List.mem_cons_self) rfl nodup_fields

theorem isComplete_toJson (entry : AnnotationEntry) : layout.IsComplete entry.toJson :=
  ⟨_, rfl, rfl, fun _ _ => trivial⟩

theorem Form.not_hasUnknownField {document : Value} {entry : AnnotationEntry}
    (h : Form document entry) : ¬ layout.HasUnknownField document :=
  Layout.not_hasUnknownField_record h.fits fun _ _ _ => Layout.not_hasUnknownField_scalar

theorem ofDocument_withoutExtras (document : Value) :
    ofDocument Json.format (layout.withoutExtras document) = ofDocument Json.format document := by
  refine Layout.bind_toFields_withoutExtras fun fields stripped h => ?_
  rw [h.required_eq (by decide) fun _ => rfl, h.required_eq (by decide) fun _ => rfl]

/-- Of an object, only the members called `name` and `value` count for an annotation. -/
theorem withoutExtras_object (members : List (String × Value)) :
    layout.withoutExtras (.object members) =
      .object (members.filter fun member => member.1 = "name" ∨ member.1 = "value") := by
  simp [layout, Layout.withoutExtras, RecordShape.keepKnown, shape]

end AnnotationEntry

/-! ## Roles -/

namespace RoleRecord

/-- A document that writes a role; the list of annotations may be left out if it is empty. -/
structure Form (document : Value) (record : RoleRecord) : Prop where
  fits : shape.Fits document
  id : HasField (shape.given document) "id" TextForm record.id.text
  annotations : MayHaveField (shape.given document) "annotations" [] (ListForm AnnotationEntry.Form)
    record.annotations

def layout : Layout :=
  .record shape fun name =>
    if name = "annotations" then .list AnnotationEntry.layout else .scalar

theorem nodup_fields : shape.fields.Nodup := by
  decide

theorem reads : Reads (ofDocument Json.format) Form := by
  intro document record
  rw [ofDocument, RecordShape.bind_fields_eq_ok_iff nodup_fields]
  simp only [Outcome.bind_eq_ok_iff, Outcome.pure_eq_ok_iff, reads_text.required_iff,
    AnnotationEntry.reads.list.defaulted_iff]
  constructor
  · rintro ⟨hfits, id, hid, annotations, hannotations, rfl⟩
    exact ⟨hfits, hid, hannotations⟩
  · rintro ⟨hfits, hid, hannotations⟩
    exact ⟨hfits, _, hid, _, hannotations, rfl⟩

theorem form_toJson (record : RoleRecord) : Form record.toJson record where
  fits := .of_names rfl
  id := .of_mem List.mem_cons_self rfl nodup_fields
  annotations := .inl (.of_mem (.tail _ List.mem_cons_self)
    (.of_write AnnotationEntry.form_toJson record.annotations) nodup_fields)

theorem isComplete_toJson (record : RoleRecord) : layout.IsComplete record.toJson := by
  refine ⟨_, rfl, rfl, List.forall_mem_cons.2 ⟨trivial, List.forall_mem_singleton.2 ?_⟩⟩
  exact Layout.isComplete_array AnnotationEntry.isComplete_toJson record.annotations

theorem Form.not_hasUnknownField {document : Value} {record : RoleRecord}
    (h : Form document record) : ¬ layout.HasUnknownField document := by
  refine Layout.not_hasUnknownField_record h.fits fun name value hgiven => ?_
  by_cases hname : name = "annotations"
  · subst hname
    exact Layout.not_hasUnknownField_list (h.annotations.form_of_mem hgiven)
      fun _ _ hform => hform.not_hasUnknownField
  · rw [if_neg hname]
    exact Layout.not_hasUnknownField_scalar

theorem ofDocument_withoutExtras (document : Value) :
    ofDocument Json.format (layout.withoutExtras document) = ofDocument Json.format document := by
  refine Layout.bind_toFields_withoutExtras fun fields stripped h => ?_
  have hid : stripped.required "id" Json.format.text = fields.required "id" Json.format.text :=
    h.required_eq (by decide) fun _ => rfl
  have hannotations := h.defaulted_eq (by decide : "annotations" ∈ shape.fields)
    (Layout.listOf_withoutExtras AnnotationEntry.ofDocument_withoutExtras) []
  rw [hid, hannotations]

theorem readsBack : ReadsBack (ofDocument Json.format) toJson Form layout :=
  .of_forms reads form_toJson isComplete_toJson fun _ _ hform => hform.not_hasUnknownField

end RoleRecord

/-! ## Policies -/

/-- A document that writes a policy; the list of roles may be left out if it is empty. -/
structure PolicyForm (document : Value) (records : List RoleRecord) : Prop where
  fits : policyShape.Fits document
  roles : MayHaveField (policyShape.given document) "roles" [] (ListForm RoleRecord.Form) records

def policyLayout : Layout :=
  .record policyShape fun _ => .list RoleRecord.layout

theorem nodup_policyFields : policyShape.fields.Nodup := by
  decide

theorem reads_policy : Reads (policyOfDocument Json.format) PolicyForm := by
  intro document records
  rw [policyOfDocument, RecordShape.bind_fields_eq_ok_iff nodup_policyFields,
    RoleRecord.reads.list.defaulted_iff]
  exact ⟨fun h => ⟨h.1, h.2⟩, fun h => ⟨h.fits, h.roles⟩⟩

theorem policyForm_policyToJson (records : List RoleRecord) :
    PolicyForm (policyToJson records) records where
  fits := .of_names rfl
  roles := .inl (.of_mem List.mem_cons_self (.of_write RoleRecord.form_toJson records)
    nodup_policyFields)

theorem isComplete_policyToJson (records : List RoleRecord) :
    policyLayout.IsComplete (policyToJson records) :=
  ⟨_, rfl, rfl, List.forall_mem_singleton.2
    (Layout.isComplete_array RoleRecord.isComplete_toJson records)⟩

theorem PolicyForm.not_hasUnknownField {document : Value} {records : List RoleRecord}
    (h : PolicyForm document records) : ¬ policyLayout.HasUnknownField document := by
  refine Layout.not_hasUnknownField_record h.fits fun name value hgiven => ?_
  obtain rfl : name = "roles" := List.mem_singleton.1 (h.fits.mem_fields rfl hgiven)
  exact Layout.not_hasUnknownField_list (h.roles.form_of_mem hgiven)
    fun _ _ hform => hform.not_hasUnknownField

theorem policyOfDocument_withoutExtras (document : Value) :
    policyOfDocument Json.format (policyLayout.withoutExtras document) =
      policyOfDocument Json.format document := by
  refine Layout.bind_toFields_withoutExtras fun fields stripped h => ?_
  exact h.defaulted_eq (by decide : "roles" ∈ policyShape.fields)
    (Layout.listOf_withoutExtras RoleRecord.ofDocument_withoutExtras) []

theorem readsBack_policy :
    ReadsBack (policyOfDocument Json.format) policyToJson PolicyForm policyLayout :=
  .of_forms reads_policy policyForm_policyToJson isComplete_policyToJson
    fun _ _ hform => hform.not_hasUnknownField

end WorkloadGuard
