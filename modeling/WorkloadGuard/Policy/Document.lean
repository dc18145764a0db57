import WorkloadGuard.Json.Format
import WorkloadGuard.Role

/-!
# Policy documents

A policy is a record with the list `roles`; a role has an `id` and a list of `annotations`; an
annotation has a `name` and a `value`, and whatever else it holds is passed over. The rules are the
same for every format of documents.
-/

namespace WorkloadGuard

/-! ## Fields -/

def AnnotationEntry.shape : RecordShape :=
  ⟨["name", "value"], false⟩

def RoleRecord.shape : RecordShape :=
  ⟨["id", "annotations"], true⟩

def policyShape : RecordShape :=
  ⟨["roles"], true⟩

/-! ## Reading -/

variable {δ : Type}

def AnnotationEntry.ofDocument (format : DocumentFormat δ) (document : δ) :
    Except DecodeError AnnotationEntry := do
  let fields ← format.fields shape document
  let name ← fields.required "name" format.text
  let value ← fields.required "value" format.text
  return ⟨name, value⟩

def RoleRecord.ofDocument (format : DocumentFormat δ) (document : δ) :
    Except DecodeError RoleRecord := do
  let fields ← format.fields shape document
  let id ← fields.required "id" format.text
  let annotations ←
    fields.defaulted "annotations" [] (format.listOf (AnnotationEntry.ofDocument format))
  return ⟨⟨id⟩, annotations⟩

def policyOfDocument (format : DocumentFormat δ) (document : δ) :
    Except DecodeError (List RoleRecord) := do
  let fields ← format.fields policyShape document
  fields.defaulted "roles" [] (format.listOf (RoleRecord.ofDocument format))

/-! ## Writing -/

def AnnotationEntry.toJson (entry : AnnotationEntry) : Json.Value :=
  .object [("name", .string entry.name), ("value", .string entry.value)]

def RoleRecord.toJson (record : RoleRecord) : Json.Value :=
  .object
    [("id", .string record.id.text),
      ("annotations", .array (record.annotations.map AnnotationEntry.toJson))]

def policyToJson (records : List RoleRecord) : Json.Value :=
  .object [("roles", .array (records.map RoleRecord.toJson))]

end WorkloadGuard
