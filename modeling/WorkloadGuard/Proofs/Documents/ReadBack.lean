import WorkloadGuard.Proofs.Documents.Policy
import WorkloadGuard.Proofs.Documents.Settings

/-!
# Documents that are read back

Roles, policies and settings are read from JSON as they were written to it, whatever the form in
which they were first written.

## Main statements

- `closed_shapes`: all records are closed but annotations.
- `documents_read_back`: what is read, what is written, and what is refused or passed over.
-/

namespace WorkloadGuard

open Json (Value)

/-- Of the records in policies and settings, annotations alone are open. -/
theorem closed_shapes :
    (∀ shape ∈ [RoleRecord.shape, policyShape, KubernetesSettings.shape, EngineSettings.shape,
        LoggingSettings.shape, AppSettings.shape], shape.closed = true) ∧
      AnnotationEntry.shape.closed = false := by
  decide

/-- Of roles, policies, engine settings and application settings, exactly the documents of their
forms are read: at each depth an object in which fields with a default may be left out, or an array
of the fields. What is written with every field is read as the value it was written from, so to
write what was read and to read it once more changes nothing. An unknown field is refused at each
depth, since all records but annotations are closed. Of an object that stands for an annotation, no
members count but `name` and `value`, and a role or a policy reads the same without the others. -/
theorem documents_read_back :
    ReadsBack (RoleRecord.ofDocument Json.format) RoleRecord.toJson RoleRecord.Form
      RoleRecord.layout ∧
    ReadsBack (policyOfDocument Json.format) policyToJson PolicyForm policyLayout ∧
    ReadsBack EngineSettings.ofJson EngineSettings.toJson EngineSettings.Form
      EngineSettings.layout ∧
    ReadsBack AppSettings.ofJson AppSettings.toJson AppSettings.Form AppSettings.layout ∧
    ((∀ shape ∈ [RoleRecord.shape, policyShape, KubernetesSettings.shape, EngineSettings.shape,
        LoggingSettings.shape, AppSettings.shape], shape.closed = true) ∧
      AnnotationEntry.shape.closed = false) ∧
    (∀ members, AnnotationEntry.ofDocument Json.format (.object members) =
      AnnotationEntry.ofDocument Json.format
        (.object (members.filter fun member => member.1 = "name" ∨ member.1 = "value"))) ∧
    (∀ document, RoleRecord.ofDocument Json.format (RoleRecord.layout.withoutExtras document) =
      RoleRecord.ofDocument Json.format document) ∧
    ∀ document, policyOfDocument Json.format (policyLayout.withoutExtras document) =
      policyOfDocument Json.format document := by
  refine ⟨RoleRecord.readsBack, readsBack_policy, EngineSettings.readsBack, AppSettings.readsBack,
    closed_shapes, fun members => ?_, RoleRecord.ofDocument_withoutExtras,
    policyOfDocument_withoutExtras⟩
  rw [← AnnotationEntry.withoutExtras_object, AnnotationEntry.ofDocument_withoutExtras]

/-- A policy in mixed forms, with a note on an annotation, is read and read back, but a note on a
role is refused; so is an unknown setting three records deep. -/
theorem documents_of_till :
    let till : Value := .array [.string "acme:host:till"]
    let web (note : List (String × Value)) : Value := .object
      (("annotations", .array
        [.object [("value", .string "shop"), ("note", .null), ("name", .string "authn-k8s/pod")],
          .array [.string "description", .string "till"]]) ::
        ("id", .string "acme:host:web") :: note)
    let records : List RoleRecord :=
      [⟨⟨"acme:host:till"⟩, []⟩,
        ⟨⟨"acme:host:web"⟩, [⟨"authn-k8s/pod", "shop"⟩, ⟨"description", "till"⟩]⟩]
    let settings : Value := .object
      [("restrictions", .array [.object [("default_container", .string "till")]])]
    PolicyForm (.array [.array [till, web []]]) records ∧
      policyOfDocument Json.format (policyToJson records) = .ok records ∧
      (∃ error, policyOfDocument Json.format
        (.array [.array [till, web [("note", .null)]]]) = .error error) ∧
      ∃ error, AppSettings.ofJson settings = .error error := by
  intro till web records settings
  obtain ⟨_, hpolicy, _, hsettings, _⟩ := documents_read_back
  have hread : policyOfDocument Json.format (.array [.array [till, web []]]) = .ok records := by rfl
  refine ⟨(hpolicy.read_iff _ _).1 hread, hpolicy.read_write records, hpolicy.refuses _ ?_,
    hsettings.refuses _ ?_⟩
  · -- the note is a member of the second role
    refine .inField List.mem_cons_self (.inItem (.tail _ List.mem_cons_self) ?_)
    exact .here rfl (.tail _ (.tail _ List.mem_cons_self)) (by decide)
  · refine .inField List.mem_cons_self (.inField List.mem_cons_self ?_)
    exact .here rfl List.mem_cons_self (by decide)

end WorkloadGuard
