import WorkloadGuard.Proofs.Documents.Layout
import WorkloadGuard.Settings.App

/-!
# Settings documents

The forms in which settings are written, and their layouts. All records of settings are closed and
every field has a default, so a field may be left out at each depth, and a name that is no field is
refused at each depth.

## Main statements

- `KubernetesSettings.reads`, `EngineSettings.reads`, `LoggingSettings.reads`, `AppSettings.reads`:
  which documents are read.
- `EngineSettings.readsBack`, `AppSettings.readsBack`: settings are read as they were written.
-/

namespace WorkloadGuard

open Json (Value)

/-! ## Kubernetes roles -/

namespace KubernetesSettings

/-- A document that writes the settings for Kubernetes roles. -/
structure Form (document : Value) (settings : KubernetesSettings) : Prop where
  fits : shape.Fits document
  defaultContainerName : MayHaveField (shape.given document) "default_container_name"
    "authenticator" TextForm settings.defaultContainerName
  legacyContainerKey : MayHaveField (shape.given document) "legacy_container_annotation"
    "kubernetes/authentication-container-name" TextForm settings.legacyContainerKey
  acceptUnderscored : MayHaveField (shape.given document) "accept_underscored_host_segments" true
    FlagForm settings.acceptUnderscoredHostSegments

def layout : Layout :=
  .record shape fun _ => .scalar

theorem nodup_fields : shape.fields.Nodup := by
  decide

theorem reads : Reads (ofDocument Json.format) Form := by
  intro document settings
  rw [ofDocument, RecordShape.bind_fields_eq_ok_iff nodup_fields]
  simp only [Outcome.bind_eq_ok_iff, Outcome.pure_eq_ok_iff, reads_text.defaulted_iff,
    reads_flag.defaulted_iff]
  constructor
  · rintro ⟨hfits, name, hname, key, hkey, flag, hflag, rfl⟩
    exact ⟨hfits, hname, hkey, hflag⟩
  · rintro ⟨hfits, hname, hkey, hflag⟩
    exact ⟨hfits, _, hname, _, hkey, _, hflag, rfl⟩

theorem form_toJson (settings : KubernetesSettings) : Form settings.toJson settings where
  fits := .of_names rfl
  defaultContainerName := .inl (.of_mem List.mem_cons_self rfl nodup_fields)
  legacyContainerKey := .inl (.of_mem (.tail _ List.mem_cons_self) rfl nodup_fields)
  acceptUnderscored := .inl (.of_mem (.tail _ (.tail _ List.mem_cons_self)) rfl nodup_fields)

theorem isComplete_toJson (settings : KubernetesSettings) : layout.IsComplete settings.toJson :=
  ⟨_, rfl, rfl, fun _ _ => trivial⟩

theorem Form.not_hasUnknownField {document : Value} {settings : KubernetesSettings}
    (h : Form document settings) : ¬ layout.HasUnknownField document :=
  Layout.not_hasUnknownField_record h.fits fun _ _ _ => Layout.not_hasUnknownField_scalar

end KubernetesSettings

/-! ## Decisions -/

namespace EngineSettings

/-- A document that writes the settings for decisions. -/
structure Form (document : Value) (settings : EngineSettings) : Prop where
  fits : shape.Fits document
  kubernetes : MayHaveField (shape.given document) "kubernetes" {} KubernetesSettings.Form
    settings.kubernetes

def layout : Layout :=
  .record shape fun _ => KubernetesSettings.layout

theorem nodup_fields : shape.fields.Nodup := by
  decide

theorem reads : Reads (ofDocument Json.format) Form := by
  intro document settings
  rw [ofDocument, RecordShape.bind_fields_eq_ok_iff nodup_fields]
  simp only [Outcome.bind_eq_ok_iff, Outcome.pure_eq_ok_iff,
    KubernetesSettings.reads.defaulted_iff]
  constructor
  · rintro ⟨hfits, kubernetes, hkubernetes, rfl⟩
    exact ⟨hfits, hkubernetes⟩
  · rintro ⟨hfits, hkubernetes⟩
    exact ⟨hfits, _, hkubernetes, rfl⟩

theorem form_toJson (settings : EngineSettings) : Form settings.toJson settings where
  fits := .of_names rfl
  kubernetes := .inl (.of_mem List.mem_cons_self settings.kubernetes.form_toJson nodup_fields)

theorem isComplete_toJson (settings : EngineSettings) : layout.IsComplete settings.toJson :=
  ⟨_, rfl, rfl, List.forall_mem_singleton.2 settings.kubernetes.isComplete_toJson⟩

theorem Form.not_hasUnknownField {document : Value} {settings : EngineSettings}
    (h : Form document settings) : ¬ layout.HasUnknownField document := by
  refine Layout.not_hasUnknownField_record h.fits fun name value hgiven => ?_
  obtain rfl : name = "kubernetes" := List.mem_singleton.1 (h.fits.mem_fields rfl hgiven)
  exact (h.kubernetes.form_of_mem hgiven).not_hasUnknownField

theorem readsBack : ReadsBack ofJson toJson Form layout :=
  .of_forms reads form_toJson isComplete_toJson fun _ _ hform => hform.not_hasUnknownField

end EngineSettings

/-! ## Diagnostics -/

namespace LoggingSettings

/-- A document that writes the settings for diagnostics. -/
structure Form (document : Value) (settings : LoggingSettings) : Prop where
  fits : shape.Fits document
  level : MayHaveField (shape.given document) "level" "warn" TextForm settings.level
  json : MayHaveField (shape.given document) "json" false FlagForm settings.json

def layout : Layout :=
  .record shape fun _ => .scalar

theorem nodup_fields : shape.fields.Nodup := by
  decide

theorem reads : Reads (ofDocument Json.format) Form := by
  intro document settings
  rw [ofDocument, RecordShape.bind_fields_eq_ok_iff nodup_fields]
  simp only [Outcome.bind_eq_ok_iff, Outcome.pure_eq_ok_iff, reads_text.defaulted_iff,
    reads_flag.defaulted_iff]
  constructor
  · rintro ⟨hfits, level, hlevel, json, hjson, rfl⟩
    exact ⟨hfits, hlevel, hjson⟩
  · rintro ⟨hfits, hlevel, hjson⟩
    exact ⟨hfits, _, hlevel, _, hjson, rfl⟩

theorem form_toJson (settings : LoggingSettings) : Form settings.toJson settings where
  fits := .of_names rfl
  level := .inl (.of_mem List.mem_cons_self rfl nodup_fields)
  json := .inl (.of_mem (.tail _ List.mem_cons_self) rfl nodup_fields)

theorem isComplete_toJson (settings : LoggingSettings) : layout.IsComplete settings.toJson :=
  ⟨_, rfl, rfl, fun _ _ => trivial⟩

theorem Form.not_hasUnknownField {document : Value} {settings : LoggingSettings}
    (h : Form document settings) : ¬ layout.HasUnknownField document :=
  Layout.not_hasUnknownField_record h.fits fun _ _ _ => Layout.not_hasUnknownField_scalar

end LoggingSettings

/-! ## The offline validator -/

namespace AppSettings

/-- A document that writes the settings of the offline validator. -/
structure Form (document : Value) (settings : AppSettings) : Prop where
  fits : shape.Fits document
  restrictions : MayHaveField (shape.given document) "restrictions" {} EngineSettings.Form
    settings.restrictions
  logging : MayHaveField (shape.given document) "logging" {} LoggingSettings.Form settings.logging

def layout : Layout :=
  .record shape fun name =>
    if name = "logging" then LoggingSettings.layout else EngineSettings.layout

theorem nodup_fields : shape.fields.Nodup := by
  decide

theorem reads : Reads (ofDocument Json.format) Form := by
  intro document settings
  rw [ofDocument, RecordShape.bind_fields_eq_ok_iff nodup_fields]
  simp only [Outcome.bind_eq_ok_iff, Outcome.pure_eq_ok_iff,
    EngineSettings.reads.defaulted_iff, LoggingSettings.reads.defaulted_iff]
  constructor
  · rintro ⟨hfits, restrictions, hrestrictions, logging, hlogging, rfl⟩
    exact ⟨hfits, hrestrictions, hlogging⟩
  · rintro ⟨hfits, hrestrictions, hlogging⟩
    exact ⟨hfits, _, hrestrictions, _, hlogging, rfl⟩

theorem form_toJson (settings : AppSettings) : Form settings.toJson settings where
  fits := .of_names rfl
  restrictions := .inl (.of_mem List.mem_cons_self settings.restrictions.form_toJson nodup_fields)
  logging := .inl (.of_mem (.tail _ List.mem_cons_self) settings.logging.form_toJson nodup_fields)

theorem isComplete_toJson (settings : AppSettings) : layout.IsComplete settings.toJson := by
  refine ⟨_, rfl, rfl, List.forall_mem_cons.2 ⟨?_, List.forall_mem_singleton.2 ?_⟩⟩
  · exact settings.restrictions.isComplete_toJson
  · exact settings.logging.isComplete_toJson

theorem Form.not_hasUnknownField {document : Value} {settings : AppSettings}
    (h : Form document settings) : ¬ layout.HasUnknownField document := by
  refine Layout.not_hasUnknownField_record h.fits fun name value hgiven => ?_
  have hname : name = "restrictions" ∨ name = "logging" := by
    simpa [shape] using h.fits.mem_fields rfl hgiven
  rcases hname with rfl | rfl
  · exact (h.restrictions.form_of_mem hgiven).not_hasUnknownField
  · exact (h.logging.form_of_mem hgiven).not_hasUnknownField

theorem readsBack : ReadsBack ofJson toJson Form layout :=
  .of_forms reads form_toJson isComplete_toJson fun _ _ hform => hform.not_hasUnknownField

end AppSettings

end WorkloadGuard
