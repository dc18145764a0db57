import WorkloadGuard.Json.Format
import WorkloadGuard.Kubernetes.Settings

/-!
# Application settings

The settings of the offline validator: those for decisions and those for diagnostics. Every field
has a default, and all records are closed. They are read from JSON values, in the strict or in the
lenient way.
-/

namespace WorkloadGuard

open Json (Value)

/-- Settings for diagnostics. -/
structure LoggingSettings where
  level : String := "warn"
  json : Bool := false
  deriving DecidableEq, Repr

/-- Settings of the offline validator. -/
structure AppSettings where
  restrictions : EngineSettings := {}
  logging : LoggingSettings := {}
  deriving DecidableEq, Repr

namespace KubernetesSettings

def shape : RecordShape :=
  ⟨["default_container_name", "legacy_container_annotation", "accept_underscored_host_segments"],
    true⟩

def toJson (settings : KubernetesSettings) : Value :=
  .object
    [("default_container_name", .string settings.defaultContainerName),
      ("legacy_container_annotation", .string settings.legacyContainerKey),
      ("accept_underscored_host_segments", .bool settings.acceptUnderscoredHostSegments)]

def ofDocument (format : DocumentFormat Value) (value : Value) :
    Except DecodeError KubernetesSettings := do
  let fields ← format.fields shape value
  let usual : KubernetesSettings := {}
  let defaultContainerName ←
    fields.defaulted "default_container_name" usual.defaultContainerName format.text
  let legacyContainerKey ←
    fields.defaulted "legacy_container_annotation" usual.legacyContainerKey format.text
  let acceptUnderscored ←
    fields.defaulted "accept_underscored_host_segments" usual.acceptUnderscoredHostSegments
      Value.toFlag
  return ⟨defaultContainerName, legacyContainerKey, acceptUnderscored⟩

def ofJson : Value → Except DecodeError KubernetesSettings :=
  ofDocument Json.format

end KubernetesSettings

namespace EngineSettings

def shape : RecordShape :=
  ⟨["kubernetes"], true⟩

def toJson (settings : EngineSettings) : Value :=
  .object [("kubernetes", settings.kubernetes.toJson)]

def ofDocument (format : DocumentFormat Value) (value : Value) :
    Except DecodeError EngineSettings := do
  let fields ← format.fields shape value
  let kubernetes ← fields.defaulted "kubernetes" {} (KubernetesSettings.ofDocument format)
  return ⟨kubernetes⟩

def ofJson : Value → Except DecodeError EngineSettings :=
  ofDocument Json.format

end EngineSettings

namespace LoggingSettings

def shape : RecordShape :=
  ⟨["level", "json"], true⟩

def toJson (settings : LoggingSettings) : Value :=
  .object [("level", .string settings.level), ("json", .bool settings.json)]

def ofDocument (format : DocumentFormat Value) (value : Value) :
    Except DecodeError LoggingSettings := do
  let fields ← format.fields shape value
  let usual : LoggingSettings := {}
  let level ← fields.defaulted "level" usual.level format.text
  let json ← fields.defaulted "json" usual.json Value.toFlag
  return ⟨level, json⟩

def ofJson : Value → Except DecodeError LoggingSettings :=
  ofDocument Json.format

end LoggingSettings

namespace AppSettings

def shape : RecordShape :=
  ⟨["restrictions", "logging"], true⟩

def toJson (settings : AppSettings) : Value :=
  .object [("restrictions", settings.restrictions.toJson), ("logging", settings.logging.toJson)]

def ofDocument (format : DocumentFormat Value) (value : Value) :
    Except DecodeError AppSettings := do
  let fields ← format.fields shape value
  let restrictions ← fields.defaulted "restrictions" {} (EngineSettings.ofDocument format)
  let logging ← fields.defaulted "logging" {} (LoggingSettings.ofDocument format)
  return ⟨restrictions, logging⟩

def ofJson : Value → Except DecodeError AppSettings :=
  ofDocument Json.format

end AppSettings

end WorkloadGuard
