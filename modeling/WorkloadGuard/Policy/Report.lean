import WorkloadGuard.Json.Printer
import WorkloadGuard.Policy.Check

/-!
# Reports

What a run of the validator found: the failures of all files in order, and how many files and roles
were looked at. A report is written as one line for each failure with a summary, or as JSON.
-/

namespace WorkloadGuard

/-! ## Failures -/

namespace PolicyFailure

def line : PolicyFailure → String
  | unloadable file error => file ++ ": " ++ error.message
  | invalidRole file id provider error =>
    file ++ ": " ++ id.text ++ " [" ++ provider.annotationRoot ++ "] " ++ error.message

/-- The JSON object for a failure; a file that cannot be loaded has no role and no provider. -/
def toJson : PolicyFailure → Json.Value
  | unloadable file error => .object [("file", .string file), ("error", .string error.message)]
  | invalidRole file id provider error =>
    .object
      [("file", .string file), ("role_id", .string id.text),
        ("provider", .string provider.reportName), ("error", .string error.message)]

end PolicyFailure

/-! ## Reports -/

/-- What a run of the validator found. -/
structure ValidationReport where
  failures : List PolicyFailure
  filesScanned : Nat
  rolesChecked : Nat
  deriving DecidableEq, Repr

namespace ValidationReport

def ofChecks (filesScanned : Nat) (checks : List FileCheck) : ValidationReport :=
  ⟨checks.flatMap FileCheck.failures, filesScanned,
    checks.foldr (fun check total => check.roles + total) 0⟩

def isClean (report : ValidationReport) : Bool :=
  report.failures.isEmpty

def summary (report : ValidationReport) : String :=
  toString report.filesScanned ++ " file(s), " ++ toString report.rolesChecked
    ++ " role(s) checked, " ++ toString report.failures.length ++ " failure(s)"

def text (report : ValidationReport) : String :=
  String.join ((report.failures.map PolicyFailure.line ++ [report.summary]).map (· ++ "\n"))

def toJson (report : ValidationReport) : Json.Value :=
  .object
    [("errors", .array (report.failures.map PolicyFailure.toJson)),
      ("files_scanned", .number (toString report.filesScanned)),
      ("roles_checked", .number (toString report.rolesChecked))]

end ValidationReport

end WorkloadGuard
