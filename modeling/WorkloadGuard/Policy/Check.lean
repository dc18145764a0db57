import WorkloadGuard.Azure.Restrictions
import WorkloadGuard.Kubernetes.Restrictions
import WorkloadGuard.Policy.Load

/-!
# Checking policies

Every role of a policy is validated for the providers that it is meant for: those that are asked for
or, if none is, those whose annotations the role has. A host without Azure annotations is a
Kubernetes role, since its name may declare its restrictions.
-/

namespace WorkloadGuard

/-! ## Providers -/

/-- A provider that a role can be validated for. -/
inductive Provider where
  | kubernetes
  | azure
  deriving DecidableEq, Repr

def Provider.annotationRoot : Provider → String
  | kubernetes => ConstraintKind.provider KubernetesKind
  | azure => ConstraintKind.provider AzureKind

def Provider.reportName : Provider → String
  | kubernetes => "kubernetes"
  | azure => "azure"

/-- Which providers roles are validated for. -/
inductive ProviderSelection where
  /-- Those that each role is meant for. -/
  | auto
  | only (provider : Provider)
  deriving DecidableEq, Repr

namespace RoleRecord

/-- Whether a role has an annotation below the prefix of a provider: what follows the prefix begins
with a slash. -/
def hasAnnotationsOf (record : RoleRecord) (provider : Provider) : Bool :=
  record.annotations.any fun entry =>
    (Text.dropLead? provider.annotationRoot entry.name).any (Text.startsWith "/")

def providers (record : RoleRecord) : ProviderSelection → List Provider
  | .only provider => [provider]
  | .auto =>
    let kubernetes := record.hasAnnotationsOf .kubernetes
    let azure := record.hasAnnotationsOf .azure
    let host := record.id.kind? == some "host"
    (if kubernetes || (host && !azure) then [.kubernetes] else [])
      ++ (if azure then [.azure] else [])

def check (record : RoleRecord) (provider : Provider) (serviceId : String)
    (settings : EngineSettings) : Except RestrictionError Unit :=
  match provider with
  | .kubernetes =>
    let role : KubernetesRole := ⟨record.id, record.annotations, serviceId⟩
    (role.validate settings.kubernetes).map fun _ => ()
  | .azure =>
    let role : AzureRole := ⟨record.annotations, serviceId⟩
    role.validate.map fun _ => ()

end RoleRecord

/-! ## Failures -/

/-- What is wrong with a policy file. -/
inductive PolicyFailure where
  | unloadable (file : String) (error : PolicyLoadError)
  | invalidRole (file : String) (id : RoleId) (provider : Provider) (error : RestrictionError)
  deriving DecidableEq, Repr

def RoleRecord.failure? (record : RoleRecord) (file : String) (serviceId : String)
    (settings : EngineSettings) (provider : Provider) : Option PolicyFailure :=
  match record.check provider serviceId settings with
  | .ok () => none
  | .error error => some (.invalidRole file record.id provider error)

def RoleRecord.failures (record : RoleRecord) (file : String) (serviceId : String)
    (selection : ProviderSelection) (settings : EngineSettings) : List PolicyFailure :=
  (record.providers selection).filterMap (record.failure? file serviceId settings)

/-- The failures of a policy file, and the number of roles that were checked. -/
structure FileCheck where
  failures : List PolicyFailure
  roles : Nat

def Policy.checkFile (tree : FileTree) (serviceId : String) (selection : ProviderSelection)
    (settings : EngineSettings) (file : String) : FileCheck :=
  match load tree file with
  | .error error => ⟨[.unloadable file error], 0⟩
  | .ok records =>
    ⟨records.flatMap fun record => record.failures file serviceId selection settings,
      records.length⟩

end WorkloadGuard
