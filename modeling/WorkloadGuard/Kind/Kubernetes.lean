import WorkloadGuard.Kind.Basic

/-!
# Kubernetes constraint kinds

A Kubernetes role is tied to a namespace and may name one workload in it. The three workload
controllers exclude each other. Besides its constraints a role may say, by an annotation, which
container the authenticator talks to.
-/

namespace WorkloadGuard

/-- What a Kubernetes role can be tied to. -/
inductive KubernetesKind where
  | podNamespace
  | serviceAccount
  | pod
  | deployment
  | deploymentConfig
  | statefulSet
  deriving DecidableEq, Repr

namespace KubernetesKind

def all : List KubernetesKind :=
  [podNamespace, serviceAccount, pod, deployment, deploymentConfig, statefulSet]

def spelling : KubernetesKind → String
  | podNamespace => "namespace"
  | serviceAccount => "service-account"
  | pod => "pod"
  | deployment => "deployment"
  | deploymentConfig => "deployment-config"
  | statefulSet => "stateful-set"

def underscored : KubernetesKind → String
  | podNamespace => "namespace"
  | serviceAccount => "service_account"
  | pod => "pod"
  | deployment => "deployment"
  | deploymentConfig => "deployment_config"
  | statefulSet => "stateful_set"

/-- The namespace is required, and the workload controllers exclude each other. -/
def group : KubernetesKind → ConstraintGroup
  | podNamespace => .required
  | serviceAccount | pod => .optional
  | deployment | deploymentConfig | statefulSet => .exclusive

/-- The last segment of the annotation that selects the authenticator's container. -/
def containerNameKey : String :=
  "authentication-container-name"

def spellings : List String :=
  all.map spelling

instance : ConstraintKind KubernetesKind where
  provider := "authn-k8s"
  all := all
  spelling := spelling
  underscored := underscored
  group := group
  permitted := spellings ++ [containerNameKey]
  unsupported name := .scopeNotSupported name (spellings ++ [containerNameKey])
  missing _ := .namespaceMissing
  mem_all kind := by cases kind <;> decide
  nodup_all := by decide
  spelling_injective a b := by cases a <;> cases b <;> decide
  spelling_mem_permitted kind := by cases kind <;> decide
  slash_notMem_permitted := by decide

def narrowsNamespace (kind : KubernetesKind) : Bool :=
  kind != podNamespace

end KubernetesKind

end WorkloadGuard
