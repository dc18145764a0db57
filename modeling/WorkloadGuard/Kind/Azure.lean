import WorkloadGuard.Kind.Basic

/-!
# Azure constraint kinds

An Azure role is tied to a subscription and a resource group, and may name one managed identity,
assigned either by a user or by the system.
-/

namespace WorkloadGuard

/-- What an Azure role can be tied to. -/
inductive AzureKind where
  | subscriptionId
  | resourceGroup
  | userAssignedIdentity
  | systemAssignedIdentity
  deriving DecidableEq, Repr

namespace AzureKind

def all : List AzureKind :=
  [subscriptionId, resourceGroup, userAssignedIdentity, systemAssignedIdentity]

def spelling : AzureKind → String
  | subscriptionId => "subscription-id"
  | resourceGroup => "resource-group"
  | userAssignedIdentity => "user-assigned-identity"
  | systemAssignedIdentity => "system-assigned-identity"

def underscored : AzureKind → String
  | subscriptionId => "subscription_id"
  | resourceGroup => "resource_group"
  | userAssignedIdentity => "user_assigned_identity"
  | systemAssignedIdentity => "system_assigned_identity"

/-- Subscription and resource group are required, and the two identities exclude each other. -/
def group : AzureKind → ConstraintGroup
  | subscriptionId | resourceGroup => .required
  | userAssignedIdentity | systemAssignedIdentity => .exclusive

def spellings : List String :=
  all.map spelling

instance : ConstraintKind AzureKind where
  provider := "authn-azure"
  all := all
  spelling := spelling
  underscored := underscored
  group := group
  permitted := spellings
  unsupported name := .constraintNotSupported name spellings
  missing kind := .constraintMissing (spelling kind)
  mem_all kind := by cases kind <;> decide
  nodup_all := by decide
  spelling_injective a b := by cases a <;> cases b <;> decide
  spelling_mem_permitted kind := by cases kind <;> decide
  slash_notMem_permitted := by decide

end AzureKind

end WorkloadGuard
