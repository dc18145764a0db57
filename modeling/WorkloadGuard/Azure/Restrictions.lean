import WorkloadGuard.Azure.ResourcePath
import WorkloadGuard.Kind.Azure
import WorkloadGuard.Matching
import WorkloadGuard.Validation

/-!
# Azure restrictions

An Azure role declares its restrictions by `authn-azure/` annotations only. The request shows a
verified token, whose claims give a subscription, a resource group and one managed identity.
-/

namespace WorkloadGuard

/-- The claims of a verified token that say which resource asked for it. -/
structure TokenClaims where
  resourcePath : String
  objectId : String
  deriving DecidableEq, Repr

namespace TokenClaims

def resourcePathField : String :=
  "xms_mirid"

def objectIdField : String :=
  "oid"

/-- The identity that a token shows: the last segment of the path of an identity that a user has
assigned, else the object id, which must not be empty. -/
def identity (claims : TokenClaims) (path : ResourcePath) :
    Except RestrictionError (AzureKind × String) :=
  match path.resourceName?.filter fun _ => path.isUserAssigned with
  | some name => .ok (.userAssignedIdentity, name)
  | none =>
    if claims.objectId = "" then .error (.tokenFieldMissing objectIdField)
    else .ok (.systemAssignedIdentity, claims.objectId)

def observed (claims : TokenClaims) : Except RestrictionError (ResourceSet AzureKind) := do
  let path ← ResourcePath.parse claims.resourcePath
  let identity ← claims.identity path
  return .ofSpecs
    [(.subscriptionId, path.subscriptionId), (.resourceGroup, path.resourceGroup), identity]

def satisfy (claims : TokenClaims) (spec : ResourceSet AzureKind) :
    Except RestrictionError Unit := do
  let observed ← claims.observed
  spec.matchAgainst observed

end TokenClaims

/-- The declared side of an Azure request. -/
structure AzureRole where
  annotations : List AnnotationEntry
  serviceId : String

namespace AzureRole

def declaredSpec (role : AzureRole) : ResourceSet AzureKind :=
  (AnnotationIndex.ofList role.annotations).identitySpec AzureKind role.serviceId

def validate (role : AzureRole) : Except RestrictionError (ResourceSet AzureKind) := do
  let index := AnnotationIndex.ofList role.annotations
  checkScope AzureKind index role.serviceId
  let spec := index.identitySpec AzureKind role.serviceId
  checkSpec spec
  return spec

/-- Whether a token satisfies what a role declares; the role is not validated. -/
def authorize (role : AzureRole) (claims : TokenClaims) : Except RestrictionError Unit :=
  claims.satisfy role.declaredSpec

end AzureRole

end WorkloadGuard
