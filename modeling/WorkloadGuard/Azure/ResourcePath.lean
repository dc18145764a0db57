import WorkloadGuard.RestrictionError
import WorkloadGuard.Text

/-!
# Azure resource paths

The claim `xms_mirid` holds the path of the resource that asked for a token: a subscription, a
resource group and, after the keyword `providers`, a provider namespace followed by pairs of type
and name. Keywords are recognised in any case; all else is kept as it is written.
-/

namespace WorkloadGuard

/-- The parts of a resource path. -/
structure ResourcePath where
  subscriptionId : String
  resourceGroup : String
  /-- The segments after `providers`: a namespace, then pairs of type and name. -/
  providers : List String
  deriving DecidableEq, Repr

namespace ResourcePath

/-- What a resource path lacks. -/
inductive Defect where
  | notAbsolute
  /-- Two slashes follow each other, or the path ends in one. -/
  | emptySegment
  | noSubscription
  | noResourceGroup
  | noProviders
  deriving DecidableEq, Repr

def Defect.reason : Defect → String
  | .notAbsolute => "expected a path starting with '/'"
  | .emptySegment => "empty path segment"
  | .noSubscription => "expected '/subscriptions/\x7bid\x7d'"
  | .noResourceGroup => "expected '/resourcegroups/\x7bname\x7d'"
  | .noProviders => "expected '/providers'"

/-- A keyword and the segment after it, split from the segments that follow. -/
def takeSection? (keyword : String) : List String → Option (String × List String)
  | segment :: value :: rest =>
    if Text.equalsIgnoringCase segment keyword then some (value, rest) else none
  | _ => none

def takeProviders? : List String → Option (List String)
  | segment :: rest => if Text.equalsIgnoringCase segment "providers" then some rest else none
  | [] => none

/-- The subscription, the resource group and the provider segments of a path, whatever the number
of the last. -/
def sections (claim : String) : Except Defect ResourcePath := do
  let some path := Text.dropLead? "/" claim | throw .notAbsolute
  let segments := Text.splitOn '/' path
  if "" ∈ segments then throw .emptySegment
  let some (subscriptionId, rest) := takeSection? "subscriptions" segments
    | throw .noSubscription
  let some (resourceGroup, rest) := takeSection? "resourcegroups" rest | throw .noResourceGroup
  let some providers := takeProviders? rest | throw .noProviders
  return ⟨subscriptionId, resourceGroup, providers⟩

/-- Whether the provider segments are a namespace followed by at least one pair of type and name. -/
def hasProviderFields (path : ResourcePath) : Bool :=
  3 ≤ path.providers.length && path.providers.length % 2 == 1

def parse (claim : String) : Except RestrictionError ResourcePath :=
  match sections claim with
  | .error defect => .error (.malformedResourcePath claim defect.reason)
  | .ok path => if path.hasProviderFields then .ok path else .error (.providerFieldsMissing claim)

def managedIdentityProvider : String :=
  "Microsoft.ManagedIdentity"

def isUserAssigned (path : ResourcePath) : Bool :=
  path.providers.any fun segment => Text.equalsIgnoringCase segment managedIdentityProvider

def resourceName? (path : ResourcePath) : Option String :=
  path.providers.getLast?

/-! ## Writing paths -/

def segments (path : ResourcePath) (subscriptions resourceGroups providers : String) :
    List String :=
  [subscriptions, path.subscriptionId, resourceGroups, path.resourceGroup, providers]
    ++ path.providers

def joinSegments (segments : List String) : String :=
  "/" ++ String.intercalate "/" segments

end ResourcePath

end WorkloadGuard
