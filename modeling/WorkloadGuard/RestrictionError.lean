/-!
# Restriction errors

Why a request is refused. The causes fall into three groups: the role is configured wrongly, the
request does not carry what the role demands, or the role could not be read at all.
-/

namespace WorkloadGuard

/-- The cause for which a request or a role is refused. -/
inductive RestrictionError where
  | scopeNotSupported (constraint : String) (permitted : List String)
  | constraintNotSupported (constraint : String) (permitted : List String)
  | namespaceMissing
  | constraintMissing (constraint : String)
  | exclusiveConstraints (constraints : List String)
  | malformedHostId (hostId : String)
  | malformedResourcePath (claim : String) (reason : String)
  | providerFieldsMissing (claim : String)
  | tokenFieldMissing (field : String)
  | restrictionUnmet (constraint : String)
  | roleNotFound (roleId : String)
  | serviceUnavailable (reason : String)
  | internal (reason : String)
  deriving DecidableEq, Repr

namespace RestrictionError

def joinNames (names : List String) : String :=
  String.intercalate ", " names

def message : RestrictionError → String
  | scopeNotSupported constraint permitted =>
    "resource type '" ++ constraint ++ "' is not a supported Kubernetes constraint, permitted: "
      ++ joinNames permitted
  | constraintNotSupported constraint permitted =>
    "constraint '" ++ constraint ++ "' is not supported, permitted: " ++ joinNames permitted
  | namespaceMissing => "role must declare a 'namespace' constraint"
  | constraintMissing constraint =>
    "role is missing required constraint '" ++ constraint ++ "'"
  | exclusiveConstraints constraints =>
    "illegal constraint combination: " ++ joinNames constraints
  | malformedHostId hostId => "invalid host id '" ++ hostId ++ "'"
  | malformedResourcePath claim reason =>
    "failed to parse xms_mirid '" ++ claim ++ "': " ++ reason
  | providerFieldsMissing claim => "xms_mirid '" ++ claim ++ "' is missing provider fields"
  | tokenFieldMissing field => "token field '" ++ field ++ "' not found or empty"
  | restrictionUnmet constraint =>
    "resource restriction '" ++ constraint ++ "' does not match the request"
  | roleNotFound roleId => "role '" ++ roleId ++ "' not found"
  | serviceUnavailable reason => "service unavailable: " ++ reason
  | internal reason => "internal error: " ++ reason

def isConfigurationError : RestrictionError → Bool
  | scopeNotSupported .. | constraintNotSupported .. | namespaceMissing | constraintMissing _
  | exclusiveConstraints _ | malformedHostId _ => true
  | _ => false

end RestrictionError

end WorkloadGuard
