import WorkloadGuard.Azure.Restrictions
import WorkloadGuard.Json.Format
import WorkloadGuard.Kubernetes.Restrictions

/-!
# Request documents

Pods and token claims are read as records. The payload of a token is read more strictly: the two
claims must be texts that are not empty, and the error names the first that is not.
-/

namespace WorkloadGuard

open Json (Value)

namespace PodIdentity

def shape : RecordShape :=
  ⟨["namespace", "service_account", "pod", "deployment", "deployment_config", "stateful_set"], true⟩

def toJson (pod : PodIdentity) : Value :=
  .object
    [("namespace", .string pod.podNamespace), ("service_account", .string pod.serviceAccount),
      ("pod", .string pod.pod), ("deployment", .ofNullableText pod.deployment),
      ("deployment_config", .ofNullableText pod.deploymentConfig),
      ("stateful_set", .ofNullableText pod.statefulSet)]

def ofJson (value : Value) : Except DecodeError PodIdentity := do
  let fields ← value.toFields shape
  let podNamespace ← fields.required "namespace" Value.toText
  let serviceAccount ← fields.required "service_account" Value.toText
  let pod ← fields.required "pod" Value.toText
  let deployment ← fields.defaulted "deployment" none Value.toNullableText
  let deploymentConfig ← fields.defaulted "deployment_config" none Value.toNullableText
  let statefulSet ← fields.defaulted "stateful_set" none Value.toNullableText
  return ⟨podNamespace, serviceAccount, pod, deployment, deploymentConfig, statefulSet⟩

end PodIdentity

namespace TokenClaims

def shape : RecordShape :=
  ⟨[resourcePathField, objectIdField], false⟩

def toJson (claims : TokenClaims) : Value :=
  .object
    [(resourcePathField, .string claims.resourcePath), (objectIdField, .string claims.objectId)]

def ofJson (value : Value) : Except DecodeError TokenClaims := do
  let fields ← value.toFields shape
  let resourcePath ← fields.required resourcePathField Value.toText
  let objectId ← fields.required objectIdField Value.toText
  return ⟨resourcePath, objectId⟩

/-- A claim of a token's payload; it must be a text that is not empty. -/
def claimOf (payload : Value) (field : String) : Except RestrictionError String :=
  match payload.member? field with
  | some (.string text) => if text = "" then .error (.tokenFieldMissing field) else .ok text
  | _ => .error (.tokenFieldMissing field)

def ofPayload (payload : Value) : Except RestrictionError TokenClaims := do
  let resourcePath ← claimOf payload resourcePathField
  let objectId ← claimOf payload objectIdField
  return ⟨resourcePath, objectId⟩

end TokenClaims

end WorkloadGuard
