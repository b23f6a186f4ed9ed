import StackOperator.Request.Rules
import StackOperator.Resource.App
import StackOperator.Resource.KeycloakServer
import StackOperator.Resource.DatabaseService

/-!
# Requests about custom resources

A custom resource is given as `{metadata, spec, status}`: the metadata's
name, namespace, uid and generation, the specification in its stored form
(absent means empty) and an optional status. `parse_resource` answers what
the operator derives from a resource; `ingress_requirements` and
`external_service` answer single derivations.
-/

namespace StackOperator.Request

open Json

/-- A custom resource with a specification read by `decodeSpec`. -/
def resourceOf {σ : Type} (decodeSpec : Decoder σ) (v : Value) : Outcome (Resource σ) := do
  let md := member v "metadata"
  let name ← maybe Decode.string md "name"
  let ns ← maybe Decode.string md "namespace"
  let uid ← maybe Decode.string md "uid"
  let generation ← maybe Decode.i64 md "generation"
  let specValue := match member v "spec" with
    | .null => Value.obj []
    | s => s
  let spec ← match decodeSpec specValue with
    | .ok s => pure s
    | .error m => Except.error (Failure.operator (.decode m))
  let status ← match member v "status" with
    | .null => pure none
    | _ => some <$> typed ResourceStatus.decode v "status"
  pure { metadata := { name, ns, uid, generation }, spec, status }

/-- The answer form of a route. -/
def ingressValue (r : IngressRequirements) : Value :=
  .object [("ingress_name", .str r.ingressName), ("host", .str r.host),
    ("tls_secret_name", .ofOptStr r.tlsSecretName), ("scheme", .str r.scheme),
    ("external_base_url", .str r.externalBaseUrl)]

/-- The answer form of a database connection. -/
def connectionValue (c : ConnectionInfo) : Value :=
  .object [("vendor", .str c.vendor.name), ("internal_service_hostname", .str c.host),
    ("port", .ofInt c.port), ("database_name", .str c.databaseName),
    ("admin_secret_name", .str c.adminSecretName), ("tablespace", .ofOptStr c.tablespace),
    ("jdbc_parameters", KeyMap.toValue c.jdbcParameters)]

/-- A result or its error object. -/
def valueOr {α : Type} (f : α → Value) : Except Error α → Value
  | .ok x => f x
  | .error e => errorValue e

/-- The answer form of a resource reference, with its API group and version. -/
def referenceDetail (r : K8s.Reference) : Value :=
  let (group, version) := r.groupVersion
  ((referenceValue r).insert "group" (.str group) |>.insert "version" (.str version)).insert
    "owner_reference" r.ownerReference.toValue

/-- What every kind of resource answers. -/
def resourceSummary {σ : Type} [ResourceKind σ] (now : Instant) (r : Resource σ)
    (spec : σ → Value) : Value :=
  .object [("serialized", r.toValueWith spec), ("reference", referenceDetail r.reference),
    ("is_up_to_date", .bool r.isUpToDate),
    ("status_has_failed", match r.status with | some s => .bool s.hasFailed | none => .null),
    ("failure_backoff_ms", match r.failureBackoffMs now with
      | some ms => .ofInt ms
      | none => .null)]

/-- What the operator derives from a custom resource. -/
def parseResource (now : Instant) (request : Value) : Outcome Value := do
  let config ← configOf request
  let kind ← text request "kind"
  let v := member request "resource"
  match kind with
  | "EntandoApp" =>
    let app : App ← resourceOf AppSpec.decode v
    pure ((resourceSummary now app AppSpec.toValue).insert "effective_ingress"
      (valueOr ingressValue (app.ingress config)))
  | "EntandoKeycloakServer" =>
    let server : KeycloakServer ← resourceOf KeycloakServerSpec.decode v
    pure ((resourceSummary now server KeycloakServerSpec.toValue).insert "effective_ingress"
      (valueOr ingressValue (server.ingress config)))
  | "EntandoDatabaseService" =>
    let dbs : DatabaseService ← resourceOf DatabaseServiceSpec.decode v
    pure ((resourceSummary now dbs DatabaseServiceSpec.toValue).insert "connection"
      (valueOr connectionValue dbs.connection))
  | other => malformed ("unknown kind " ++ other)

/-- The route of an owner with an optional host and certificate. -/
def ingressRequirements (request : Value) : Outcome Value := do
  let config ← configOf request
  let owner ← reference (member request "owner")
  let host ← maybe Decode.string request "host"
  let tls ← maybe Decode.string request "tls_secret_name"
  let r ← ofExcept (IngressRequirements.resolve owner host tls config)
  pure (ingressValue r)

/-- The Service exposing an external database. -/
def externalService (request : Value) : Outcome Value := do
  let dbs : DatabaseService ← resourceOf DatabaseServiceSpec.decode (member request "resource")
  let host ← text request "host"
  let port ← withDefault Decode.i32 request "port" 0
  pure (.object [("service", (dbs.externalService host port).toValue)])

end StackOperator.Request
