import StackOperator.Request.Basic
import StackOperator.Names
import StackOperator.Quantity
import StackOperator.Images
import StackOperator.Json.MergePatch
import StackOperator.Database.Connection
import StackOperator.K8s.Workload

/-!
# Requests about naming, settings and single values

Operations that apply one rule of the operator to their inputs: the names of
child objects, SQL identifiers and user names, hashes, scaled quantities, the
compliance mode and effective DBMS, property resolution, image references,
merge patches, database vendors and URLs, and the phases of Jobs and pods.
-/

namespace StackOperator.Request

open Json

/-- The names derived from a resource name, qualifier and suffix. -/
def naming (request : Value) : Outcome Value := do
  let name ← text request "name"
  let qualifier ← text request "qualifier"
  let suffix ← text request "suffix"
  let ns ← text request "namespace"
  let kind ← text request "kind"
  let owner : K8s.Reference := { name, ns, kind }
  pure <| .object [
    ("standard_name", .str (Names.standardName name qualifier suffix)),
    ("ingress_name", .str (Names.ingressName name)),
    ("admin_secret_name", .str (Names.adminSecretName name)),
    ("schema_secret_name", .str (Names.schemaSecretName name qualifier)),
    ("keycloak_client_secret_name", .str (Names.clientSecretName name)),
    ("deployment_label", .str (Names.deploymentLabel name qualifier)),
    ("database_admin_secret_name", .str (Names.databaseAdminSecretName name)),
    ("default_database_name", .str (Names.defaultDatabaseName name)),
    ("server_client_id", .str (Names.serverClientId name)),
    ("component_manager_client_id", .str (Names.componentManagerClientId name)),
    ("superuser_permission", .object [("client_id", .str (Names.serverClientId name)),
      ("role", .str "superuser")]),
    ("internal_hostname", .str (Names.internalHostname name ns)),
    ("keycloak_internal_base_url", .str (Names.keycloakInternalBaseUrl name ns)),
    ("deployment_selector", .str (owner.deploymentSelector qualifier)),
    ("deployment_labels", KeyMap.toValue (owner.deploymentLabels qualifier))]

/-- A name as an SQL identifier. -/
def sanitiseIdentifier (request : Value) : Outcome Value := do
  let s ← text request "s"
  pure (.object [("result", .str (Names.sanitise s))])

/-- The database user name of a schema. -/
def schemaUsername (request : Value) : Outcome Value := do
  let resource ← text request "resource"
  let schema ← text request "schema"
  let maxLen ← need Decode.u64 request "max_len"
  pure (.object [("result", .str (Names.schemaUsername resource schema maxLen))])

/-- The SHA-256 of a text in hexadecimal. -/
def sha256Hex (request : Value) : Outcome Value := do
  let s ← text request "s"
  pure (.object [("result", .str (Text.sha256Hex s))])

/-- A quantity scaled by a ratio. -/
def applyRatio (request : Value) : Outcome Value := do
  let limit ← text request "limit"
  let ratio ← need Decode.f64 request "ratio"
  pure (.object [("result", .ofOptStr (Quantity.scale limit ratio))])

/-- A compliance mode and its default DBMS. -/
def complianceMode (request : Value) : Outcome Value := do
  let s ← text request "s"
  let mode ← ofExcept (ComplianceMode.parse s)
  pure (.object [("mode", .str mode.name), ("default_dbms", .str mode.defaultDbms.name)])

/-- The DBMS used for a requested vendor under a configuration. -/
def effectiveDbms (request : Value) : Outcome Value := do
  let config ← configOf request
  let requested ← typed (Decode.option Vendor.decode) request "requested"
  let dbms := config.effectiveDbms requested
  pure (.object [("dbms", .str dbms.name), ("is_external_server", .bool dbms.isExternalServer)])

/-- A property source from its name. -/
def propertySource : Decoder PropertySource :=
  Decode.variant (PropertySource.all.map fun s => (s.name, s))

/-- A candidate `[source, value or null]`. -/
def candidate : Decoder Property.Candidate
  | .arr [s, v] => do
    let source ← propertySource s
    let value ← Decode.option Decode.string v
    pure (source, value)
  | v => Decode.wrongType v "a tuple of size 2"

/-- The value resolved from candidates of several sources. -/
def propertyResolution (request : Value) : Outcome Value := do
  let candidates ← withDefault (Decode.list candidate) request "candidates" []
  let dflt ← text request "default"
  let resolved : Value :=
    match Property.resolve candidates with
    | some (s, v) => .arr [.str s.name, .str v]
    | none => .null
  pure (.object [("resolved", resolved), ("resolve_or", .str (Property.resolveOr candidates dflt))])

/-- The resolver of a request's configuration and image-info config map. -/
def resolverOf (config : OperatorConfig) (request : Value) : Outcome ImageResolver := do
  let configMap ← withDefault strMap request "config_map" .empty
  pure (ImageResolver.ofConfig config configMap.entries)

/-- Image references of repositories. -/
def imageUri (request : Value) : Outcome Value := do
  let config ← configOf request
  let resolver ← resolverOf config request
  let queries ← withDefault (Decode.list pure) request "queries" []
  let uris ← queries.mapM fun q => do
    let repository ← text q "repository"
    let version ← maybe Decode.string q "version"
    pure (Value.str (resolver.uri repository version))
  pure (.object [("uris", .arr uris)])

/-- The merge patch between two values. -/
def mergeDiff (request : Value) : Outcome Value :=
  pure (.object [("result", (member request "old").mergeDiff (member request "new"))])

/-- What the operator knows of a vendor. -/
def vendor (request : Value) : Outcome Value := do
  let v ← typed Vendor.decode request "vendor"
  let strategy : Value :=
    match VendorStrategy.of? v with
    | none => .null
    | some s => .object [("vendor", .str s.vendor.name), ("default_port", .ofInt s.defaultPort),
        ("admin_user", .str s.adminUser), ("max_username_length", .ofInt s.maxUsernameLength),
        ("connection_checker", .str s.connectionChecker), ("exception_sorter", .str s.exceptionSorter)]
  pure (.object [("display", .str v.name), ("is_external_server", .bool v.isExternalServer),
    ("serialized", .str v.name), ("strategy", strategy)])

/-- The JDBC URL of a schema, null for vendor `none`. -/
def jdbcUrl (request : Value) : Outcome Value := do
  let v ← typed Vendor.decode request "vendor"
  let host ← text request "host"
  let port ← withDefault Decode.i32 request "port" 0
  let database ← text request "database"
  let schema ← text request "schema"
  let parameters ← withDefault strMap request "parameters" .empty
  let url : Value :=
    match VendorStrategy.of? v with
    | none => .null
    | some s => .str (s.jdbcUrl host port database schema parameters)
  pure (.object [("url", url)])

/-- A prepared schema `{vendor, internal_service_hostname, port, database_name,
schema_name, schema_secret_name, jdbc_parameters}`. -/
def schemaResultOf (v : Value) : Outcome SchemaResult := do
  let vendor ← typed Vendor.decode v "vendor"
  let host ← text v "internal_service_hostname"
  let port ← withDefault Decode.i32 v "port" 0
  let databaseName ← text v "database_name"
  let schemaName ← text v "schema_name"
  let schemaSecretName ← maybe Decode.string v "schema_secret_name"
  let jdbcParameters ← withDefault strMap v "jdbc_parameters" .empty
  pure { vendor, host, port, databaseName, schemaName, schemaSecretName, jdbcParameters }

/-- How a container connects to a prepared schema. -/
def schemaResult (request : Value) : Outcome Value := do
  let r ← schemaResultOf (member request "result")
  let var ← text request "var"
  pure (.object [("jdbc_url", .str r.jdbcUrl), ("connection_checker", .str r.connectionChecker),
    ("exception_sorter", .str r.exceptionSorter),
    ("username_variable", (r.usernameVariable var).toValue),
    ("password_variable", (r.passwordVariable var).toValue)])

/-- The phase of a Job with the given counts. -/
def jobPhase (request : Value) : Outcome Value := do
  let succeeded ← maybe Decode.i32 request "succeeded"
  let failed ← maybe Decode.i32 request "failed"
  let active ← maybe Decode.i32 request "active"
  let noStatus ← withDefault Decode.bool request "no_status" false
  let job : K8s.Job := { status := if noStatus then none else some { succeeded, failed, active } }
  pure (.object [("phase", .str job.phase)])

/-- Whether a pod is ready, and its phase. -/
def pod (request : Value) : Outcome Value := do
  let p := member request "pod"
  let phase ← maybe Decode.string p "phase"
  let conditions ← maybe (Decode.list pure) p "conditions"
  let conditions ← conditions.mapM fun cs => cs.mapM fun c => do
    let type ← text c "type"
    let status ← text c "status"
    pure (K8s.PodCondition.mk type status)
  let deleting ← withDefault Decode.bool p "deleting" false
  let noStatus ← withDefault Decode.bool p "no_status" false
  let pod : K8s.Pod :=
    { metadata := { deletionTimestamp := if deleting then some "2020-01-01T00:00:00Z" else none },
      status := if noStatus then none else some { phase, conditions } }
  pure (.object [("ready", .bool pod.isReady), ("phase", .str pod.phase)])

end StackOperator.Request
