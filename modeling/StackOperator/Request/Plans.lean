import StackOperator.Request.Resources
import StackOperator.Children.Objects
import StackOperator.Deployable.App
import StackOperator.Deployable.Keycloak
import StackOperator.Deployable.Database

/-!
# Requests about deployment plans

A plan shows what the deploy pipeline would create for a deployable: its
names, Secrets, ServiceAccount, volume claims, Service, Ingress and
Deployment, and for each container the capabilities it opts into. The
objects are built from the operator configuration, the image-info config map,
the prepared schemas, an existing Ingress and the CA Secret of the request.
When a plan produces an Ingress, the next deployable of the request merges
its routes into it, as the qualifiers of one resource share one Ingress.

Generated passwords are shown as `<generated>`, and so is any password that
looks generated: 32 lowercase hexadecimal digits.

`custom_plan` plans a deployable assembled from test containers:
containers with a web context are served under it, containers that list
schemas get `Q_URL`, `Q_USERNAME` and `Q_PASSWORD` for each prepared schema
`q` they list, and so on for the CA certificate, a volume and a Keycloak client.
-/

namespace StackOperator.Request

open Json

/-- The password shown for every generated credential. -/
def generatedPassword : String := "<generated>"

/-- Whether a password looks generated: exactly 32 lowercase hexadecimal digits. -/
def looksGenerated (s : String) : Bool :=
  s.length = 32 && s.all fun c => c.isDigit || ('a' ≤ c && c ≤ 'f')

/-- A password as answers show it: one that looks generated is `<generated>`. -/
def shownPassword (key text : String) : String :=
  if key = "password" && looksGenerated text then generatedPassword else text

/-- A Secret as answers show it, its passwords shown as `shownPassword` says,
both in its data and in its string data. -/
def shownSecret (x : K8s.Secret) : K8s.Secret :=
  { x with
    data := x.data.map (KeyMap.mapWithKey fun k bytes =>
      match String.fromUTF8? (ByteArray.mk bytes.toArray) with
      | some t => (shownPassword k t).toUTF8.toList
      | none => bytes)
    stringData := x.stringData.map (KeyMap.mapWithKey shownPassword) }

/-- A Keycloak connection `{base_url, internal_base_url, realm, public_client_id}`. -/
def keycloakConnectionOf (v : Value) : Outcome Keycloak.Connection := do
  let baseUrl ← text v "base_url"
  let internalBaseUrl ← text v "internal_base_url"
  let realm ← text v "realm"
  let publicClientId ← text v "public_client_id"
  pure { baseUrl, internalBaseUrl, realm, publicClientId }

/-- A database connection in its answer form. -/
def connectionOf (v : Value) : Outcome ConnectionInfo := do
  let vendor ← typed Vendor.decode v "vendor"
  let host ← text v "internal_service_hostname"
  let port ← withDefault Decode.i32 v "port" 0
  let databaseName ← text v "database_name"
  let adminSecretName ← text v "admin_secret_name"
  let tablespace ← maybe Decode.string v "tablespace"
  let jdbcParameters ← withDefault strMap v "jdbc_parameters" .empty
  pure { vendor, host, port, databaseName, adminSecretName, tablespace, jdbcParameters }

/-- What the objects of a request's deployables are built from. -/
def deploymentInputs (config : OperatorConfig) (request : Value) : Outcome Children.DeploymentInputs := do
  let images ← resolverOf config request
  let schemaValues ← withDefault (Decode.map pure) request "schemas" .empty
  let schemas ← schemaValues.entries.mapM fun (q, v) => do
    let r ← schemaResultOf v
    pure (q, r)
  let caSecretName ← maybe Decode.string request "ca_secret_name"
  pure { config, images, schemas := KeyMap.ofList schemas, caSecretName }

/-- The answer form of a Keycloak connection. -/
def keycloakConnectionValue (c : Keycloak.Connection) : Value :=
  .object [("base_url", .str c.baseUrl), ("internal_base_url", .str c.internalBaseUrl),
    ("realm", .str c.realm), ("public_client_id", .str c.publicClientId)]

/-- The answer form of a client's desired state. -/
def clientValue (c : Keycloak.ClientConfig) : Value :=
  .object [("realm", .str c.realm), ("client_id", .str c.clientId), ("client_name", .str c.clientName),
    ("redirect_uris", .ofStrs c.redirectUris), ("web_origins", .ofStrs c.webOrigins),
    ("roles", .arr (c.roles.map fun r => .object [("code", .str r.code), ("name", .str r.name)])),
    ("permissions", .arr (c.permissions.map fun p =>
      .object [("client_id", .str p.clientId), ("role", .str p.role)]))]

/-- The answer form of a planned container. -/
def containerValue (d : Deployable) (inputs : Children.DeploymentInputs) (c : ContainerPlan) : Value :=
  .object [("qualifier", .str c.qualifier), ("image_repository", .str c.imageRepository),
    ("custom_image", .ofOptStr c.customImage), ("port", .ofInt c.port),
    ("memory", .ofInt c.memoryMi), ("cpu", .ofInt c.cpuMillis),
    ("ingressing", match c.ingressing with
      | some w => .object [("web_context", .str w.path), ("health_check", .str w.healthCheck)]
      | none => .null),
    ("db_schemas", match c.schemas with
      | some s => .ofStrs s.qualifiers
      | none => .null),
    ("tls_mount", .ofOptStr c.caMount),
    ("persistent", match c.volume with
      | some v => .object [("mount_path", .str v.mountPath), ("storage_size", .str v.size),
          ("storage_class", .ofOptStr v.storageClass)]
      | none => .null),
    ("keycloak", match c.keycloak with
      | some k => .object [("connection", keycloakConnectionValue k.connection),
          ("client", clientValue k.client)]
      | none => .null),
    ("keycloak_variables", .arr ((Children.keycloakVariables c).map (·.toValue))),
    ("resources", match Children.resourceRequirements c inputs.config with
      | some r => r.toValue
      | none => .null),
    ("pvc_name", .str (d.claimName c))]

/-- The plan of a deployable with the Ingress it merges into, and the Ingress it produces. -/
def planOf (d : Deployable) (inputs : Children.DeploymentInputs) (existing : Option K8s.Ingress) :
    Value × Option K8s.Ingress :=
  let ingress := d.ingress.bind fun req => Children.ingress d req existing
  let account : Value := match d.serviceAccount with
    | none => .null
    | some req =>
      let (sa, rbac) := Children.accountObjects d.owner d.qualifier req
      .object [("account", sa.toValue),
        ("role", match rbac with | some (r, _) => r.toValue | none => .null),
        ("binding", match rbac with | some (_, b) => b.toValue | none => .null)]
  (.object [("qualifier", .str d.qualifier), ("replicas", .ofInt d.replicas),
      ("deployment_name", .str d.deploymentName), ("service_name", .str d.serviceName),
      ("storage_class", .ofOptStr d.storageClass),
      ("ingress_requirements", match d.ingress with
        | some r => ingressValue r
        | none => .null),
      ("database", match d.database with
        | some c => connectionValue c
        | none => .null),
      ("secrets", .arr (d.secrets.map (·.toValue))),
      ("service_account", account),
      ("pvcs", .arr ((Children.claims d inputs.config).map (·.toValue))),
      ("service", (Children.service d).toValue),
      ("ingress", match ingress with
        | some i => i.toValue
        | none => .null),
      ("deployment", (Children.deployment d inputs).toValue),
      ("containers", .arr (d.containers.map (containerValue d inputs)))],
    ingress <|> existing)

/-- The plans of deployables in turn, each merging its routes into the Ingress before it. -/
def plansOf (inputs : Children.DeploymentInputs) : Option K8s.Ingress → List Deployable → List Value
  | _, [] => []
  | existing, d :: rest =>
    let (v, next) := planOf d inputs existing
    v :: plansOf inputs next rest

/-- The variables of a test container for the prepared schemas it lists, in key order. -/
def listedSchemaVariables (listed : List String) (schemas : KeyMap SchemaResult) : List K8s.EnvVar :=
  (schemas.entries.filter fun (q, _) => listed.contains q).flatMap fun (q, r) =>
    let pfx := AppPlan.asciiUpper q
    [.plain (pfx ++ "_URL") r.jdbcUrl, r.usernameVariable (pfx ++ "_USERNAME"),
     r.passwordVariable (pfx ++ "_PASSWORD")]

/-- A `{name, value}` pair as a plain variable. -/
def plainVariable (v : Value) : Outcome K8s.EnvVar := do
  let name ← text v "name"
  let value ← text v "value"
  pure (.plain name value)

/-- A test container. -/
def testContainer (v : Value) : Outcome ContainerPlan := do
  let qualifier ← withDefault Decode.string v "qualifier" "server"
  let imageRepository ← withDefault Decode.string v "image_repository" "entando/test-image"
  let customImage ← maybe Decode.string v "custom_image"
  let port ← withDefault Decode.i64 v "port" 8080
  let memoryMi ← withDefault Decode.i64 v "memory" 768
  let cpuMillis ← withDefault Decode.i64 v "cpu" 500
  let envValues ← withDefault (Decode.list pure) v "env" []
  let env ← envValues.mapM plainVariable
  let webContext ← maybe Decode.string v "web_context"
  let listed ← withDefault (Decode.list Decode.string) v "db_schemas" []
  let tls ← withDefault Decode.bool v "tls" false
  let volume ← match member v "persistent" with
    | .null => pure none
    | p => do
      let mountPath ← text p "mount_path"
      let storageClass ← maybe Decode.string p "storage_class"
      pure (some { mountPath, storageClass : VolumeNeeds })
  let keycloak ← match member v "keycloak" with
    | .null => pure none
    | k => do
      let connection ← keycloakConnectionOf (member k "connection")
      let clientId ← text k "client_id"
      let clientName ← maybe Decode.string k "client_name"
      pure (some { connection,
                   client := { realm := connection.realm, clientId,
                               clientName := clientName.getD clientId } : KeycloakAccess })
  pure { qualifier, imageRepository, customImage, port, memoryMi, cpuMillis, env,
         ingressing := webContext.map fun path => { path },
         schemas := if listed.isEmpty then none
           else some { qualifiers := listed, connect := listedSchemaVariables listed },
         caMount := if tls then some defaultCaMount else none, volume, keycloak }

/-- A deployable assembled from test containers. -/
def testDeployable (v : Value) : Outcome Deployable := do
  let owner ← reference (member v "owner")
  let qualifier ← withDefault Decode.string v "qualifier" "server"
  let replicas ← withDefault Decode.i32 v "replicas" 1
  let containerValues ← withDefault (Decode.list pure) v "containers" []
  let containers ← containerValues.mapM testContainer
  let serviceAccount ← match member v "service_account" with
    | .null => pure none
    | a => do
      let name ← text a "name"
      let rules ← typedOr (Decode.list K8s.PolicyRule.decode) a "rules" []
      pure (some (⟨name, rules⟩ : Children.AccountRequest))
  let database ← match member v "database" with
    | .null => pure none
    | c => some <$> connectionOf c
  let ingress ← match member v "ingress" with
    | .null => pure none
    | i => do
      let ingressName ← text i "ingress_name"
      let host ← text i "host"
      let tlsSecretName ← maybe Decode.string i "tls_secret_name"
      pure (some { ingressName, host, tlsSecretName : IngressRequirements })
  let storageClass ← maybe Decode.string v "storage_class"
  pure { owner, qualifier, replicas, containers, serviceAccount, database, ingress, storageClass }

/-- The Ingress a request's plans start from. -/
def existingIngress (request : Value) : Outcome (Option K8s.Ingress) :=
  typedMaybe K8s.Ingress.decode request "existing_ingress"

/-- The plan of a deployable of test containers. -/
def customPlan (request : Value) : Outcome Value := do
  let config ← configOf request
  let inputs ← deploymentInputs config request
  let existing ← existingIngress request
  let d ← testDeployable (member request "deployable")
  pure (planOf d inputs existing).1

/-- The plans of an application's three qualifiers, chained through their Ingress. -/
def appPlan (request : Value) : Outcome Value := do
  let config ← configOf request
  let app : App ← resourceOf AppSpec.decode (member request "resource")
  let inputs ← deploymentInputs config request
  let existing ← existingIngress request
  let database ← match member request "database" with
    | .null => pure ConnectionInfo.embedded
    | c => connectionOf c
  let keycloak ← keycloakConnectionOf (member request "keycloak")
  let ingress ← ofExcept (app.ingress config)
  let context : AppPlan.Context := { app, database, keycloak, config }
  let server ← ofExcept context.server
  let appBuilder ← ofExcept context.appBuilder
  let componentManager ← ofExcept context.componentManager
  let name := app.name
  let permission := AppPlan.superuserPermission name
  pure (.object [("ingress", ingressValue ingress),
    ("effective_dbms", .str (config.effectiveDbms app.spec.dbms).name),
    ("server_client_id", .str (Names.serverClientId name)),
    ("component_manager_client_id", .str (Names.componentManagerClientId name)),
    ("superuser_permission",
      .object [("client_id", .str permission.clientId), ("role", .str permission.role)]),
    ("qualifiers", .arr (plansOf inputs existing [server, appBuilder, componentManager]))])

/-- The plan of a Keycloak server. -/
def keycloakPlan (request : Value) : Outcome Value := do
  let config ← configOf request
  let server : KeycloakServer ← resourceOf KeycloakServerSpec.decode (member request "resource")
  let inputs ← deploymentInputs config request
  let requested ← typed (Decode.option Vendor.decode) request "dbms"
  let dbms := requested.getD (config.effectiveDbms server.spec.dbms)
  let database ← match member request "database" with
    | .null => pure none
    | c => some <$> connectionOf c
  let ingress ← ofExcept (server.ingress config)
  let d ← ofExcept (KeycloakPlan.deployable server dbms database config fun _ => generatedPassword)
  let owner := server.reference
  pure (.object [("ingress", ingressValue ingress), ("dbms", .str dbms.name),
    ("internal_base_url", .str (Names.keycloakInternalBaseUrl owner.name owner.ns)),
    ("admin_secret", (KeycloakPlan.adminSecret owner fun _ => generatedPassword).toValue),
    ("plan", (planOf d inputs none).1)])

/-- The plan of a database server deployed for an owner. -/
def databasePlan (request : Value) : Outcome Value := do
  let config ← configOf request
  let inputs ← deploymentInputs config request
  let owner ← reference (member request "owner")
  let vendor ← typed Vendor.decode request "vendor"
  let databaseName ← maybe Decode.string request "database_name"
  let storageClass ← maybe Decode.string request "storage_class"
  let envValues ← withDefault (Decode.list pure) request "env" []
  let env ← envValues.mapM plainVariable
  let p ← ofExcept (DatabasePlan.make owner vendor databaseName storageClass env fun _ => generatedPassword)
  pure (.object [("service_name", .str p.serviceName), ("connection", connectionValue p.connection),
    ("plan", (planOf p.deployable inputs none).1)])

end StackOperator.Request
