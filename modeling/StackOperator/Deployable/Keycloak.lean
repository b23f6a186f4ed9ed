import StackOperator.Deployable.Basic
import StackOperator.Resource.KeycloakServer

/-!
# The deployable of a Keycloak server

A Keycloak server runs as qualifier `server`, served under `/auth`. Its admin
credentials are kept in `<name>-admin-secret`, created once with a generated
password. With an external DBMS it needs the `db` schema; otherwise it keeps
an embedded H2 store on a volume.
-/

namespace StackOperator.KeycloakPlan

/-- The qualifier of a Keycloak server. -/
def qualifier : String := "server"

/-- The web context of a Keycloak server. -/
def context : String := "/auth"

/-- The user name stored in a new admin Secret. -/
def adminUser : String := "entando_keycloak_admin"

/-- The database vendor name Keycloak uses for a DBMS. -/
def dbVendor : Vendor → String
  | .mysql => "mysql"
  | .postgresql => "postgres"
  | .oracle => "oracle"
  | .embedded | .none => "h2"

/-- The variables connecting Keycloak to its `db` schema. On MySQL the schema is the database. -/
def schemaVariables (schemas : KeyMap SchemaResult) : List K8s.EnvVar :=
  match KeyMap.get? schemas "db" with
  | none => []
  | some s =>
    let database := if s.vendor = .mysql then s.schemaName else s.databaseName
    [.plain "DB_VENDOR" (dbVendor s.vendor), .plain "DB_ADDR" s.host, .plain "DB_PORT" (toString s.port),
     .plain "DB_DATABASE" database, .plain "DB_SCHEMA" s.schemaName,
     s.usernameVariable "DB_USER", s.passwordVariable "DB_PASSWORD"]

/-- The admin Secret of a Keycloak server, with the password generated for it. -/
def adminSecret (owner : K8s.Reference) (passwords : Cluster.ObjectKey → String) : K8s.Secret :=
  let name := Names.adminSecretName owner.name
  K8s.Secret.credentials (owner.ownedMeta name qualifier) adminUser (passwords ⟨owner.ns, name⟩)

/-- The deployable of a Keycloak server on a DBMS, with the database it keeps
its schema on (none for the embedded store). `passwords` gives the generated admin password. -/
def deployable (server : KeycloakServer) (dbms : Vendor) (database : Option ConnectionInfo)
    (config : OperatorConfig) (passwords : Cluster.ObjectKey → String) : Except Error Deployable := do
  let owner := server.reference
  let spec := server.spec
  let image := spec.standardImage.getD (match config.complianceMode with
    | .redhat => .redhatSso
    | .community => .keycloak)
  let ingress ← server.ingress config
  let secret := Names.adminSecretName owner.name
  let external := dbms.isExternalServer
  let env : List K8s.EnvVar :=
    [.fromSecret "KEYCLOAK_USER" secret "username", .fromSecret "KEYCLOAK_PASSWORD" secret "password",
     .plain "PROXY_ADDRESS_FORWARDING" "true"] ++
    (if external then [] else [.plain "DB_VENDOR" (dbVendor dbms)]) ++
    (spec.frontEndUrl.map fun url => [.plain "KEYCLOAK_FRONTEND_URL" url]).getD [] ++
    spec.environmentVariables.map (·.toEnv)
  let container : ContainerPlan :=
    { qualifier, imageRepository := image.imageRepository, customImage := spec.customImage,
      port := 8080, memoryMi := 768, cpuMillis := 1000, env,
      ingressing := some { path := context },
      schemas := if external then some { qualifiers := ["db"], connect := schemaVariables } else none,
      caMount := some defaultCaMount,
      volume := if external then none
        else some { mountPath := "/opt/jboss/keycloak/standalone/data", storageClass := spec.storageClass } }
  pure { owner, qualifier, replicas := spec.replicas, containers := [container],
         secrets := [adminSecret owner passwords], database, ingress := some ingress,
         storageClass := spec.storageClass }

end StackOperator.KeycloakPlan
