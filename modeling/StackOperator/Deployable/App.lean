import StackOperator.Deployable.Basic
import StackOperator.Resource.App

/-!
# The qualifiers of an application

An application is deployed as three qualifiers behind one Ingress, all
authenticating against the same Keycloak realm:

* `server`, the application server, which keeps its data on a volume and
  needs the `portdb` and `servdb` schemas;
* `ab`, the App Builder UI;
* `cm`, the component manager, which needs the `dedb` schema and deploys
  bundles, so it runs as a ServiceAccount with rights on the operator's
  resources of its namespace.
-/

namespace StackOperator.AppPlan

/-- The web context of the application server unless the application names one. -/
def serverContext : String := "/entando-de-app"
/-- The web context of the App Builder. -/
def appBuilderContext : String := "/app-builder/"
/-- The web context of the component manager. -/
def componentManagerContext : String := "/digital-exchange"

/-- The client role the component manager needs on the server's client. -/
def superuserRole : String := "superuser"

/-- The ServiceAccount the component manager runs as unless the application names one. -/
def defaultDeployerAccount : String := "entando-deployer"

/-- The permission granted to the component manager once both are deployed. -/
def superuserPermission (app : String) : Keycloak.Permission :=
  ⟨Names.serverClientId app, superuserRole⟩

/-- The variables connecting the application server to one schema, named from `pfx`. -/
def schemaVariables (pfx : String) (s : SchemaResult) : List K8s.EnvVar :=
  [.plain (pfx ++ "_URL") s.jdbcUrl, s.usernameVariable (pfx ++ "_USERNAME"),
   s.passwordVariable (pfx ++ "_PASSWORD"),
   .plain (pfx ++ "_CONNECTION_CHECKER") s.connectionChecker,
   .plain (pfx ++ "_EXCEPTION_SORTER") s.exceptionSorter]

/-- ASCII letters in upper case. -/
def asciiUpper (s : String) : String := String.ofList (s.toList.map Char.toUpper)

/-- Everything resolved for an application before its qualifiers are built. -/
structure Context where
  app : App
  database : ConnectionInfo
  keycloak : Keycloak.Connection
  config : OperatorConfig

namespace Context

/-- The application's identity. -/
def owner (c : Context) : K8s.Reference := c.app.reference

/-- The web context of the server: the application's ingress path unless empty. -/
def webContext (c : Context) : String :=
  (c.app.spec.ingressPath.filter (· ≠ "")).getD serverContext

/-- A qualifier with the application's route and storage class. -/
def base (c : Context) (qualifier : String) : Except Error Deployable := do
  let ingress ← c.app.ingress c.config
  pure { owner := c.owner, qualifier, ingress := some ingress, storageClass := c.app.spec.storageClass }

/-- `server`: the application server. -/
def server (c : Context) : Except Error Deployable := do
  let d ← c.base "server"
  let ingress ← c.app.ingress c.config
  let spec := c.app.spec
  let jee := spec.standardServerImage.getD (match c.config.complianceMode with
    | .redhat => .eap
    | .community => .wildfly)
  let appName := c.app.name
  let baseUrl := ingress.externalBaseUrl
  let container : ContainerPlan :=
    { qualifier := "server", imageRepository := jee.imageRepository,
      customImage := spec.customServerImage, port := 8080, memoryMi := 1792, cpuMillis := 1500,
      env := .plain "ENTANDO_WEB_CONTEXT" c.webContext :: spec.environmentVariables.map (·.toEnv),
      ingressing := some { path := c.webContext },
      schemas := some { qualifiers := ["portdb", "servdb"],
                        connect := fun schemas =>
                          (schemas.entries.filter fun (q, _) => q = "portdb" ∨ q = "servdb").flatMap
                            fun (q, s) => schemaVariables (asciiUpper q) s },
      caMount := some defaultCaMount,
      volume := some { mountPath := "/entando-data", storageClass := spec.storageClass },
      keycloak := some { connection := c.keycloak,
                         client := { realm := c.keycloak.realm, clientId := Names.serverClientId appName,
                                     clientName := "Entando App " ++ appName,
                                     redirectUris := [baseUrl ++ c.webContext ++ "/*"],
                                     webOrigins := [baseUrl],
                                     roles := [⟨superuserRole, "Superuser"⟩] } } }
  pure { d with replicas := spec.replicas, database := some c.database, containers := [container] }

/-- `ab`: the App Builder UI. -/
def appBuilder (c : Context) : Except Error Deployable := do
  let d ← c.base "ab"
  let container : ContainerPlan :=
    { qualifier := "ab", imageRepository := "entando/app-builder", port := 8081, memoryMi := 512,
      cpuMillis := 500,
      env := [.plain "DOMAIN" c.webContext, .plain "KEYCLOAK_URL" c.keycloak.baseUrl,
              .plain "KEYCLOAK_REALM" c.keycloak.realm,
              .plain "KEYCLOAK_CLIENT_ID" c.keycloak.publicClientId],
      -- the context root redirects to the login page
      ingressing := some { path := appBuilderContext,
                           healthCheck := appBuilderContext ++ "favicon-entando.png" },
      caMount := some defaultCaMount }
  pure { d with containers := [container] }

/-- The rules of the component manager on the operator's resources. -/
def deployerRules : List K8s.PolicyRule :=
  [{ apiGroups := some ["entando.org"], resources := some ["*"],
     verbs := ["get", "list", "watch", "create", "update", "patch", "delete"] }]

/-- `cm`: the component manager. -/
def componentManager (c : Context) : Except Error Deployable := do
  let d ← c.base "cm"
  let ingress ← c.app.ingress c.config
  let owner := c.owner
  let baseUrl := ingress.externalBaseUrl
  let serverService := Names.standardName owner.name "server" Names.serviceSuffix
  let serverUrl := "http://" ++ Names.internalHostname serverService owner.ns ++ ":8080" ++ c.webContext
  let container : ContainerPlan :=
    { qualifier := "cm", imageRepository := "entando/entando-component-manager", port := 8083,
      memoryMi := 768, cpuMillis := 750,
      env := [.plain "SERVER_SERVLET_CONTEXT_PATH" componentManagerContext,
              .plain "ENTANDO_APP_NAME" owner.name, .plain "ENTANDO_URL" serverUrl,
              .plain "SPRING_SECURITY_OAUTH2_CLIENT_PROVIDER_OIDC_ISSUER_URI"
                (c.keycloak.baseUrl ++ "/realms/" ++ c.keycloak.realm)],
      ingressing := some { path := componentManagerContext },
      schemas := some { qualifiers := ["dedb"],
                        connect := fun schemas =>
                          match KeyMap.get? schemas "dedb" with
                          | none => []
                          | some s => [.plain "SPRING_DATASOURCE_URL" s.jdbcUrl,
                                       s.usernameVariable "SPRING_DATASOURCE_USERNAME",
                                       s.passwordVariable "SPRING_DATASOURCE_PASSWORD"] },
      caMount := some defaultCaMount,
      keycloak := some { connection := c.keycloak,
                         client := { realm := c.keycloak.realm,
                                     clientId := Names.componentManagerClientId owner.name,
                                     clientName := "Entando Component Manager " ++ owner.name,
                                     redirectUris := [baseUrl ++ componentManagerContext ++ "/*"],
                                     webOrigins := [baseUrl] } } }
  let account := (c.app.spec.serviceAccountToUse).getD defaultDeployerAccount
  pure { d with database := some c.database, serviceAccount := some ⟨account, deployerRules⟩,
                containers := [container] }

end Context

end StackOperator.AppPlan
