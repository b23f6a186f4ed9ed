import StackOperator.Controller.Capabilities
import StackOperator.Deployable.App
import StackOperator.Deployable.Keycloak

/-!
# Deploying the three kinds of resource

* An application (`deployApp`) checks its configuration before writing
  anything: it resolves and logs in to its Keycloak server and resolves its
  route, then its database. It deploys `server`, `ab` and `cm` in that order
  and finally grants the component manager's client the `superuser` role of
  the server's client.
* A Keycloak server (`deployKeycloakServer`) creates its admin Secret first,
  so that it exists before the first login whatever happens to the rest of
  the pass. It deploys, logs in with that Secret, makes sure the realm exists
  and registers the public browser client under its external URL, and
  records the admin Secret and URL in its status.
* A database service (`deployDatabaseService`) either deploys a database
  server or exposes an external one under its `db` Service, after checking
  that the external server is described completely and its admin Secret
  exists.
-/

namespace StackOperator.Controller

open Cluster Deploy

section
variable {n : Type → Type} [Monad n]

/-- Deploy an application. -/
def deployApp (b : Backend n) (rt : Runtime) (app : App) : ExceptT Error n Unit := do
  let owner := app.reference
  let ns := owner.ns
  let config := rt.config
  let api := b.cluster
  let images ← imageResolver api config
  -- configuration checks, before any cluster write
  let sso ← resolveKeycloak api ns app.spec.keycloakToUse
  let client ← loginResolved b sso
  let realm := sso.connection.realm
  let _ ← liftExcept (app.ingress config)
  let dbms := config.effectiveDbms app.spec.dbms
  let database ← resolveDatabase api rt images owner dbms app.spec.storageClass
  let context : AppPlan.Context := { app, database, keycloak := sso.connection, config }
  let server ← liftExcept context.server
  let appBuilder ← liftExcept context.appBuilder
  let componentManager ← liftExcept context.componentManager
  for d in [server, appBuilder, componentManager] do
    let _ ← execute api rt images d (some client)
  let clientId := Names.componentManagerClientId owner.name
  onFailure "KeycloakClient" ns clientId
    (client.assignRole realm clientId (AppPlan.superuserPermission owner.name))

/-- Deploy a Keycloak server. -/
def deployKeycloakServer (b : Backend n) (rt : Runtime) (server : KeycloakServer) : ExceptT Error n Unit := do
  let api := b.cluster
  let owner := server.reference
  let ns := owner.ns
  let config := rt.config
  let _ ← liftExcept (server.ingress config)
  let adminSecret := Names.adminSecretName owner.name
  let _ ← api.createSecretIfAbsent (KeycloakPlan.adminSecret owner rt.password)
  let images ← imageResolver api config
  let dbms := config.effectiveDbms server.spec.dbms
  let database ← if dbms.isExternalServer then
      some <$> resolveDatabase api rt images owner dbms server.spec.storageClass
    else pure none
  let d ← liftExcept (KeycloakPlan.deployable server dbms database config rt.password)
  let result ← execute api rt images d none
  let externalUrl := result.status.externalBaseUrl.map (· ++ KeycloakPlan.context)
  let client ← login b (Names.keycloakInternalBaseUrl owner.name ns) ns adminSecret
  onFailure "KeycloakRealm" ns Keycloak.defaultRealm (client.ensureRealm Keycloak.defaultRealm)
  match externalUrl with
  | some url =>
    onFailure "KeycloakClient" ns Keycloak.defaultPublicClient
      (client.createPublicClient Keycloak.defaultRealm Keycloak.defaultPublicClient url)
  | none => pure ()
  api.updateServerStatus owner { result.status with adminSecretName := some adminSecret, externalBaseUrl := externalUrl }

/-- Deploy a database service. -/
def deployDatabaseService (api : ClusterApi n) (rt : Runtime) (dbs : DatabaseService) :
    ExceptT Error n Unit := do
  let owner := dbs.reference
  let spec := dbs.spec
  if spec.createDeployment then
    let images ← imageResolver api rt.config
    let plan ← liftExcept (DatabasePlan.make owner spec.dbms spec.databaseName spec.storageClass
      (spec.environmentVariables.map (·.toEnv)) rt.password)
    let _ ← execute api rt images plan.deployable none
    return
  -- an external database: validate everything before touching the cluster
  let ns := owner.ns
  let describe := "EntandoDatabaseService " ++ ns ++ "/" ++ owner.name
  let strategy ← match (VendorStrategy.of? spec.dbms).filter (fun _ => spec.dbms.isExternalServer) with
    | some s => pure s
    | none => throw (.config (describe ++ " must name a database server vendor, not " ++ spec.dbms.name))
  let host ← match spec.host.filter (· ≠ "") with
    | some h => pure h
    | none => throw (.config (describe ++ " needs spec.host when createDeployment is false"))
  let secretName ← match spec.secretName with
    | some s => pure s
    | none => throw (.config (describe ++ " needs spec.secretName when createDeployment is false"))
  if (← api.loadSecret ns secretName).isNone then
    throw (.config ("admin secret " ++ ns ++ "/" ++ secretName ++ " of EntandoDatabaseService " ++
      owner.name ++ " does not exist"))
  let service ← api.applyService (dbs.externalService host (spec.port.getD strategy.defaultPort))
  let serviceName := nameOf service.metadata
  let status : ServerStatus :=
    { ServerStatus.startedAt DatabasePlan.qualifier .db rt.now with
      servicePhases := .singleton serviceName "Active", serviceName := some serviceName,
      adminSecretName := some secretName }
  api.updateServerStatus owner (status.finish rt.now)

end

end StackOperator.Controller
