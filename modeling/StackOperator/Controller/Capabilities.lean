import StackOperator.Deploy.Command
import StackOperator.Deployable.Database
import StackOperator.Resource.App

/-!
# The database and Keycloak a resource depends on

A resource that needs a database server gets the one of an
`EntandoDatabaseService` of the requested vendor in its namespace, once that
service has deployed successfully; without such a service the operator
deploys a server of its own for the resource, as its `db` qualifier. An
embedded database needs nothing.

A resource that authenticates through Keycloak uses the server its
`keycloakToUse` names, or else the one marked as the default. The server
must have been deployed already: its status says where it is served and
which Secret holds its admin credentials, with which the operator logs in.
-/

namespace StackOperator.Controller

open Cluster Deploy

section
variable {n : Type → Type} [Monad n]

/-- The image resolver over the image-info ConfigMap as it is now; a missing
ConfigMap only means there are no per-image entries. -/
def imageResolver (api : ClusterApi n) (config : OperatorConfig) : ExceptT Error n ImageResolver := do
  let data := ((← api.loadConfigMap config.operatorNamespace config.imageInfoConfigMap).bind (·.data)).elim [] (·.entries)
  pure (ImageResolver.ofConfig config data)

/-- The database `owner` keeps its schemas on, for a vendor. -/
def resolveDatabase (api : ClusterApi n) (rt : Runtime) (images : ImageResolver) (owner : K8s.Reference)
    (vendor : Vendor) (storageClass : Option String) : ExceptT Error n ConnectionInfo := do
  if !vendor.isExternalServer then return ConnectionInfo.embedded
  let services ← api.listDatabaseServices owner.ns
  let candidates := services.filter (·.spec.dbms == vendor)
  match candidates.find? (·.isReady) with
  | some dbs => liftExcept dbs.connection
  | none =>
    match candidates with
    | dbs :: _ =>
      let phase := ((dbs.status.bind (·.phase)).map (·.name)).getD "unknown"
      throw (.config ("EntandoDatabaseService " ++ owner.ns ++ "/" ++ dbs.name ++ " for " ++ vendor.name ++
        " is not available yet (phase " ++ phase ++ ")"))
    | [] =>
      let plan ← liftExcept (DatabasePlan.make owner vendor none storageClass [] rt.password)
      let _ ← execute api rt images plan.deployable none
      pure plan.connection

end

/-- A Keycloak server chosen for a resource, and where its admin credentials are. -/
structure ResolvedKeycloak where
  connection : Keycloak.Connection
  adminSecretNamespace : String
  adminSecretName : String

/-- How a resource reaches a deployed Keycloak server, with the realm and
public client its `keycloakToUse` asks for. -/
def keycloakConnection (server : KeycloakServer) (toUse : Option KeycloakToUse) :
    Except Error ResolvedKeycloak := do
  let name := server.name
  let ns := server.ns
  let status := server.status.bind (·.serverStatus? "server")
  match status.bind (·.externalBaseUrl) with
  | none => throw (.config ("EntandoKeycloakServer " ++ ns ++ "/" ++ name ++ " has not been deployed yet"))
  | some baseUrl =>
    pure { connection := { baseUrl, internalBaseUrl := Names.keycloakInternalBaseUrl name ns,
                           realm := (toUse.bind (·.realm)).getD Keycloak.defaultRealm,
                           publicClientId := (toUse.bind (·.publicClientId)).getD Keycloak.defaultPublicClient },
           adminSecretName := (status.bind (·.adminSecretName)).getD (Names.adminSecretName name),
           adminSecretNamespace := ns }

/-- The Keycloak server `keycloakToUse` names (in its namespace, else `ns`),
or the default one when it names none. -/
def resolveKeycloak {n : Type → Type} [Monad n] (api : ClusterApi n) (ns : String)
    (toUse : Option KeycloakToUse) : ExceptT Error n ResolvedKeycloak := do
  let server ← match toUse.bind (·.name) with
    | some name => do
      let serverNs := (toUse.bind (·.ns)).getD ns
      match ← api.loadKeycloakServer serverNs name with
      | some s => pure s
      | none => throw (.config ("EntandoKeycloakServer " ++ serverNs ++ "/" ++ name ++ " does not exist"))
    | none => do
      match (← api.listKeycloakServers).find? (·.spec.isDefault) with
      | some s => pure s
      | none => throw (.config
          "no keycloakToUse was specified and no EntandoKeycloakServer is marked as default")
  liftExcept (keycloakConnection server toUse)

/-- Log in to a Keycloak server with the credentials of its admin Secret. -/
def login {n : Type → Type} [Monad n] (b : Backend n) (internalBaseUrl secretNs secretName : String) :
    ExceptT Error n (SsoClient n) := do
  let secret ← match ← b.cluster.loadSecret secretNs secretName with
    | some s => pure s
    | none => throw (.config ("Keycloak admin secret " ++ secretNs ++ "/" ++ secretName ++ " does not exist"))
  let credential (key : String) : ExceptT Error n String :=
    match secret.value key with
    | some v => pure v
    | none => throw (.config ("Keycloak admin secret " ++ secretNs ++ "/" ++ secretName ++ " has no " ++ key))
  let username ← credential "username"
  let password ← credential "password"
  b.sso.login internalBaseUrl username password

/-- Log in to a resolved Keycloak server. -/
def loginResolved {n : Type → Type} [Monad n] (b : Backend n) (k : ResolvedKeycloak) :
    ExceptT Error n (SsoClient n) :=
  login b k.connection.internalBaseUrl k.adminSecretNamespace k.adminSecretName

end StackOperator.Controller
