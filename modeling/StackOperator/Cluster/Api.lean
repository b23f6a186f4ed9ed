import StackOperator.Cluster.Store
import StackOperator.K8s.Workload
import StackOperator.K8s.Network
import StackOperator.K8s.Access
import StackOperator.K8s.Storage
import StackOperator.Keycloak.Basic
import StackOperator.Resource.KeycloakServer
import StackOperator.Resource.DatabaseService

/-!
# What the operator talks to

The operator needs a few dozen calls of the Kubernetes API and of the
Keycloak admin API. `ClusterApi n` and `SsoConnector n` are those calls over
a base monad `n`; every call may fail with an operator `Error`, which is why
each returns in `ExceptT Error n`. A `Backend` bundles both.

The operator's passes are written against a `Backend`, so the same passes
run against the simulated cluster (`Cluster.World`) and against servers
that cannot be reached (`Backend.unreachable`).
-/

namespace StackOperator.Cluster

open K8s

/-- The key of an object from its metadata: its namespace, and its name or name prefix. -/
def keyOf (m : ObjectMeta) : ObjectKey := ⟨m.ns.getD "", (m.name <|> m.generateName).getD ""⟩

/-- The name of an object, or its name prefix. -/
def nameOf (m : ObjectMeta) : String := (keyOf m).name

/-- The Kubernetes API calls the operator makes. -/
structure ClusterApi (n : Type → Type) where
  loadSecret : String → String → ExceptT Error n (Option Secret)
  /-- Create a Secret unless one of its name exists; the stored Secret. -/
  createSecretIfAbsent : Secret → ExceptT Error n Secret
  loadConfigMap : String → String → ExceptT Error n (Option ConfigMap)
  /-- Create a volume claim unless one of its name exists; the stored claim. -/
  applyPvc : PersistentVolumeClaim → ExceptT Error n PersistentVolumeClaim
  applyServiceAccount : ServiceAccount → ExceptT Error n ServiceAccount
  applyRole : Role → ExceptT Error n Role
  applyRoleBinding : RoleBinding → ExceptT Error n RoleBinding
  applyService : Service → ExceptT Error n Service
  loadIngress : String → String → ExceptT Error n (Option Ingress)
  applyIngress : Ingress → ExceptT Error n Ingress
  applyDeployment : Deployment → ExceptT Error n Deployment
  loadDeployment : String → String → ExceptT Error n (Option Deployment)
  /-- The pods of a namespace that a label selector matches. -/
  listPods : String → String → ExceptT Error n (List Pod)
  createJob : Job → ExceptT Error n Job
  loadJob : String → String → ExceptT Error n (Option Job)
  /-- Delete the Jobs of a namespace that a label selector matches. -/
  deleteJobs : String → String → ExceptT Error n Unit
  listDatabaseServices : String → ExceptT Error n (List DatabaseService)
  loadKeycloakServer : String → String → ExceptT Error n (Option KeycloakServer)
  listKeycloakServers : ExceptT Error n (List KeycloakServer)
  /-- The status of a custom resource, empty when it has none. -/
  loadStatus : Reference → ExceptT Error n ResourceStatus
  /-- Write the status of one qualifier of a custom resource. -/
  updateServerStatus : Reference → ServerStatus → ExceptT Error n Unit
  /-- Write the phase of a custom resource and, when given, the generation it reflects. -/
  updatePhase : Reference → Phase → Option Int → ExceptT Error n Unit

/-- A logged-in Keycloak admin session. -/
structure SsoClient (n : Type → Type) where
  ensureRealm : String → ExceptT Error n Unit
  /-- Create the public browser client `clientId` of a realm for a domain. -/
  createPublicClient : (realm clientId domain : String) → ExceptT Error n Unit
  /-- Create or update a confidential client and return its secret. -/
  prepareClient : Keycloak.ClientConfig → ExceptT Error n String
  /-- Bring an existing confidential client up to date with its configuration. -/
  updateClient : Keycloak.ClientConfig → ExceptT Error n Unit
  /-- Grant a role of another client to the service account of `clientId`. -/
  assignRole : (realm clientId : String) → Keycloak.Permission → ExceptT Error n Unit

/-- Logging in to Keycloak servers. -/
structure SsoConnector (n : Type → Type) where
  login : (baseUrl username password : String) → ExceptT Error n (SsoClient n)

/-- Everything the operator talks to. -/
structure Backend (n : Type → Type) where
  cluster : ClusterApi n
  sso : SsoConnector n

end StackOperator.Cluster
