import StackOperator.Keycloak.Basic
import StackOperator.Routing
import StackOperator.Database.Connection
import StackOperator.Children.Access
import StackOperator.K8s.Storage
import StackOperator.Cluster.Store

/-!
# Deployables

A `Deployable` is a side-effect free plan for one qualifier of a custom
resource: the containers to run and what each needs from the cluster. The
deploy pipeline turns it into Kubernetes objects.

A container (`ContainerPlan`) has an image, a port and resource limits, and
opts into capabilities:

* served over HTTP behind the Ingress under a web context (`ingressing`);
* needing database schemas, with the variables that connect it to them
  (`schemas`);
* trusting the operator's CA certificate, mounted at a path (`caMount`);
* keeping state on a volume claim (`volume`);
* authenticating through a Keycloak client of its own (`keycloak`).
-/

namespace StackOperator

/-- How a container is served behind the Ingress. -/
structure WebContext where
  path : String
  /-- The path probed for readiness; the web context unless the container says otherwise. -/
  healthCheck : String := path
  deriving DecidableEq, Inhabited, Repr

/-- The schemas a container needs and how the prepared ones become its variables. -/
structure SchemaNeeds where
  qualifiers : List String
  connect : KeyMap SchemaResult → List K8s.EnvVar

/-- The volume claim a container keeps its state on. -/
structure VolumeNeeds where
  mountPath : String
  size : String := "2Gi"
  /-- A storage class that overrides the resource's. -/
  storageClass : Option String := none
  deriving DecidableEq, Inhabited, Repr

/-- The Keycloak server and client a container authenticates through. -/
structure KeycloakAccess where
  connection : Keycloak.Connection
  client : Keycloak.ClientConfig
  deriving DecidableEq, Inhabited, Repr

/-- The mount path of the CA certificate in containers that trust it. -/
def defaultCaMount : String := "/etc/entando/ca"

/-- One container of a deployable. -/
structure ContainerPlan where
  qualifier : String
  imageRepository : String
  /-- A complete image reference that bypasses resolution. -/
  customImage : Option String := none
  port : Int
  memoryMi : Int
  cpuMillis : Int
  env : List K8s.EnvVar := []
  ingressing : Option WebContext := none
  schemas : Option SchemaNeeds := none
  caMount : Option String := none
  volume : Option VolumeNeeds := none
  keycloak : Option KeycloakAccess := none

/-- A qualifier's containers and the infrastructure they need. -/
structure Deployable where
  owner : K8s.Reference
  qualifier : String
  replicas : Int := 1
  containers : List ContainerPlan := []
  /-- Secrets created once and never regenerated. -/
  secrets : List K8s.Secret := []
  serviceAccount : Option Children.AccountRequest := none
  /-- The database the containers get their schemas on. -/
  database : Option ConnectionInfo := none
  ingress : Option IngressRequirements := none
  storageClass : Option String := none

namespace Deployable

/-- `<resource>-<qualifier>-deployment`. -/
def deploymentName (d : Deployable) : String :=
  Names.standardName d.owner.name d.qualifier Names.deploymentSuffix

/-- `<resource>-<qualifier>-service`. -/
def serviceName (d : Deployable) : String :=
  Names.standardName d.owner.name d.qualifier Names.serviceSuffix

/-- The claim of a container: `<resource>-<container qualifier>-pvc`. -/
def claimName (d : Deployable) (c : ContainerPlan) : String :=
  Names.standardName d.owner.name c.qualifier Names.pvcSuffix

/-- Does any container need a Keycloak client? -/
def needsKeycloak (d : Deployable) : Bool := d.containers.any (·.keycloak.isSome)

/-- Does any container trust the CA certificate? -/
def trustsCa (d : Deployable) : Bool := d.containers.any (·.caMount.isSome)

/-- The schemas of all containers, sorted and without repetition. -/
def schemaQualifiers (d : Deployable) : List String :=
  let all := d.containers.flatMap fun c => (c.schemas.map (·.qualifiers)).getD []
  (KeyMap.ofList (all.map fun q => (q, ()))).keys

theorem schemaQualifiers_ascending (d : Deployable) : d.schemaQualifiers.Pairwise (· < ·) :=
  KeyMap.keys_ascending _

end Deployable

end StackOperator
