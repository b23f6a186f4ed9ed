import StackOperator.K8s.Meta
import StackOperator.K8s.Shapes

/-!
# Pods and their containers

The parts of a pod template the operator writes: containers with their
image, ports, environment, resource limits, probes and volume mounts, and the
volumes of the pod. A pod as read back from the cluster is reduced to its
phase and conditions, which decide whether it is ready.
-/

namespace StackOperator.K8s

open Json

/-- Where a variable's value is read from: a key of a Secret. -/
structure SecretKeySelector where
  name : String
  key : String
  optional : Option Bool := none
  deriving DecidableEq, Inhabited, Repr

/-- An environment variable with a literal value or one read from a Secret key. -/
structure EnvVar where
  name : String
  value : Option String := none
  secretKeyRef : Option SecretKeySelector := none
  deriving DecidableEq, Inhabited, Repr

namespace EnvVar

/-- A variable with a literal value. -/
def plain (name value : String) : EnvVar := { name, value := some value }

/-- A variable read from a key of a Secret. -/
def fromSecret (name secret key : String) : EnvVar :=
  { name, secretKeyRef := some { name := secret, key } }

/-- The JSON form of a variable. -/
def toValue (e : EnvVar) : Value :=
  .build [("name", some (.str e.name)), ("value", e.value.map .str),
    ("valueFrom", e.secretKeyRef.map fun s =>
      .object [("secretKeyRef", .build [("key", some (.str s.key)), ("name", some (.str s.name)),
        ("optional", s.optional.map .bool)])])]

end EnvVar

/-- A port a container listens on. -/
structure ContainerPort where
  name : Option String := none
  containerPort : Int
  protocol : Option String := none
  deriving DecidableEq, Inhabited, Repr

/-- The JSON form of a container port. -/
def ContainerPort.toValue (p : ContainerPort) : Value :=
  .build [("containerPort", some (.ofInt p.containerPort)), ("name", p.name.map .str),
    ("protocol", p.protocol.map .str)]

/-- Limits and requests of compute resources, as quantities. -/
structure ResourceRequirements where
  limits : Option (KeyMap String) := none
  requests : Option (KeyMap String) := none
  deriving DecidableEq, Inhabited, Repr

/-- The JSON form of resource requirements. -/
def ResourceRequirements.toValue (r : ResourceRequirements) : Value :=
  .build [("limits", r.limits.map KeyMap.toValue), ("requests", r.requests.map KeyMap.toValue)]

/-- How a probe reaches the container. -/
inductive ProbeAction where
  /-- An HTTP GET of a path on a port. -/
  | httpGet (path : Option String) (port : Int)
  /-- A TCP connection to a port. -/
  | tcpSocket (port : Int)
  deriving DecidableEq, Inhabited, Repr

/-- A startup, readiness or liveness probe. -/
structure Probe where
  action : ProbeAction
  periodSeconds : Option Int := none
  timeoutSeconds : Option Int := none
  failureThreshold : Option Int := none
  deriving DecidableEq, Inhabited, Repr

/-- The JSON form of a probe. -/
def Probe.toValue (p : Probe) : Value :=
  let action : String × Option Value :=
    match p.action with
    | .httpGet path port => ("httpGet", some (.build [("path", path.map .str), ("port", some (.ofInt port))]))
    | .tcpSocket port => ("tcpSocket", some (.object [("port", .ofInt port)]))
  .build [action, ("periodSeconds", p.periodSeconds.map .ofInt),
    ("timeoutSeconds", p.timeoutSeconds.map .ofInt),
    ("failureThreshold", p.failureThreshold.map .ofInt)]

/-- Where a volume is mounted in a container. -/
structure VolumeMount where
  name : String
  mountPath : String
  readOnly : Option Bool := none
  deriving DecidableEq, Inhabited, Repr

/-- The JSON form of a volume mount. -/
def VolumeMount.toValue (m : VolumeMount) : Value :=
  .build [("mountPath", some (.str m.mountPath)), ("name", some (.str m.name)),
    ("readOnly", m.readOnly.map .bool)]

/-- A container of a pod. -/
structure Container where
  name : String
  image : Option String := none
  imagePullPolicy : Option String := none
  command : Option (List String) := none
  args : Option (List String) := none
  ports : Option (List ContainerPort) := none
  env : Option (List EnvVar) := none
  resources : Option ResourceRequirements := none
  startupProbe : Option Probe := none
  readinessProbe : Option Probe := none
  livenessProbe : Option Probe := none
  volumeMounts : Option (List VolumeMount) := none
  /-- Further members, in their stored form, of a container given by a caller. -/
  given : Fields := []
  deriving DecidableEq, Inhabited, Repr

namespace Container

/-- The JSON form of a container. -/
def toValue (c : Container) : Value :=
  .build [("name", some (.str c.name)), ("image", c.image.map .str),
    ("imagePullPolicy", c.imagePullPolicy.map .str),
    ("command", c.command.map .ofStrs), ("args", c.args.map .ofStrs),
    ("ports", c.ports.map fun ps => .arr (ps.map ContainerPort.toValue)),
    ("env", c.env.map fun es => .arr (es.map EnvVar.toValue)),
    ("resources", c.resources.map ResourceRequirements.toValue),
    ("startupProbe", c.startupProbe.map Probe.toValue),
    ("readinessProbe", c.readinessProbe.map Probe.toValue),
    ("livenessProbe", c.livenessProbe.map Probe.toValue),
    ("volumeMounts", c.volumeMounts.map fun ms => .arr (ms.map VolumeMount.toValue))] |>
  fun typed => c.given.foldl (fun v (k, x) => v.insert k x) typed

/-- Read a container given by a caller: it is checked against the API's shape
and kept as given, in its stored form. -/
def decode : Decoder Container := fun v => do
  let stored ← Shapes.container.read v
  let fs := (stored.obj?).getD []
  let name := ((Fields.get? fs "name").bind Value.str?).getD ""
  pure { name, given := Fields.erase fs "name" }

end Container

/-- A volume of a pod: a claim or a Secret. -/
inductive VolumeSource where
  /-- A persistent volume claim, by name. -/
  | claim (claimName : String)
  /-- The keys of a Secret as files. -/
  | secret (secretName : String)
  deriving DecidableEq, Inhabited, Repr

/-- A named volume of a pod. -/
structure Volume where
  name : String
  source : VolumeSource
  deriving DecidableEq, Inhabited, Repr

/-- The JSON form of a volume. -/
def Volume.toValue (v : Volume) : Value :=
  match v.source with
  | .claim c => .object [("name", .str v.name), ("persistentVolumeClaim", .object [("claimName", .str c)])]
  | .secret s => .object [("name", .str v.name), ("secret", .object [("secretName", .str s)])]

/-- The specification of a pod. -/
structure PodSpec where
  containers : List Container
  restartPolicy : Option String := none
  serviceAccountName : Option String := none
  volumes : Option (List Volume) := none
  deriving DecidableEq, Inhabited, Repr

/-- The JSON form of a pod specification. -/
def PodSpec.toValue (s : PodSpec) : Value :=
  .build [("containers", some (.arr (s.containers.map Container.toValue))),
    ("restartPolicy", s.restartPolicy.map .str),
    ("serviceAccountName", s.serviceAccountName.map .str),
    ("volumes", s.volumes.map fun vs => .arr (vs.map Volume.toValue))]

/-- A pod template: the labels and specification of the pods a controller makes. -/
structure PodTemplateSpec where
  metadata : Option ObjectMeta := none
  spec : Option PodSpec := none
  deriving DecidableEq, Inhabited, Repr

/-- The JSON form of a pod template. -/
def PodTemplateSpec.toValue (t : PodTemplateSpec) : Value :=
  .build [("metadata", t.metadata.map ObjectMeta.toValue), ("spec", t.spec.map PodSpec.toValue)]

/-- A condition reported on a pod, such as `Ready`. -/
structure PodCondition where
  type : String
  status : String
  deriving DecidableEq, Inhabited, Repr

/-- What the cluster reports about a pod. -/
structure PodStatus where
  phase : Option String := none
  conditions : Option (List PodCondition) := none
  deriving DecidableEq, Inhabited, Repr

/-- A pod as read back from the cluster. -/
structure Pod where
  metadata : ObjectMeta := {}
  status : Option PodStatus := none
  deriving DecidableEq, Inhabited, Repr

namespace Pod

/-- The JSON form of a pod. -/
def toValue (p : Pod) : Value :=
  .build [("apiVersion", some (.str "v1")), ("kind", some (.str "Pod")),
    ("metadata", some p.metadata.toValue),
    ("status", p.status.map fun st => .build [("phase", st.phase.map .str),
      ("conditions", st.conditions.map fun cs => .arr (cs.map fun c =>
        .object [("type", .str c.type), ("status", .str c.status)]))])]

/-- A pod is ready when it is not being deleted and its `Ready` condition is `True`. -/
def isReady (p : Pod) : Bool :=
  p.metadata.deletionTimestamp.isNone &&
    match p.status.bind (·.conditions) with
    | none => false
    | some cs => cs.any fun c => c.type == "Ready" && c.status == "True"

/-- The reported phase, `Pending` when there is none. -/
def phase (p : Pod) : String := (p.status.bind (·.phase)).getD "Pending"

end Pod

end StackOperator.K8s
