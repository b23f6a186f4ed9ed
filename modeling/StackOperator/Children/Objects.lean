import StackOperator.Deployable.Basic
import StackOperator.Images
import StackOperator.Quantity
import StackOperator.K8s.Workload
import StackOperator.K8s.Network

/-!
# The objects of a deployable

A deployable becomes volume claims (one per container that keeps state), a
Service with one port per container, an Ingress route for the containers
served over HTTP (shared by all qualifiers of the resource, so its paths are
merged with the existing Ingress), and a Deployment whose pods run one
container per planned container with its image, variables, resource limits,
probes and mounts.

Main statement: `ingress_none_of_no_web`, a deployable without containers
served over HTTP adds no route.
-/

namespace StackOperator.Children

open K8s

/-- The volume claims of the containers that keep state. The storage class is
the container's, else the resource's, else the operator's default. -/
def claims (d : Deployable) (config : OperatorConfig) : List PersistentVolumeClaim :=
  d.containers.filterMap fun c => c.volume.map fun v =>
    { metadata := d.owner.ownedMeta (d.claimName c) d.qualifier,
      accessModes := some ["ReadWriteOnce"], storageRequest := some v.size,
      storageClassName := v.storageClass <|> d.storageClass <|> config.defaultStorageClass }

/-- `<container qualifier>-port`. -/
def portName (c : ContainerPlan) : String := c.qualifier ++ "-port"

/-- The Service selecting the qualifier's pods, one port per container. -/
def service (d : Deployable) : Service :=
  { metadata := d.owner.ownedMeta d.serviceName d.qualifier,
    spec := some { selector := some (.singleton Names.deploymentLabelKey (Names.deploymentLabel d.owner.name d.qualifier)),
                   type := some "ClusterIP",
                   ports := some (d.containers.map fun c =>
                     { name := some (portName c), port := c.port, targetPort := some c.port,
                       protocol := some "TCP" }) } }

/-- Paths ordered by their text, a missing path first. -/
def pathLe (a b : IngressPath) : Bool :=
  match a.path, b.path with
  | none, _ => true
  | some _, none => false
  | some x, some y => decide (x ≤ y)

/-- The Ingress with this deployable's paths merged in: paths of other
qualifiers under the same host are kept, a path with the same text is
replaced, and all are ordered by path. None when no container is served over
HTTP. -/
def ingress (d : Deployable) (req : IngressRequirements) (existing : Option Ingress) : Option Ingress :=
  let ours : List IngressPath := d.containers.filterMap fun c => c.ingressing.map fun w =>
    { path := some w.path, pathType := "Prefix",
      backend := { serviceName := some d.serviceName, port := some { number := some c.port } } }
  if ours.isEmpty then none
  else
    let rules := ((existing.bind (·.spec)).bind (·.rules)).getD []
    let kept := (rules.filter (·.host == some req.host)).flatMap (fun r => r.paths.getD [])
      |>.filter fun p => !(ours.any (·.path == p.path))
    let paths := (kept ++ ours).mergeSort pathLe
    let md := d.owner.ownedMeta req.ingressName d.qualifier
    some { metadata := { md with labels := md.labels.map (KeyMap.erase · Names.deploymentLabelKey) },
           spec := some { rules := some [{ host := some req.host, paths := some paths }],
                          tls := req.tlsSecretName.map fun s =>
                            [{ hosts := some [req.host], secretName := some s }] } }

theorem ingress_none_of_no_web (d : Deployable) (req : IngressRequirements) (existing : Option Ingress)
    (h : ∀ c ∈ d.containers, c.ingressing = none) : ingress d req existing = none := by
  unfold ingress
  have : (d.containers.filterMap fun c => c.ingressing.map fun w =>
      ({ path := some w.path, pathType := "Prefix",
         backend := { serviceName := some d.serviceName, port := some { number := some c.port } } } : IngressPath)) = [] := by
    rw [List.filterMap_eq_nil_iff]
    intro c hc
    simp [h c hc]
  simp [this]

/-- What a Deployment is built from besides the deployable. -/
structure DeploymentInputs where
  config : OperatorConfig
  images : ImageResolver
  /-- The prepared schemas, by schema qualifier. -/
  schemas : KeyMap SchemaResult := .empty
  /-- The CA Secret mirrored into the namespace, if any. -/
  caSecretName : Option String := none

/-- The variables pointing a container at its Keycloak server and client. -/
def keycloakVariables (c : ContainerPlan) : List EnvVar :=
  match c.keycloak with
  | none => []
  | some k =>
    let secret := Names.clientSecretName k.client.clientId
    [.plain "KEYCLOAK_ENABLED" "true", .plain "KEYCLOAK_AUTH_URL" k.connection.baseUrl,
     .plain "KEYCLOAK_REALM" k.connection.realm,
     .plain "KEYCLOAK_PUBLIC_CLIENT_ID" k.connection.publicClientId,
     .fromSecret "KEYCLOAK_CLIENT_ID" secret "clientId",
     .fromSecret "KEYCLOAK_CLIENT_SECRET" secret "clientSecret"]

/-- The container's limits, and requests scaled from them by the configured
ratios; nothing when the operator imposes no limits. -/
def resourceRequirements (c : ContainerPlan) (config : OperatorConfig) : Option ResourceRequirements :=
  if !config.imposeLimits then none
  else
    let memory := toString c.memoryMi ++ "Mi"
    let cpu := toString c.cpuMillis ++ "m"
    let requests : List (String × String) :=
      (match Quantity.scale memory config.ratios.memory with
        | some v => [("memory", v)]
        | none => []) ++
      (match Quantity.scale cpu config.ratios.cpu with
        | some v => [("cpu", v)]
        | none => [])
    some { limits := some ⟨[("cpu", cpu), ("memory", memory)], show ["cpu", "memory"].Pairwise (· < ·) by decide⟩,
           requests := some (KeyMap.ofList requests) }

/-- The startup, readiness and liveness probes: an HTTP GET of the health
check of a container served over HTTP, a TCP connection otherwise. Startup
may take as long as the readiness timeout allows, at least one period. -/
def probes (c : ContainerPlan) (config : OperatorConfig) : Probe × Probe × Probe :=
  let action : ProbeAction :=
    match c.ingressing with
    | some w => .httpGet (some w.healthCheck) c.port
    | none => .tcpSocket c.port
  let period : Int := 10
  -- whole seconds as a 32-bit signed count, divided toward zero
  let seconds : Int := Int.bmod ((config.podReadinessTimeoutMs / 1000 : Nat) : Int) 4294967296
  let startupThreshold : Int := max (seconds.tdiv period) 1
  ({ action, periodSeconds := some period, failureThreshold := some startupThreshold },
   { action, periodSeconds := some period, timeoutSeconds := some 5 },
   { action, periodSeconds := some 30, timeoutSeconds := some 5, failureThreshold := some 3 })

/-- The name of the volume holding the CA certificate. -/
def caVolume : String := "ca-cert-volume"

/-- The pod container of a planned container. -/
def containerSpec (c : ContainerPlan) (inputs : DeploymentInputs) : Container :=
  let image := c.customImage.getD (inputs.images.uri c.imageRepository none)
  let env := c.env ++ ((c.schemas.map fun s => s.connect inputs.schemas).getD []) ++ keycloakVariables c
  let mounts : List VolumeMount :=
    (c.volume.map fun v => [{ name := c.qualifier ++ "-volume", mountPath := v.mountPath }]).getD [] ++
    (match c.caMount, inputs.caSecretName with
      | some path, some _ => [{ name := caVolume, mountPath := path, readOnly := some true }]
      | _, _ => [])
  let (startup, readiness, liveness) := probes c inputs.config
  { name := c.qualifier ++ "-container", image := some image, imagePullPolicy := some "IfNotPresent",
    ports := some [{ name := some (portName c), containerPort := c.port, protocol := some "TCP" }],
    env := some env, resources := resourceRequirements c inputs.config,
    startupProbe := some startup, readinessProbe := some readiness, livenessProbe := some liveness,
    volumeMounts := if mounts.isEmpty then none else some mounts }

/-- The Deployment of a deployable. Claims cannot be mounted by two pods during
a rollout, so a deployable with claims is recreated rather than rolled. -/
def deployment (d : Deployable) (inputs : DeploymentInputs) : Deployment :=
  let claimVolumes : List Volume := d.containers.filterMap fun c =>
    c.volume.map fun _ => { name := c.qualifier ++ "-volume", source := .claim (d.claimName c) }
  let caVolumes : List Volume :=
    match d.trustsCa, inputs.caSecretName with
    | true, some ca => [{ name := caVolume, source := .secret ca }]
    | _, _ => []
  let volumes := claimVolumes ++ caVolumes
  { metadata := d.owner.ownedMeta d.deploymentName d.qualifier,
    spec := some {
      replicas := some d.replicas,
      matchLabels := some (.singleton Names.deploymentLabelKey (Names.deploymentLabel d.owner.name d.qualifier)),
      strategy := some (if claimVolumes.isEmpty then "RollingUpdate" else "Recreate"),
      template := {
        metadata := some { labels := some (d.owner.deploymentLabels d.qualifier) },
        spec := some { serviceAccountName := d.serviceAccount.map (·.name),
                       volumes := if volumes.isEmpty then none else some volumes,
                       containers := d.containers.map fun c => containerSpec c inputs } } } }

end StackOperator.Children
