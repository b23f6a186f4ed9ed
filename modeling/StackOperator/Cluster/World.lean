import StackOperator.Cluster.Store
import StackOperator.Cluster.Api

/-!
# A simulated cluster

The operator talks to a Kubernetes API server and to Keycloak servers. The
`World` is a deterministic stand-in for both, against which the operator's
passes run as ordinary functions:

* objects are kept in stores (`Store`) keyed by namespace and name;
* every mutating call is recorded in `calls` as `verb:name`, and every call
  to Keycloak in `ssoCalls`, so the order in which a pass touched the cluster
  is part of its result;
* Secrets are created once and read back with their text values moved into
  the bytes; volume claims are created once; other objects are replaced;
  each Deployment written gets the next generation;
* Deployments and pods report a rollout that is complete when `podsReady`
  holds, and otherwise one held back by the ready pods of `stalePods`; the
  pods of a selector are the matching stale pods followed by one pod named
  after the selected value;
* Jobs are named from their prefix and a counter, and report the outcome
  `jobOutcome`;
* status writes fail while `failStatusWrites` holds, and Keycloak role
  assignments while `failRoleAssignment` holds.

Operations run in `Op`: they may fail with an operator `Error`, and changes
made before a failure are kept. `World.backend` offers them to the operator's
passes.

`putSecret_keeps`: a Secret that exists is never replaced.
-/

namespace StackOperator.Cluster

open K8s

/-- What a Job reports once it has run. -/
inductive JobOutcome where
  | succeed
  | fail
  | hang
  deriving DecidableEq, Inhabited, Repr

/-- The state of the simulated cluster and Keycloak servers. -/
structure World where
  /-- The mutating cluster calls made so far, oldest first. -/
  calls : List String := []
  secrets : Store Secret := []
  configMaps : Store ConfigMap := []
  pvcs : Store PersistentVolumeClaim := []
  serviceAccounts : Store ServiceAccount := []
  roles : Store Role := []
  roleBindings : Store RoleBinding := []
  services : Store Service := []
  ingresses : Store Ingress := []
  deployments : Store Deployment := []
  jobs : Store Job := []
  /-- The status subresources of custom resources. -/
  statuses : Store ResourceStatus := []
  databaseServices : List DatabaseService := []
  keycloakServers : List KeycloakServer := []
  jobOutcome : JobOutcome := .succeed
  podsReady : Bool := true
  /-- Pods of an earlier template, listed next to the current one. -/
  stalePods : List Pod := []
  failStatusWrites : Bool := false
  /-- The number of Jobs created so far. -/
  jobCounter : Nat := 0
  /-- The Keycloak calls made so far, oldest first. -/
  ssoCalls : List String := []
  failRoleAssignment : Bool := false
  /-- The Keycloak logins made so far, as `user@base URL`. -/
  logins : List String := []

/-- A computation against the simulated cluster. A failure keeps the changes made before it. -/
abbrev Op := ExceptT Error (StateM World)

/-- Metadata of an object read back from the cluster: a uid derived from the name, generation 1. -/
def storedMeta (name ns : String) : ObjectMeta :=
  { name := some name, ns := some ns, uid := some (name ++ "-uid"), generation := some 1 }

/-- A pod that runs and reports `Ready`. -/
def readyPod (name ns : String) : Pod :=
  { metadata := storedMeta name ns,
    status := some { phase := some "Running", conditions := some [⟨"Ready", "True"⟩] } }

/-- A pod that has not started. -/
def pendingPod (name ns : String) : Pod :=
  { metadata := storedMeta name ns, status := some { phase := some "Pending" } }

/-- A label selector `key=value`; without `=` the whole text is the key and the value is empty. -/
def splitSelector (selector : String) : String × String :=
  match selector.splitOn "=" with
  | key :: rest@(_ :: _) => (key, "=".intercalate rest)
  | _ => (selector, "")

/-- Record a cluster call. -/
def record (call : String) : Op Unit := modify fun w => { w with calls := w.calls ++ [call] }

/-- Record a Keycloak call. -/
def recordSso (call : String) : Op Unit := modify fun w => { w with ssoCalls := w.ssoCalls ++ [call] }

/-- The Secret of a namespace and name. -/
def loadSecret (ns name : String) : Op (Option Secret) := do
  pure ((← get).secrets.get? ⟨ns, name⟩)

/-- The pure effect of creating a Secret unless one exists: the stored Secret and the new store. -/
def putSecret (store : Store Secret) (s : Secret) : Secret × Store Secret :=
  store.getOrPut (keyOf s.metadata) s.persisted

theorem putSecret_keeps (store : Store Secret) (s old : Secret)
    (h : store.get? (keyOf s.metadata) = some old) : putSecret store s = (old, store) :=
  Store.getOrPut_of_present _ _ _ _ h

/-- Create a Secret unless one of its name exists, and read back the stored one. -/
def createSecretIfAbsent (s : Secret) : Op Secret := do
  record ("create_secret:" ++ nameOf s.metadata)
  let w ← get
  let (stored, secrets) := putSecret w.secrets s
  set { w with secrets }
  pure stored

/-- The ConfigMap of a namespace and name. -/
def loadConfigMap (ns name : String) : Op (Option ConfigMap) := do
  pure ((← get).configMaps.get? ⟨ns, name⟩)

/-- Create a volume claim unless one of its name exists, and read back the stored one. -/
def applyPvc (c : PersistentVolumeClaim) : Op PersistentVolumeClaim := do
  record ("apply_pvc:" ++ nameOf c.metadata)
  let w ← get
  let (stored, pvcs) := w.pvcs.getOrPut (keyOf c.metadata) c
  set { w with pvcs }
  pure stored

/-- Create or replace a ServiceAccount. -/
def applyServiceAccount (a : ServiceAccount) : Op ServiceAccount := do
  record ("apply_service_account:" ++ nameOf a.metadata)
  modify fun w => { w with serviceAccounts := w.serviceAccounts.put (keyOf a.metadata) a }
  pure a

/-- Create or replace a Role. -/
def applyRole (r : Role) : Op Role := do
  record ("apply_role:" ++ nameOf r.metadata)
  modify fun w => { w with roles := w.roles.put (keyOf r.metadata) r }
  pure r

/-- Create or replace a RoleBinding. -/
def applyRoleBinding (b : RoleBinding) : Op RoleBinding := do
  record ("apply_role_binding:" ++ nameOf b.metadata)
  modify fun w => { w with roleBindings := w.roleBindings.put (keyOf b.metadata) b }
  pure b

/-- Create or replace a Service. -/
def applyService (s : Service) : Op Service := do
  record ("apply_service:" ++ nameOf s.metadata)
  modify fun w => { w with services := w.services.put (keyOf s.metadata) s }
  pure s

/-- The Ingress of a namespace and name. -/
def loadIngress (ns name : String) : Op (Option Ingress) := do
  pure ((← get).ingresses.get? ⟨ns, name⟩)

/-- Create or replace an Ingress. -/
def applyIngress (i : Ingress) : Op Ingress := do
  record ("apply_ingress:" ++ nameOf i.metadata)
  modify fun w => { w with ingresses := w.ingresses.put (keyOf i.metadata) i }
  pure i

/-- Create or replace a Deployment; it gets the generation after the stored one's. -/
def applyDeployment (d : Deployment) : Op Deployment := do
  record ("apply_deployment:" ++ nameOf d.metadata)
  let w ← get
  let key := keyOf d.metadata
  let previous := ((w.deployments.get? key).bind (·.metadata.generation)).getD 0
  let stored := { d with metadata := { d.metadata with generation := some (previous + 1) } }
  set { w with deployments := w.deployments.put key stored }
  pure stored

/-- The rollout a Deployment reports: complete when pods are ready, otherwise
the ready stale pods are still the available ones and the new replicas are not. -/
def rolloutStatus (w : World) (d : Deployment) : DeploymentStatus :=
  let wanted := (d.spec.bind (·.replicas)).getD 1
  let stale : Int := (w.stalePods.filter (·.isReady)).length
  { observedGeneration := d.metadata.generation,
    replicas := some (if w.podsReady then wanted else wanted + stale),
    updatedReplicas := some wanted,
    availableReplicas := some (if w.podsReady then wanted else stale) }

/-- The Deployment of a namespace and name with its rollout status. -/
def loadDeployment (ns name : String) : Op (Option Deployment) := do
  let w ← get
  pure ((w.deployments.get? ⟨ns, name⟩).map fun d => { d with status := some (rolloutStatus w d) })

/-- The pods of a selector in a namespace: the matching stale pods, then the
pod of the selected value, ready or pending. -/
def listPods (ns selector : String) : Op (List Pod) := do
  let w ← get
  let (label, value) := splitSelector selector
  let stale := w.stalePods.filter fun p =>
    p.metadata.ns == some ns && (p.metadata.labels.bind (KeyMap.get? · label)) == some value
  let name := value ++ "-pod"
  pure (stale ++ [if w.podsReady then readyPod name ns else pendingPod name ns])

/-- Create a Job, named from its prefix and the Job counter. -/
def createJob (j : Job) : Op Job := do
  let w ← get
  let counter := w.jobCounter + 1
  let name := j.metadata.generateName.getD "" ++ toString counter
  let created := { j with metadata := { j.metadata with name := some name } }
  set { w with jobCounter := counter }
  record ("create_job:" ++ name)
  modify fun w => { w with jobs := w.jobs.put (keyOf created.metadata) created }
  pure created

/-- The status a Job reports for an outcome. -/
def JobOutcome.status : JobOutcome → JobStatus
  | .succeed => { succeeded := some 1 }
  | .fail => { failed := some 1 }
  | .hang => { active := some 1 }

/-- The Job of a namespace and name with the status of the configured outcome. -/
def loadJob (ns name : String) : Op (Option Job) := do
  let w ← get
  pure ((w.jobs.get? ⟨ns, name⟩).map fun j => { j with status := some w.jobOutcome.status })

/-- Delete the Jobs of a namespace that a selector matches. -/
def deleteJobs (ns selector : String) : Op Unit := do
  record ("delete_jobs:" ++ selector)
  let (label, value) := splitSelector selector
  modify fun w => { w with jobs := w.jobs.filter fun (k, j) =>
    k.ns != ns || (j.metadata.labels.bind (KeyMap.get? · label)) != some value }

/-- The database services of a namespace. -/
def listDatabaseServices (ns : String) : Op (List DatabaseService) := do
  pure ((← get).databaseServices.filter (·.metadata.ns == some ns))

/-- The Keycloak server of a namespace and name. -/
def loadKeycloakServer (ns name : String) : Op (Option KeycloakServer) := do
  pure ((← get).keycloakServers.find? fun k => k.metadata.ns == some ns && k.name == name)

/-- All Keycloak servers. -/
def listKeycloakServers : Op (List KeycloakServer) := do
  pure (← get).keycloakServers

/-- The key of a custom resource's status. -/
def statusKey (target : Reference) : ObjectKey := ⟨target.ns, target.name⟩

/-- The status of a custom resource, empty when none was written. -/
def loadStatus (target : Reference) : Op ResourceStatus := do
  pure (((← get).statuses.get? (statusKey target)).getD {})

/-- Write the status of one qualifier of a custom resource. -/
def updateServerStatus (target : Reference) (s : ServerStatus) : Op Unit := do
  record ("update_server_status:" ++ s.qualifier)
  if (← get).failStatusWrites then throw (.illegalState "status subresource unavailable")
  modify fun w =>
    let key := statusKey target
    { w with statuses := w.statuses.put key (((w.statuses.get? key).getD {}).put s) }

/-- Write the phase of a custom resource and, when given, the generation it reflects. -/
def updatePhase (target : Reference) (phase : Phase) (observed : Option Int) : Op Unit := do
  record ("update_phase:" ++ phase.name)
  modify fun w =>
    let key := statusKey target
    let old := (w.statuses.get? key).getD {}
    let updated := { old with phase := some phase,
                              observedGeneration := if observed.isSome then observed else old.observedGeneration }
    { w with statuses := w.statuses.put key updated }

/-- Log in to a Keycloak server as a user. -/
def ssoLogin (baseUrl username : String) : Op Unit :=
  modify fun w => { w with logins := w.logins ++ [username ++ "@" ++ baseUrl] }

/-- Make sure a realm exists. -/
def ensureRealm (realm : String) : Op Unit := recordSso ("ensure_realm:" ++ realm)

/-- Create the public browser client of a realm for a domain. -/
def createPublicClient (realm clientId : String) : Op Unit :=
  recordSso ("create_public_client:" ++ realm ++ "/" ++ clientId)

/-- Create or update a confidential client and return its secret. -/
def prepareClient (c : Keycloak.ClientConfig) : Op String := do
  recordSso ("prepare_client:" ++ c.realm ++ "/" ++ c.clientId)
  pure (c.clientId ++ "-generated-secret")

/-- Bring a confidential client up to date. -/
def updateClient (c : Keycloak.ClientConfig) : Op Unit :=
  recordSso ("update_client:" ++ c.realm ++ "/" ++ c.clientId)

/-- Grant a role of another client to a client's service account. -/
def assignRole (realm clientId : String) (p : Keycloak.Permission) : Op Unit := do
  if (← get).failRoleAssignment then throw (.keycloak "role assignment rejected")
  recordSso ("assign_role:" ++ realm ++ "/" ++ clientId ++ ":" ++ p.clientId ++ "/" ++ p.role)

/-- The simulated Keycloak admin session. -/
def ssoClient : SsoClient (StateM World) where
  ensureRealm := ensureRealm
  createPublicClient realm clientId _ := createPublicClient realm clientId
  prepareClient := prepareClient
  updateClient := updateClient
  assignRole := assignRole

/-- The simulated cluster and Keycloak servers as a backend of the operator. -/
def World.backend : Backend (StateM World) where
  cluster :=
    { loadSecret, createSecretIfAbsent, loadConfigMap, applyPvc, applyServiceAccount, applyRole,
      applyRoleBinding, applyService, loadIngress, applyIngress, applyDeployment, loadDeployment,
      listPods, createJob, loadJob, deleteJobs, listDatabaseServices, loadKeycloakServer,
      listKeycloakServers, loadStatus, updateServerStatus, updatePhase }
  sso := { login := fun baseUrl username _ => do ssoLogin baseUrl username; pure ssoClient }

end StackOperator.Cluster
