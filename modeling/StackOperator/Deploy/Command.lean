import StackOperator.Deploy.Schemas
import StackOperator.Children.Objects
import StackOperator.Status.Basic

/-!
# The deploy command

One pass of a deployable turns its plan into Kubernetes objects. The steps
run strictly in order, and the qualifier's status is written back to the
resource after each step that changes it:

1. the database schemas (`prepareDatabase`);
2. the volume claims;
3. the Secrets: the operator's CA certificate mirrored into the namespace
   when a container trusts it, then the deployable's own Secrets;
4. the ServiceAccount with its Role and RoleBinding;
5. the Service;
6. the Ingress, merged with the routes of the other qualifiers;
7. a Keycloak client per container that authenticates through one, with a
   Secret holding its credentials;
8. the Deployment;
9. the wait for a ready pod of the new rollout.

The status starts at the pass's instant; it is a web server's status when
the deployable is routed through an Ingress, a database server's otherwise.
When every step succeeds the status is finished and written. When a step
fails, the failure is recorded against the resource, the finished status is
written if the cluster lets it, and the pass fails with the step's error.

Main statement: `rolledOut_iff`, what the wait for a rollout asks of a
Deployment's status.
-/

namespace StackOperator.Deploy

open Cluster K8s

/-- What a successful pass produced. -/
structure Deployed where
  status : ServerStatus
  deployment : Deployment
  service : Service
  ingress : Option Ingress
  /-- The ready pod of the new rollout. -/
  pod : Pod

/-- A Deployment has rolled out when it has observed its latest generation
and every wanted replica runs the current template and is available. -/
def rolledOut (d : Deployment) : Bool :=
  match d.status with
  | none => false
  | some s =>
    let wanted := (d.spec.bind (·.replicas)).getD 1
    let observed := match d.metadata.generation, s.observedGeneration with
      | some g, some o => decide (o ≥ g)
      | some _, none => false
      | none, _ => true
    let updated := s.updatedReplicas.getD 0
    observed && decide (updated ≥ wanted) && decide (s.replicas.getD 0 ≤ updated) &&
      decide (s.availableReplicas.getD 0 ≥ wanted)

/-- A Deployment has rolled out exactly when it reports a status that has seen its generation,
with at least the wanted replicas updated and available and none left on an older template. -/
theorem rolledOut_iff (d : Deployment) :
    rolledOut d = true ↔ ∃ s, d.status = some s ∧
      (∀ g, d.metadata.generation = some g → ∃ o, s.observedGeneration = some o ∧ g ≤ o) ∧
      (d.spec.bind (·.replicas)).getD 1 ≤ s.updatedReplicas.getD 0 ∧
      s.replicas.getD 0 ≤ s.updatedReplicas.getD 0 ∧
      (d.spec.bind (·.replicas)).getD 1 ≤ s.availableReplicas.getD 0 := by
  unfold rolledOut
  cases d.status with
  | none => simp
  | some s =>
    -- the generation is seen when there is none, or an observed one at least as new
    cases generation : d.metadata.generation <;> cases observed : s.observedGeneration <;>
      simp [observed, and_assoc]

/-- The phase a new volume claim reports: it has not been bound. -/
def claimPhase : String := "Pending"

section
variable {n : Type → Type} [Monad n]

/-- Write the status reached so far to the deployable's resource. -/
def persist (api : ClusterApi n) (d : Deployable) : Pass n Unit := do
  let s ← currentStatus
  liftCall (api.updateServerStatus d.owner s)

/-- Mirror the operator's CA Secret into a namespace, unless it is there
already; its name, or none when no CA is configured. -/
def ensureCaSecret (api : ClusterApi n) (config : OperatorConfig) (ns : String) :
    ExceptT Error n (Option String) := do
  match config.caSecretName.filter (· ≠ "") with
  | none => pure none
  | some name =>
    if (← api.loadSecret ns name).isSome then return some name
    let source ← match ← api.loadSecret config.operatorNamespace name with
      | some s => pure s
      | none => throw (.config ("CA secret " ++ config.operatorNamespace ++ "/" ++ name ++ " does not exist"))
    -- shared by every resource of the namespace, so it has no owner
    let _ ← api.createSecretIfAbsent
      { metadata := { name := some name, ns := some ns }, data := source.data, type := source.type }
    pure (some name)

/-- Step 1: prepare the schemas the containers need, keeping the Job phases
in the status whatever the outcome. -/
def prepareDatabase (api : ClusterApi n) (rt : Runtime) (images : ImageResolver) (d : Deployable) :
    Pass n (KeyMap SchemaResult) := do
  let schemas := d.schemaQualifiers
  if schemas.isEmpty then return .empty
  let database ← match d.database with
    | some db => pure db
    | none => throw (.illegalState (d.owner.name ++ " " ++ d.qualifier ++ " declares database schemas but no database"))
  let preparation : SchemaPreparation :=
    { owner := d.owner, qualifier := d.qualifier, database, schemas, images,
      schemasAscending := d.schemaQualifiers_ascending }
  let result ← attempt (preparation.run api rt)
  match ← attempt (persist api d), result with
  | .error e, .ok _ => throw e
  | _, _ => pure ()
  match result with
  | .ok r => pure r
  | .error e => throw (.databasePreparation "Could not init database schemas" e)

/-- Step 2: create the volume claims and record their phases. -/
def claimsStep (api : ClusterApi n) (rt : Runtime) (d : Deployable) : Pass n Unit := do
  for pvc in Children.claims d rt.config do
    let created ← liftCall (api.applyPvc pvc)
    updateStatus fun s => { s with claimPhases := KeyMap.put s.claimPhases (nameOf created.metadata) claimPhase }
  persist api d

/-- Step 4: the ServiceAccount, and its Role and RoleBinding when it has rules. -/
def accountStep (api : ClusterApi n) (d : Deployable) : ExceptT Error n Unit := do
  match d.serviceAccount with
  | none => pure ()
  | some req =>
    let (account, rbac) := Children.accountObjects d.owner d.qualifier req
    let _ ← api.applyServiceAccount account
    match rbac with
    | none => pure ()
    | some (role, binding) =>
      let _ ← api.applyRole role
      let _ ← api.applyRoleBinding binding

/-- Step 6: merge the deployable's routes into its Ingress and record where it is served. -/
def ingressStep (api : ClusterApi n) (d : Deployable) : Pass n (Option Ingress) := do
  match d.ingress with
  | none => pure none
  | some req =>
    let existing ← liftCall (api.loadIngress d.owner.ns req.ingressName)
    match Children.ingress d req existing with
    | none => pure none
    | some desired =>
      let ingress ← liftCall (api.applyIngress desired)
      updateStatus fun s =>
        { s with ingressName := some req.ingressName, externalBaseUrl := some req.externalBaseUrl,
                 webContexts := d.containers.foldl (fun m c => match c.ingressing with
                   | some w => KeyMap.put m c.qualifier w.path
                   | none => m) s.webContexts }
      persist api d
      pure (some ingress)

/-- Step 7: register the Keycloak client of each container that needs one and
keep its credentials in a Secret, with the Keycloak admin session at hand, if any. -/
def keycloakStep (api : ClusterApi n) (d : Deployable) (keycloak : Option (SsoClient n)) :
    Pass n Unit := do
  for c in d.containers do
    match c.keycloak with
    | none => pure ()
    | some access =>
      let sso ← match keycloak with
        | some sso => pure sso
        | none => throw (.illegalState ("container " ++ c.qualifier ++ " of " ++ d.owner.name ++
            " needs a Keycloak client but none was supplied"))
      let conn := access.connection
      let client := access.client
      let secret ← liftCall (onFailure "KeycloakClient" d.owner.ns client.clientId do
        sso.ensureRealm conn.realm
        match d.ingress with
        | some req => sso.createPublicClient conn.realm conn.publicClientId req.externalBaseUrl
        | none => pure ()
        sso.prepareClient client)
      let _ ← liftCall (api.createSecretIfAbsent (Secret.clientCredentials
        (d.owner.ownedMeta (Names.clientSecretName client.clientId) d.qualifier) client.clientId secret))
      updateStatus fun s => { s with ssoRealm := some conn.realm, ssoClientId := some client.clientId }

/-- The first ready pod of the qualifier once the Deployment has rolled out. -/
def readyPod? (api : ClusterApi n) (ns deploymentName selector : String) :
    ExceptT Error n (Option (Deployment × Pod)) := do
  match ← api.loadDeployment ns deploymentName with
  | some current =>
    if rolledOut current then
      let pods ← api.listPods ns selector
      pure ((pods.find? (·.isReady)).map fun p => (current, p))
    else pure none
  | none => pure none

/-- Steps 1 to 9. -/
def steps (api : ClusterApi n) (rt : Runtime) (images : ImageResolver) (d : Deployable)
    (keycloak : Option (SsoClient n)) : Pass n Deployed := do
  let owner := d.owner
  let ns := owner.ns
  let config := rt.config
  let schemas ← prepareDatabase api rt images d
  claimsStep api rt d
  let caSecretName ← if d.trustsCa then liftCall (ensureCaSecret api config ns) else pure none
  for secret in d.secrets do
    let _ ← liftCall (api.createSecretIfAbsent secret)
  liftCall (accountStep api d)
  let service ← liftCall (api.applyService (Children.service d))
  let serviceName := nameOf service.metadata
  updateStatus fun s =>
    { s with servicePhases := KeyMap.put s.servicePhases serviceName "Active", serviceName := some serviceName }
  persist api d
  let ingress ← ingressStep api d
  keycloakStep api d keycloak
  let deployment ← liftCall (api.applyDeployment (Children.deployment d { config, images, schemas, caSecretName }))
  let deploymentName := nameOf deployment.metadata
  updateStatus fun s => { s with deploymentPhases := KeyMap.put s.deploymentPhases deploymentName "Requested" }
  persist api d
  -- pods of an earlier template keep the labels and may still be ready, so
  -- the Deployment must report the new generation rolled out first
  let selector := owner.deploymentSelector d.qualifier
  let waited ← liftCall (attempt (pollUntil config.pollIntervalMs config.podReadinessTimeoutMs
    ("waiting for a Ready pod of Deployment " ++ ns ++ "/" ++ deploymentName)
    (readyPod? api ns deploymentName selector)))
  match ← liftCall (attempt (api.listPods ns selector)) with
  | .ok pods =>
    updateStatus fun s => { s with podPhases := pods.foldl (fun m p => KeyMap.put m (nameOf p.metadata) p.phase) s.podPhases }
  | .error _ => pure ()
  let (current, pod) ← match waited with
    | .ok v => pure v
    | .error e => throw (e.onResource "Deployment" ns deploymentName)
  updateStatus fun s => { s with deploymentPhases := KeyMap.put s.deploymentPhases deploymentName "Available" }
  pure { status := ← currentStatus, deployment := current, service, ingress, pod }

/-- Deploy a deployable: check that it can be deployed, run its steps and
write the finished status. `keycloak` is the Keycloak admin session at hand
for the containers that need one, if any. -/
def execute (api : ClusterApi n) (rt : Runtime) (images : ImageResolver) (d : Deployable)
    (keycloak : Option (SsoClient n)) : ExceptT Error n Deployed := do
  let owner := d.owner
  if owner.name.isEmpty || owner.ns.isEmpty then
    throw (.illegalState "deployables must belong to a persisted custom resource")
  if d.needsKeycloak && keycloak.isNone then
    throw (.illegalState (owner.name ++ " " ++ d.qualifier ++ " requires a Keycloak client but none was supplied"))
  let kind : ServerKind := if d.ingress.isSome then .web else .db
  let (result, status) ← runPass (steps api rt images d keycloak) (ServerStatus.startedAt d.qualifier kind rt.now)
  match result with
  | .ok deployed =>
    let status := status.finish rt.now
    api.updateServerStatus owner status
    if status.hasFailed then throw (.resourceCreation "Creation of Kubernetes resources has failed")
    pure { deployed with status }
  | .error e =>
    let status := status.finishWith (ControllerFailure.ofError e owner) rt.now
    ignoring (api.updateServerStatus owner status)
    throw e

end

end StackOperator.Deploy
