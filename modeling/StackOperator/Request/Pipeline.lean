import StackOperator.Request.Plans
import StackOperator.Request.Status
import StackOperator.Controller.Deploy
import StackOperator.Controller.Reconcile
import StackOperator.Cluster.World

/-!
# Running the operator against a simulated cluster

A `pipeline` request seeds a simulated cluster and runs steps against it in
turn: changes to the cluster's knobs, deployments of resources and single
deployables, resolutions of databases and Keycloak servers, and passes that
reconcile a resource around one of these. Each step answers its result or
its error, with the cluster and Keycloak calls it made, the logins, and the
statuses of all resources afterwards. The request answers the steps and the
objects left in the cluster.

A step that cannot be read answers why, and changes nothing.

Time passes between steps: each step runs a nanosecond after the one
before, so that a pass tells the failures of earlier steps from its own.
-/

namespace StackOperator.Request

open Json Cluster

/-- One change to the simulated cluster: a knob set, or objects added. -/
inductive Knob where
  | podsReady (ready : Bool)
  | jobOutcome (outcome : JobOutcome)
  | failStatusWrites (fail : Bool)
  | failRoleAssignment (fail : Bool)
  /-- The pods left from earlier templates, replacing those there were. -/
  | stalePods (pods : List K8s.Pod)
  | secrets (secrets : List K8s.Secret)
  | ingresses (ingresses : List K8s.Ingress)
  | databaseServices (services : List DatabaseService)
  | keycloakServers (servers : List KeycloakServer)
  | statuses (statuses : List (ObjectKey × ResourceStatus))

/-- Make a change to the simulated cluster. -/
def Knob.apply (w : World) : Knob → World
  | .podsReady b => { w with podsReady := b }
  | .jobOutcome o => { w with jobOutcome := o }
  | .failStatusWrites b => { w with failStatusWrites := b }
  | .failRoleAssignment b => { w with failRoleAssignment := b }
  | .stalePods ps => { w with stalePods := ps }
  | .secrets xs => { w with secrets := xs.foldl (fun s x => s.put (keyOf x.metadata) x) w.secrets }
  | .ingresses xs => { w with ingresses := xs.foldl (fun s x => s.put (keyOf x.metadata) x) w.ingresses }
  | .databaseServices xs => { w with databaseServices := w.databaseServices ++ xs }
  | .keycloakServers xs => { w with keycloakServers := w.keycloakServers ++ xs }
  | .statuses xs => { w with statuses := xs.foldl (fun s (key, x) => s.put key x) w.statuses }

/-- A Job outcome by name. -/
def jobOutcome : Decoder JobOutcome :=
  Decode.variant [("succeed", .succeed), ("fail", .fail), ("hang", .hang)]

/-- A pod left from an earlier template `{name, namespace, labels, ready}`. -/
def stalePod (v : Value) : Outcome K8s.Pod := do
  let name ← text v "name"
  let ns ← text v "namespace"
  let labels ← maybe strMap v "labels"
  let ready ← withDefault Decode.bool v "ready" true
  let pod := if ready then readyPod name ns else pendingPod name ns
  pure { pod with metadata := { pod.metadata with labels } }

/-- The data of a Secret as a caller gives it: texts by key. -/
def secretData (v : Value) : Outcome (List (String × String)) :=
  match member v "data" with
  | .null => pure []
  | .obj fs => fs.mapM fun (k, x) =>
    match x with
    | .str t => pure (k, t)
    | _ => malformed ("field data." ++ k ++ " must be a string")
  | _ => malformed "field data must be an object"

/-- A Secret as the cluster holds it `{namespace, name, data}`, its values as text. -/
def storedSecret (v : Value) : Outcome K8s.Secret := do
  let name ← text v "name"
  let ns ← text v "namespace"
  let data ← secretData v
  pure { metadata := storedMeta name ns, data := some (KeyMap.ofList (data.map fun (k, t) => (k, t.toUTF8.toList))) }

/-- Items read in turn, up to the first that cannot be read, and the
failure of that one. -/
def readInTurn {β α : Type} (read : β → Outcome α) : List β → List α × Option Failure
  | [] => ([], none)
  | v :: rest =>
    match read v with
    | .error f => ([], some f)
    | .ok x =>
      let (xs, f) := readInTurn read rest
      (x :: xs, f)

/-- A stored status by the path of its resource. -/
def storedStatus (entry : String × Value) : Outcome (ObjectKey × ResourceStatus) := do
  let status ← ofExcept ((ResourceStatus.decode entry.2).mapError Error.decode)
  pure (ObjectKey.ofPath entry.1, status)

/-- What reading one change gives: the change as far as it could be read,
none when its member is absent, and the failure that stopped it. -/
abbrev KnobRead := Option Knob × Option Failure

/-- A change read whole or not at all. -/
def KnobRead.whole : Outcome (Option Knob) → KnobRead
  | .ok k => (k, none)
  | .error f => (none, some f)

/-- The readers of the changes a seed or a `set` step may describe, in the
order the changes are made. Secrets and statuses are added one by one, so
those before one that cannot be read are added. -/
def knobReaders : List (Value → KnobRead) :=
  [fun v => .whole ((maybe Decode.bool v "pods_ready").map (·.map .podsReady)),
   fun v => .whole ((maybe jobOutcome v "job_outcome").map (·.map .jobOutcome)),
   fun v => .whole ((maybe Decode.bool v "fail_status_writes").map (·.map .failStatusWrites)),
   fun v => .whole ((maybe Decode.bool v "fail_role_assignment").map (·.map .failRoleAssignment)),
   fun v => .whole do
     let ps ← maybe (Decode.list pure) v "stale_pods"
     match ps with
     | none => pure none
     | some ps => pure (some (.stalePods (← ps.mapM stalePod))),
   fun v =>
     match maybe (Decode.list pure) v "secrets" with
     | .error f => (none, some f)
     | .ok none => (none, none)
     | .ok (some xs) =>
       let (secrets, f) := readInTurn storedSecret xs
       (some (.secrets secrets), f),
   fun v => .whole ((typedMaybe (Decode.list K8s.Ingress.decode) v "ingresses").map (·.map .ingresses)),
   fun v => .whole do
     let xs ← maybe (Decode.list pure) v "database_services"
     match xs with
     | none => pure none
     | some xs => pure (some (.databaseServices (← xs.mapM (resourceOf DatabaseServiceSpec.decode)))),
   fun v => .whole do
     let xs ← maybe (Decode.list pure) v "keycloak_servers"
     match xs with
     | none => pure none
     | some xs => pure (some (.keycloakServers (← xs.mapM (resourceOf KeycloakServerSpec.decode)))),
   fun v =>
     match maybe (Decode.map pure) v "statuses" with
     | .error f => (none, some f)
     | .ok none => (none, none)
     | .ok (some xs) =>
       let (statuses, f) := readInTurn storedStatus xs.entries
       (some (.statuses statuses), f)]

/-- The changes read in turn, up to the first that cannot be read, and the
failure of that one. -/
def readKnobs (v : Value) : List (Value → KnobRead) → List Knob × Option Failure
  | [] => ([], none)
  | r :: rs =>
    match r v with
    | (k, some f) => (k.toList, some f)
    | (k, none) =>
      let (ks, f) := readKnobs v rs
      (k.toList ++ ks, f)

/-- The changes a seed or a `set` step describes, as far as they can be read. -/
def knobsOf (v : Value) : List Knob × Option Failure := readKnobs v knobReaders

/-- The changes a seed or a `set` step describes, all of them or the failure. -/
def allKnobsOf (v : Value) : Outcome (List Knob) :=
  match knobsOf v with
  | (ks, none) => .ok ks
  | (_, some f) => .error f

/-- A step of a pipeline. -/
inductive Action where
  | set (knobs : List Knob)
  | deployApp (app : App)
  | deployKeycloakServer (server : KeycloakServer)
  | deployDatabaseService (dbs : DatabaseService)
  /-- Deploy one deployable, with or without a Keycloak admin client at hand. -/
  | deployCustom (d : Deployable) (keycloak : Bool)
  | deployDatabase (owner : K8s.Reference) (vendor : Vendor) (databaseName storageClass : Option String)
      (env : List K8s.EnvVar)
  | resolveDatabase (owner : K8s.Reference) (vendor : Vendor) (storageClass : Option String)
  | resolveKeycloak (ns : String) (toUse : Option KeycloakToUse) (login : Bool)
  | succeed
  | fail (e : Error)
  /-- A pass over `target` around `work`, recording failures on `mainQualifier`. -/
  | reconcile (work : Action) (mainQualifier : String) (target : K8s.Reference)

/-- The resource an action is about, if it is about one: a pass around it
reconciles that resource unless told otherwise. -/
def Action.target? : Action → Option K8s.Reference
  | .deployApp app => some app.reference
  | .deployKeycloakServer server => some server.reference
  | .deployDatabaseService dbs => some dbs.reference
  | .deployCustom d _ => some d.owner
  | .deployDatabase owner .. => some owner
  | .resolveDatabase owner .. => some owner
  | _ => none

/-- Read an action that a pass can run around: a deployment, a resolution,
a success or a failure; a change of knobs or another pass is no such action. -/
def workOf (v : Value) : Outcome Action := do
  match ← text v "do" with
  | "deploy_app" => return .deployApp (← resourceOf AppSpec.decode (member v "resource"))
  | "deploy_keycloak_server" =>
    return .deployKeycloakServer (← resourceOf KeycloakServerSpec.decode (member v "resource"))
  | "deploy_database_service" =>
    return .deployDatabaseService (← resourceOf DatabaseServiceSpec.decode (member v "resource"))
  | "deploy_custom" =>
    let d ← testDeployable (member v "deployable")
    let keycloak ← withDefault Decode.bool v "with_keycloak" false
    return .deployCustom d keycloak
  | "deploy_database" =>
    let owner ← reference (member v "owner")
    let vendor ← typed Vendor.decode v "vendor"
    let databaseName ← maybe Decode.string v "database_name"
    let storageClass ← maybe Decode.string v "storage_class"
    let env ← (← withDefault (Decode.list pure) v "env" []).mapM plainVariable
    return .deployDatabase owner vendor databaseName storageClass env
  | "resolve_database" =>
    let owner ← reference (member v "owner")
    let vendor ← typed Vendor.decode v "vendor"
    let storageClass ← maybe Decode.string v "storage_class"
    return .resolveDatabase owner vendor storageClass
  | "resolve_keycloak" =>
    let ns ← text v "namespace"
    let toUse ← typed (Decode.option KeycloakToUse.decode) v "keycloak_to_use"
    let login ← withDefault Decode.bool v "login" false
    return .resolveKeycloak ns toUse login
  | "succeed" => return .succeed
  | "fail" => return .fail (← errorIn v "error")
  | other => malformed ("unknown action " ++ other)

/-- Read a step: a change of knobs, a pass around an action over a target
(by default the resource the action is about), or an action. -/
def actionOf (v : Value) : Outcome Action := do
  match ← text v "do" with
  | "set" => return .set (← allKnobsOf v)
  | "reconcile" =>
    let work ← workOf (member v "work")
    let mainQualifier ← text v "main_qualifier"
    let target ← match member v "target", work.target? with
      | .null, some t => pure t
      | .null, none => malformed "reconcile needs a target"
      | t, _ => reference t
    return .reconcile work mainQualifier target
  | _ => workOf v

/-- The answer form of a resolved Keycloak server. -/
def resolvedKeycloakValue (k : Controller.ResolvedKeycloak) : Value :=
  .object [("connection", keycloakConnectionValue k.connection),
    ("admin_secret_namespace", .str k.adminSecretNamespace), ("admin_secret_name", .str k.adminSecretName)]

/-- The answer form of a deployed deployable. -/
def deployedValue (r : Deploy.Deployed) : Value :=
  .object [("status", r.status.toValue),
    ("service_name", .str (nameOf r.service.metadata)),
    ("deployment_name", .str (nameOf r.deployment.metadata)),
    ("ingress_name", .ofOptStr (r.ingress.map fun i => nameOf i.metadata)),
    ("pod_name", .str (nameOf r.pod.metadata))]

/-- What actions run against, and with. -/
structure Setting (n : Type → Type) where
  backend : Backend n
  rt : Deploy.Runtime
  /-- The image resolver, obtained when an action needs one. -/
  images : ExceptT Error n ImageResolver
  /-- The Keycloak session a deployable deployed on its own gets when it asks for one. -/
  session : Option (SsoClient n)
  /-- Change the knobs of the servers. -/
  configure : List Knob → ExceptT Error n Unit

/-- Run an action; the result of a pass is its phase and the work's result. -/
def Action.run {n : Type → Type} [Monad n] (s : Setting n) : Action → ExceptT Error n Value
  | .set knobs => do
    s.configure knobs
    pure (.str "ok")
  | .deployApp app => do
    Controller.deployApp s.backend s.rt app
    pure (.str "ok")
  | .deployKeycloakServer server => do
    Controller.deployKeycloakServer s.backend s.rt server
    pure (.str "ok")
  | .deployDatabaseService dbs => do
    Controller.deployDatabaseService s.backend.cluster s.rt dbs
    pure (.str "ok")
  | .deployCustom d keycloak => do
    let images ← s.images
    let r ← Deploy.execute s.backend.cluster s.rt images d (if keycloak then s.session else none)
    pure (deployedValue r)
  | .deployDatabase owner vendor databaseName storageClass env => do
    let images ← s.images
    let plan ← liftExcept (DatabasePlan.make owner vendor databaseName storageClass env s.rt.password)
    let r ← Deploy.execute s.backend.cluster s.rt images plan.deployable none
    pure (.object [("status", r.status.toValue), ("connection", connectionValue plan.connection)])
  | .resolveDatabase owner vendor storageClass => do
    let images ← s.images
    pure (connectionValue (← Controller.resolveDatabase s.backend.cluster s.rt images owner vendor storageClass))
  | .resolveKeycloak ns toUse login => do
    let _ ← s.images
    let k ← Controller.resolveKeycloak s.backend.cluster ns toUse
    if login then
      let _ ← Controller.loginResolved s.backend k
    pure (resolvedKeycloakValue k)
  | .succeed => pure (.str "ok")
  | .fail e => throw e
  | .reconcile work mainQualifier target => do
    let (phase, v) ← Controller.reconcileStatus s.backend.cluster s.rt.now target mainQualifier (work.run s)
    pure (.object [("phase", .str phase.name), ("work_result", v)])

/-- The answer of an action: a pass answers its phase and work result, any
other action its result. -/
def Action.answer {n : Type → Type} [Monad n] (s : Setting n) (a : Action) : ExceptT Error n Value :=
  match a with
  | .reconcile .. => a.run s
  | _ => do pure (.object [("result", ← a.run s)])

/-- The simulated cluster with the images of the request and its Keycloak session. -/
def simulated (rt : Deploy.Runtime) (images : ImageResolver) : Setting (StateM World) :=
  { backend := World.backend, rt, images := pure images, session := some ssoClient,
    configure := fun knobs => modify fun w => knobs.foldl Knob.apply w }

/-- What a step answers: its answer, what it did and the statuses afterwards. -/
def stepOutput (before after : World) (answer : Value) : Value :=
  .object [("answer", answer),
    ("calls", .ofStrs (after.calls.drop before.calls.length)),
    ("keycloak_calls", .ofStrs (after.ssoCalls.drop before.ssoCalls.length)),
    ("logins", .ofStrs (after.logins.drop before.logins.length)),
    ("statuses", after.statuses.toValue ResourceStatus.toValue)]

/-- Run one step. The changes of a `set` step are made in turn up to the first
that cannot be read, which is its answer. -/
def runStep (rt : Deploy.Runtime) (images : ImageResolver) (w : World) (step : Value) : Value × World :=
  match text step "do", actionOf step with
  | .ok "set", .error f =>
    let after := (knobsOf step).1.foldl Knob.apply w
    (stepOutput w after f.toValue, after)
  | _, .error f => (stepOutput w w f.toValue, w)
  | _, .ok action =>
    let (r, after) := (action.answer (simulated rt images)).run w
    (stepOutput w after (match r with
      | .ok v => v
      | .error e => errorValue e), after)

/-- Run steps in turn, each a nanosecond after the one before. -/
def runSteps (rt : Deploy.Runtime) (images : ImageResolver) : World → List Value → List Value × World
  | w, [] => ([], w)
  | w, step :: rest =>
    let (out, w') := runStep rt images w step
    let (outs, final) := runSteps { rt with now := rt.now.later 1 } images w' rest
    (out :: outs, final)

/-- The Secrets a seed adds. -/
def seededSecrets (seed : List Knob) : List ObjectKey :=
  seed.flatMap fun
    | .secrets xs => xs.map fun x => keyOf x.metadata
    | _ => []

/-- The objects left in the cluster; the Secrets that were not seeded have
their passwords shown as answers show them. -/
def stateValue (seeded : List ObjectKey) (w : World) : Value :=
  let secrets : Store K8s.Secret := w.secrets.map fun (k, x) => (k, if seeded.contains k then x else shownSecret x)
  .object [("secrets", secrets.toValue (·.toValue)), ("pvcs", w.pvcs.toValue (·.toValue)),
    ("service_accounts", w.serviceAccounts.toValue (·.toValue)), ("roles", w.roles.toValue (·.toValue)),
    ("role_bindings", w.roleBindings.toValue (·.toValue)), ("services", w.services.toValue (·.toValue)),
    ("ingresses", w.ingresses.toValue (·.toValue)), ("deployments", w.deployments.toValue (·.toValue)),
    ("jobs", w.jobs.toValue (·.toValue))]

/-- Seed a simulated cluster and run the request's steps against it. -/
def pipeline (now : Instant) (request : Value) : Outcome Value := do
  let config ← configOf request
  let configMap ← maybe strMap request "config_map"
  let seed ← allKnobsOf (member request "seed")
  let steps ← withDefault (Decode.list pure) request "steps" []
  let world : World := match configMap with
    | none => {}
    | some data =>
      { configMaps := [(⟨config.operatorNamespace, config.imageInfoConfigMap⟩,
          { metadata := { name := some config.imageInfoConfigMap, ns := some config.operatorNamespace },
            data := some data })] }
  let images := ImageResolver.ofConfig config ((configMap.map (·.entries)).getD [])
  let rt : Deploy.Runtime := { config, now, password := fun _ => generatedPassword }
  let (outputs, final) := runSteps rt images (seed.foldl Knob.apply world) steps
  pure (.object [("steps", .arr outputs), ("state", stateValue (seededSecrets seed) final)])

end StackOperator.Request
