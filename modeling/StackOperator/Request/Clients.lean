import StackOperator.Request.Plans
import StackOperator.Request.Status
import StackOperator.Cluster.Unreachable
import StackOperator.Cluster.Server
import StackOperator.Keycloak.Server

/-!
# The API clients on their own

Two requests drive the operator's clients directly, with the servers they
talk to described by the request but out of the clients' reach.

* `kube_client` makes Kubernetes API calls in turn. Each step answers the
  call's result or error and the requests the API server received during it;
  the request answers the steps and the objects the server holds.
* `keycloak_http` logs in to Keycloak and makes admin calls with the session
  it got. A call before any successful login is refused as `not logged in`.
  The request answers the steps and the state of the Keycloak server.

A call's object is read for its metadata, by which the client addresses it.

Main statement: `kubeCall_unreachable`, without a route to the API server
every call fails with the failure of the object it is about.
-/

namespace StackOperator.Request

open Json Cluster

/-- A call of the Kubernetes API client. -/
inductive KubeCall where
  | loadSecret (ns name : String)
  | createSecretIfAbsent (s : K8s.Secret)
  | loadConfigMap (ns name : String)
  | applyPvc (c : K8s.PersistentVolumeClaim)
  | applyServiceAccount (a : K8s.ServiceAccount)
  | applyRole (r : K8s.Role)
  | applyRoleBinding (b : K8s.RoleBinding)
  | applyService (s : K8s.Service)
  | loadIngress (ns name : String)
  | applyIngress (i : K8s.Ingress)
  | applyDeployment (d : K8s.Deployment)
  | loadDeployment (ns name : String)
  | listPods (ns selector : String)
  | createJob (j : K8s.Job)
  | loadJob (ns name : String)
  | deleteJobs (ns selector : String)
  | listDatabaseServices (ns : String)
  | loadKeycloakServer (ns name : String)
  | listKeycloakServers
  | loadStatus (target : K8s.Reference)
  | updateServerStatus (target : K8s.Reference) (status : ServerStatus)
  | updatePhase (target : K8s.Reference) (phase : Phase) (observed : Option Int)

/-- The metadata of a call's object. -/
def objectMeta (call : Value) : Outcome K8s.ObjectMeta :=
  withDefault K8s.ObjectMeta.decode (member call "object") "metadata" {}

/-- Read a call `{call, ...}`. -/
def kubeCallOf (v : Value) : Outcome KubeCall := do
  let located (f : String → String → KubeCall) : Outcome KubeCall := do
    pure (f (← text v "namespace") (← text v "name"))
  let selected (f : String → String → KubeCall) : Outcome KubeCall := do
    pure (f (← text v "namespace") (← text v "selector"))
  match ← text v "call" with
  | "load_secret" => located .loadSecret
  | "create_secret_if_absent" => return .createSecretIfAbsent { metadata := ← objectMeta v }
  | "load_config_map" => located .loadConfigMap
  | "apply_pvc" => return .applyPvc { metadata := ← objectMeta v }
  | "apply_service_account" => return .applyServiceAccount { metadata := ← objectMeta v }
  | "apply_role" => return .applyRole { metadata := ← objectMeta v }
  | "apply_role_binding" =>
    return .applyRoleBinding
      { metadata := ← objectMeta v, roleName := ← text (member (member v "object") "roleRef") "name" }
  | "apply_service" => return .applyService { metadata := ← objectMeta v }
  | "load_ingress" => located .loadIngress
  | "apply_ingress" => return .applyIngress { metadata := ← objectMeta v }
  | "apply_deployment" => return .applyDeployment { metadata := ← objectMeta v }
  | "load_deployment" => located .loadDeployment
  | "list_pods" => selected .listPods
  | "create_job" => return .createJob { metadata := ← objectMeta v }
  | "load_job" => located .loadJob
  | "delete_jobs" => selected .deleteJobs
  | "list_database_services" => return .listDatabaseServices (← text v "namespace")
  | "load_keycloak_server" => located .loadKeycloakServer
  | "list_keycloak_servers" => return .listKeycloakServers
  | "load_status" => return .loadStatus (← reference (member v "target"))
  | "update_server_status" =>
    let target ← reference (member v "target")
    let status ← decoded (ServerStatus.decode (member v "status"))
    return .updateServerStatus target status
  | "update_phase" =>
    let target ← reference (member v "target")
    let phase ← need Phase.decode v "phase"
    let observed ← maybe Decode.i64 v "observed_generation"
    return .updatePhase target phase observed
  | other => malformed ("unknown call " ++ other)

/-- An optional object as JSON. -/
def optionalValue {α : Type} (f : α → Value) : Option α → Value
  | some x => f x
  | none => .null

/-- Make a call; its result as JSON. -/
def KubeCall.run {n : Type → Type} [Monad n] (api : ClusterApi n) : KubeCall → ExceptT Error n Value
  | .loadSecret ns name => optionalValue (·.toValue) <$> api.loadSecret ns name
  | .createSecretIfAbsent s => (·.toValue) <$> api.createSecretIfAbsent s
  | .loadConfigMap ns name => optionalValue (·.toValue) <$> api.loadConfigMap ns name
  | .applyPvc c => (·.toValue) <$> api.applyPvc c
  | .applyServiceAccount a => (·.toValue) <$> api.applyServiceAccount a
  | .applyRole r => (·.toValue) <$> api.applyRole r
  | .applyRoleBinding b => (·.toValue) <$> api.applyRoleBinding b
  | .applyService s => (·.toValue) <$> api.applyService s
  | .loadIngress ns name => optionalValue (·.toValue) <$> api.loadIngress ns name
  | .applyIngress i => (·.toValue) <$> api.applyIngress i
  | .applyDeployment d => (·.toValue) <$> api.applyDeployment d
  | .loadDeployment ns name => optionalValue (·.toValue) <$> api.loadDeployment ns name
  | .listPods ns selector => (fun ps => .arr (ps.map (·.toValue))) <$> api.listPods ns selector
  | .createJob j => (·.toValue) <$> api.createJob j
  | .loadJob ns name => optionalValue (·.toValue) <$> api.loadJob ns name
  | .deleteJobs ns selector => (fun _ => .null) <$> api.deleteJobs ns selector
  | .listDatabaseServices ns =>
    (fun ds => .arr (ds.map (·.toValueWith DatabaseServiceSpec.toValue))) <$> api.listDatabaseServices ns
  | .loadKeycloakServer ns name =>
    optionalValue (·.toValueWith KeycloakServerSpec.toValue) <$> api.loadKeycloakServer ns name
  | .listKeycloakServers =>
    (fun ks => .arr (ks.map (·.toValueWith KeycloakServerSpec.toValue))) <$> api.listKeycloakServers
  | .loadStatus t => (·.toValue) <$> api.loadStatus t
  | .updateServerStatus t s => (fun _ => .null) <$> api.updateServerStatus t s
  | .updatePhase t p g => (fun _ => .null) <$> api.updatePhase t p g

/-- The resource a call is about, as its failure names it. -/
def KubeCall.subject : KubeCall → String × String × String
  | .loadSecret ns name => ("Secret", ns, name)
  | .createSecretIfAbsent s => ("Secret", s.metadata.ns.getD "", nameOf s.metadata)
  | .loadConfigMap ns name => ("ConfigMap", ns, name)
  | .applyPvc c => ("PersistentVolumeClaim", c.metadata.ns.getD "", nameOf c.metadata)
  | .applyServiceAccount a => ("ServiceAccount", a.metadata.ns.getD "", nameOf a.metadata)
  | .applyRole r => ("Role", r.metadata.ns.getD "", nameOf r.metadata)
  | .applyRoleBinding b => ("RoleBinding", b.metadata.ns.getD "", nameOf b.metadata)
  | .applyService s => ("Service", s.metadata.ns.getD "", nameOf s.metadata)
  | .loadIngress ns name => ("Ingress", ns, name)
  | .applyIngress i => ("Ingress", i.metadata.ns.getD "", nameOf i.metadata)
  | .applyDeployment d => ("Deployment", d.metadata.ns.getD "", nameOf d.metadata)
  | .loadDeployment ns name => ("Deployment", ns, name)
  | .listPods ns selector => ("Pod", ns, selector)
  | .createJob j => ("Job", j.metadata.ns.getD "", nameOf j.metadata)
  | .loadJob ns name => ("Job", ns, name)
  | .deleteJobs ns selector => ("Job", ns, selector)
  | .listDatabaseServices ns => ("EntandoDatabaseService", ns, "")
  | .loadKeycloakServer ns name => ("EntandoKeycloakServer", ns, name)
  | .listKeycloakServers => ("EntandoKeycloakServer", "", "")
  | .loadStatus t => (t.kind, t.ns, t.name)
  | .updateServerStatus t _ => (t.kind, t.ns, t.name)
  | .updatePhase t _ _ => (t.kind, t.ns, t.name)

theorem kubeCall_unreachable (c : KubeCall) :
    c.run unreachableApi = throw (refusal c.subject.1 c.subject.2.1 c.subject.2.2) := by
  cases c <;> rfl

/-- The objects an API server is seeded with, `[{collection, object}]`. -/
def objectStoreOf (api : Value) : Outcome ObjectStore := do
  let posts ← withDefault (Decode.list pure) api "objects" []
  let posts ← posts.mapM fun p => do pure (Collection.parse (← text p "collection"), member p "object")
  pure (ObjectStore.seed posts)

/-- The answer of a step that made a call; no request reaches the server. -/
def clientStep (answer : Value) : Value :=
  .object [("answer", answer), ("requests", .arr [])]

/-- Make Kubernetes API calls without a route to the server. -/
def kubeClient (request : Value) : Outcome Value := do
  let store ← objectStoreOf (member request "api")
  let calls ← withDefault (Decode.list pure) request "calls" []
  let steps := calls.map fun v =>
    clientStep (answerOf (do
      let call ← kubeCallOf v
      match (call.run unreachableApi).run with
      | .ok r => pure (.object [("result", r)])
      | .error e => .error (.operator e)))
  pure (.object [("steps", .arr steps), ("store", store.toValue)])

/-- A call of the Keycloak admin client. -/
inductive SsoCall where
  | ensureRealm (realm : String)
  | createPublicClient (realm clientId domain : String)
  | prepareClient (config : Keycloak.ClientConfig)
  | updateClient (config : Keycloak.ClientConfig)
  | assignRole (realm clientId : String) (permission : Keycloak.Permission)

/-- A permission `{client_id, role}`. -/
def permissionOf (v : Value) : Outcome Keycloak.Permission := do
  pure { clientId := ← text v "client_id", role := ← text v "role" }

/-- A client configuration `{realm, client_id, client_name, redirect_uris,
web_origins, roles: [{code, name}], permissions: [{client_id, role}]}`. -/
def clientConfigOf (v : Value) : Outcome Keycloak.ClientConfig := do
  let realm ← text v "realm"
  let clientId ← text v "client_id"
  let clientName ← text v "client_name"
  let redirectUris ← withDefault (Decode.list Decode.string) v "redirect_uris" []
  let webOrigins ← withDefault (Decode.list Decode.string) v "web_origins" []
  let roles ← (← withDefault (Decode.list pure) v "roles" []).mapM fun r => do
    pure ({ code := ← text r "code", name := ← text r "name" } : Keycloak.Role)
  let permissions ← (← withDefault (Decode.list pure) v "permissions" []).mapM permissionOf
  pure { realm, clientId, clientName, redirectUris, webOrigins, roles, permissions }

/-- Read an admin call named `name`. -/
def ssoCallOf (name : String) (v : Value) : Outcome SsoCall := do
  match name with
  | "ensure_realm" => return .ensureRealm (← text v "realm")
  | "create_public_client" =>
    return .createPublicClient (← text v "realm") (← text v "client_id") (← text v "domain")
  | "prepare_client" => return .prepareClient (← clientConfigOf (member v "config"))
  | "update_client" => return .updateClient (← clientConfigOf (member v "config"))
  | "assign_role" =>
    return .assignRole (← text v "realm") (← text v "client_id") (← permissionOf (member v "permission"))
  | other => malformed ("unknown step " ++ other)

/-- The admin calls there are. -/
def ssoCallNames : List String :=
  ["ensure_realm", "create_public_client", "prepare_client", "update_client", "assign_role"]

/-- Make an admin call; its result as JSON. -/
def SsoCall.run {n : Type → Type} [Monad n] (c : Cluster.SsoClient n) : SsoCall → ExceptT Error n Value
  | .ensureRealm realm => (fun _ => .null) <$> c.ensureRealm realm
  | .createPublicClient realm clientId domain => (fun _ => .null) <$> c.createPublicClient realm clientId domain
  | .prepareClient config => .str <$> c.prepareClient config
  | .updateClient config => (fun _ => .null) <$> c.updateClient config
  | .assignRole realm clientId p => (fun _ => .null) <$> c.assignRole realm clientId p

/-- An operator result as an answer. -/
def resultOf (r : Except Error Value) : Outcome Value :=
  match r with
  | .ok v => pure (.object [("result", v)])
  | .error e => .error (.operator e)

/-- Run Keycloak client steps in turn from a session, if any, against the
server at `baseUrl`. -/
def ssoSteps (sso : SsoConnector Id) (baseUrl : String) :
    Option (SsoClient Id) → List Value → List Value
  | _, [] => []
  | session, step :: rest =>
    let (answer, session) : Outcome Value × Option (SsoClient Id) :=
      match text step "do" with
      | .error f => (.error f, session)
      | .ok "login" =>
        match (do pure (← text step "username", ← text step "password") : Outcome (String × String)) with
        | .error f => (.error f, session)
        | .ok (username, password) =>
          match (sso.login baseUrl username password).run with
          | .ok client => (pure (.object [("result", .str "logged in")]), some client)
          | .error e => (.error (.operator e), session)
      | .ok name =>
        match session with
        | none => (if ssoCallNames.contains name then malformed "not logged in"
                   else malformed ("unknown step " ++ name), session)
        | some client =>
          ((do resultOf ((← ssoCallOf name step).run client).run), session)
    clientStep (answerOf answer) :: ssoSteps sso baseUrl session rest

/-- Drive the Keycloak client without a route to the server. -/
def keycloakHttp (request : Value) : Outcome Value := do
  let server := Keycloak.SsoServer.seed (member request "keycloak_server")
  let baseUrl ← withDefault Decode.string request "base_url" server.baseUrl
  let steps ← withDefault (Decode.list pure) request "steps" []
  pure (.object [("steps", .arr (ssoSteps unreachableSso baseUrl none steps)),
    ("state", server.toValue)])

end StackOperator.Request
