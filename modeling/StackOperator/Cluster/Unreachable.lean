import StackOperator.Cluster.Api

/-!
# Servers that cannot be reached

Where no network route leads to the API server or to Keycloak, every request
fails before anything is sent: the TCP connection cannot be opened. The
operator's clients report such a failure like any other.

* A Kubernetes API call fails with a service error, attributed to the object
  the call is about: the namespace and name of the object read or written,
  the namespace and label selector of a list or delete by selector, and the
  resource itself for a status read or write.
* A Keycloak login fails with an HTTP error naming the token endpoint of the
  server's master realm; a base URL without a scheme cannot be requested at
  all.

`Backend.unreachable` is the operator's view of the servers then. No call
changes anything, so it runs in `Id`.

Main statements: `unreachable_login` and `unreachable_updatePhase`, the two
calls every pass starts with fail.
-/

namespace StackOperator.Cluster

open K8s

/-- Why a TCP connection could not be opened, outermost cause first. -/
def connectCauses : List String :=
  ["client error (Connect)", "tcp connect error", "Network is unreachable (os error 101)"]

/-- How a request to an unreachable API server fails. -/
def connectFailure : ApiFailure :=
  .unreachable "client error (Connect)" ["tcp connect error", "Network is unreachable (os error 101)"]

/-- The failure of an API call about the object `kind` `ns/name`. -/
def refusal (kind ns name : String) : Error :=
  (Error.api connectFailure).onResource kind ns name

/-- An API call about the object `kind` `ns/name` that cannot reach the server. -/
def refused {α : Type} (kind ns name : String) : ExceptT Error Id α :=
  throw (refusal kind ns name)

/-- An API call about the object that `m` describes. -/
def refusedFor {α : Type} (kind : String) (m : ObjectMeta) : ExceptT Error Id α :=
  refused kind (m.ns.getD "") (nameOf m)

/-- The Kubernetes API as seen without a route to the server. -/
def unreachableApi : ClusterApi Id where
  loadSecret ns name := refused "Secret" ns name
  createSecretIfAbsent s := refusedFor "Secret" s.metadata
  loadConfigMap ns name := refused "ConfigMap" ns name
  applyPvc c := refusedFor "PersistentVolumeClaim" c.metadata
  applyServiceAccount a := refusedFor "ServiceAccount" a.metadata
  applyRole r := refusedFor "Role" r.metadata
  applyRoleBinding b := refusedFor "RoleBinding" b.metadata
  applyService s := refusedFor "Service" s.metadata
  loadIngress ns name := refused "Ingress" ns name
  applyIngress i := refusedFor "Ingress" i.metadata
  applyDeployment d := refusedFor "Deployment" d.metadata
  loadDeployment ns name := refused "Deployment" ns name
  listPods ns selector := refused "Pod" ns selector
  createJob j := refusedFor "Job" j.metadata
  loadJob ns name := refused "Job" ns name
  deleteJobs ns selector := refused "Job" ns selector
  listDatabaseServices ns := refused "EntandoDatabaseService" ns ""
  loadKeycloakServer ns name := refused "EntandoKeycloakServer" ns name
  listKeycloakServers := refused "EntandoKeycloakServer" "" ""
  loadStatus t := refused t.kind t.ns t.name
  updateServerStatus t _ := refused t.kind t.ns t.name
  updatePhase t _ _ := refused t.kind t.ns t.name

/-- A Keycloak base URL without its trailing slashes. -/
def trimBaseUrl (url : String) : String :=
  String.ofList (url.toList.reverse.dropWhile (· == '/')).reverse

/-- The token endpoint of the master realm of the Keycloak server at `baseUrl`. -/
def tokenUrl (baseUrl : String) : String :=
  trimBaseUrl baseUrl ++ "/realms/master/protocol/openid-connect/token"

/-- Whether a URL starts with a scheme: a letter, then letters, digits, `+`,
`-` or `.`, up to a colon. -/
def hasScheme (url : String) : Bool :=
  match url.toList with
  | c :: rest =>
    c.isAlpha &&
      match rest.dropWhile (fun d => d.isAlphanum || d == '+' || d == '-' || d == '.') with
      | ':' :: _ => true
      | _ => false
  | [] => false

/-- How a request to `url` fails without a route to its host. -/
def sendFailure (url : String) : Error :=
  if hasScheme url then .http ("error sending request for url (" ++ url ++ ")") connectCauses
  else .http "builder error" ["relative URL without a base"]

/-- Logging in to Keycloak without a route to the server. -/
def unreachableSso : SsoConnector Id where
  login baseUrl _ _ := throw (sendFailure (tokenUrl baseUrl))

/-- The cluster and Keycloak as seen without a route to either. -/
def Backend.unreachable : Backend Id := ⟨unreachableApi, unreachableSso⟩

theorem unreachable_login (baseUrl username password : String) :
    Backend.unreachable.sso.login baseUrl username password = throw (sendFailure (tokenUrl baseUrl)) :=
  rfl

theorem unreachable_updatePhase (t : Reference) (p : Phase) (g : Option Int) :
    Backend.unreachable.cluster.updatePhase t p g = throw (refusal t.kind t.ns t.name) :=
  rfl

end StackOperator.Cluster
