import StackOperator.Request.Status
import StackOperator.Request.Objects
import StackOperator.Request.Resources
import StackOperator.Request.Plans
import StackOperator.Request.Pipeline
import StackOperator.Request.Clients
import StackOperator.Request.Operator
import StackOperator.Request.Commands
import StackOperator.Time.Instant

/-!
# Answering a request line

`answerLine now line` reads one request, handles the operation it names and
writes the answer. `now` is the wall-clock time at which handling the
request starts; every timestamp the operator takes while handling it lies in
a short window after `now` (the steps of a pipeline advance the clock), and
in the answer such a timestamp is shown as `<now>`, so that answers do not
depend on when they were computed.
-/

namespace StackOperator.Request

open Json

/-- The answer to a request. -/
def handle (now : Instant) (request : Value) : Outcome Value :=
  match member request "op" with
  | .str "naming" => naming request
  | .str "sanitise_identifier" => sanitiseIdentifier request
  | .str "schema_username" => schemaUsername request
  | .str "sha256_hex" => sha256Hex request
  | .str "apply_ratio" => applyRatio request
  | .str "compliance_mode" => complianceMode request
  | .str "effective_dbms" => effectiveDbms request
  | .str "property_resolution" => propertyResolution request
  | .str "image_uri" => imageUri request
  | .str "merge_diff" => mergeDiff request
  | .str "vendor" => vendor request
  | .str "jdbc_url" => jdbcUrl request
  | .str "schema_result" => schemaResult request
  | .str "job_phase" => jobPhase request
  | .str "pod" => pod request
  | .str "status" => status request
  | .str "status_ops" => statusOps now request
  | .str "failure" => failure request
  | .str "secret_value" => secretValue request
  | .str "credentials_secret" => credentialsSecret request
  | .str "job_builder" => jobBuilder request
  | .str "service_account" => serviceAccount request
  | .str "parse_resource" => parseResource now request
  | .str "ingress_requirements" => ingressRequirements request
  | .str "external_service" => externalService request
  | .str "custom_plan" => customPlan request
  | .str "app_plan" => appPlan request
  | .str "keycloak_plan" => keycloakPlan request
  | .str "database_plan" => databasePlan request
  | .str "pipeline" => pipeline now request
  | .str "kube_client" => kubeClient request
  | .str "keycloak_http" => keycloakHttp request
  | .str "operator" => operator now request
  | .str "cli" => cli request
  | .str "crdgen" => crdgen request
  | .str op => malformed ("unknown op " ++ op)
  | _ => malformed (Decode.missingField "op")

/-- How long handling one request may take on the clock it runs on, in
nanoseconds: every instant taken while handling a request started at `now`
lies at most this long after `now`. -/
def handlingWindow : Nat := 1000000

/-- A text that reads as an instant taken while handling a request started at `now`. -/
def isNow (now : Instant) (s : String) : Bool :=
  match Instant.parse s with
  | .ok t => decide (now ≤ t) && decide (t ≤ now.later handlingWindow)
  | .error _ => false

/-- Timestamps of `now` shown as `<now>`. -/
def redactNow (now : Instant) (v : Value) : Value :=
  v.mapStrings fun s => if isNow now s then "<now>" else s

/-- The answer line to a request line. -/
def answerLine (now : Instant) (line : String) : String :=
  match Json.read line with
  | .error e => (Failure.malformed e.message).toValue.write
  | .ok request => (redactNow now (answerOf (handle now request))).write

end StackOperator.Request
